/-
  GraphicsBuffer.Arithmetic

  Sums and products that refuse to wrap. Each takes its operands with their names, which the error
  repeats, and succeeds exactly when the result in unbounded arithmetic fits the word.
-/

import GraphicsBuffer.Error

namespace GraphicsBuffer.Arithmetic

/-- The error of a computation that does not fit. -/
def overflow (left : String) (x : Nat) (op : ArithmeticOp) (right : String) (y : Nat) : Error :=
  .arithmetic ⟨⟨left, x⟩, op, ⟨right, y⟩⟩

/-- The sum of two 32-bit words. -/
def add32 (left : String) (x : UInt32) (right : String) (y : UInt32) : Except Error UInt32 :=
  if x.toNat + y.toNat < UInt32.size then .ok (x + y)
  else .error (overflow left x.toNat .add right y.toNat)

/-- The product of two 32-bit words. -/
def mul32 (left : String) (x : UInt32) (right : String) (y : UInt32) : Except Error UInt32 :=
  if x.toNat * y.toNat < UInt32.size then .ok (x * y)
  else .error (overflow left x.toNat .mul right y.toNat)

/-- The product of two 64-bit words. -/
def mul64 (left : String) (x : UInt64) (right : String) (y : UInt64) : Except Error UInt64 :=
  if x.toNat * y.toNat < UInt64.size then .ok (x * y)
  else .error (overflow left x.toNat .mul right y.toNat)

/-- A number as a signed 64-bit one. -/
def signed64 (n : Nat) : Except Error Nat := if n < 0x8000000000000000 then .ok n else .error .conversion

/-! ## When they succeed -/

theorem add32_eq_ok_iff {left right : String} {x y z : UInt32} :
    add32 left x right y = .ok z ↔ x.toNat + y.toNat < UInt32.size ∧ z.toNat = x.toNat + y.toNat := by
  unfold add32
  split
  · rename_i h
    rw [Except.ok.injEq, ← UInt32.toNat_inj, UInt32.toNat_add, Nat.mod_eq_of_lt h]
    exact ⟨fun e => ⟨h, e.symm⟩, fun e => e.2.symm⟩
  · rename_i h
    exact ⟨nofun, fun e => absurd e.1 h⟩

theorem mul32_eq_ok_iff {left right : String} {x y z : UInt32} :
    mul32 left x right y = .ok z ↔ x.toNat * y.toNat < UInt32.size ∧ z.toNat = x.toNat * y.toNat := by
  unfold mul32
  split
  · rename_i h
    rw [Except.ok.injEq, ← UInt32.toNat_inj, UInt32.toNat_mul, Nat.mod_eq_of_lt h]
    exact ⟨fun e => ⟨h, e.symm⟩, fun e => e.2.symm⟩
  · rename_i h
    exact ⟨nofun, fun e => absurd e.1 h⟩

theorem mul64_eq_ok_iff {left right : String} {x y z : UInt64} :
    mul64 left x right y = .ok z ↔ x.toNat * y.toNat < UInt64.size ∧ z.toNat = x.toNat * y.toNat := by
  unfold mul64
  split
  · rename_i h
    rw [Except.ok.injEq, ← UInt64.toNat_inj, UInt64.toNat_mul, Nat.mod_eq_of_lt h]
    exact ⟨fun e => ⟨h, e.symm⟩, fun e => e.2.symm⟩
  · rename_i h
    exact ⟨nofun, fun e => absurd e.1 h⟩

end GraphicsBuffer.Arithmetic
