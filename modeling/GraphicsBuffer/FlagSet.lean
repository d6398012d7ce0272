/-
  GraphicsBuffer.FlagSet

  Sets of flags kept as the bits of a 32-bit word. The known bits are part of the type, so a set
  never holds a bit without a meaning; the set operations stay inside them.
-/

namespace GraphicsBuffer

/-- A set of flags among the bits of `known`. -/
structure FlagSet (known : UInt32) where
  bits : UInt32
  bits_known : bits &&& known = bits
deriving DecidableEq

namespace FlagSet

variable {known : UInt32}

theorem ext_bits {a b : FlagSet known} (h : a.bits = b.bits) : a = b := by
  cases a; cases b; cases h; rfl

/-! ## Bits of a word

What the set operations do to the bits outside `known`. -/

theorem and_known_idem (raw known : UInt32) : (raw &&& known) &&& known = raw &&& known := by
  rw [UInt32.and_assoc, UInt32.and_self]

theorem and_known_or {a b known : UInt32} (ha : a &&& known = a) (hb : b &&& known = b) :
    (a ||| b) &&& known = a ||| b := by
  rw [← UInt32.toBitVec_inj] at ha hb ⊢
  simp only [UInt32.toBitVec_and, UInt32.toBitVec_or] at ha hb ⊢
  rw [BitVec.and_or_distrib_right, ha, hb]

theorem and_known_and {a : UInt32} (b : UInt32) {known : UInt32} (ha : a &&& known = a) :
    (a &&& b) &&& known = a &&& b := by
  rw [UInt32.and_assoc, UInt32.and_comm b, ← UInt32.and_assoc, ha]

/-! ## Making sets -/

/-- The known bits of a word; the others are dropped. -/
def ofRaw (raw : UInt32) : FlagSet known := ⟨raw &&& known, and_known_idem raw known⟩

/-- The set with exactly these bits, if all of them are known. -/
def ofBits? (raw : UInt32) : Option (FlagSet known) :=
  if h : raw &&& known = raw then some ⟨raw, h⟩ else none

instance : EmptyCollection (FlagSet known) := ⟨ofRaw 0⟩

instance : Inhabited (FlagSet known) := ⟨∅⟩

/-! ## Operations -/

instance : Union (FlagSet known) :=
  ⟨fun a b => ⟨a.bits ||| b.bits, and_known_or a.bits_known b.bits_known⟩⟩

instance : Inter (FlagSet known) :=
  ⟨fun a b => ⟨a.bits &&& b.bits, and_known_and b.bits a.bits_known⟩⟩

instance : SDiff (FlagSet known) :=
  ⟨fun a b => ⟨a.bits &&& ~~~b.bits, and_known_and (~~~b.bits) a.bits_known⟩⟩

/-- The flags that are in one of the two sets only. -/
def symmDiff (a b : FlagSet known) : FlagSet known := (a \ b) ∪ (b \ a)

/-- The known flags that are not in the set. -/
def complement (a : FlagSet known) : FlagSet known := ofRaw (~~~a.bits)

/-- Every bit of `a` is in `b`. -/
instance : HasSubset (FlagSet known) := ⟨fun a b => b.bits &&& a.bits = a.bits⟩

instance (a b : FlagSet known) : Decidable (a ⊆ b) :=
  inferInstanceAs (Decidable (b.bits &&& a.bits = a.bits))

/-- Whether the two sets share a bit. -/
def meets (a b : FlagSet known) : Bool := a.bits &&& b.bits != 0

/-! ## What the operations do to the bits -/

@[simp] theorem bits_ofRaw (raw : UInt32) : (ofRaw raw : FlagSet known).bits = raw &&& known := rfl

@[simp] theorem bits_empty : (∅ : FlagSet known).bits = 0 := UInt32.zero_and

@[simp] theorem bits_union (a b : FlagSet known) : (a ∪ b).bits = a.bits ||| b.bits := rfl

@[simp] theorem bits_inter (a b : FlagSet known) : (a ∩ b).bits = a.bits &&& b.bits := rfl

@[simp] theorem bits_sdiff (a b : FlagSet known) : (a \ b).bits = a.bits &&& ~~~b.bits := rfl

theorem subset_iff {a b : FlagSet known} : a ⊆ b ↔ b.bits &&& a.bits = a.bits := Iff.rfl

theorem meets_iff {a b : FlagSet known} : a.meets b = true ↔ a.bits &&& b.bits ≠ 0 := by
  simp [meets]

/-- Dropping the unknown bits of a set changes nothing. -/
@[simp] theorem ofRaw_bits (a : FlagSet known) : ofRaw a.bits = a := ext_bits a.bits_known

/-! ## Names -/

/-- The names in a table whose bits are all in the set, in the order of the table. -/
def names (table : List (String × UInt32)) (a : FlagSet known) : List String :=
  table.filterMap fun entry => if a.bits &&& entry.2 = entry.2 then some entry.1 else none

/-- The names joined by bars, or `(empty)` if no name applies. -/
def describe (table : List (String × UInt32)) (a : FlagSet known) : String :=
  match a.names table with
  | [] => "(empty)"
  | names => " | ".intercalate names

end FlagSet

end GraphicsBuffer
