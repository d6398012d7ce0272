/-
  GraphicsBuffer.Page

  Page boundaries. Memory is mapped in whole pages, so sizes are rounded up to the next boundary.

  How long a page is, the system says, and it says the same for as long as it runs. So the length is
  a parameter of all that depends on it (`PageSize`); where none is given it is 4 KiB.
-/

import GraphicsBuffer.Error

namespace GraphicsBuffer

/-- The length of a page on some system. -/
class PageSize where
  bytes : Nat
  pos : 0 < bytes
  /-- A distance inside a page fits 32 bits. -/
  le_word : bytes ≤ UInt32.size

/-- The pages that most systems have. -/
instance : PageSize := ⟨4096, by decide, by decide⟩

namespace Page

variable [PageSize]

/-- The length of a page in bytes. -/
def size : Nat := PageSize.bytes

/-- The least page boundary that is not below `n`. -/
def ceil (n : Nat) : Nat := (n + (size - 1)) / size * size

/-- The least page boundary that is not below a 64-bit word; without one that fits the word the
    computation aborts. -/
def ceil64 (v : UInt64) : Outcome UInt64 :=
  if ceil v.toNat < UInt64.size then .ok (UInt64.ofNat (ceil v.toNat))
  else .error (.abort .alignmentOverflow)

theorem size_pos : 0 < size := PageSize.pos

theorem size_le_word : size ≤ UInt32.size := PageSize.le_word

/-- The boundary and the rest that the division drops. -/
theorem ceil_add_mod (n : Nat) : ceil n + (n + (size - 1)) % size = n + (size - 1) :=
  Nat.div_add_mod' (n + (size - 1)) size

theorem le_ceil (n : Nat) : n ≤ ceil n := by
  have h_sum := ceil_add_mod n
  have h_rest : (n + (size - 1)) % size < size := Nat.mod_lt _ size_pos
  omega

theorem ceil_lt (n : Nat) : ceil n < n + size := by
  have h_sum := ceil_add_mod n
  have h_pos := size_pos
  omega

theorem size_dvd_ceil (n : Nat) : size ∣ ceil n := Nat.dvd_mul_left size _

/-- No boundary at or above `n` is lower. -/
theorem ceil_le {n m : Nat} (h : n ≤ m) (hm : size ∣ m) : ceil n ≤ m := by
  obtain ⟨q, rfl⟩ := hm
  have h_quotient : (n + (size - 1)) / size ≤ q := by
    rw [Nat.div_le_iff_le_mul size_pos, Nat.mul_comm q]
    have h_pos := size_pos
    omega
  calc ceil n ≤ q * size := Nat.mul_le_mul_right size h_quotient
    _ = size * q := Nat.mul_comm _ _

theorem toNat_of_ceil64 {v w : UInt64} (h : ceil64 v = .ok w) : w.toNat = ceil v.toNat := by
  unfold ceil64 at h
  split at h
  · rename_i hlt
    cases h
    exact UInt64.toNat_ofNat_of_lt' hlt
  · cases h

end Page

end GraphicsBuffer
