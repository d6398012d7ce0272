/-
  GraphicsBuffer.Proofs.LittleEndian

  Rows of numbers as byte strings. A string is read as a row exactly if it is as long as the widths
  of the numbers together; then it is what writing the row gives, and every number stands at the
  place that the widths before it leave. Masking the bytes of a row masks its numbers.
-/

import GraphicsBuffer.LittleEndian
import Mathlib.Algebra.GroupWithZero.Nat

namespace GraphicsBuffer.LittleEndian

/-! ## One number -/

/-- The number in `width` bytes of a string from an offset on. -/
def wordAt (bs : List UInt8) (offset width : Nat) : Nat := number ((bs.drop offset).take width)

/-- A number that is read fits the width of its bytes. -/
theorem number_lt (bs : List UInt8) : number bs < Nat.pow 256 bs.length := by
  induction bs with
  | nil => exact Nat.one_pos
  | cons b rest ih =>
    have h_byte : b.toNat < 256 := b.toNat_lt
    have h_pow : Nat.pow 256 (b :: rest).length = Nat.pow 256 rest.length * 256 := rfl
    rw [number, h_pow]
    omega

/-- Masking the bytes of a number masks the number. -/
theorem zipWith_and_bytes (width n mask : Nat) :
    List.zipWith (· &&& ·) (bytes width n) (bytes width mask) = bytes width (n &&& mask) := by
  induction width generalizing n mask with
  | zero => rfl
  | succ width ih =>
    have h_low : UInt8.ofNat n &&& UInt8.ofNat mask = UInt8.ofNat (n &&& mask) := by
      rw [← UInt8.toNat_inj]
      simp only [UInt8.toNat_and, UInt8.toNat_ofNat']
      exact (Nat.and_mod_two_pow (n := 8)).symm
    have h_high : n / 256 &&& mask / 256 = (n &&& mask) / 256 := (Nat.and_div_two_pow (n := 8)).symm
    rw [bytes, bytes, bytes, List.zipWith_cons_cons, ih, h_low, h_high]

/-! ## Rows of numbers -/

section Rows

variable {row : List (Nat × Nat)} {widths ns : List Nat} {bs : List UInt8}

theorem join_append (before after : List (Nat × Nat)) :
    join (before ++ after) = join before ++ join after := by
  induction before with
  | nil => rfl
  | cons p rest ih => rw [List.cons_append, join, join, ih, List.append_assoc]

theorem length_join (row : List (Nat × Nat)) : (join row).length = (row.map Prod.fst).sum := by
  induction row with
  | nil => rfl
  | cons p rest ih =>
    rw [join, List.length_append, length_bytes, ih, List.map_cons, List.sum_cons]

/-- A number of a row stands behind the numbers before it. -/
theorem wordAt_join {before after : List (Nat × Nat)} {width n : Nat}
    (h_fits : n < Nat.pow 256 width) :
    wordAt (join (before ++ (width, n) :: after)) (before.map Prod.fst).sum width = n := by
  rw [wordAt, join_append, join, List.drop_left' (length_join before),
    List.take_left' (length_bytes width n), number_bytes h_fits]

/-- The numbers of a row are read back if each fits its width. -/
theorem split_join (h_fits : ∀ p ∈ row, p.2 < Nat.pow 256 p.1) :
    split (row.map Prod.fst) (join row) = some (row.map Prod.snd) := by
  induction row with
  | nil => rfl
  | cons p rest ih =>
    obtain ⟨width, n⟩ := p
    have h_number : number (bytes width n) = n := number_bytes (h_fits _ List.mem_cons_self)
    have h_rest := ih fun p h_mem => h_fits p (List.mem_cons_of_mem _ h_mem)
    have h_long : ¬(bytes width n ++ join rest).length < width := by
      rw [List.length_append, length_bytes]
      omega
    simp only [List.map_cons, join, split, if_neg h_long,
      List.take_left' (length_bytes width n), List.drop_left' (length_bytes width n), h_rest,
      h_number, Option.map_some]

/-- A string that is read as a row is what writing the row gives, and the numbers fit. -/
theorem split_eq_some (h_split : split widths bs = some ns) :
    ns.length = widths.length ∧ join (widths.zip ns) = bs ∧
      ∀ p ∈ widths.zip ns, p.2 < Nat.pow 256 p.1 := by
  induction widths generalizing bs ns with
  | nil =>
    cases bs with
    | nil =>
      obtain rfl := Option.some.inj h_split
      exact ⟨rfl, rfl, nofun⟩
    | cons b bs => exact nomatch h_split
  | cons width widths ih =>
    rw [split] at h_split
    split at h_split
    · exact nomatch h_split
    next h_long =>
    obtain ⟨rest, h_rest, rfl⟩ := Option.map_eq_some_iff.mp h_split
    obtain ⟨h_length, h_join, h_fit⟩ := ih h_rest
    have h_taken : (bs.take width).length = width :=
      List.length_take_of_le (Nat.le_of_not_lt h_long)
    refine ⟨by simp only [List.length_cons, h_length], ?_, ?_⟩
    · -- the bytes that were taken are those of the number, the rest is that of the row
      have h_bytes := bytes_number (bs.take width)
      rw [h_taken] at h_bytes
      rw [List.zip_cons_cons, join, h_bytes, h_join, List.take_append_drop]
    · intro p h_mem
      rw [List.zip_cons_cons] at h_mem
      cases h_mem with
      | head =>
        have h_lt := number_lt (bs.take width)
        rwa [h_taken] at h_lt
      | tail _ h_mem => exact h_fit p h_mem

/-- Strings of the length of the widths together are read, others are not. -/
theorem split_eq_none_iff : split widths bs = none ↔ bs.length ≠ widths.sum := by
  induction widths generalizing bs with
  | nil =>
    cases bs with
    | nil => simp [split]
    | cons b bs => simp [split]
  | cons width widths ih =>
    rw [split, List.sum_cons]
    split
    next h_short =>
      have h_ne : bs.length ≠ width + widths.sum := by omega
      simp only [ne_eq, h_ne, not_false_eq_true]
    next h_long =>
      rw [Option.map_eq_none_iff, ih, List.length_drop]
      omega

/-- Masking the bytes of a row masks its numbers. -/
theorem zipWith_and_join {mask : List (Nat × Nat)}
    (h_widths : row.map Prod.fst = mask.map Prod.fst) :
    List.zipWith (· &&& ·) (join row) (join mask) =
      join (List.zipWith (fun p q => (p.1, p.2 &&& q.2)) row mask) := by
  induction row generalizing mask with
  | nil => rfl
  | cons p rest ih =>
    cases mask with
    | nil => exact nomatch h_widths
    | cons q mask =>
      obtain ⟨h_width, h_rest⟩ := List.cons.inj h_widths
      have h_length : (bytes p.1 p.2).length = (bytes q.1 q.2).length := by
        rw [length_bytes, length_bytes, h_width]
      rw [join, join, List.zipWith_append h_length, ih h_rest, List.zipWith_cons_cons, join,
        ← h_width, zipWith_and_bytes]

end Rows

end GraphicsBuffer.LittleEndian
