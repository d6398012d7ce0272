/-
  GraphicsBuffer.LittleEndian

  Numbers as byte strings of a fixed width, the lowest byte first. Reading undoes writing for every
  number that fits the width (`number_bytes`), and writing undoes reading for every byte string
  (`bytes_number`). `join` and `split` do the same for a row of numbers.
-/

namespace GraphicsBuffer.LittleEndian

/-! ## One number -/

/-- The lowest `width` bytes of a number. -/
def bytes : Nat → Nat → List UInt8
  | 0, _ => []
  | width + 1, n => UInt8.ofNat n :: bytes width (n / 256)

/-- The number that a byte string stands for. -/
def number : List UInt8 → Nat
  | [] => 0
  | b :: rest => b.toNat + 256 * number rest

@[simp] theorem length_bytes (width n : Nat) : (bytes width n).length = width := by
  induction width generalizing n with
  | zero => rfl
  | succ width ih => simp [bytes, ih]

theorem number_bytes {width n : Nat} (fits : n < Nat.pow 256 width) :
    number (bytes width n) = n := by
  induction width generalizing n with
  | zero =>
    have : n < 1 := fits
    simp [bytes, number]; omega
  | succ width ih =>
    have rest : n / 256 < Nat.pow 256 width :=
      Nat.div_lt_of_lt_mul (by rw [Nat.mul_comm]; exact fits)
    have low : (UInt8.ofNat n).toNat = n % 256 := UInt8.toNat_ofNat'
    rw [bytes, number, ih rest, low]
    omega

theorem bytes_number (bs : List UInt8) : bytes bs.length (number bs) = bs := by
  induction bs with
  | nil => rfl
  | cons b rest ih =>
    have hb : b.toNat < 256 := b.toNat_lt
    have low : UInt8.ofNat (b.toNat + 256 * number rest) = b := by
      rw [← UInt8.toNat_inj, UInt8.toNat_ofNat']
      omega
    have high : (b.toNat + 256 * number rest) / 256 = number rest := by omega
    rw [List.length_cons, number, bytes, low, high, ih]

/-! ## Rows of numbers -/

/-- The bytes of a row of numbers of given widths. -/
def join : List (Nat × Nat) → List UInt8
  | [] => []
  | (width, n) :: rest => bytes width n ++ join rest

/-- The numbers of given widths that make up a byte string; none if it is longer or shorter than
    they are. -/
def split : List Nat → List UInt8 → Option (List Nat)
  | [], [] => some []
  | [], _ :: _ => none
  | width :: rest, bs =>
    if bs.length < width then none
    else (split rest (bs.drop width)).map (number (bs.take width) :: ·)

end GraphicsBuffer.LittleEndian
