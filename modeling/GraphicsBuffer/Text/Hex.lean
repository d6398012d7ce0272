/-
  GraphicsBuffer.Text.Hex

  Hexadecimal text: numbers as messages show them, and byte strings as two lower-case digits a
  byte.
-/

namespace GraphicsBuffer.Text

/-! ## Numbers -/

/-- The digits of a number in base sixteen, lower case, without leading zeros. -/
def hexDigits (n : Nat) : String := String.ofList (Nat.toDigits 16 n)

/-- A number as messages show it: the mark `0x` and the digits. -/
def hexNumber (n : Nat) : String := "0x" ++ hexDigits n

/-! ## Byte strings -/

/-- The digit of a value below sixteen. -/
def hexDigit (n : Nat) : Char := Nat.digitChar n

/-- The two digits of a byte, the high half first. -/
def hexOfByte (b : UInt8) : List Char := [hexDigit (b.toNat / 16), hexDigit (b.toNat % 16)]

/-- A byte string as two digits a byte. -/
def hexOfBytes (bytes : List UInt8) : List Char := bytes.flatMap hexOfByte

end GraphicsBuffer.Text
