/-
  GraphicsBuffer.Text.Quoted

  Byte strings in double quotes, as messages show paths. The bytes are read as UTF-8; a character
  with a visible form stands for itself, any other is escaped, and a byte that belongs to no
  character is written by its number.
-/

import GraphicsBuffer.Text.Hex
import GraphicsBuffer.Text.Unprintable

namespace GraphicsBuffer.Text.Quoted

/-! ## Reading bytes as characters -/

/-- The character that a byte string starts with, if it starts with a whole one. -/
def head? (bytes : List UInt8) : Option Char :=
  (bytes.take 4).toByteArray.utf8DecodeChar? 0

/-- A piece of a byte string: a character, or a byte that is part of none. -/
inductive Piece where
  | char (c : Char)
  | byte (b : UInt8)
deriving DecidableEq

/-- Cuts a byte string into characters and stray bytes. -/
def pieces (bytes : List UInt8) : List Piece :=
  match bytes with
  | [] => []
  | b :: rest =>
    match head? (b :: rest) with
    | some c => .char c :: pieces (rest.drop (c.utf8Size - 1))
    | none => .byte b :: pieces rest
termination_by bytes.length
decreasing_by all_goals simp [List.length_drop]; try omega

/-! ## Writing them -/

/-- A character by its number. -/
def byNumber (c : Char) : List Char :=
  ['\\', 'u', '\x7b'] ++ (hexDigits c.toNat).toList ++ ['\x7d']

/-- A character inside quotes. -/
def escape (c : Char) : List Char :=
  if c = '"' ∨ c = '\\' then ['\\', c]
  else if c = '\x00' then ['\\', '0']
  else if c = '\t' then ['\\', 't']
  else if c = '\n' then ['\\', 'n']
  else if c = '\r' then ['\\', 'r']
  else if isUnprintable c then byNumber c
  else [c]

/-- A stray byte inside quotes: `\x` and two upper-case digits. -/
def escapeByte (b : UInt8) : List Char :=
  ['\\', 'x'] ++ (hexOfByte b).map Char.toUpper

/-- One piece inside quotes. -/
def Piece.render : Piece → List Char
  | .char c => escape c
  | .byte b => escapeByte b

end Quoted

/-- A byte string in double quotes. -/
def quoted (bytes : List UInt8) : String :=
  String.ofList (['"'] ++ (Quoted.pieces bytes).flatMap Quoted.Piece.render ++ ['"'])

end GraphicsBuffer.Text
