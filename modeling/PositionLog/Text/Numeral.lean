import PositionLog.Text.Blank

/-! # Numerals

A numeral is decimal, hexadecimal after `0x`, or octal after `0`. Spaces and a sign may stand before
it. It ends where its digits end, and what follows is not read.
-/

namespace PositionLog.Text.Numeral

/-- What a character is worth as a digit. -/
def digit? (base : Nat) (c : Char) : Option Nat :=
  ("0123456789abcdef".toList.take base).idxOf? c.toLower

/-- The digits that a text starts with. -/
def digits (base : Nat) : List Char → List Nat
  | [] => []
  | c :: r =>
    match digit? base c with
    | none => []
    | some d => d :: digits base r

/-- The value of the digits that a text starts with, zero if there are none. -/
def value (base : Nat) (cs : List Char) : Nat := (digits base cs).foldl (base * · + ·) 0

def magnitude? : List Char → Option Nat
  | '0' :: 'x' :: r | '0' :: 'X' :: r => some (value 16 r)
  | '0' :: r => some (value 8 r)
  | c :: r => if c.isDigit then some (value 10 (c :: r)) else none
  | [] => none

/-- The number that a text starts with. -/
def read? (s : String) : Option Int :=
  match s.toList.dropWhile isAsciiSpace with
  | '-' :: cs => (magnitude? cs).map fun n => -(n : Int)
  | '+' :: cs => (magnitude? cs).map Int.ofNat
  | cs => (magnitude? cs).map Int.ofNat

end PositionLog.Text.Numeral
