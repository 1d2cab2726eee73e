import PositionLog.Text.Printable

/-! # Quoted text -/

namespace PositionLog.Text.Quoted

/-- The digits of a number to base sixteen. -/
def hex (n : Nat) : List Char := Nat.toDigits 16 n

/-- A quote and a backslash take a backslash, the usual controls have letters, and what does not
show is written as its code point. -/
def escape : Char → List Char
  | '\x00' => ['\\', '0']
  | '\t' => ['\\', 't']
  | '\n' => ['\\', 'n']
  | '\r' => ['\\', 'r']
  | '"' => ['\\', '"']
  | '\\' => ['\\', '\\']
  | c => if isPrintable c then [c] else ['\\', 'u', '\x7b'] ++ hex c.toNat ++ ['\x7d']

def encode (s : String) : String := String.ofList ('"' :: s.toList.flatMap escape ++ ['"'])

/-- A text that may be missing. -/
def option : Option String → String
  | none => "None"
  | some s => "Some(" ++ encode s ++ ")"

end PositionLog.Text.Quoted
