/-
# Text in messages

Where a message repeats a text that it found, the text stands between double quotes, and each
character that could not be told apart on a screen is escaped.
-/
import Garage.Text.Unshown

namespace Garage.Text

/-- A character by its code point. -/
def codePoint (c : Char) : List Char :=
  ['\\', 'u', '{'] ++ Nat.toDigits 16 c.toNat ++ ['}']

/-- How one character stands in quoted text. -/
def shown (c : Char) : List Char :=
  match c with
  | '\x00' => ['\\', '0']
  | '\t' => ['\\', 't']
  | '\n' => ['\\', 'n']
  | '\r' => ['\\', 'r']
  | '"' => ['\\', '"']
  | '\\' => ['\\', '\\']
  | c =>
    if c.toNat < 0x20 then codePoint c
    else if c.toNat < 0x7F then [c]
    else if isUnshown c then codePoint c
    else [c]

/-- A text between double quotes. -/
def quoted (cs : List Char) : List Char := '"' :: cs.flatMap shown ++ ['"']

end Garage.Text
