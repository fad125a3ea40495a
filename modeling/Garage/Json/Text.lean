/-
# Writing JSON

Compact JSON text, without any space between its parts: numbers, quoted text, arrays and
objects, each as a list of characters.  The members of an object are written in the order in
which they are given.
-/

namespace Garage.Json

/-- How one character stands in quoted text.  Only quotes, backslashes and control characters
below the space are escaped. -/
def escape (c : Char) : List Char :=
  match c with
  | '"' => ['\\', '"']
  | '\\' => ['\\', '\\']
  | '\x08' => ['\\', 'b']
  | '\t' => ['\\', 't']
  | '\n' => ['\\', 'n']
  | '\x0c' => ['\\', 'f']
  | '\r' => ['\\', 'r']
  | c =>
    if c.toNat < 0x20 then
      ['\\', 'u', '0', '0', Nat.digitChar (c.toNat / 16), Nat.digitChar (c.toNat % 16)]
    else [c]

/-- Quoted text. -/
def quoted (cs : List Char) : List Char := '"' :: cs.flatMap escape ++ ['"']

def number (n : Nat) : List Char := Nat.toDigits 10 n

def truth (b : Bool) : List Char := if b then "true".toList else "false".toList

def null : List Char := "null".toList

/-- The value inside, or `null`. -/
def optional {α : Type} (write : α → List Char) : Option α → List Char
  | some a => write a
  | none => null

/-- Texts with commas between them. -/
def commaSeparated : List (List Char) → List Char
  | [] => []
  | [item] => item
  | item :: rest => item ++ ',' :: commaSeparated rest

def array (items : List (List Char)) : List Char := '[' :: commaSeparated items ++ [']']

/-- A member of an object: its name and the text of its value. -/
def member (name : String) (value : List Char) : List Char :=
  quoted name.toList ++ ':' :: value

def object (members : List (List Char)) : List Char := '{' :: commaSeparated members ++ ['}']

end Garage.Json
