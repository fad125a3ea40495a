/-
# Anchors and tags

An anchor gives a value a name, an alias repeats the value under that name, and a tag says what a
value is.  A tag is written with a handle, which stands for the beginning of a URI, and a suffix;
or between angle brackets as it is.  Octets of a URI may be written as a percent sign and two
digits in base sixteen.
-/
import Garage.Yaml.Error
import Garage.Yaml.Scalar.Quoted

namespace Garage.Yaml

/-! ## Names -/

/-- The marks that may follow a name at once. -/
def isNameEnd (c : Char) : Bool := isBlank c || isBreak c || "?:,]\x7d%@`".toList.contains c

/-- The name behind the sign at the cursor. -/
def scanName (activity : Activity) (c : Cursor) : Except Malformed (List Char × Cursor) :=
  let name := (c.advance 1).takeWhile isNameChar
  let next := c.advance (1 + name.length)
  if ¬ name.isEmpty ∧ endsOr isNameEnd next.rest then .ok (name, next)
  else .error ⟨.nameExpected, next.mark, some (activity, c.mark)⟩

/-! ## URIs -/

/-- The octet that is written at the beginning of a text. -/
def octet? : List Char → Option Nat
  | '%' :: a :: b :: _ => Text.number? 16 [a, b]
  | _ => none

/-- What the first octet of a character says. -/
structure FirstOctet where
  /-- The beginning of the character's code point. -/
  bits : Nat
  /-- How many octets follow. -/
  following : Nat
  /-- The least code point that needs so many octets. -/
  least : Nat
deriving DecidableEq, Repr

def FirstOctet.ofNat? (o : Nat) : Option FirstOctet :=
  if o < 0x80 then some ⟨o, 0, 0⟩
  else if o / 0x20 = 0x6 then some ⟨o % 0x20, 1, 0x80⟩
  else if o / 0x10 = 0xE then some ⟨o % 0x10, 2, 0x800⟩
  else if o / 0x08 = 0x1E then some ⟨o % 0x08, 3, 0x10000⟩
  else none

/-- The character with these octets, or a replacement if it needs fewer or does not exist. -/
def FirstOctet.char (o : FirstOctet) (later : List Nat) : Char :=
  let n := later.foldl (fun n l => n * 0x40 + l % 0x40) o.bits
  if o.least ≤ n ∧ n.isValidChar then Char.ofNat n else '\ufffd'

/-- What URIs are scanned under. -/
structure UriContext where
  /-- Whether commas and square brackets belong to the URI. -/
  isOpen : Bool
  activity : Activity
  start : Mark

namespace UriContext

def fault (k : UriContext) (p : Problem) (mark : Mark) : Malformed :=
  ⟨p, mark, some (k.activity, k.start)⟩

def has (k : UriContext) (c : Char) : Bool := isTagChar c || (k.isOpen && ",[]".toList.contains c)

/-- The octets of a character behind the first one. -/
def scanLaterOctets (k : UriContext) : Nat → Cursor → Except Malformed (List Nat × Cursor)
  | 0, c => .ok ([], c)
  | n + 1, c =>
    match octet? c.rest with
    | none => .error (k.fault .octetExpected c.mark)
    | some o => do
      if o / 0x40 ≠ 2 then throw (k.fault .badLaterOctet c.mark)
      let (more, next) ← k.scanLaterOctets n (c.advance 3)
      return (o :: more, next)

/-- A character that is written as octets. -/
def scanOctets (k : UriContext) (c : Cursor) : Except Malformed (Char × Cursor) :=
  match octet? c.rest with
  | none => .error (k.fault .octetExpected c.mark)
  | some o =>
    match FirstOctet.ofNat? o with
    | none => .error (k.fault .badFirstOctet c.mark)
    | some first => do
      let (later, next) ← k.scanLaterOctets first.following (c.advance 3)
      return (first.char later, next)

/-- The characters of a URI.  There are no more of them than characters of the text, so the length
of the text is fuel enough. -/
def scanChars (k : UriContext) : (fuel : Nat) → Cursor → Except Malformed (List Char × Cursor)
  | 0, c => .ok ([], c)
  | fuel + 1, c =>
    match c.rest with
    | [] => .ok ([], c)
    | x :: _ =>
      if ¬ k.has x then .ok ([], c)
      else do
        let (x, next) ← if x = '%' then k.scanOctets c else .ok (x, c.advance 1)
        let (more, next) ← k.scanChars fuel next
        return (x :: more, next)

/-- A URI of which `head` was scanned already; there must be some of it, be it the mark that `head`
begins with.  That mark does not belong to the URI, and a null character ends it. -/
def scan (k : UriContext) (head : List Char) (c : Cursor) :
    Except Malformed (List Char × Cursor) := do
  let (tail, next) ← k.scanChars c.rest.length c
  if head.isEmpty ∧ next.mark = c.mark then throw (k.fault .tagExpected c.mark)
  return ((head.drop 1 ++ tail).takeWhile (· ≠ '\x00'), next)

end UriContext

/-! ## Tags -/

/-- A handle: an exclamation mark, a name or none, and perhaps another exclamation mark. -/
def scanHandle (c : Cursor) : List Char × Cursor :=
  let name := (c.advance 1).takeWhile isNameChar
  let next := c.advance (1 + name.length)
  if next.isAt '!' then ('!' :: name ++ ['!'], next.advance 1) else ('!' :: name, next)

/-- Whether a handle ends with a second exclamation mark. -/
def isWholeHandle (handle : List Char) : Bool := 1 < handle.length && handle.getLast? = some '!'

/-- The handle and the suffix of the tag at the cursor, whatever may follow. -/
def scanTagParts (c : Cursor) : Except Malformed ((List Char × List Char) × Cursor) := do
  let fault (p : Problem) (c' : Cursor) : Malformed := ⟨p, c'.mark, some (.tagScan, c.mark)⟩
  let uri : UriContext := ⟨false, .tag, c.mark⟩
  if (c.advance 1).isAt '<' then
    let (suffix, next) ← { uri with isOpen := true }.scan [] (c.advance 2)
    if ¬ next.isAt '>' then throw (fault .tagEndExpected next)
    return (([], suffix), next.advance 1)
  else
    let (handle, next) := scanHandle c
    if isWholeHandle handle then
      let (suffix, next) ← uri.scan [] next
      return ((handle, suffix), next)
    else
      let (suffix, next) ← uri.scan handle next
      return (if suffix.isEmpty then ([], ['!']) else (['!'], suffix), next)

/-- The handle and the suffix of the tag at the cursor. -/
def scanTag (inFlow : Bool) (c : Cursor) :
    Except Malformed ((List Char × List Char) × Cursor) := do
  let (parts, next) ← scanTagParts c
  if atBlankOrEnd next.rest ∨ (inFlow ∧ next.isAt ',') then return (parts, next)
  else throw ⟨.blankOrBreakExpected, next.mark, some (.tagScan, c.mark)⟩

end Garage.Yaml
