/-
# Gaps between words

Blanks between two words of a text stay as they are.  If there is a line break among them, the
blanks are dropped and the line is folded: one line break counts as a space, and of several the
first is dropped.
-/
import Garage.Yaml.Cursor

namespace Garage.Yaml

/-- What stands between two words. -/
inductive Gap
  /-- Nothing, inside a word. -/
  | none
  | blanks (cs : List Char)
  /-- Line breaks: the first, unless it was escaped, and the others. -/
  | breaks (first more : List Char)
deriving DecidableEq, Repr

namespace Gap

def isBroken : Gap → Bool
  | breaks .. => true
  | _ => false

def addBlank : Gap → Char → Gap
  | none, c => blanks [c]
  | blanks cs, c => blanks (cs ++ [c])
  | breaks first more, _ => breaks first more

def addBreak : Gap → Char → Gap
  | breaks first more, c => breaks first (more ++ [breakChar c])
  | _, c => breaks [breakChar c] []

/-- What a gap counts as in the text. -/
def text : Gap → List Char
  | none => []
  | blanks cs => cs
  | breaks ['\n'] [] => [' ']
  | breaks ['\n'] more => more
  | breaks first more => first ++ more

end Gap

end Garage.Yaml
