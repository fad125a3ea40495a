/-
# Log lines

Operations report what they do as lines of a log.  A line has a level and a target, which names
the part of the garage that speaks.  A filter is a list of rules, each a level for all targets
that begin with a given text; of the rules that fit a target, the most specific one decides.
-/
import Garage.Text.Quoted

namespace Garage

/-- How much a log line matters, from the least on. -/
inductive Level
  | trace
  | debug
  | info
  | warn
  | error
deriving DecidableEq, Repr

namespace Level

def rank : Level → Nat
  | trace => 0
  | debug => 1
  | info => 2
  | warn => 3
  | error => 4

def name : Level → String
  | trace => "TRACE"
  | debug => "DEBUG"
  | info => "INFO"
  | warn => "WARN"
  | error => "ERROR"

def all : List Level := [trace, debug, info, warn, error]

end Level

/-- One line of a log. -/
structure LogLine where
  level : Level
  /-- The part of the garage that speaks. -/
  target : String
  message : String
deriving DecidableEq, Repr

namespace LogLine

/-- A character of a message as it is printed: what could steer the terminal on which the log is
read is spelt out. -/
def printed (c : Char) : List Char :=
  match c with
  | '\x07' | '\x08' | '\x0c' | '\x1b' | '\x7f' =>
    ['\\', 'x', Nat.digitChar (c.toNat / 16), Nat.digitChar (c.toNat % 16)]
  | c => if 0x80 ≤ c.toNat ∧ c.toNat ≤ 0x9F then Text.codePoint c else [c]

/-- The line as it is printed, without its time. -/
def text (l : LogLine) : String :=
  s!"{l.level.name} {l.target}: " ++ String.ofList (l.message.toList.flatMap printed)

end LogLine

/-- What to show of the targets that begin with a given text. -/
structure LogRule where
  /-- The beginning of the targets that the rule is for. -/
  start : String
  /-- The least level that is shown; with none, nothing is. -/
  least : Option Level
deriving DecidableEq, Repr

/-- A list of rules for what is shown. -/
structure LogFilter where
  rules : List LogRule
deriving DecidableEq, Repr

namespace LogFilter

/-- A level by its name, in letters of either case; `off` is no level at all. -/
def level? (text : String) : Option (Option Level) :=
  let name := String.ofList (text.toList.map Char.toUpper)
  if name = "OFF" then some none
  else (Level.all.find? (·.name == name)).map some

/-- Reads one rule: a level for every target, or a target and a level after an equals sign.  A
target alone shows all of its lines. -/
def rule? (text : String) : Option LogRule :=
  let start := text.toList.takeWhile (· ≠ '=')
  match text.toList.drop start.length with
  | [] =>
    match level? text with
    | some least => some ⟨"", least⟩
    | none => if text.isEmpty then none else some ⟨text, some .trace⟩
  | _ :: level => (level? (String.ofList level)).map (⟨String.ofList start, ·⟩)

/-- The parts of a text between the commas in it. -/
def fields (cs : List Char) : List (List Char) :=
  cs.foldr
    (fun c parts =>
      match parts with
      | part :: rest => if c = ',' then [] :: part :: rest else (c :: part) :: rest
      | [] => [])
    [[]]

/-- Reads a filter: rules with commas between them.  A filter without any rule shows errors
only. -/
def ofText (text : String) : LogFilter :=
  match (fields text.toList).filterMap fun part => rule? (String.ofList part) with
  | [] => ⟨[⟨"", some .error⟩]⟩
  | rules => ⟨rules⟩

/-- The rule that decides about a target: one with the longest beginning, and of those the
last. -/
def rule (f : LogFilter) (target : String) : Option LogRule :=
  f.rules.foldl
    (fun best r =>
      if r.start.toList.isPrefixOf target.toList then
        match best with
        | some b => if b.start.length ≤ r.start.length then some r else some b
        | none => some r
      else best)
    none

/-- Whether a line is shown. -/
def shows (f : LogFilter) (l : LogLine) : Bool :=
  match f.rule l.target with
  | some ⟨_, some least⟩ => least.rank ≤ l.level.rank
  | _ => false

end LogFilter

end Garage
