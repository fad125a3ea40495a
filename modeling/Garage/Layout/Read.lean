/-
# Reading layouts

A layout is read from a text, or from a file, whose name says which format it has.
-/
import Garage.Event
import Garage.Json.Reader
import Garage.Yaml.Reader

namespace Garage

/-- Reads a layout from JSON text. -/
def Layout.ofJson (cs : List Char) : Except Json.Error Layout :=
  Json.parse Json.format.layout cs

/-- Reads a layout from YAML text. -/
def Layout.ofYaml (cs : List Char) : Except Yaml.Error Layout :=
  Yaml.parse Yaml.format.layout cs

/-- Why the text of a file could not be had. -/
inductive FileError
  | notFound
  | isDirectory
  /-- The bytes of the file are no text. -/
  | notText
  | other (message : String)
deriving DecidableEq, Repr

def FileError.message : FileError → String
  | notFound => "No such file or directory (os error 2)"
  | isDirectory => "Is a directory (os error 21)"
  | notText => "stream did not contain valid UTF-8"
  | other message => message

/-- What is in a file with a layout. -/
structure LayoutFile where
  /-- The path to the file.  A system may allow paths that are not Unicode text; files at such
  paths are left out here. -/
  name : String
  content : Except FileError ByteArray

/-- Why no layout was read from a file. -/
inductive LoadError
  | file (error : FileError)
  | json (error : Json.Error)
  | yaml (error : Yaml.Error)
deriving DecidableEq, Repr

namespace LoadError

/-- What is behind the error. -/
def cause : LoadError → String
  | file error => error.message
  | json error => error.message
  | yaml error => error.message

def message (e : LoadError) : String :=
  let title :=
    match e with
    | file _ => "IO error"
    | json _ => "Serialization error"
    | yaml _ => "YAML error"
  s!"{title}: {e.cause}"

end LoadError

/-- The last part of a path.  Parts without a character and single dots do not count. -/
def lastPart? (path : List Char) : Option (List Char) :=
  (path.splitOn '/').reverse.find? fun part => part ≠ [] ∧ part ≠ ['.']

/-- The last part of a path, unless it leads up again. -/
def fileName? (path : List Char) : Option (List Char) :=
  (lastPart? path).filter (· ≠ ['.', '.'])

/-- What follows the last dot of a file name, unless that is its first character. -/
def extension? (name : List Char) : Option (List Char) :=
  let ending := (name.reverse.takeWhile (· ≠ '.')).reverse
  if ending.length + 1 < name.length then some ending else none

namespace LayoutFile

/-- Whether a file has JSON in it; all others have YAML. -/
def isJson (f : LayoutFile) : Bool :=
  ((fileName? f.name.toList).bind extension?).any fun e => e.map Char.toLower = "json".toList

def text (f : LayoutFile) : Except FileError String := do
  match String.fromUTF8? (← f.content) with
  | some s => return s
  | none => throw .notText

/-- Reads the layout in a file. -/
def layout (f : LayoutFile) : Except LoadError Layout := do
  let cs := (← f.text.mapError .file).toList
  if f.isJson then (Layout.ofJson cs).mapError .json else (Layout.ofYaml cs).mapError .yaml

/-- What is reported while the layout is read: that it was begun, if there is a text at all. -/
def events (f : LayoutFile) : List Event :=
  if f.text.isOk then [.layoutLoading f.name] else []

end LayoutFile

end Garage
