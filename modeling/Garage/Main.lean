/-
# The command line

`PARKING_LAYOUT` names a file with a layout, and `RUST_LOG` says which lines of the log are
shown.
-/
import Garage.Demo

open Garage

/-- Reads the file with a layout. -/
def readLayoutFile (name : String) : IO LayoutFile := do
  let content ← (IO.FS.readBinFile name).toBaseIO
  return ⟨name, content.mapError fun e =>
    match e with
    | .noFileOrDirectory .. => .notFound
    | .inappropriateType .. => .isDirectory
    | e => .other (toString e)⟩

def main : IO UInt32 := do
  let file ← (← IO.getEnv "PARKING_LAYOUT").mapM readLayoutFile
  let filter := LogFilter.ofText ((← IO.getEnv "RUST_LOG").getD "")
  let report := demonstrate file
  for line in report.shown filter do
    IO.println line.text
  IO.eprint report.complaint
  return report.exitCode
