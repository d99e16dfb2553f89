import AliasBinding.CommandLine.Arguments
import AliasBinding.CommandLine.Run

/-!
# The command line program

Access to the files of the system, and the exchange with the standard streams.
-/

namespace AliasBinding

/-- An error of the system as one of reading a file. -/
def readErrorOf : IO.Error → ReadError
  | .noFileOrDirectory .. => .missing
  | e => .failed (toString e)

/-- Access to the files of the system. -/
def systemFiles : FileAccess IO where
  isFile path := do
    try
      let data ← (System.mkFilePath [path]).metadata
      return data.type == .file
    catch _ => return false
  readText path := do
    try
      match String.fromUTF8? (← IO.FS.readBinFile path) with
      | some s => return .ok s
      | none => return .error (.failed "stream did not contain valid UTF-8")
    catch e => return .error (readErrorOf e)
  writeText path s := do
    try
      IO.FS.writeBinFile path s.toUTF8
      return .ok ()
    catch e => return .error (toString e)

end AliasBinding

open AliasBinding in
/-- Runs the command line, and gives its exit code. -/
def main (arguments : List String) : IO UInt32 := do
  match CommandLine.parse arguments with
  | .error e =>
    if e.isHelp then IO.println e.message else IO.eprintln ("error: " ++ e.message)
    return e.exitCode.toUInt32
  | .ok request =>
    let outcome ← CommandLine.run systemFiles request
    for d in outcome.diagnostics do
      IO.eprint d.text
    IO.print outcome.output
    return outcome.exitCode.toUInt32
