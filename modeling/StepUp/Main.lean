import Std.Time.DateTime
import StepUp.CommandLine.Run

/-!
# The program

Reads the arguments, the environment and one document, runs the command and prints what it gives.
-/

namespace StepUp.Program

open CommandLine

partial def readAll (stream : IO.FS.Stream) (before : ByteArray) : IO ByteArray := do
  let chunk ← stream.read 65536
  if chunk.isEmpty then return before else readAll stream (before ++ chunk)

def reason : IO.Error → Unreadable
  | .noFileOrDirectory .. => .missing
  | .inappropriateType _ 21 _ => .directory
  | .inappropriateType .. => .notDirectory
  | .permissionDenied .. => .denied
  | e => .other e.toString

def content (source : Source) : IO Content := do
  try
    let bytes ← match source with
      | .stdin => readAll (← IO.getStdin) .empty
      | .file path => IO.FS.readBinFile path
    return .ok bytes.toList
  catch e => return .error (reason e)

def padded (width : Nat) (n : Int) : String :=
  let digits := Nat.toDigits 10 n.toNat
  String.ofList (List.replicate (width - digits.length) '0' ++ digits)

def timeStamp : IO String := do
  let now ← Std.Time.Timestamp.now
  let t := Std.Time.PlainDateTime.ofWallTime (.ofTimestamp now .zero)
  let date := "-".intercalate
    [padded 4 t.date.year.toInt, padded 2 t.date.month.val, padded 2 t.date.day.val]
  let time := ":".intercalate
    [padded 2 t.time.hour.val, padded 2 t.time.minute.val, padded 2 t.time.second.val]
  return date ++ "T" ++ time ++ "." ++ padded 6 (t.time.nanosecond.val / 1000) ++ "Z"

def usage : List String :=
  ["Usage: gauth [-v] [--json-logs] session-error inspect [FILE]",
    "       gauth [-v] [--json-logs] session-error normalize [--include-extra] [--pretty] [FILE]",
    "       gauth [-v] [--json-logs] api-error inspect --status <STATUS> [FILE]"]

def wantsColor : IO Bool := do
  return Report.wantsColor (← IO.getEnv "CLICOLOR_FORCE") (← IO.getEnv "NO_COLOR")
    (← IO.getEnv "CLICOLOR") (← (← IO.getStdout).isTty)

def run (args : List String) : IO UInt32 := do
  match Invocation.parse? args with
  | none =>
    IO.eprint (Report.text usage)
    return 2
  | some i =>
    let outcome := i.run (← wantsColor) (← content i.source)
    IO.eprint (outcome.errorOutput (i.settings (← IO.getEnv "RUST_LOG")) (← timeStamp))
    IO.print outcome.output
    return outcome.exitCode

end StepUp.Program

def main (args : List String) : IO UInt32 := StepUp.Program.run args
