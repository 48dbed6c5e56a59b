import Kaleidoscope.Invocation

/-! The program on the real streams and files. -/

set_option autoImplicit false

open Kaleidoscope

def writeBytes (stream : IO.FS.Stream) (bytes : List UInt8) : IO Unit := do
  stream.write ⟨bytes.toArray⟩
  stream.flush

def writeOutcome (outcome : Invocation.Outcome) : IO UInt32 := do
  writeBytes (← IO.getStdout) outcome.output
  writeBytes (← IO.getStderr) (Text.encode outcome.errors)
  return .ofNat outcome.exitCode

def readContents (path : String) : IO (Except ReadFault (List UInt8)) := do
  try
    return .ok (← IO.FS.readBinFile path).data.toList
  catch
    | .noFileOrDirectory .. => return .error .notFound
    | .inappropriateType _ 21 _ => return .error .isDirectory
    | .inappropriateType .. => return .error .notDirectory
    | error => return .error (.other (toString error))

/-- The bytes up to and with the next newline; there are none at the end of the input. -/
partial def readLine (stream : IO.FS.Stream) (before : List UInt8) : IO (List UInt8) := do
  match (← stream.read 1).data.toList with
  | [] => return before.reverse
  | byte :: _ =>
      if byte = Session.newline then return (byte :: before).reverse
      else readLine stream (byte :: before)

partial def converse (options : Options) : IO UInt32 := do
  writeBytes (← IO.getStdout) (Text.encode Session.prompt)
  match ← readLine (← IO.getStdin) [] with
  | [] => writeOutcome (Invocation.ofTranscript (.ofWrites [Session.farewell]))
  | line =>
      let code ← writeOutcome (Invocation.ofTranscript (Session.respond options line))
      if code = 0 then converse options else return code

def main (arguments : List String) : IO UInt32 := do
  match CommandLine.read arguments with
  | .error stop => writeOutcome (Invocation.ofStop stop)
  | .ok options =>
      match options.file with
      | some path => do
          let contents ← readContents path
          writeOutcome (Invocation.ofTranscript (Report.ofFile options path contents))
      | none => converse options
