import Kaleidoscope.Session

/-! One run of the program, from its arguments to its exit code. -/

set_option autoImplicit false

namespace Kaleidoscope.Invocation

def version : String := "kaleidparse 0.1.0\n"

def help : String :=
  "Usage: kaleidparse [OPTIONS] [FILE]\n\n" ++
    "Without a file, lines of standard input are parsed one by one.\n\n" ++
    "Options:\n" ++
    "      --tokens        Print the token listing before parsing\n" ++
    "      --program       Parse every top-level form instead of a single definition\n" ++
    "      --permissive    Drop characters outside the language instead of reporting them\n" ++
    "      --inspect-tree  Print trees in full instead of the compact form\n" ++
    "  -h, --help          Print help\n" ++
    "  -V, --version       Print version\n"

structure Outcome where
  exitCode : Nat
  output : List UInt8
  errors : String

def ofStop (stop : CommandLine.Stop) : Outcome :=
  match stop with
  | .help => ⟨stop.exitCode, Text.encode help, ""⟩
  | .version => ⟨stop.exitCode, Text.encode version, ""⟩
  | .unknownArgument => ⟨stop.exitCode, [], "error: unexpected argument\n"⟩
  | .repeatedFlag => ⟨stop.exitCode, [], "error: an option cannot be used multiple times\n"⟩
  | .unwantedValue => ⟨stop.exitCode, [], "error: an option takes no value\n"⟩
  | .emptyFile => ⟨stop.exitCode, [], "error: a file needs a name\n"⟩

def ofTranscript (transcript : Transcript) : Outcome :=
  match transcript.deliver none with
  | (output, .ok ()) => ⟨0, output, ""⟩
  | (output, .error failure) => ⟨1, output, failure.message ++ "\n"⟩

/-- Without a file the input is a session. -/
def run (arguments : List String) (contents : String → Except ReadFault (List UInt8))
    (input : List UInt8) : Outcome :=
  match CommandLine.read arguments with
  | .error stop => ofStop stop
  | .ok options =>
      match options.file with
      | some path => ofTranscript (Report.ofFile options path (contents path))
      | none => ofTranscript (Session.run options input)

end Kaleidoscope.Invocation
