import Kaleidoscope.Lexeme.Gap

/-! The command line: four flags and at most one file.

Arguments are read from the left and the first problem decides. A file without a name is noticed
only where an argument that needs no further look, or the end, stands behind it.
-/

set_option autoImplicit false

namespace Kaleidoscope

structure Options where
  file : Option String
  tokens : Bool
  program : Bool
  permissive : Bool
  inspectTree : Bool
  deriving DecidableEq, Repr

namespace Options

def unset : Options := ⟨none, false, false, false, false⟩

def policy (options : Options) : Policy := if options.permissive then .skip else .reject

end Options

namespace CommandLine

/-- Why there are no options to work with; help and the version are asked for and no fault. -/
inductive Stop where
  | help
  | version
  | unknownArgument
  | repeatedFlag
  | unwantedValue
  | emptyFile
  deriving DecidableEq, Repr

def Stop.exitCode : Stop → Nat
  | .help | .version => 0
  | .unknownArgument | .repeatedFlag | .unwantedValue | .emptyFile => 2

inductive Flag where
  | tokens
  | program
  | permissive
  | inspectTree
  deriving DecidableEq, Repr

inductive Known where
  | flag (flag : Flag)
  | help
  | version
  deriving DecidableEq, Repr

def known? (name : List Char) : Option Known :=
  [("tokens", Known.flag .tokens), ("program", .flag .program), ("permissive", .flag .permissive),
    ("inspect-tree", .flag .inspectTree), ("help", .help), ("version", .version)].lookup
      (String.ofList name)

inductive Argument where
  | file (path : String)
  | doubleDash
  | plain (known : Known)
  | valued
  | unknown
  deriving DecidableEq, Repr

-- In a cluster of letters only the first one counts.
def Argument.of (text : String) : Argument :=
  match text.toList with
  | ['-', '-'] => .doubleDash
  | '-' :: '-' :: option =>
      match known? (option.takeWhile (· != '=')), option.contains '=' with
      | none, _ => .unknown
      | some _, true => .valued
      | some known, false => .plain known
  | '-' :: 'h' :: _ => .plain .help
  | '-' :: 'V' :: _ => .plain .version
  | '-' :: _ :: _ => .unknown
  | _ => .file text

def isSet (options : Options) : Flag → Bool
  | .tokens => options.tokens
  | .program => options.program
  | .permissive => options.permissive
  | .inspectTree => options.inspectTree

def set (options : Options) : Flag → Options
  | .tokens => { options with tokens := true }
  | .program => { options with program := true }
  | .permissive => { options with permissive := true }
  | .inspectTree => { options with inspectTree := true }

def takeFile (options : Options) (path : String) : Except Stop Options :=
  match options.file with
  | none => .ok { options with file := some path }
  | some _ => .error .unknownArgument

def takeKnown (options : Options) (known : Known) : Except Stop Options :=
  if options.file = some "" then .error .emptyFile
  else
    match known with
    | .help => .error .help
    | .version => .error .version
    | .flag flag => if isSet options flag then .error .repeatedFlag else .ok (set options flag)

/-- Read on with the given options; behind a double dash every argument is a file. -/
def readFrom (options : Options) (dashed : Bool) : List String → Except Stop Options
  | [] => if options.file = some "" then .error .emptyFile else .ok options
  | argument :: rest =>
      match if dashed then Argument.file argument else Argument.of argument with
      | .doubleDash => readFrom options true rest
      | .file path => do readFrom (← takeFile options path) dashed rest
      | .plain known => do readFrom (← takeKnown options known) dashed rest
      | .valued => .error .unwantedValue
      | .unknown => .error .unknownArgument

def read (arguments : List String) : Except Stop Options := readFrom .unset false arguments

end CommandLine

end Kaleidoscope
