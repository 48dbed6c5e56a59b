import Kaleidoscope.CommandLine
import Kaleidoscope.Source
import Kaleidoscope.Transcript

/-! What is written about one source text. -/

set_option autoImplicit false

namespace Kaleidoscope.Report

def positionWidth : Nat := 6

def padded (text : String) : String :=
  String.ofList (List.replicate (positionWidth - text.length) ' ') ++ text

def tokenLine (lexeme : Lexeme) : String :=
  padded lexeme.position.text ++ "  " ++ lexeme.token.outline.oneLine ++ "\n"

def tree (options : Options) (node : Node) : String :=
  (if options.inspectTree then node.outline.indented 0 else node.compact) ++ "\n"

def ofResult {α : Type} (source : String) (write : α → List String) :
    Except ParseError α → Transcript
  | .ok value => .ofWrites (write value)
  | .error error => .fail (.refused error source)

/-- One line for each lexeme up to the first error. -/
def listing (source : String) : List Item → Transcript
  | [] => .empty
  | .ok lexeme :: rest => (Transcript.ofWrites [tokenLine lexeme]).andThen (listing source rest)
  | .error error :: _ => .fail (.refused (.lexical error) source)

/-- Every form of the text, or only the definition at its beginning. -/
def trees (options : Options) (source : String) : Transcript :=
  if options.program then
    ofResult source (·.map (tree options)) (Source.program options.policy source)
  else
    ofResult source (fun node => [tree options node]) (Source.definition options.policy source)

def ofSource (options : Options) (source : String) : Transcript :=
  if options.tokens then
    ((Transcript.ofWrites ["Tokens:\n"]).andThen
      (listing source (Source.items options.policy source))).andThen (trees options source)
  else trees options source

def ofFile (options : Options) (path : String) (contents : Except ReadFault (List UInt8)) :
    Transcript :=
  match contents with
  | .error fault => .fail (.unreadable path fault)
  | .ok bytes =>
      match Text.decode? bytes with
      | none => .fail (.unreadable path .notText)
      | some source => ofSource options source

end Kaleidoscope.Report
