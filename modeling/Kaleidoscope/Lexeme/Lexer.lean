import Kaleidoscope.Lexeme.Scan

/-! A lexer at work.

It moves forward only, and a copy goes on by itself from the same place.

Main statement: asking for one token after the other yields what the scan holds.
-/

set_option autoImplicit false

namespace Kaleidoscope

structure Lexer where
  source : String
  cursor : Cursor
  policy : Policy
  finished : Bool

namespace Lexer

def start (policy : Policy) (source : String) : Lexer := ⟨source, .start source, policy, false⟩

def advance (lexer : Lexer) : Lexer := { lexer with cursor := lexer.cursor.advance }

def skipBlanks (lexer : Lexer) : Lexer :=
  { lexer with cursor := lexer.cursor.skipWhile Unicode.isWhiteSpace }

def read (lexer : Lexer) : Item × Lexer :=
  let gap := lexer.cursor.skipGap lexer.policy
  match gap.read? with
  | none => (.ok (.ending gap.position), { lexer with cursor := gap })
  | some (item, cursor) => (item, { lexer with cursor := cursor })

def isLast : Item → Bool
  | .ok lexeme => lexeme.token = .endOfInput
  | .error _ => true

/-- Nothing follows the end of the text, and nothing follows an error. -/
def next? (lexer : Lexer) : Option Item × Lexer :=
  if lexer.finished then (none, lexer)
  else
    let (item, lexer) := lexer.read
    (some item, { lexer with finished := isLast item })

def scan (lexer : Lexer) : Scan := lexer.cursor.scan lexer.policy

theorem next_scan (lexer : Lexer) :
    lexer.scan.next = (lexer.read.1, lexer.read.2.scan) := by
  obtain ⟨source, cursor, policy, finished⟩ := lexer
  simp only [scan, read]
  cases found : (cursor.skipGap policy).read? with
  | none =>
    have settled : ((cursor.skipGap policy).skipGap policy).read? = none := by simpa using found
    rw [Cursor.scan_of_read?_none found, Cursor.scan_of_read?_none settled,
      Cursor.skipGap_skipGap]
    rfl
  | some pair =>
    obtain ⟨item, next⟩ := pair
    rw [Cursor.scan_of_read? found]
    rfl

def outline (lexer : Lexer) : Outline :=
  let current :=
    match lexer.cursor.current? with
    | none => .atom "None"
    | some char => .tuple "Some" [.atom (Text.quotedChar char)]
  .record "Lexer"
    [("src", .atom (Text.quotedString lexer.source)),
      ("pos", .atom (toString lexer.cursor.position.offset)),
      ("current", current),
      ("line", .atom (toString lexer.cursor.position.line)),
      ("column", .atom (toString lexer.cursor.position.column)),
      ("policy", .atom lexer.policy.name),
      ("done", .atom (toString lexer.finished))]

end Lexer

end Kaleidoscope
