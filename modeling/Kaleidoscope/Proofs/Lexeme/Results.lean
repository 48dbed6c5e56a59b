import Kaleidoscope.Proofs.Source.Reading

/-! What a lexer yields, one result after the other.

Asked again and again, a lexer answers forever: errors do not stop it, and the end of the text is
repeated. As an iterator it stops behind the first error or behind the end of the text.

Main statement: the iterator yields the items of the text and nothing else.
-/

set_option autoImplicit false

namespace Kaleidoscope.Lexer

def after (lexer : Lexer) : Nat → Lexer
  | 0 => lexer
  | count + 1 => (lexer.after count).read.2

def result (lexer : Lexer) (index : Nat) : Item := (lexer.after index).read.1

theorem next_scan_after (lexer : Lexer) (count : Nat) :
    (lexer.after count).scan.next = (lexer.result count, (lexer.after (count + 1)).scan) :=
  next_scan (lexer.after count)

/-- Everything the iterator yields until it is exhausted. -/
inductive Yields : Lexer → List Item → Prop where
  | exhausted {lexer next : Lexer} : lexer.next? = (none, next) → Yields lexer []
  | more {lexer next : Lexer} {item : Item} {items : List Item} :
      lexer.next? = (some item, next) → Yields next items → Yields lexer (item :: items)

theorem Yields.unique {lexer : Lexer} {first second : List Item} (left : lexer.Yields first)
    (right : lexer.Yields second) : first = second := by
  induction left generalizing second with
  | exhausted ended =>
    cases right with
    | exhausted => rfl
    | more found _ => simp [ended] at found
  | more found _ ih =>
    cases right with
    | exhausted ended => simp [found] at ended
    | more other yields =>
      rw [found, Prod.mk.injEq, Option.some.injEq] at other
      obtain ⟨rfl, rfl⟩ := other
      rw [ih yields]

theorem yields_of_finished {lexer : Lexer} (finished : lexer.finished = true) :
    lexer.Yields [] := by
  have ended : lexer.next? = (none, lexer) := by simp only [next?, finished, if_true]
  exact .exhausted ended

theorem next?_of_unfinished {lexer : Lexer} (unfinished : lexer.finished = false) :
    lexer.next? = (some lexer.read.1, { lexer.read.2 with finished := isLast lexer.read.1 }) := by
  unfold next?
  rw [unfinished]
  rfl

theorem yields_untilError {lexer : Lexer} (unfinished : lexer.finished = false) {scan : Scan}
    (same : lexer.scan = scan)
    (inner : ∀ lexeme, .ok lexeme ∈ scan.items → lexeme.token ≠ .endOfInput) :
    lexer.Yields scan.untilError := by
  obtain ⟨items, ending⟩ := scan
  -- The induction is on what is left of the scan: each result takes one item off it.
  induction items generalizing lexer with
  | nil =>
    obtain ⟨read, -⟩ := Prod.ext_iff.mp (same ▸ lexer.next_scan)
    have found := next?_of_unfinished unfinished
    rw [← read] at found
    exact .more found (yields_of_finished rfl)
  | cons item rest ih =>
    obtain ⟨read, behind⟩ := Prod.ext_iff.mp (same ▸ lexer.next_scan)
    have found := next?_of_unfinished unfinished
    rw [← read] at found
    cases item with
    | error error => exact .more found (yields_of_finished rfl)
    | ok lexeme =>
      have goesOn : isLast (.ok lexeme) = false := decide_eq_false (inner lexeme (by simp))
      refine .more found (ih goesOn behind.symm ?_)
      intro other member
      exact inner other (List.mem_cons_of_mem _ member)

theorem yields_iff {policy : Policy} {source : String} {items : List Item} :
    (start policy source).Yields items ↔ items = Source.items policy source := by
  have yields : (start policy source).Yields (Source.items policy source) :=
    yields_untilError rfl rfl fun _ => Cursor.scan_token_ne_endOfInput policy _
  constructor
  · intro other
    exact other.unique yields
  · rintro rfl
    exact yields

end Kaleidoscope.Lexer
