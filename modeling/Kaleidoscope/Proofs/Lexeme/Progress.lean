import Kaleidoscope.Proofs.Lexeme.Coverings

/-! Lexers on their way to the end.

What is read is never empty, so with every item a lexer comes nearer to the end of its source. Once it has
got there it stays.

Main statement: in every run, each lexer moves forward when it is asked for an item, also if this is an
error, until it yields the end of the source, which it does after no more items than characters are left.
-/

set_option autoImplicit false

namespace Kaleidoscope

/-- Anything but the end of a text. -/
def Item.Inner (item : Item) : Prop := ∀ lexeme, item = .ok lexeme → lexeme.token ≠ .endOfInput

theorem Cursor.length_items_le (policy : Policy) (cursor : Cursor) :
    (cursor.scan policy).items.length ≤ cursor.rest.length := by
  induction cursor using Cursor.scan.induct policy with
  | case1 cursor missing => simp [scan_of_read?_none missing]
  | case2 cursor item next found ih =>
    have gap := cursor.skipGap_length_le policy
    have shorter := read?_length_lt found
    rw [scan_of_read? found, List.length_cons]
    omega

theorem Cursor.items_inner (policy : Policy) (cursor : Cursor) :
    ∀ item ∈ (cursor.scan policy).items, item.Inner := by
  rintro item member lexeme rfl
  exact scan_token_ne_endOfInput policy cursor member

namespace Lexer

def behind (lexer : Lexer) (operations : List Operation) : Lexer :=
  operations.foldl (fun lexer operation => (operation.perform lexer).2) lexer

/-- The lexer has got to the end of its source, and nothing it is asked to do leads away from there. -/
structure Spent (source : String) (lexer : Lexer) : Prop where
  stays : ∀ operations, (lexer.behind operations).cursor = ⟨.behind source, []⟩
  repeats : ∀ operations, (lexer.behind operations).read.1 = .ok (.ending (.behind source))

structure Progresses (source : String) (lexer : Lexer) : Prop where
  read : lexer.read.1 = .ok (.ending (.behind source)) ∧ lexer.read.2.Spent source ∨
    lexer.read.1.Inner ∧ lexer.cursor.position.offset < lexer.read.2.cursor.position.offset
  ends : ∃ before rest, lexer.cursor.Parts source before rest ∧ ∃ count ≤ rest.toList.length,
    lexer.result count = .ok (.ending (.behind source)) ∧
      ∀ index < count, (lexer.result index).Inner

theorem read_of_ended {lexer : Lexer} (ended : lexer.cursor.rest = []) :
    lexer.read = (.ok (.ending lexer.cursor.position), lexer) := by
  obtain ⟨source, ⟨position, rest⟩, policy, finished⟩ := lexer
  obtain rfl : rest = [] := ended
  rfl

theorem perform_of_ended {lexer : Lexer} (ended : lexer.cursor.rest = []) (operation : Operation) :
    (operation.perform lexer).2.cursor = lexer.cursor := by
  obtain ⟨passed, passes⟩ := perform_passes operation lexer
  obtain ⟨rfl, -⟩ := List.append_eq_nil_iff.mp (passes.rest.symm.trans ended)
  exact passes.iterate_advance.symm

theorem behind_of_ended {lexer : Lexer} (ended : lexer.cursor.rest = [])
    (operations : List Operation) : (lexer.behind operations).cursor = lexer.cursor := by
  induction operations generalizing lexer with
  | nil => rfl
  | cons operation rest ih =>
    have stayed := perform_of_ended ended operation
    exact (ih (by rw [stayed, ended])).trans stayed

theorem spent_of_ended {source : String} {lexer : Lexer}
    (ended : lexer.cursor = ⟨.behind source, []⟩) : lexer.Spent source := by
  have stays (operations : List Operation) :
      (lexer.behind operations).cursor = ⟨.behind source, []⟩ :=
    (behind_of_ended (by rw [ended]) operations).trans ended
  refine ⟨stays, fun operations => ?_⟩
  rw [read_of_ended (by rw [stays]), stays]

theorem read_cases (lexer : Lexer) :
    lexer.read.1 = .ok (.ending lexer.read.2.cursor.position) ∧ lexer.read.2.cursor.rest = [] ∨
      lexer.read.1.Inner ∧ lexer.read.2.cursor.rest.length < lexer.cursor.rest.length := by
  unfold read
  dsimp only
  cases found : (lexer.cursor.skipGap lexer.policy).read? with
  | none => exact .inl ⟨rfl, Cursor.read?_eq_none_iff.mp found⟩
  | some pair =>
    obtain ⟨item, next⟩ := pair
    refine .inr ⟨?_, ?_⟩
    · rintro lexeme rfl
      exact Cursor.read?_token_ne_endOfInput found
    · exact Nat.lt_of_lt_of_le (Cursor.read?_length_lt found) (lexer.cursor.skipGap_length_le _)

theorem Within.progresses {source : String} {lexer : Lexer} (within : lexer.Within source) :
    Progresses source lexer := by
  obtain ⟨-, before, rest, parts⟩ := within
  have whole : lexer.cursor.ending = .behind source := by
    obtain ⟨rfl, stands⟩ := parts
    rw [stands]
    exact (Position.behind_append before rest.toList).symm.trans (by rw [String.ofList_toList])
  obtain ⟨gap, passes, -⟩ := lexer.read_passes
  constructor
  · rcases lexer.read_cases with ⟨yielded, ended⟩ | ⟨inner, shorter⟩
    · have place : lexer.read.2.cursor.position = .behind source := by
        rw [passes.position, ← whole, Cursor.ending, passes.rest, ended, List.append_nil]
      rw [place] at yielded
      have cursor : lexer.read.2.cursor = ⟨.behind source, []⟩ := by rw [← place, ← ended]
      exact .inl ⟨yielded, spent_of_ended cursor⟩
    · refine .inr ⟨inner, ?_⟩
      have bytes := lexer.cursor.position.offset_add_length_le (gap ++ lexer.read.1.text.toList)
      have lengths := congrArg List.length passes.rest
      rw [← passes.position] at bytes
      rw [List.length_append] at lengths
      omega
  · refine ⟨before, rest, parts, lexer.scan.items.length, ?_, ?_, ?_⟩
    · rw [show rest.toList = lexer.cursor.rest by rw [parts.stands]]
      exact lexer.cursor.length_items_le lexer.policy
    · have ending : lexer.scan.ending = .behind source :=
        (lexer.cursor.scan_ending lexer.policy).trans whole
      rw [result_eq, List.getElem?_length, ending]
      rfl
    · intro index inside
      rw [result_eq, List.getElem?_eq_getElem inside]
      exact lexer.cursor.items_inner lexer.policy _ (List.getElem_mem inside)

theorem run_progresses (policy : Policy) (source : String) (steps : List Step) :
    ∀ lexer ∈ run [start policy source] steps, Progresses source lexer := by
  intro lexer member
  exact (run_start_within policy source steps lexer member).progresses

end Lexer

end Kaleidoscope
