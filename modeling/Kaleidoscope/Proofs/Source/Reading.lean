import Kaleidoscope.Proofs.Machine.Judgement
import Kaleidoscope.Source

/-! Reading a source text with a machine.

Main statement: parsing a text is the judgement of a machine on the lexemes up to the end of the text
or up to its first error, whichever comes first.
-/

set_option autoImplicit false

namespace Kaleidoscope

theorem Token.ofWord_ne_endOfInput (word : String) : Token.ofWord word ≠ .endOfInput := by
  unfold Token.ofWord
  repeat' split
  all_goals simp

theorem Token.ofMark?_ne_endOfInput (char : Char) : Token.ofMark? char ≠ some .endOfInput := by
  unfold Token.ofMark?
  split <;> simp

theorem Cursor.read?_token_ne_endOfInput {cursor next : Cursor} {lexeme : Lexeme}
    (found : cursor.read? = some (.ok lexeme, next)) : lexeme.token ≠ .endOfInput := by
  obtain ⟨char, rest, -, reads⟩ := read?_eq_some_iff.mp found
  generalize yielded : (.ok lexeme : Item) = item at reads
  cases reads with
  | word =>
    obtain rfl := Except.ok.inj yielded
    exact Token.ofWord_ne_endOfInput _
  | number =>
    unfold number at yielded
    dsimp only at yielded
    split at yielded
    · obtain rfl := Except.ok.inj yielded
      simp
    · simp at yielded
  | mark =>
    unfold mark at yielded
    split at yielded
    · next token spelled =>
      obtain rfl := Except.ok.inj yielded
      intro same
      exact Token.ofMark?_ne_endOfInput char (same ▸ spelled)
    · simp at yielded

theorem Cursor.scan_token_ne_endOfInput (policy : Policy) (cursor : Cursor) {lexeme : Lexeme}
    (member : .ok lexeme ∈ (cursor.scan policy).items) : lexeme.token ≠ .endOfInput := by
  induction cursor using Cursor.scan.induct policy with
  | case1 cursor missing => simp [Cursor.scan_of_read?_none missing] at member
  | case2 cursor item next found ih =>
    rw [Cursor.scan_of_read? found] at member
    rcases List.mem_cons.mp member with same | member
    · exact Cursor.read?_token_ne_endOfInput (same ▸ found)
    · exact ih member

theorem Lexeme.kind_eq_endOfInput_iff {lexeme : Lexeme} :
    lexeme.kind = .endOfInput ↔ lexeme.token = .endOfInput := by
  unfold Lexeme.kind
  cases lexeme.token <;> simp [Token.kind]

namespace Scan

def leading : List Item → List Lexeme
  | .ok lexeme :: rest => lexeme :: leading rest
  | .error _ :: _ | [] => []

def lexemes (scan : Scan) : List Lexeme := leading scan.items

/-- The first error, or the end of the text if there is none. -/
def last (scan : Scan) : Item :=
  (scan.items.find? (!Except.isOk ·)).getD (.ok (.ending scan.ending))

theorem untilError_eq (scan : Scan) : scan.untilError = scan.lexemes.map .ok ++ [scan.last] := by
  obtain ⟨items, ending⟩ := scan
  simp only [untilError, lexemes, last]
  congr 1
  induction items with
  | nil => rfl
  | cons item rest ih =>
    cases item with
    | error => rfl
    | ok lexeme =>
      have kept : Except.isOk (.ok lexeme : Item) = true := rfl
      rw [List.takeWhile_cons_of_pos kept, ih]
      rfl

theorem mem_items_of_mem_lexemes {scan : Scan} {lexeme : Lexeme} (member : lexeme ∈ scan.lexemes) :
    .ok lexeme ∈ scan.items := by
  obtain ⟨items, ending⟩ := scan
  simp only [lexemes] at member ⊢
  induction items with
  | nil => simp [leading] at member
  | cons item rest ih =>
    cases item with
    | error => simp [leading] at member
    | ok first =>
      rcases List.mem_cons.mp member with rfl | member
      · simp
      · exact List.mem_cons_of_mem _ (ih member)

theorem last_cases (scan : Scan) :
    scan.last = .ok (.ending scan.ending) ∨ ∃ error, scan.last = .error error := by
  cases found : scan.items.find? (!Except.isOk ·) with
  | none => exact .inl (by simp [last, found])
  | some item =>
    have failed := List.find?_some found
    cases item with
    | ok => simp [Except.isOk, Except.toBool] at failed
    | error error => exact .inr ⟨error, by simp [last, found]⟩

end Scan

namespace Parser

variable {State Result : Type}

section
variable {machine : Machine State Result} {ending : Position} {state next : State}
  {current : Lexeme}

theorem runFrom_of_stuck (stuck : machine.shift state current.token = none) (items : List Item) :
    runFrom machine ending state current items =
      conclude machine state ⟨current, ⟨items, ending⟩⟩ := by
  rw [runFrom.eq_def]
  simp only [stuck]

theorem runFrom_nil (taken : machine.shift state current.token = some next) :
    runFrom machine ending state current [] =
      conclude machine next ⟨.ending ending, ⟨[], ending⟩⟩ := by
  rw [runFrom.eq_def]
  simp only [taken]

theorem runFrom_ok (taken : machine.shift state current.token = some next) (lexeme : Lexeme)
    (rest : List Item) :
    runFrom machine ending state current (.ok lexeme :: rest) =
      runFrom machine ending next lexeme rest := by
  rw [runFrom.eq_def]
  simp only [taken]

theorem runFrom_error (taken : machine.shift state current.token = some next)
    (error : LexicalError) (rest : List Item) :
    runFrom machine ending state current (.error error :: rest) =
      (.error (.lexical error), ⟨current, ⟨rest, ending⟩⟩) := by
  rw [runFrom.eq_def]
  simp only [taken]

end

theorem runFrom_fst (machine : Machine State Result) (ending : Position) (state : State)
    (current : Lexeme) (items : List Item) :
    (runFrom machine ending state current items).1 =
      machine.judge (Scan.last ⟨items, ending⟩) state
        (current :: Scan.lexemes ⟨items, ending⟩) := by
  fun_induction runFrom machine ending state current items with
  | case1 items state current stuck => rw [Machine.judge_cons_of_stuck stuck, conclude]
  | case2 state current next taken =>
    rw [Machine.judge, taken]
    rfl
  | case3 state current next taken lexeme rest ih =>
    rw [Machine.judge, taken]
    exact ih
  | case4 state current next taken error rest =>
    rw [Machine.judge, taken]
    rfl

theorem runFrom_behind {kind : Token.Kind} (notEnd : kind ≠ .endOfInput)
    (machine : Machine State Result) (begun state : State) (ending : Position) (current : Lexeme)
    (items : List Item) :
    runFrom (machine.behind kind notEnd begun) ending (some state) current items =
      runFrom machine ending state current items := by
  have follows (state : State) (token : Token) :
      (machine.behind kind notEnd begun).shift (some state) token =
        (machine.shift state token).map some := rfl
  fun_induction runFrom machine ending state current items with
  | case1 items state current stuck =>
    rw [runFrom_of_stuck (by rw [follows, stuck]; rfl)]
    rfl
  | case2 state current next taken =>
    rw [runFrom_nil (by rw [follows, taken]; rfl)]
    rfl
  | case3 state current next taken lexeme rest ih =>
    rw [runFrom_ok (by rw [follows, taken]; rfl), ih]
  | case4 state current next taken error rest =>
    rw [runFrom_error (by rw [follows, taken]; rfl)]

-- A token in front of the text of a machine is itself read by a machine.
theorem runAfter_eq_run {kind : Token.Kind} (notEnd : kind ≠ .endOfInput)
    (machine : Machine State Result) (state : State) :
    runAfter kind machine state = run (machine.behind kind notEnd state) none := by
  funext parser
  obtain ⟨current, items, ending⟩ := parser
  by_cases fits : current.kind = kind
  · have taken : (machine.behind kind notEnd state).shift none current.token = some (some state) :=
      if_pos fits
    simp only [runAfter, expect, run, if_pos fits]
    cases items with
    | nil =>
      -- The end of the text is asked for once more, and it is never taken.
      rw [runFrom_nil taken]
      exact runFrom_of_stuck (machine.shift_endOfInput state) []
    | cons item rest =>
      cases item with
      | error error => rw [runFrom_error taken]; rfl
      | ok lexeme => rw [runFrom_ok taken, runFrom_behind]; rfl
  · have stuck : (machine.behind kind notEnd state).shift none current.token = none := if_neg fits
    simp only [runAfter, expect, run, if_neg fits, runFrom_of_stuck stuck]
    rfl

end Parser

namespace Source

variable {State Result : Type}

def lexemes (policy : Policy) (source : String) : List Lexeme := (scan policy source).lexemes

/-- What stands behind the lexemes: an error, or the end of the text. -/
def last (policy : Policy) (source : String) : Item := (scan policy source).last

theorem items_eq (policy : Policy) (source : String) :
    items policy source = (lexemes policy source).map .ok ++ [last policy source] :=
  (scan policy source).untilError_eq

theorem token_ne_endOfInput {policy : Policy} {source : String} {lexeme : Lexeme}
    (member : lexeme ∈ lexemes policy source) : lexeme.token ≠ .endOfInput :=
  Cursor.scan_token_ne_endOfInput policy _ (Scan.mem_items_of_mem_lexemes member)

theorem kind_ne_endOfInput {policy : Policy} {source : String} :
    ∀ lexeme ∈ lexemes policy source, lexeme.kind ≠ .endOfInput :=
  fun _ member => mt Lexeme.kind_eq_endOfInput_iff.mp (token_ne_endOfInput member)

theorem last_cases (policy : Policy) (source : String) :
    (∃ position, last policy source = .ok (.ending position)) ∨
      ∃ error, last policy source = .error error :=
  (scan policy source).last_cases.imp_left fun ending => ⟨_, ending⟩

theorem kind_of_last {policy : Policy} {source : String} (lexeme : Lexeme)
    (found : last policy source = .ok lexeme) : lexeme.kind = .endOfInput := by
  rcases last_cases policy source with ⟨position, ending⟩ | ⟨error, failed⟩
  · obtain rfl := Except.ok.inj (found.symm.trans ending)
    rfl
  · simp [failed] at found

theorem parse_run (machine : Machine State Result) (state : State) (policy : Policy)
    (source : String) :
    parse (Parser.run machine state) policy source =
      machine.judge (last policy source) state (lexemes policy source) := by
  simp only [parse, last, lexemes]
  obtain ⟨items, ending⟩ := scan policy source
  cases items with
  | nil => exact congrArg Prod.fst (Parser.runFrom_of_stuck (machine.shift_endOfInput state) [])
  | cons item rest =>
    cases item with
    | error error => rfl
    | ok lexeme => exact Parser.runFrom_fst machine ending state lexeme rest

theorem definition_eq (policy : Policy) (source : String) :
    definition policy source =
      (Form.machine.behind .define (by simp) (.head .define .start)).judge (last policy source) none
        (lexemes policy source) := by
  unfold definition Parser.definition
  rw [Parser.runAfter_eq_run (show Token.Kind.define ≠ .endOfInput by simp), parse_run]

theorem program_eq (policy : Policy) (source : String) :
    program policy source =
      Program.machine.judge (last policy source) Program.start (lexemes policy source) :=
  parse_run ..

end Source

end Kaleidoscope
