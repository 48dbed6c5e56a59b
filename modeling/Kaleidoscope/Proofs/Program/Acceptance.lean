import Kaleidoscope.Machine.Program
import Kaleidoscope.Proofs.Form.Reads

/-! Programs while they are read.

Main statements: the tokens of a program are accepted with its trees, however they are cut into forms
without fusions; and what has been taken so far is the beginning of some program.
-/

set_option autoImplicit false

namespace Kaleidoscope.Program

/-- Whole forms have been read, and the beginning of one more. -/
def StateReads (state : State) (tokens : List Token) : Prop :=
  ∃ forms current, tokens = forms.flatten ++ current ∧
    Grammar.Program forms state.before.reverse ∧ Form.StateReads state.form current ∧
    Grammar.fusions (forms ++ [current]) = 0 ∧ (current = [] → forms = [])

theorem initial_reads : StateReads start [] :=
  ⟨[], [], rfl, .nil, .start, rfl, fun _ => rfl⟩

theorem shift_of_form {state : State} {token : Token} {form : Form.State}
    (taken : Form.shift state.form token = some form) :
    shift state token = some ⟨state.before, form⟩ := by
  simp only [shift, taken]

theorem shift_of_stuck {state : State} {token : Token} {tree : Node}
    (stuck : Form.shift state.form token = none) (stopped : Form.stop state.form = .ok tree) :
    shift state token =
      (Form.shift .start token).map fun form => ⟨tree :: state.before, form⟩ := by
  simp only [shift, stuck, stopped]

theorem shift_of_failed {state : State} {token : Token} {expectation : Expectation}
    (stuck : Form.shift state.form token = none) (failed : Form.stop state.form = .error expectation) :
    shift state token = none := by
  simp only [shift, stuck, failed]

theorem shift_cases {state next : State} {token : Token} (taken : shift state token = some next) :
    (∃ form, Form.shift state.form token = some form ∧ next = ⟨state.before, form⟩) ∨
    ∃ tree form, Form.shift state.form token = none ∧ Form.stop state.form = .ok tree ∧
      Form.shift .start token = some form ∧ next = ⟨tree :: state.before, form⟩ := by
  cases moved : Form.shift state.form token with
  | some form =>
    rw [shift_of_form moved] at taken
    exact .inl ⟨form, rfl, (Option.some.inj taken).symm⟩
  | none =>
    cases stopped : Form.stop state.form with
    | error => simp [shift_of_failed moved stopped] at taken
    | ok tree =>
      rw [shift_of_stuck moved stopped] at taken
      obtain ⟨form, begun, rfl⟩ := Option.map_eq_some_iff.mp taken
      exact .inr ⟨tree, form, rfl, rfl, begun, rfl⟩

theorem shift_reads {state next : State} {tokens : List Token} {token : Token}
    (reads : StateReads state tokens) (taken : shift state token = some next) :
    StateReads next (tokens ++ [token]) := by
  obtain ⟨forms, current, rfl, program, reads, unfused, only⟩ := reads
  rcases shift_cases taken with ⟨form, moved, rfl⟩ | ⟨tree, form, stuck, stopped, begun, rfl⟩
  · refine ⟨forms, current ++ [token], by simp, program, Form.shift_reads reads moved, ?_, by simp⟩
    -- A further token leaves the first one in its place, and with it the joint.
    by_cases empty : current = []
    · rw [only empty]
      rfl
    · rw [Grammar.fusions_concat_eq_zero_iff] at unfused ⊢
      simpa only [Grammar.fuses, Grammar.startsWithParen_append empty] using unfused
  · refine ⟨forms ++ [current], [token], by simp, ?_, ?_, ?_, by simp⟩
    · simpa using program.concat (Form.stop_reads reads stopped)
    · exact Form.shift_reads .start begun
    · rw [Grammar.fusions_concat_eq_zero_iff]
      refine ⟨unfused, ?_⟩
      simp only [List.getLast?_concat, Option.mem_some_iff, forall_eq']
      -- A form that is left in front of a parenthesis has no name there that could be called.
      by_cases opened : token = .openParen
      · subst opened
        simp [Grammar.fuses, Form.endsWithName_of_stop reads stopped stuck]
      · cases token <;> simp_all [Grammar.fuses, Token.kind]

theorem stop_of_begun {state : State} (begun : state.form ≠ .start) :
    stop state .endOfInput = (Form.stop state.form).map (state.before.reverse ++ [·]) := by
  unfold stop
  split
  · next same => exact absurd same begun
  · next failed _ => simp [failed, Except.map]
  · next whole _ => simp [whole, Except.map]

theorem stop_reads {state : State} {tokens : List Token} {nodes : List Node}
    (reads : StateReads state tokens) (stopped : stop state .endOfInput = .ok nodes) :
    Grammar.Reading tokens nodes := by
  obtain ⟨forms, current, rfl, program, reads, unfused, only⟩ := reads
  obtain ⟨before, form⟩ := state
  by_cases start : form = .start
  · subst start
    obtain rfl := Except.ok.inj stopped
    cases reads
    obtain rfl := only rfl
    exact ⟨[], rfl, program, rfl⟩
  · rw [stop_of_begun start] at stopped
    cases whole : Form.stop form with
    | error => simp [whole, Except.map] at stopped
    | ok tree =>
      obtain rfl := by simpa [whole, Except.map] using stopped
      refine ⟨forms ++ [current], by simp, ?_, unfused⟩
      exact program.concat (Form.stop_reads reads whole)

theorem shift_begins {before : List Node} {form : Form.State} {tree : Node} {token : Token}
    (stuck : Form.shift form token = none) (stopped : Form.stop form = .ok tree) :
    shift ⟨before, form⟩ token = shift ⟨tree :: before, .start⟩ token := by
  simp only [shift, stuck, stopped]
  cases Form.shift .start token <;> rfl

/-- A whole form may as well be counted among those in front. -/
theorem stop_begins {before : List Node} {form : Form.State} {tree : Node}
    (stopped : Form.stop form = .ok tree) (lookahead : Token.Kind) :
    stop ⟨before, form⟩ lookahead = stop ⟨tree :: before, .start⟩ lookahead := by
  cases form with
  | start => simp [Form.stop] at stopped
  | head | body | declared | expression =>
    unfold stop
    rw [stopped]

theorem shifts_of_stuck {before : List Node} {form : Form.State} {tree : Node} {token : Token}
    (stuck : Form.shift form token = none) (stopped : Form.stop form = .ok tree)
    (rest : List Token) :
    machine.shifts ⟨before, form⟩ (token :: rest) =
      machine.shifts ⟨tree :: before, .start⟩ (token :: rest) := by
  simp only [Machine.shifts, machine, shift_begins stuck stopped]

theorem shifts_form {before : List Node} {state final : Form.State} {tokens : List Token}
    (reached : Form.machine.shifts state tokens = some final) :
    machine.shifts ⟨before, state⟩ tokens = some ⟨before, final⟩ :=
  Machine.shifts_embed (State.mk before) (fun taken => shift_of_form taken) reached

-- No form begins with an operator, so none can be mistaken for the rest of another one.
theorem kind_ne_operator {token : Token} {rest : List Token} {tree : Node}
    (form : Grammar.Form (token :: rest) tree) : token.kind ≠ .operator := by
  cases form with
  | definition | declaration => simp [Token.kind]
  | expression derivation =>
    intro operator
    have kind := Expression.kind_of_derives derivation
    simp [operator] at kind

theorem exists_shifts {forms : List (List Token)} {nodes : List Node}
    (program : Grammar.Program forms nodes) (unfused : Grammar.fusions forms = 0)
    (before : List Node) :
    ∃ final, machine.shifts ⟨before, .start⟩ forms.flatten = some final ∧
      stop final .endOfInput = .ok (before.reverse ++ nodes) := by
  induction program generalizing before with
  | nil => exact ⟨⟨before, .start⟩, rfl, by simp [stop]⟩
  | @cons tokens tree others trees form program ih =>
    obtain ⟨final, reached, stopped, apart⟩ := Form.exists_shifts form
    have begun : final ≠ .start := by
      rintro rfl
      simp [Form.stop] at stopped
    rw [Grammar.fusions_cons program, Nat.add_eq_zero_iff] at unfused
    obtain ⟨joint, unfused⟩ := unfused
    cases program with
    | nil =>
      refine ⟨⟨before, final⟩, by simpa using shifts_form reached, ?_⟩
      rw [stop_of_begun begun]
      simp [stopped, Except.map]
    | @cons second _ rest _ next _ =>
      -- The next form begins with a token at which this one is stuck.
      obtain ⟨last, behind, whole⟩ := ih unfused (tree :: before)
      refine ⟨last, ?_, by simpa using whole⟩
      obtain ⟨token, others, rfl⟩ := List.exists_cons_of_ne_nil next.ne_nil
      have meets : Grammar.fuses tokens [token] = false := by
        simpa [Grammar.fuses] using joint
      have stuck := apart token (kind_ne_operator next) meets
      rw [List.flatten_cons, Machine.shifts_append, shifts_form reached, Option.bind_some]
      simp only [List.flatten_cons, List.cons_append] at behind ⊢
      rw [shifts_of_stuck stuck stopped, behind]

theorem accepts_iff {tokens : List Token} {nodes : List Node} :
    machine.Accepts start tokens nodes ↔ Grammar.Reading tokens nodes := by
  constructor
  · rintro ⟨final, reached, stopped⟩
    exact stop_reads (Machine.shifts_induction shift_reads initial_reads reached) stopped
  · rintro ⟨forms, rfl, program, unfused⟩
    exact exists_shifts program unfused []

theorem completable (state : State) : machine.Completable state := by
  obtain ⟨before, form⟩ := state
  refine (Form.completable form).embed (State.mk before) (fun taken => shift_of_form taken) ?_
  intro state tree stopped
  have begun : state ≠ .start := by
    rintro rfl
    simp [Form.machine, Form.stop] at stopped
  refine ⟨before.reverse ++ [tree], ?_⟩
  have whole : Form.stop state = .ok tree := stopped
  simp [machine, stop_of_begun (show (State.mk before state).form ≠ .start from begun), whole,
    Except.map]

end Kaleidoscope.Program
