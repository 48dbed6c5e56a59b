import Kaleidoscope.Machine

/-! Tokens that a machine takes.

A machine accepts tokens if it takes all of them and the text may end there. What it has taken can be
completed if some tokens behind it are accepted.

Main statements: a machine accepts tokens with one result only, and what a step keeps is kept by all
tokens together.
-/

set_option autoImplicit false

namespace Kaleidoscope.Machine

variable {State Result Other Result' : Type}

/-- Whether the text may end behind the given tokens, and what the machine then has read. -/
def Accepts (machine : Machine State Result) (state : State) (tokens : List Token)
    (result : Result) : Prop :=
  ∃ final, machine.shifts state tokens = some final ∧ machine.stop final .endOfInput = .ok result

theorem Accepts.unique {machine : Machine State Result} {state : State} {tokens : List Token}
    {first second : Result} (left : machine.Accepts state tokens first)
    (right : machine.Accepts state tokens second) : first = second := by
  obtain ⟨final, reached, stopped⟩ := left
  obtain ⟨other, reached', stopped'⟩ := right
  rw [reached, Option.some.injEq] at reached'
  rw [← reached', stopped] at stopped'
  exact Except.ok.inj stopped'

theorem shifts_concat (machine : Machine State Result) (state : State) (tokens : List Token)
    (token : Token) :
    machine.shifts state (tokens ++ [token]) =
      (machine.shifts state tokens).bind (machine.shift · token) := by
  rw [shifts_append]
  congr 1
  funext next
  simp [shifts]

theorem shifts_through {machine : Machine State Result} {state middle next final : State}
    {first rest : List Token} {token : Token} (before : machine.shifts state first = some middle)
    (taken : machine.shift middle token = some next)
    (behind : machine.shifts next rest = some final) :
    machine.shifts state (first ++ token :: rest) = some final := by
  rw [shifts_append, before]
  simpa [shifts, taken] using behind

theorem shifts_cons {machine : Machine State Result} {state next : State} {token : Token}
    (taken : machine.shift state token = some next) (rest : List Token) :
    machine.shifts state (token :: rest) = machine.shifts next rest := by
  simp only [shifts, taken, Option.bind_some]

theorem isSome_shifts_of_append {machine : Machine State Result} {state : State}
    {first second : List Token} (whole : (machine.shifts state (first ++ second)).isSome) :
    (machine.shifts state first).isSome := by
  rw [shifts_append] at whole
  exact Option.isSome_of_isSome_bind whole

theorem shifts_induction {machine : Machine State Result} {holds : State → List Token → Prop}
    (step : ∀ {state next tokens token}, holds state tokens → machine.shift state token = some next →
      holds next (tokens ++ [token]))
    {state final : State} {before tokens : List Token} (initial : holds state before)
    (reached : machine.shifts state tokens = some final) : holds final (before ++ tokens) := by
  induction tokens generalizing state before with
  | nil =>
    obtain rfl : state = final := by simpa using reached
    simpa using initial
  | cons token rest ih =>
    cases taken : machine.shift state token with
    | none => simp [shifts, taken] at reached
    | some next =>
      simp only [shifts, taken, Option.bind_some] at reached
      simpa using ih (step initial taken) reached

theorem shifts_embed {machine : Machine State Result} {other : Machine Other Result'}
    (embed : Other → State)
    (follows : ∀ {state next token}, other.shift state token = some next →
      machine.shift (embed state) token = some (embed next))
    {state final : Other} {tokens : List Token} (reached : other.shifts state tokens = some final) :
    machine.shifts (embed state) tokens = some (embed final) := by
  induction tokens generalizing state with
  | nil =>
    obtain rfl : state = final := by simpa using reached
    rfl
  | cons token rest ih =>
    cases taken : other.shift state token with
    | none => simp [shifts, taken] at reached
    | some next =>
      rw [shifts_cons taken] at reached
      rw [shifts_cons (follows taken)]
      exact ih reached

/-- The number one, for want of a better operand. -/
def literal : Binary64 := .ofQuotient 1 1

-- These tokens suffice to make whole whatever has been begun.
def fillers : List Token :=
  [.define, .number literal, .identifier "x", .openParen, .closeParen, .thenWord, .elseWord]

def Completable (machine : Machine State Result) (state : State) : Prop :=
  ∃ rest result, rest ⊆ fillers ∧ machine.Accepts state rest result

theorem Completable.of_shift {machine : Machine State Result} {state next : State}
    (completable : machine.Completable next) (token : Token) (filler : token ∈ fillers)
    (taken : machine.shift state token = some next) : machine.Completable state := by
  obtain ⟨rest, result, within, final, reached, stopped⟩ := completable
  refine ⟨token :: rest, result, List.cons_subset.mpr ⟨filler, within⟩, final, ?_, stopped⟩
  rw [shifts_cons taken]
  exact reached

theorem Completable.embed {machine : Machine State Result} {other : Machine Other Result'}
    {state : Other} (completable : other.Completable state) (embed : Other → State)
    (follows : ∀ {state next token}, other.shift state token = some next →
      machine.shift (embed state) token = some (embed next))
    (stops : ∀ {state result}, other.stop state .endOfInput = .ok result →
      ∃ result', machine.stop (embed state) .endOfInput = .ok result') :
    machine.Completable (embed state) := by
  obtain ⟨rest, result, within, final, reached, stopped⟩ := completable
  obtain ⟨result', stopped'⟩ := stops stopped
  exact ⟨rest, result', within, embed final, shifts_embed embed follows reached, stopped'⟩

end Kaleidoscope.Machine
