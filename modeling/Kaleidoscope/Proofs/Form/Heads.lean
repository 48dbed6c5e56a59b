import Kaleidoscope.Grammar
import Kaleidoscope.Machine.Prototype

/-! Parameters and prototypes while they are read.

What has been read of a prototype can be told from the state, token for token.

Main statements: a state has read the tokens of its names, and the tokens of all names are taken.
-/

set_option autoImplicit false

namespace Kaleidoscope

open Grammar (parameterTokens prototypeTokens)

theorem Grammar.parameterTokens_concat {names : List String} (nonempty : names ≠ [])
    (name : String) :
    parameterTokens (names ++ [name]) = parameterTokens names ++ [.comma, .identifier name] := by
  induction names with
  | nil => exact absurd rfl nonempty
  | cons first rest ih =>
    cases rest with
    | nil => rfl
    | cons second rest => simpa [parameterTokens] using ih (by simp)

namespace Parameters

inductive StateReads : State → List Token → Prop where
  | first : StateReads .first []
  | named {names : List String} : names ≠ [] →
      StateReads (.named names) (parameterTokens names.reverse)
  | separated {names : List String} : names ≠ [] →
      StateReads (.separated names) (parameterTokens names.reverse ++ [.comma])

theorem shift_reads {state next : State} {tokens : List Token} {token : Token}
    (reads : StateReads state tokens) (taken : shift state token = some next) :
    StateReads next (tokens ++ [token]) := by
  cases reads with
  | first =>
    cases token with
    | identifier name =>
      obtain rfl : _ = next := by simpa [shift] using taken
      exact .named (by simp)
    | _ => simp [shift] at taken
  | named nonempty =>
    cases token with
    | comma =>
      obtain rfl : _ = next := by simpa [shift] using taken
      exact .separated nonempty
    | _ => simp [shift] at taken
  | @separated names nonempty =>
    cases token with
    | identifier name =>
      obtain rfl : _ = next := by simpa [shift] using taken
      have further : StateReads (.named (name :: names)) _ := .named (by simp)
      rwa [List.reverse_cons, Grammar.parameterTokens_concat (by simpa using nonempty),
        List.append_cons] at further
    | _ => simp [shift] at taken

theorem stop_reads {state : State} {tokens : List Token} {names : List String}
    (reads : StateReads state tokens) (stopped : stop state = .ok names) :
    tokens = parameterTokens names := by
  cases reads with
  | first | named =>
    obtain rfl := Except.ok.inj stopped
    rfl
  | separated => simp [stop] at stopped

theorem shifts_separated (before : List String) (name : String) (rest : List String) :
    machine.shifts (.separated before) (parameterTokens (name :: rest)) =
      some (.named ((name :: rest).reverse ++ before)) := by
  induction rest generalizing before name with
  | nil => rfl
  | cons second rest ih =>
    simpa [parameterTokens, Machine.shifts, machine, shift] using ih (name :: before) second

theorem exists_shifts (names : List String) :
    ∃ final, machine.shifts .first (parameterTokens names) = some final ∧ stop final = .ok names := by
  cases names with
  | nil => exact ⟨.first, rfl, rfl⟩
  | cons name rest =>
    refine ⟨.named (name :: rest).reverse, ?_, by simp [stop]⟩
    cases rest with
    | nil => rfl
    | cons second rest =>
      have separated := shifts_separated [name] second rest
      simpa [parameterTokens, Machine.shifts, machine, shift] using separated

end Parameters

namespace Prototype

inductive StateReads : State → List Token → Prop where
  | start : StateReads .start []
  | named (name : String) : StateReads (.named name) [.identifier name]
  | within {parameters : Parameters.State} {tokens : List Token} (name : String) :
      Parameters.StateReads parameters tokens →
      StateReads (.within name parameters) (.identifier name :: .openParen :: tokens)

/-- What has been read with the token that has led on. -/
def Progress.Reads : Progress → List Token → Prop
  | .pending state, tokens => StateReads state tokens
  | .complete prototype, tokens => tokens = prototypeTokens prototype

theorem shift_within_of_ne {token : Token} (other : token ≠ .closeParen) (name : String)
    (parameters : Parameters.State) :
    shift (.within name parameters) token =
      (Parameters.shift parameters token).map fun parameters => .pending (.within name parameters) := by
  unfold shift
  split <;> simp_all

theorem shift_reads {state : State} {progress : Progress} {tokens : List Token} {token : Token}
    (reads : StateReads state tokens) (taken : shift state token = some progress) :
    progress.Reads (tokens ++ [token]) := by
  cases reads with
  | start =>
    cases token with
    | identifier name =>
      obtain rfl : _ = progress := by simpa [shift] using taken
      exact .named name
    | _ => simp [shift] at taken
  | named name =>
    cases token with
    | openParen =>
      obtain rfl : _ = progress := by simpa [shift] using taken
      exact .within name .first
    | _ => simp [shift] at taken
  | @within parameters tokens name reads =>
    by_cases closed : token = .closeParen
    · subst closed
      cases stopped : Parameters.stop parameters with
      | error => simp [shift, stopped] at taken
      | ok names =>
        obtain rfl : _ = progress := by simpa [shift, stopped] using taken
        simp [Progress.Reads, prototypeTokens, Parameters.stop_reads reads stopped]
    · rw [shift_within_of_ne closed] at taken
      obtain ⟨next, moved, rfl⟩ := Option.map_eq_some_iff.mp taken
      exact .within name (Parameters.shift_reads reads moved)

end Prototype

end Kaleidoscope
