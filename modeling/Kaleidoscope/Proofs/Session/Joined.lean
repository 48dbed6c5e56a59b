import Kaleidoscope.Proofs.Session.Lines
import Kaleidoscope.Proofs.Transcript.Delivery

/-! Sessions one behind the other.

Main statements: a session takes one turn for each line, in the room that the turns before have left; and
a session on lines with more lines behind them is the session on the first lines, without its farewell, and
then the session on the others, unless it has failed before.
-/

set_option autoImplicit false

namespace Kaleidoscope.Session

variable (options : Options)

/-- What is written about lines with more input behind them. -/
def answered (options : Options) : List (List UInt8) → Transcript
  | [] => .empty
  | line :: rest =>
      (Transcript.ofWrites [prompt]).andThen ((respond options line).andThen (answered options rest))

theorem exchange_append (first second : List (List UInt8)) :
    exchange options (first ++ second) =
      (answered options first).andThen (exchange options second) := by
  induction first with
  | nil => rfl
  | cons line rest ih =>
    simp only [List.cons_append, exchange, answered, ih, Transcript.andThen_assoc]

theorem run_append {first : List UInt8} (ended : Ended first) (second : List UInt8) :
    run options (first ++ second) =
      (answered options (lines first)).andThen (run options second) := by
  unfold run
  rw [lines_append ended, exchange_append]

theorem run_eq (input : List UInt8) :
    run options input =
      (answered options (lines input)).andThen (.ofWrites [prompt, farewell]) := by
  have alone := exchange_append options (lines input) []
  rwa [List.append_nil] at alone

-- A newline at the end of a line is blank, so it is trimmed with the others.
theorem respond_append_newline (line : List UInt8) :
    respond options (line ++ [newline]) = respond options line := by
  unfold respond newline
  rw [Text.decode?_append_newline]
  cases Text.decode? line with
  | none => rfl
  | some text => simp only [Option.map_some, Text.trimEnd_append_newline]

theorem run_append_newline {input : List UInt8} (unended : ¬ Ended input) :
    run options (input ++ [newline]) = run options input := by
  obtain ⟨front, line, rfl, ended, single⟩ := exists_ended input
  have nonempty : line ≠ [] := by
    rintro rfl
    exact unended (by rwa [List.append_nil])
  have closed : lines (line ++ [newline]) = [line ++ [newline]] := by
    rw [lines_append_newline single, lines_nil]
  rw [List.append_assoc, run_append options ended, run_append options ended, run, run, closed,
    lines_of_notMem single nonempty]
  simp only [exchange, respond_append_newline]

section
variable {options} {line : List UInt8}

theorem run_line (single : newline ∉ line) (behind : List UInt8) :
    run options (line ++ newline :: behind) =
      ((Transcript.ofWrites [prompt]).andThen (respond options line)).andThen
        (run options behind) := by
  rw [run, lines_append_newline single, exchange, respond_append_newline,
    ← Transcript.andThen_assoc]
  rfl

theorem deliver_run_of_ok {limit : Option Nat} {sent : List UInt8} (single : newline ∉ line)
    (fine : ((Transcript.ofWrites [prompt]).andThen (respond options line)).deliver limit =
      (sent, .ok ())) (behind : List UInt8) :
    (run options (line ++ newline :: behind)).deliver limit =
      (sent ++ ((run options behind).deliver (limit.map (· - sent.length))).1,
        ((run options behind).deliver (limit.map (· - sent.length))).2) := by
  rw [run_line single, Transcript.deliver_andThen_of_ok fine]

theorem deliver_run_of_error {limit : Option Nat} {sent : List UInt8} {failure : Failure}
    (single : newline ∉ line)
    (failed : ((Transcript.ofWrites [prompt]).andThen (respond options line)).deliver limit =
      (sent, .error failure)) (behind : List UInt8) :
    (run options (line ++ newline :: behind)).deliver limit = (sent, .error failure) := by
  rw [run_line single, Transcript.deliver_andThen_of_error failed]

theorem deliver_of_refused {text : String} {error : ParseError}
    (decoded : Text.decode? line = some text)
    (refused : Source.program options.policy (Text.trimEnd text) = .error error) :
    ((Transcript.ofWrites [prompt]).andThen (respond options line)).deliver none =
      (Text.encode (prompt ++ error.excerpt (Text.trimEnd text) ++ "\n"), .ok ()) := by
  have answered : respond options line =
      .ofWrites [error.excerpt (Text.trimEnd text) ++ "\n"] := by
    simp only [respond, decoded, answer, refused]
  rw [answered, Transcript.deliver_andThen_of_ok (Transcript.deliver_ofWrites _),
    Option.map_none, Transcript.deliver_ofWrites, ← Text.encode_append]
  simp [String.append_assoc]

theorem deliver_of_undecoded (undecoded : Text.decode? line = none) :
    ((Transcript.ofWrites [prompt]).andThen (respond options line)).deliver none =
      (Text.encode prompt, .error (.broken .notText)) := by
  have failed : respond options line = .fail (.broken .notText) := by
    simp only [respond, undecoded]
  rw [failed, Transcript.deliver_none, Transcript.bytes_eq]
  rfl

end

/-- A session on more lines goes on where it would have ended, the newline at the very end does not count,
and a line that is refused is answered like any other. A line that is no text ends the session, and nothing
is read behind it. -/
theorem run_joined (options : Options) :
    (∀ first second : List UInt8, first = [] ∨ first.getLast? = some newline →
      (((run options first).deliver none).2 = .ok () →
        ∃ shown, ((run options first).deliver none).1 = shown ++ Text.encode "Ready >> \n" ∧
          (run options (first ++ second)).deliver none =
            (shown ++ ((run options second).deliver none).1,
              ((run options second).deliver none).2)) ∧
      ∀ failure, ((run options first).deliver none).2 = .error failure →
        (run options (first ++ second)).deliver none = (run options first).deliver none) ∧
    (∀ input : List UInt8, input ≠ [] → input.getLast? ≠ some newline →
      (run options (input ++ [newline])).deliver none = (run options input).deliver none) ∧
    ∀ line behind : List UInt8, newline ∉ line →
      (∀ text error, Text.decode? line = some text →
        Source.program options.policy (Text.trimEnd text) = .error error →
        (run options (line ++ newline :: behind)).deliver none =
          (Text.encode (prompt ++ error.excerpt (Text.trimEnd text) ++ "\n") ++
              ((run options behind).deliver none).1,
            ((run options behind).deliver none).2)) ∧
      (Text.decode? line = none →
        (run options (line ++ newline :: behind)).deliver none =
          (Text.encode prompt, .error (.broken .notText))) := by
  refine ⟨fun first second ends => ?_, fun input nonempty unended => ?_,
    fun line behind single => ⟨?_, ?_⟩⟩
  · have whole := run_append options (ended_iff.mpr ends) second
    have alone := run_eq options first
    cases ending : (answered options (lines first)).ending with
    | ok =>
      have fine : (answered options (lines first)).deliver none =
          ((answered options (lines first)).bytes, .ok ()) := by
        rw [Transcript.deliver_none, ending]
      rw [whole, alone, Transcript.deliver_andThen_of_ok fine, Transcript.deliver_andThen_of_ok fine]
      exact ⟨fun _ => ⟨_, rfl, rfl⟩, nofun⟩
    | error failure =>
      -- Nothing is read behind a failure, so the second part makes no difference.
      rw [Transcript.andThen_of_error ending] at whole alone
      rw [whole, alone, Transcript.deliver_none, ending]
      exact ⟨nofun, fun _ _ => rfl⟩
  · rw [run_append_newline options (mt ended_iff.mp (not_or.mpr ⟨nonempty, unended⟩))]
  · intro text error decoded refused
    exact deliver_run_of_ok single (deliver_of_refused decoded refused) behind
  · intro undecoded
    exact deliver_run_of_error single (deliver_of_undecoded undecoded) behind

-- The first line is refused, and the second one is no text.
theorem run_joined_undecodable :
    ((run .unset (Text.encode "1 +\n")).deliver none).2 = .ok () ∧
    Text.decode? [50, 255] = none ∧
    ∃ shown, ((run .unset (Text.encode "1 +\n")).deliver none).1 =
        shown ++ Text.encode "Ready >> \n" ∧
      (run .unset (Text.encode "1 +\n" ++ [50, 255])).deliver none =
        (shown ++ Text.encode prompt, .error (.broken .notText)) := by
  have fine : ((run .unset (Text.encode "1 +\n")).deliver none).2 = .ok () := by decide +kernel
  have broken : (run .unset [50, 255]).deliver none =
      (Text.encode prompt, .error (.broken .notText)) := by decide +kernel
  have ended : (Text.encode "1 +\n").getLast? = some newline := by decide +kernel
  obtain ⟨shown, alone, whole⟩ := ((run_joined .unset).1 _ [50, 255] (.inr ended)).1 fine
  rw [broken] at whole
  exact ⟨fine, by decide +kernel, shown, alone, whole⟩

end Kaleidoscope.Session
