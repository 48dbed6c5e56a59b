import Kaleidoscope.Proofs.Text.Bytes
import Kaleidoscope.Transcript

/-! What arrives of a transcript.

Main statements: with little room as much arrives as there is room for, wherever this cuts a text; and
work that is done in two parts fails with the first part, or goes on in the room that is left.
-/

set_option autoImplicit false

namespace Kaleidoscope.Transcript

/-- All that would be written, in one piece. -/
def bytes (transcript : Transcript) : List UInt8 :=
  transcript.writes.flatMap Text.encode

theorem deliver_none (transcript : Transcript) :
    transcript.deliver none = (transcript.bytes, transcript.ending) := by
  obtain ⟨writes, ending⟩ := transcript
  unfold deliver bytes
  induction writes with
  | nil => rfl
  | cons text rest ih => simp only [send, ih, List.flatMap_cons]

theorem deliver_some (transcript : Transcript) (room : Nat) :
    transcript.deliver (some room) =
      (transcript.bytes.take room,
        if transcript.bytes.length ≤ room then transcript.ending else .error (.broken .full)) := by
  obtain ⟨writes, ending⟩ := transcript
  unfold deliver bytes
  induction writes generalizing room with
  | nil => simp [send]
  | cons text rest ih =>
    simp only [send, List.flatMap_cons, List.length_append]
    -- The first write that does not fit fills the room, and nothing is tried behind it.
    by_cases fits : (Text.encode text).length ≤ room
    · have behind : (rest.flatMap Text.encode).length ≤ room - (Text.encode text).length ↔
          (Text.encode text).length + (rest.flatMap Text.encode).length ≤ room := by omega
      simp only [if_pos fits, ih, behind, List.take_append, List.take_of_length_le fits]
    · have full : ¬ (Text.encode text).length + (rest.flatMap Text.encode).length ≤ room := by omega
      have short : room - (Text.encode text).length = 0 := by omega
      simp only [if_neg fits, if_neg full, List.take_append, short, List.take_zero, List.append_nil]

-- Only the bytes count, not the writes they come in.
theorem deliver_congr {first second : Transcript} (same : first.bytes = second.bytes)
    (ends : first.ending = second.ending) (limit : Option Nat) :
    first.deliver limit = second.deliver limit := by
  cases limit with
  | none => rw [deliver_none, deliver_none, same, ends]
  | some room => rw [deliver_some, deliver_some, same, ends]

theorem bytes_eq (transcript : Transcript) :
    transcript.bytes = Text.encode (String.join transcript.writes) := by
  unfold bytes
  induction transcript.writes with
  | nil => rfl
  | cons text rest ih => rw [List.flatMap_cons, ih, String.join_cons, Text.encode_append]

theorem deliver_ofWrites (writes : List String) :
    (ofWrites writes).deliver none = (Text.encode (String.join writes), .ok ()) := by
  rw [deliver_none, bytes_eq]
  rfl

section
variable {first : Transcript} {limit : Option Nat} {sent : List UInt8} {failure : Failure}

theorem andThen_of_ok (fine : first.ending = .ok ()) (second : Transcript) :
    first.andThen second = ⟨first.writes ++ second.writes, second.ending⟩ := by
  simp only [andThen, fine]

theorem andThen_of_error (failed : first.ending = .error failure) (second : Transcript) :
    first.andThen second = first := by
  obtain ⟨writes, ending⟩ := first
  obtain rfl : ending = .error failure := failed
  rfl

theorem bytes_andThen (fine : first.ending = .ok ()) (second : Transcript) :
    (first.andThen second).bytes = first.bytes ++ second.bytes := by
  rw [andThen_of_ok fine]
  exact List.flatMap_append

theorem deliver_andThen_of_ok (fine : first.deliver limit = (sent, .ok ())) (second : Transcript) :
    (first.andThen second).deliver limit =
      (sent ++ (second.deliver (limit.map (· - sent.length))).1,
        (second.deliver (limit.map (· - sent.length))).2) := by
  cases limit with
  | none =>
    rw [deliver_none] at fine
    obtain ⟨rfl, ended⟩ := Prod.mk.inj fine
    rw [deliver_none, bytes_andThen ended, andThen_of_ok ended, Option.map_none, deliver_none]
  | some room =>
    rw [deliver_some] at fine
    obtain ⟨whole, ended⟩ := Prod.mk.inj fine
    by_cases fits : first.bytes.length ≤ room
    · rw [if_pos fits] at ended
      rw [List.take_of_length_le fits] at whole
      subst whole
      have behind : second.bytes.length ≤ room - first.bytes.length ↔
          first.bytes.length + second.bytes.length ≤ room := by omega
      rw [deliver_some, bytes_andThen ended, andThen_of_ok ended, Option.map_some, deliver_some,
        List.take_append, List.take_of_length_le fits, List.length_append]
      simp only [behind]
    · rw [if_neg fits] at ended
      exact nomatch ended

theorem deliver_andThen_of_error (failed : first.deliver limit = (sent, .error failure))
    (second : Transcript) : (first.andThen second).deliver limit = (sent, .error failure) := by
  cases ended : first.ending with
  | error => rw [andThen_of_error ended, failed]
  | ok =>
    cases limit with
    | none => simp [deliver_none, ended] at failed
    | some room =>
      rw [deliver_some, ended] at failed
      obtain ⟨rfl, full⟩ := Prod.mk.inj failed
      by_cases fits : first.bytes.length ≤ room
      · rw [if_pos fits] at full
        exact nomatch full
      · rw [if_neg fits] at full
        have short : room - first.bytes.length = 0 := by omega
        have beyond : ¬ first.bytes.length + second.bytes.length ≤ room := by omega
        rw [deliver_some, bytes_andThen ended, List.take_append, short, List.take_zero,
          List.append_nil, List.length_append, if_neg beyond, ← full]

end

end Kaleidoscope.Transcript
