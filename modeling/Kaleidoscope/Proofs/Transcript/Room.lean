import Kaleidoscope.Proofs.Transcript.Delivery
import Kaleidoscope.Session
import Mathlib.Control.Monad.Basic

/-! Output into limited room.

Main statement: reports and sessions write what there is room for of all that they would write, and only
where this is not all of it do they end otherwise.
-/

set_option autoImplicit false

namespace Kaleidoscope

namespace Transcript

/-- Without a limit all is written. The end of the room cuts it off, in whatever pieces it is written, and
this is the failure that counts, be there another one behind it or not. -/
structure Truncated (transcript : Transcript) (limit : Nat) : Prop where
  unlimited : transcript.deliver none =
    (Text.encode (String.join transcript.writes), transcript.ending)
  output : (transcript.deliver (some limit)).1 = (transcript.deliver none).1.take limit
  fits : (transcript.deliver none).1.length ≤ limit →
    (transcript.deliver (some limit)).2 = (transcript.deliver none).2
  overflows : limit < (transcript.deliver none).1.length →
    (transcript.deliver (some limit)).2 = .error (.broken .full)
  inPieces : ∀ pieces : List String, String.join pieces = String.join transcript.writes →
    (Transcript.mk pieces transcript.ending).deliver (some limit) =
      transcript.deliver (some limit)

theorem truncated (transcript : Transcript) (limit : Nat) : transcript.Truncated limit := by
  constructor
  · rw [deliver_none, bytes_eq]
  · rw [deliver_some, deliver_none]
  · intro fits
    rw [deliver_none] at fits
    rw [deliver_some, if_pos fits, deliver_none]
  · intro overflows
    rw [deliver_none] at overflows
    rw [deliver_some, if_neg (Nat.not_le_of_lt overflows)]
  · intro pieces same
    have bytes : (Transcript.mk pieces transcript.ending).bytes = transcript.bytes := by
      rw [bytes_eq, bytes_eq, same]
    exact deliver_congr bytes rfl _

theorem ending_andThen {first second : Transcript} {allowed : Except Failure Unit → Prop}
    (front : allowed first.ending) (behind : allowed second.ending) :
    allowed (first.andThen second).ending := by
  cases ended : first.ending with
  | ok => rwa [andThen_of_ok ended]
  | error => rwa [andThen_of_error ended]

end Transcript

namespace Report

/-- A report ends well or with an error in its source. -/
def Ends (source : String) (ending : Except Failure Unit) : Prop :=
  ending = .ok () ∨ ∃ error, ending = .error (.refused error source)

theorem listing_ends (source : String) (items : List Item) :
    Ends source (listing source items).ending := by
  induction items with
  | nil => exact .inl rfl
  | cons item rest ih =>
    cases item with
    | ok lexeme => exact Transcript.ending_andThen (.inl rfl) ih
    | error error => exact .inr ⟨.lexical error, rfl⟩

theorem ofResult_ends {α : Type} (source : String) (write : α → List String)
    (result : Except ParseError α) : Ends source (ofResult source write result).ending := by
  cases result with
  | ok => exact .inl rfl
  | error error => exact .inr ⟨error, rfl⟩

theorem trees_ends (options : Options) (source : String) :
    Ends source (trees options source).ending := by
  unfold trees
  split
  · exact ofResult_ends ..
  · exact ofResult_ends ..

theorem ofSource_ends (options : Options) (source : String) :
    Ends source (ofSource options source).ending := by
  unfold ofSource
  split
  · refine Transcript.ending_andThen (Transcript.ending_andThen (.inl rfl) ?_) ?_
    · exact listing_ends ..
    · exact trees_ends ..
  · exact trees_ends ..

end Report

namespace Session

def Ends (ending : Except Failure Unit) : Prop :=
  ending = .ok () ∨ ending = .error (.broken .notText)

theorem respond_ends (options : Options) (line : List UInt8) :
    Ends (respond options line).ending := by
  unfold respond
  split
  · exact .inr rfl
  · exact .inl rfl

theorem exchange_ends (options : Options) (lines : List (List UInt8)) :
    Ends (exchange options lines).ending := by
  induction lines with
  | nil => exact .inl rfl
  | cons line rest ih =>
    exact Transcript.ending_andThen (.inl rfl)
      (Transcript.ending_andThen (respond_ends options line) ih)

end Session

theorem truncated_within (options : Options) (limit : Nat) :
    (∀ source, (Report.ofSource options source).Truncated limit ∧
      (((Report.ofSource options source).deliver none).2 = .ok () ∨
        ∃ error, ((Report.ofSource options source).deliver none).2 =
          .error (.refused error source))) ∧
    ∀ input, (Session.run options input).Truncated limit ∧
      (((Session.run options input).deliver none).2 = .ok () ∨
        ((Session.run options input).deliver none).2 = .error (.broken .notText)) := by
  constructor
  · intro source
    rw [Transcript.deliver_none]
    exact ⟨Transcript.truncated _ limit, Report.ofSource_ends options source⟩
  · intro input
    rw [Transcript.deliver_none]
    exact ⟨Transcript.truncated _ limit, Session.exchange_ends options _⟩

-- The character behind the number is refused only if there is room for the line of the number.
example :
    (Report.ofSource ⟨none, true, false, false, false⟩ "1 $").deliver (some 26) =
      (Text.encode "Tokens:\n   1:1  Number(1.0", .error (.broken .full)) ∧
    (Report.ofSource ⟨none, true, false, false, false⟩ "1 $").deliver (some 28) =
      (Text.encode "Tokens:\n   1:1  Number(1.0)\n",
        .error (.refused (.lexical (.unknownCharacter '$' ⟨2, 1, 3⟩)) "1 $")) := by
  decide +kernel

end Kaleidoscope
