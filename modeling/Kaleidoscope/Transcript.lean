import Kaleidoscope.ParseError.Excerpt
import Kaleidoscope.Text.Bytes

/-! What is written in the course of some work, and how the work ends.

Main statement: putting transcripts one behind the other is associative.
-/

set_option autoImplicit false

namespace Kaleidoscope

/-- Faults without a name here come with the words of the system. -/
inductive ReadFault where
  | notFound
  | isDirectory
  | notDirectory
  | notText
  | other (reason : String)
  deriving DecidableEq, Repr

inductive StreamFault where
  | full
  | notText
  deriving DecidableEq, Repr

inductive Failure where
  | refused (error : ParseError) (source : String)
  | unreadable (path : String) (fault : ReadFault)
  | broken (fault : StreamFault)
  deriving DecidableEq, Repr

def ReadFault.message : ReadFault → String
  | .notFound => "No such file or directory (os error 2)"
  | .isDirectory => "Is a directory (os error 21)"
  | .notDirectory => "Not a directory (os error 20)"
  | .notText => "stream did not contain valid UTF-8"
  | .other reason => reason

def StreamFault.message : StreamFault → String
  | .full => "failed to write whole buffer"
  | .notText => "stream did not contain valid UTF-8"

def Failure.message : Failure → String
  | .refused error source => error.excerpt source
  | .unreadable path fault => "error: failed to read " ++ path ++ ": " ++ fault.message
  | .broken fault => "error: failed to write output: " ++ fault.message

structure Transcript where
  writes : List String
  ending : Except Failure Unit

namespace Transcript

def empty : Transcript := ⟨[], .ok ()⟩

def ofWrites (writes : List String) : Transcript := ⟨writes, .ok ()⟩

def fail (failure : Failure) : Transcript := ⟨[], .error failure⟩

-- Nothing is written behind a failure.
def andThen (first second : Transcript) : Transcript :=
  match first.ending with
  | .ok () => ⟨first.writes ++ second.writes, second.ending⟩
  | .error failure => ⟨first.writes, .error failure⟩

theorem andThen_assoc (first second third : Transcript) :
    (first.andThen second).andThen third = first.andThen (second.andThen third) := by
  obtain ⟨writes, ending⟩ := first
  cases ending with
  | error failure => rfl
  | ok =>
    obtain ⟨others, result⟩ := second
    cases result with
    | error failure => rfl
    | ok => simp [andThen]

/-- Write in turn as long as there is room, without a limit if none is given. A write that does not
fit fills the room and fails. -/
def send (ending : Except Failure Unit) : Option Nat → List String →
    List UInt8 × Except Failure Unit
  | _, [] => ([], ending)
  | none, text :: rest =>
      let (sent, result) := send ending none rest
      (Text.encode text ++ sent, result)
  | some room, text :: rest =>
      let bytes := Text.encode text
      if bytes.length ≤ room then
        let (sent, result) := send ending (some (room - bytes.length)) rest
        (bytes ++ sent, result)
      else (bytes.take room, .error (.broken .full))

def deliver (transcript : Transcript) (limit : Option Nat) : List UInt8 × Except Failure Unit :=
  send transcript.ending limit transcript.writes

end Transcript

end Kaleidoscope
