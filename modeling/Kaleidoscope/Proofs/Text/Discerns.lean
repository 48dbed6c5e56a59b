import Kaleidoscope.Proofs.Lexeme.Segments

/-! Texts that show what they are the texts of, and where they end.

Main statement: values are told apart by their texts also where these stand in a row with commas between
them, in brackets.
-/

set_option autoImplicit false

namespace Kaleidoscope.Text

/-- Rests that no name and no number goes on into. -/
def Stops (rest : List Char) : Prop := ∀ char ∈ rest.head?, char ∈ [',', ')', ']']

theorem stops_cons {char : Char} (stop : char ∈ [',', ')', ']']) (rest : List Char) :
    Stops (char :: rest) := by
  simpa [Stops] using stop

variable {α : Type}

/-- In front of such rests the texts of the two values differ, unless the values and the rests are the
same. -/
def Discerns (text : α → List Char) (front : List Char → Prop) (value other : α) : Prop :=
  ∀ rest rest', front rest → front rest' → text value ++ rest = text other ++ rest' →
    value = other ∧ rest = rest'

variable {text : α → List Char} {front : List Char → Prop} {value other : α}

theorem Discerns.before (discerns : Discerns text front value other) {between rest rest' : List Char}
    (fronts : ∀ rest, front (between ++ rest))
    (same : text value ++ (between ++ rest) = text other ++ (between ++ rest')) :
    value = other ∧ rest = rest' := by
  obtain ⟨values, rests⟩ := discerns _ _ (fronts rest) (fronts rest') same
  exact ⟨values, List.append_cancel_left rests⟩

theorem Discerns.mono {weaker : List Char → Prop} (discerns : Discerns text weaker value other)
    (implies : ∀ rest, front rest → weaker rest) : Discerns text front value other :=
  fun rest rest' left right => discerns rest rest' (implies rest left) (implies rest' right)

theorem discerns_of_plain (plain : ∀ char ∈ text value, char ∉ [',', ')', ']'])
    (plain' : ∀ char ∈ text other, char ∉ [',', ')', ']'])
    (injective : text value = text other → value = other) : Discerns text Stops value other := by
  intro rest rest' stops stops' same
  have longest : LongestRun (fun char => decide (char ∉ [',', ')', ']'])) (text value) rest :=
    ⟨fun char member => decide_eq_true (plain char member),
      fun char first => decide_eq_false (not_not.mpr (stops char first))⟩
  have longest' : LongestRun (fun char => decide (char ∉ [',', ')', ']'])) (text other) rest' :=
    ⟨fun char member => decide_eq_true (plain' char member),
      fun char first => decide_eq_false (not_not.mpr (stops' char first))⟩
  exact (longest.unique longest' same).imp_left injective

def comma : List Char := [',', ' ']

/-- The texts with commas between them, and the bracket that closes them. -/
def closed (text : α → List Char) (values : List α) : List Char :=
  comma.intercalate (values.map text) ++ [']']

def further (text : α → List Char) : List α → List Char
  | [] => [']']
  | value :: values => comma ++ closed text (value :: values)

theorem closed_cons (text : α → List Char) (value : α) (values : List α) :
    closed text (value :: values) = text value ++ further text values := by
  cases values with
  | nil => simp [closed, further]
  | cons next values => simp [closed, further]

theorem stops_further (values : List α) (rest : List Char) :
    Stops (further text values ++ rest) := by
  cases values <;> exact stops_cons (by decide) _

def Begun (text : α → List Char) (value : α) : Prop := ∃ char ∈ (text value).head?, char ≠ ']'

theorem Begun.closed_ne (begun : Begun text value) (values : List α) (rest rest' : List Char) :
    closed text (value :: values) ++ rest ≠ closed text [] ++ rest' := by
  obtain ⟨char, first, other⟩ := begun
  intro same
  have heads := congrArg List.head? same
  rw [closed_cons, List.append_assoc, List.head?_append, Option.mem_def.mp first] at heads
  exact other (by simpa [closed] using heads)

theorem discerns_closed {values others : List α}
    (each : ∀ value ∈ values, ∀ other ∈ others, Discerns text Stops value other)
    (begun : ∀ value ∈ values, Begun text value) (begun' : ∀ other ∈ others, Begun text other) :
    Discerns (closed text) (fun _ => True) values others := by
  intro rest rest' _ _ same
  -- Each value of the first list is the one in the same place of the second.
  induction values generalizing others with
  | nil =>
    cases others with
    | nil => exact ⟨rfl, List.append_cancel_left same⟩
    | cons other others => exact absurd same.symm ((begun' other (by simp)).closed_ne others _ _)
  | cons value values ih =>
    cases others with
    | nil => exact absurd same ((begun value (by simp)).closed_ne values _ _)
    | cons other others =>
      rw [closed_cons, closed_cons, List.append_assoc, List.append_assoc] at same
      obtain ⟨rfl, behind⟩ := each value (by simp) other (by simp) _ _ (stops_further values rest)
        (stops_further others rest') same
      have each : ∀ value ∈ values, ∀ other ∈ others, Discerns text Stops value other :=
        fun value member other member' => each value (by simp [member]) other (by simp [member'])
      have begun := (List.forall_mem_cons.mp begun).2
      have begun' := (List.forall_mem_cons.mp begun').2
      cases values with
      | nil =>
        cases others with
        | nil => exact ⟨rfl, List.append_cancel_left behind⟩
        | cons => simp [further, comma] at behind
      | cons next values =>
        cases others with
        | nil => simp [further, comma] at behind
        | cons next' others =>
          simp only [further, List.append_assoc] at behind
          obtain ⟨same, rests⟩ := ih each begun begun' (List.append_cancel_left behind)
          exact ⟨congrArg _ same, rests⟩

end Kaleidoscope.Text
