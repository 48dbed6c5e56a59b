import Kaleidoscope.Proofs.Lexeme.Coverings
import Mathlib.Order.Monotone.Basic

/-! Rejecting scans that are resumed.

Where a skipping lexer stays inside a gap, a rejecting one leaves it with an error, and finds what is
left of the gap when it is asked again.

Main statement: what a rejecting lexer yields forever is what a skipping one yields, but for the errors
about unknown characters.
-/

set_option autoImplicit false

namespace Kaleidoscope

/-- An error that is made by rejecting lexers only. -/
def LexicalError.isUnknown : LexicalError → Bool
  | .unknownCharacter .. => true
  | .malformedNumber .. => false

def Item.isUnknown : Item → Bool
  | .ok _ => false
  | .error error => error.isUnknown

namespace Segment

/-- The segment as a skipping lexer takes it. -/
def overlooked : Segment → Segment
  | .stray char => .skipped char
  | segment => segment

@[simp] theorem text_overlooked (segment : Segment) : segment.overlooked.text = segment.text := by
  cases segment <;> rfl

theorem Lawful.overlooked {segment : Segment} {rest : List Char}
    (lawful : segment.Lawful .reject rest) : segment.overlooked.Lawful .skip rest := by
  cases segment with
  | skipped => exact absurd lawful.1 (by decide)
  | stray => exact ⟨rfl, lawful.2⟩
  | blank | comment | word | number | mark | malformed => exact lawful

theorem item?_overlooked (segment : Segment) (position : Position) :
    segment.overlooked.item? position =
      (segment.item? position).filter (!Item.isUnknown ·) := by
  cases segment <;> rfl

end Segment

namespace Cut

theorem textOf_overlooked (segments : List Segment) :
    textOf (segments.map Segment.overlooked) = textOf segments := by
  simp [textOf, List.flatMap_map]

theorem Covers.overlooked {segments : List Segment} {rest : List Char}
    (covers : Covers .reject rest segments) :
    Covers .skip rest (segments.map Segment.overlooked) := by
  induction segments with
  | nil => trivial
  | cons segment others ih =>
    obtain ⟨lawful, covers⟩ := covers
    refine ⟨?_, ih covers⟩
    rw [textOf_overlooked]
    exact lawful.overlooked

theorem yieldedFrom_overlooked (position : Position) (segments : List Segment) :
    yieldedFrom position (segments.map Segment.overlooked) =
      (yieldedFrom position segments).filter (!Item.isUnknown ·) := by
  induction segments generalizing position with
  | nil => rfl
  | cons segment others ih =>
    rw [List.map_cons, yieldedFrom, yieldedFrom, Segment.text_overlooked, ih, List.filter_append,
      Segment.item?_overlooked, Option.toList_filter]

end Cut

theorem Cursor.scan_skip (cursor : Cursor) :
    cursor.scan .skip = ⟨(cursor.scan .reject).items.filter (!Item.isUnknown ·),
      (cursor.scan .reject).ending⟩ := by
  obtain ⟨position, text⟩ := cursor
  obtain ⟨segments, rfl, covers⟩ := Cut.exists_covers .reject text
  have rejecting := covers.scan_eq position
  have skipping := covers.overlooked.scan_eq position
  rw [Cut.textOf_overlooked, Cut.yieldedFrom_overlooked] at skipping
  rw [List.append_nil, Cursor.scan_nil] at rejecting skipping
  rw [rejecting, skipping]
  simp [Scan.behind]

/-- The second sequence is the first one without what is left out, and each member has its place. -/
structure IsWithout {α : Type} (leftOut : α → Bool) (whole thin : Nat → α) (place : Nat → Nat) :
    Prop where
  ascends : StrictMono place
  kept : ∀ index, index ∈ Set.range place ↔ leftOut (whole index) = false
  same : ∀ count, thin count = whole (place count)

section
variable {α : Type} {leftOut : α → Bool} {whole thin : Nat → α} {place : Nat → Nat}

theorem IsWithout.omit (without : IsWithout leftOut (fun index => whole (index + 1)) thin place)
    (omitted : leftOut (whole 0) = true) :
    IsWithout leftOut whole thin (fun count => place count + 1) where
  ascends _ _ further := Nat.succ_lt_succ (without.ascends further)
  kept index := by
    cases index with
    | zero => simp [omitted]
    | succ index => simpa using without.kept index
  same := without.same

theorem IsWithout.keep
    (without : IsWithout leftOut (fun index => whole (index + 1)) (fun count => thin (count + 1)) place)
    (kept : leftOut (whole 0) = false) (first : thin 0 = whole 0) :
    IsWithout leftOut whole thin (fun count => count.casesOn 0 fun count => place count + 1) where
  ascends := by
    refine strictMono_nat_of_lt_succ fun count => ?_
    cases count with
    | zero => exact Nat.succ_pos _
    | succ count => exact Nat.succ_lt_succ (without.ascends (Nat.lt_succ_self count))
  kept index := by
    cases index with
    | zero => exact iff_of_true ⟨0, rfl⟩ kept
    | succ index =>
      refine Iff.trans ?_ (without.kept index)
      constructor
      · rintro ⟨_ | count, same⟩
        · exact absurd same (Nat.succ_ne_zero index).symm
        · exact ⟨count, Nat.succ.inj same⟩
      · rintro ⟨count, rfl⟩
        exact ⟨count + 1, rfl⟩
  same count := by
    cases count with
    | zero => exact first
    | succ count => exact without.same count

theorem exists_isWithout_filter (members : List α) {ending : α} (kept : leftOut ending = false) :
    ∃ place, IsWithout leftOut (fun index => members[index]?.getD ending)
      (fun count => (members.filter (!leftOut ·))[count]?.getD ending) place := by
  -- Nothing is left out behind the members, so the places there only move.
  induction members with
  | nil => exact ⟨id, strictMono_id, by simp [kept], fun _ => rfl⟩
  | cons member rest ih =>
    obtain ⟨place, without⟩ := ih
    cases found : leftOut member with
    | true =>
      rw [List.filter_cons_of_neg (by simp [found])]
      exact ⟨_, IsWithout.omit without found⟩
    | false =>
      rw [List.filter_cons_of_pos (by simp [found])]
      exact ⟨_, IsWithout.keep without found rfl⟩

end

namespace Lexer

theorem exists_isWithout_result {rejecting skipping : Lexer}
    (same : skipping.cursor = rejecting.cursor) (rejects : rejecting.policy = .reject)
    (skips : skipping.policy = .skip) :
    ∃ place, IsWithout Item.isUnknown rejecting.result skipping.result place := by
  have scanned : skipping.scan = ⟨rejecting.scan.items.filter (!Item.isUnknown ·),
      rejecting.scan.ending⟩ := by
    rw [scan, scan, skips, rejects, same, Cursor.scan_skip]
  have results (lexer : Lexer) : lexer.result = fun index =>
      lexer.scan.items[index]?.getD (.ok (.ending lexer.scan.ending)) :=
    funext lexer.result_eq
  rw [results, results, scanned]
  exact exists_isWithout_filter _ rfl

end Lexer

end Kaleidoscope
