import Kaleidoscope.Proofs.Lexeme.Decomposition

/-! Segments across errors.

A scan does not end with its first error, so the segments of a text can be counted up to any place in
it, whatever they are.

Main statements: a scan yields what the segments of its text yield, one after the other; and these are
the results of a lexer that is asked forever, with the end of the text behind them.
-/

set_option autoImplicit false

namespace Kaleidoscope

variable {policy : Policy} {rest : List Char}

namespace Cut

/-- Every segment fits what stands behind it, also behind errors. -/
def Covers (policy : Policy) (rest : List Char) : List Segment → Prop
  | [] => True
  | segment :: others => segment.Lawful policy (textOf others ++ rest) ∧ Covers policy rest others

def yieldedFrom (position : Position) : List Segment → List Item
  | [] => []
  | segment :: others =>
      (segment.item? position).toList ++ yieldedFrom (position.after segment.text) others

theorem Covers.scan_eq {segments : List Segment} (covers : Covers policy rest segments)
    (position : Position) :
    (Cursor.mk position (textOf segments ++ rest)).scan policy =
      ((Cursor.mk (position.after (textOf segments)) rest).scan policy).behind
        (yieldedFrom position segments) := by
  induction segments generalizing position with
  | nil => rfl
  | cons segment others ih =>
    obtain ⟨lawful, covers⟩ := covers
    have parted : textOf (segment :: others) = segment.text ++ textOf others := rfl
    rw [parted, List.append_assoc, lawful.scan_eq, ih covers, ← Position.after_append]
    simp only [Scan.behind, yieldedFrom, List.append_assoc]

theorem exists_covers (policy : Policy) (text : List Char) :
    ∃ segments, textOf segments = text ∧ Covers policy [] segments := by
  induction text using Segment.induction_segments policy with
  | nil => exact ⟨[], rfl, trivial⟩
  | segment segment following lawful ih =>
    obtain ⟨segments, rfl, covers⟩ := ih
    refine ⟨segment :: segments, rfl, ?_, covers⟩
    rw [List.append_nil]
    exact lawful

end Cut

theorem Scan.next_eq (scan : Scan) :
    scan.next =
      (scan.items.head?.getD (.ok (.ending scan.ending)), ⟨scan.items.tail, scan.ending⟩) := by
  obtain ⟨items, ending⟩ := scan
  cases items <;> rfl

namespace Lexer

theorem scan_after (lexer : Lexer) (count : Nat) :
    (lexer.after count).scan = ⟨lexer.scan.items.drop count, lexer.scan.ending⟩ := by
  induction count with
  | zero => rfl
  | succ count ih =>
    have behind : (lexer.after count).scan.next.2 = (lexer.after (count + 1)).scan :=
      congrArg Prod.snd (lexer.next_scan_after count)
    rw [← behind, ih, Scan.next_eq, List.tail_drop]

theorem result_eq (lexer : Lexer) (index : Nat) :
    lexer.result index = lexer.scan.items[index]?.getD (.ok (.ending lexer.scan.ending)) := by
  have read : (lexer.after index).scan.next.1 = lexer.result index :=
    congrArg Prod.fst (lexer.next_scan_after index)
  rw [← read, scan_after, Scan.next_eq, List.head?_drop]

end Lexer

end Kaleidoscope
