import Kaleidoscope.Proofs.Lexeme.Blanked
import Kaleidoscope.Proofs.Source.Policies
import Kaleidoscope.Proofs.Source.Relocation

/-! Sources with blanks for what is skipped.

Main statement: with a blank for each character that it drops, what a skipping lexer reads can be read
by a rejecting one, and nothing but the offsets tells the two apart. In front of such a character and behind
it the source is read by itself.
-/

set_option autoImplicit false

namespace Kaleidoscope

namespace Scan

-- Behind an error a scan is not asked for more.
theorem untilError_behind {items : List Item} (failed : ∃ item ∈ items, item.isOk = false)
    (first second : Scan) : (first.behind items).untilError = (second.behind items).untilError := by
  induction items with
  | nil => simp at failed
  | cons item rest ih =>
    cases item with
    | error => rfl
    | ok lexeme =>
      obtain ⟨other, member, broken⟩ := failed
      rcases List.mem_cons.mp member with rfl | member
      · simp [Except.isOk, Except.toBool] at broken
      · exact congrArg (.ok lexeme :: ·) (ih ⟨other, member, broken⟩)

end Scan

theorem Item.isUnknown_relocate (move : Position → Position) (item : Item) :
    (item.relocate move).isUnknown = item.isUnknown := by
  cases item with
  | ok => rfl
  | error error => cases error <;> rfl

theorem Item.isOk_relocate (move : Position → Position) (item : Item) :
    (item.relocate move).isOk = item.isOk := by
  cases item <;> rfl

namespace Source

/-- The source with a blank for each character that a skipping scan drops, up to its first error or, if
it is resumed, everywhere. -/
def blanked (resumed : Bool) (source : String) : String :=
  String.ofList ((Cursor.start source).blanked resumed)

theorem exists_blanked (resumed : Bool) (source : String) :
    ∃ segments rest, source.toList = Cut.textOf segments ++ rest ∧
      (blanked resumed source).toList = Cut.textOf (segments.map Segment.blanked) ++ rest ∧
      Cut.Covers .skip rest segments ∧
      (rest = [] ∨ resumed = false ∧ ∃ segment ∈ segments, segment.isError = true) := by
  obtain ⟨segments, rest, text, covers, blanks, ends⟩ :=
    Cut.exists_blanked resumed source.toList
  exact ⟨segments, rest, text.symm, by rw [blanked, String.toList_ofList]; exact blanks .start,
    covers, ends⟩

theorem exists_scans_blanked (resumed : Bool) (source : String) :
    ∃ (items : List Item) (first second : Scan),
      (scan .reject (blanked resumed source)).relocate Position.withoutOffset = first.behind items ∧
      (scan .skip source).relocate Position.withoutOffset = second.behind items ∧
      (first = second ∨ resumed = false ∧ ∃ item ∈ items, item.isOk = false) := by
  obtain ⟨segments, rest, text, blanks, covers, ends⟩ := exists_blanked resumed source
  obtain ⟨items, places⟩ := covers.yieldedFrom_blanked (rfl : Position.start.withoutOffset = _)
  have skipping : scan .skip source = _ := text ▸ covers.scan_eq .start
  have rejecting : scan .reject (blanked resumed source) = _ := blanks ▸ covers.blanked.scan_eq .start
  rw [skipping, rejecting, Scan.relocate_behind, Scan.relocate_behind, items]
  refine ⟨_, _, _, rfl, rfl, ?_⟩
  rcases ends with rfl | ⟨once, segment, member, failed⟩
  · rw [Cursor.scan_nil, Cursor.scan_nil]
    exact .inl (congrArg (Scan.mk []) places)
  · obtain ⟨item, yielded, broken⟩ := Cut.yieldedFrom_isOk member failed .start
    refine .inr ⟨once, _, List.mem_map_of_mem yielded, ?_⟩
    rw [Item.isOk_relocate, broken]

theorem scan_blanked (source : String) :
    (scan .reject (blanked true source)).relocate Position.withoutOffset =
      (scan .skip source).relocate Position.withoutOffset := by
  obtain ⟨items, first, second, rejecting, skipping, same | ⟨once, -⟩⟩ :=
    exists_scans_blanked true source
  · rw [rejecting, skipping, same]
  · simp at once

theorem items_blanked (resumed : Bool) (source : String) :
    (items .reject (blanked resumed source)).map (Item.relocate Position.withoutOffset) =
      (items .skip source).map (Item.relocate Position.withoutOffset) := by
  obtain ⟨items, first, second, rejecting, skipping, ends⟩ := exists_scans_blanked resumed source
  unfold Source.items
  rw [← Scan.untilError_relocate, ← Scan.untilError_relocate, rejecting, skipping]
  rcases ends with rfl | ⟨-, failed⟩
  · rfl
  · exact Scan.untilError_behind failed ..

theorem result_blanked (source : String) (index : Nat) :
    ((Lexer.start .reject (blanked true source)).result index).relocate Position.withoutOffset =
      ((Lexer.start .skip source).result index).relocate Position.withoutOffset := by
  have placed (policy : Policy) (text : String) :
      ((Lexer.start policy text).result index).relocate Position.withoutOffset =
        (((scan policy text).relocate Position.withoutOffset).items[index]?).getD
          (.ok (.ending ((scan policy text).relocate Position.withoutOffset).ending)) := by
    have result : (Lexer.start policy text).result index =
        (scan policy text).items[index]?.getD (.ok (.ending (scan policy text).ending)) :=
      Lexer.result_eq ..
    rw [result, Scan.relocate, List.getElem?_map]
    cases (scan policy text).items[index]? <;> rfl
  rw [placed, placed, scan_blanked]

theorem scan_of_dropped {resumed : Bool} {before behind : String} {char : Char}
    (dropped : (blanked resumed (before ++ String.singleton char ++ behind)).toList[
      before.toList.length]? ≠ some char) :
    scan .skip (before ++ String.singleton char ++ behind) =
      ((Cursor.mk ((Position.behind before).step char) behind.toList).scan .skip).behind
        (scan .skip before).items := by
  obtain ⟨segments, rest, text, blanks, covers, -⟩ :=
    exists_blanked resumed (before ++ String.singleton char ++ behind)
  rw [blanks] at dropped
  have parted : Cut.textOf segments ++ rest = before.toList ++ char :: behind.toList := by
    rw [← text]
    simp
  obtain ⟨first, second, rfl, front, back⟩ := Cut.exists_skipped parted dropped
  obtain ⟨ahead, lawful, -⟩ := Cut.covers_append.mp covers
  have alone : (scan .skip before).items = Cut.yieldedFrom .start first := by
    have scanned := ahead.alone.scan_eq .start
    rw [List.append_nil, front, Cursor.scan_nil] at scanned
    exact (congrArg Scan.items scanned).trans (List.append_nil _)
  have ahead := ahead.scan_eq .start
  rw [← List.append_assoc, ← Cut.textOf_append, ← text, front, Position.after_start] at ahead
  have across := lawful.scan_eq (Position.behind before)
  rw [back] at across
  rw [alone, scan]
  refine ahead.trans (congrArg (Scan.behind _) ?_)
  exact back ▸ across

theorem items_blanked_known {resumed : Bool} {source : String} {item : Item}
    (member : item ∈ items .reject (blanked resumed source)) : item.isUnknown = false := by
  have placed := List.mem_map_of_mem (f := Item.relocate Position.withoutOffset) member
  rw [items_blanked] at placed
  obtain ⟨other, skipping, same⟩ := List.mem_map.mp placed
  rw [← item.isUnknown_relocate, ← same, other.isUnknown_relocate]
  exact isUnknown_of_mem_items_skip skipping

/-- A rejecting lexer finds nothing unknown in the blanked source, and what it reads there, and what is
parsed, is what a skipping one makes of the source itself, on the same lines and columns. Nothing is read
across a dropped character. -/
theorem reject_blanked (resumed : Bool) (source : String) :
    List.Forall₂ (fun char other => other = char ∨ Lexeme.Unknown char ∧ other = ' ')
      source.toList (blanked resumed source).toList ∧
    (∀ item ∈ items .reject (blanked resumed source), item.isUnknown = false) ∧
    (items .reject (blanked resumed source)).map (Item.relocate Position.withoutOffset) =
      (items .skip source).map (Item.relocate Position.withoutOffset) ∧
    (resumed = true → ∀ index,
      ((Lexer.start .reject (blanked resumed source)).result index).isUnknown = false ∧
      ((Lexer.start .reject (blanked resumed source)).result index).relocate
          Position.withoutOffset =
        ((Lexer.start .skip source).result index).relocate Position.withoutOffset) ∧
    (program .reject (blanked resumed source)).mapError
        (ParseError.relocate Position.withoutOffset) =
      (program .skip source).mapError (ParseError.relocate Position.withoutOffset) ∧
    (definition .reject (blanked resumed source)).mapError
        (ParseError.relocate Position.withoutOffset) =
      (definition .skip source).mapError (ParseError.relocate Position.withoutOffset) ∧
    ∀ before char behind, source = before ++ String.singleton char ++ behind →
      (blanked resumed source).toList[before.toList.length]? ≠ some char →
      scan .skip source =
        ((Cursor.mk ((Position.behind before).step char) behind.toList).scan .skip).behind
          (scan .skip before).items := by
  refine ⟨?_, fun item => items_blanked_known, items_blanked resumed source, ?_, ?_, ?_, ?_⟩
  · obtain ⟨segments, rest, text, blanks, covers, -⟩ := exists_blanked resumed source
    rw [text, blanks]
    exact covers.forall₂_blanked
  · rintro rfl index
    have same := result_blanked source index
    refine ⟨?_, same⟩
    rw [← Item.isUnknown_relocate, same, Item.isUnknown_relocate]
    exact isUnknown_result_skip source index
  · exact (parse_of_items (items_blanked resumed source)).1
  · exact (parse_of_items (items_blanked resumed source)).2
  · rintro before char behind rfl dropped
    exact scan_of_dropped dropped

-- The digit is part of a name and stays, alone it is dropped, and so is the mark outside the comment.
example : blanked false "a\u0663 \u0663b # $\n 1.2.3 $" = "a\u0663  b # $\n 1.2.3 $" ∧
    blanked true "a\u0663 \u0663b # $\n 1.2.3 $" = "a\u0663  b # $\n 1.2.3  " := by
  decide +kernel

end Source

end Kaleidoscope
