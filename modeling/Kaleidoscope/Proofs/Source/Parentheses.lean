import Kaleidoscope.Proofs.Grammar.Parentheses
import Kaleidoscope.Proofs.Lexeme.Joined
import Kaleidoscope.Proofs.Source.Accepted
import Kaleidoscope.Proofs.Source.Contents

/-! Texts in parentheses.

A mark in front of a text is read as itself and changes nothing but the places of what follows. What
stands behind a text is kept apart from it by a newline.

Main statement: the only expression of a text is found in any number of parentheses, and whatever is found
in a pair of parentheses of which the first is closed by the last is the only expression between them.
-/

set_option autoImplicit false

namespace Kaleidoscope

@[simp] theorem Item.content_move (bytes lines : Nat) (item : Item) :
    (item.move bytes lines).content = item.content := by
  obtain (_ | _) | _ := item <;> rfl

theorem Cut.contents_itemsFrom (segments : List Segment) (position other : Position) :
    (itemsFrom position segments).map Item.content = (itemsFrom other segments).map Item.content := by
  induction segments generalizing position other with
  | nil => rfl
  | cons segment rest ih =>
    have further := ih (position.after segment.text) (other.after segment.text)
    cases segment with
    | blank | comment | skipped => exact further
    | word | number | mark => exact congrArg (_ :: ·) further
    | malformed | stray => rfl

namespace Source

variable {policy : Policy} {source : String} {read : List Token}

theorem contents_mark {char : Char} {token : Token} (member : (char, token) ∈ Lexeme.marks)
    (policy : Policy) (source : String) :
    (items policy (String.singleton char ++ source)).map Item.content =
      .ok token :: (items policy source).map Item.content := by
  obtain ⟨⟨segments, rest⟩, ⟨text, fits⟩, -⟩ := Cut.existsUnique policy source.toList
  have whole : Cut.text ⟨.mark char token :: segments, rest⟩ =
      (String.singleton char ++ source).toList := by
    rw [String.toList_append, ← text]
    simp [Cut.text, Cut.textOf, Segment.text]
  have marked : Cut.Lawful policy ⟨.mark char token :: segments, rest⟩ := ⟨member, fits⟩
  rw [← Cut.items_eq whole marked, ← Cut.items_eq text fits]
  exact congrArg (_ :: ·) (Cut.contents_itemsFrom segments _ _)

theorem contents_marks {char : Char} {token : Token} (member : (char, token) ∈ Lexeme.marks)
    (policy : Policy) (count : Nat) (source : String) :
    (items policy (String.ofList (List.replicate count char) ++ source)).map Item.content =
      List.replicate count (.ok token) ++ (items policy source).map Item.content := by
  induction count with
  | zero => simp
  | succ count ih =>
    rw [List.replicate_succ, String.ofList_cons, String.append_assoc, contents_mark member, ih]
    rfl

theorem tokens_eq_ok_iff_contents :
    tokens policy source = .ok (read ++ [.endOfInput]) ↔
      (items policy source).map Item.content = read.map .ok ++ [.ok .endOfInput] := by
  have injective : Function.Injective (Except.ok : Token → Except LexicalError Token) :=
    fun _ _ => Except.ok.inj
  rw [tokens_eq_ok_iff, items_eq, Item.contents_eq]
  constructor
  · rintro ⟨⟨lexeme, ended⟩, rfl⟩
    rw [ended, Item.content_ok, Lexeme.kind_eq_endOfInput_iff.mp (kind_of_last lexeme ended)]
  · intro same
    obtain ⟨tokens, ends⟩ := List.append_inj' same rfl
    refine ⟨?_, List.map_injective_iff.mpr injective tokens⟩
    cases found : last policy source with
    | ok lexeme => exact ⟨lexeme, rfl⟩
    | error => simp [found, Item.content] at ends

theorem contents_joined (scanned : tokens policy source = .ok (read ++ [.endOfInput]))
    (second : String) :
    (items policy (source ++ "\n" ++ second)).map Item.content =
      read.map .ok ++ (items policy second).map Item.content := by
  obtain ⟨⟨lexeme, ended⟩, rfl⟩ := tokens_eq_ok_iff.mp scanned
  rw [items_joined ended second]
  simp [Function.comp_def]

theorem exists_read {scanned : List Token} (found : tokens policy source = .ok scanned) :
    ∃ read, scanned = read ++ [.endOfInput] := by
  cases ended : last policy source with
  | error error =>
    rw [tokens_eq, ended] at found
    simp [Except.map] at found
  | ok lexeme =>
    have whole := tokens_eq_ok_iff.mpr ⟨⟨lexeme, ended⟩, rfl⟩
    exact ⟨_, Except.ok.inj (found.symm.trans whole)⟩

/-- The text in so many parentheses, of which those that close it stand on a line of their own. -/
def parenthesized (count : Nat) (source : String) : String :=
  String.ofList (List.replicate count '(') ++ source ++ "\n" ++
    String.ofList (List.replicate count ')')

theorem tokens_parenthesized (scanned : tokens policy source = .ok (read ++ [.endOfInput]))
    (count : Nat) :
    tokens policy (parenthesized count source) =
      .ok (List.replicate count .openParen ++ read ++ List.replicate count .closeParen ++
        [.endOfInput]) := by
  have openMark : ('(', .openParen) ∈ Lexeme.marks := by decide
  have closeMark : (')', .closeParen) ∈ Lexeme.marks := by decide
  have opened : tokens policy (String.ofList (List.replicate count '(') ++ source) =
      .ok (List.replicate count .openParen ++ read ++ [.endOfInput]) := by
    rw [tokens_eq_ok_iff_contents, contents_marks openMark, tokens_eq_ok_iff_contents.mp scanned]
    simp
  have closed := contents_marks closeMark policy count ""
  have empty : items policy "" = [.ok (.ending .start)] :=
    (show Cut.items ⟨[], []⟩ = items policy "" from Cut.items_eq rfl rfl).symm
  rw [String.append_empty, empty] at closed
  rw [tokens_eq_ok_iff_contents, parenthesized, contents_joined opened, closed]
  simp [Lexeme.ending]

theorem program_singleton_iff {tree : Node}
    (scanned : tokens policy source = .ok (read ++ [.endOfInput])) :
    program policy source = .ok [tree] ↔ Grammar.Form read tree := by
  obtain ⟨ended, rfl⟩ := tokens_eq_ok_iff.mp scanned
  rw [program_accepts_iff, Program.accepts_iff, Grammar.reading_singleton_iff]
  exact and_iff_right ended

/-- In a program anything may follow a form, in parentheses only what closes them; in both places the text
is read to its end. -/
theorem program_parenthesized (policy : Policy) (source : String) (tree : Node) :
    (program policy source = .ok [tree] → tree.isExpression = true →
      ∀ count, program policy (parenthesized count source) = .ok [tree]) ∧
    ∀ scanned, tokens policy source = .ok scanned →
      ∃ read, scanned = read ++ [.endOfInput] ∧
        tokens policy (parenthesized 1 source) =
          .ok (.openParen :: read ++ [.closeParen] ++ [.endOfInput]) ∧
        (Grammar.closing? 0 (read ++ [.closeParen]) = some read.length →
          program policy (parenthesized 1 source) = .ok [tree] →
            tree.isExpression = true ∧ program policy source = .ok [tree]) := by
  constructor
  · intro accepted expression count
    obtain ⟨ended, -⟩ := program_accepts_iff.mp accepted
    have scanned := tokens_eq_ok_iff.mpr ⟨ended, rfl⟩
    have form := (program_singleton_iff scanned).mp accepted
    have wrapped := (form.derives expression).inParentheses count
    exact (program_singleton_iff (tokens_parenthesized scanned count)).mpr (.expression wrapped)
  · intro scanned found
    obtain ⟨read, rfl⟩ := exists_read found
    have wrapped : tokens policy (parenthesized 1 source) =
        .ok (.openParen :: read ++ [.closeParen] ++ [.endOfInput]) := tokens_parenthesized found 1
    refine ⟨read, rfl, wrapped, fun closed accepted => ?_⟩
    have form := (program_singleton_iff wrapped).mp accepted
    obtain ⟨value, derivation⟩ := form.derives_of_closing closed
    -- The tokens in parentheses have no other reading than the group.
    have group : program policy (parenthesized 1 source) = .ok [value] :=
      (program_singleton_iff wrapped).mpr (.expression (.plain (.single derivation.group)))
    obtain rfl : tree = value := by simpa using accepted.symm.trans group
    exact ⟨derivation.isExpression, (program_singleton_iff found).mpr (.expression derivation)⟩

-- A difference of two groups may stand in any number of parentheses. Where the outer two
-- parentheses are no pair, what stands between them is no program.
theorem program_parenthesized_groups :
    (∀ count, program .skip (parenthesized count "(x) - (y) $ # z") =
      .ok [.binary (.identifier "x") .minus (.identifier "y")]) ∧
    program .reject (parenthesized 1 "(x) - (y) # z") =
      .ok [.binary (.identifier "x") .minus (.identifier "y")] ∧
    program .reject "(x) - (y) # z" = .ok [.binary (.identifier "x") .minus (.identifier "y")] ∧
    program .reject (parenthesized 1 "x) - (y") =
      .ok [.binary (.identifier "x") .minus (.identifier "y")] ∧
    tokens .reject "x) - (y" = .ok [.identifier "x", .closeParen, .operator .minus, .openParen,
      .identifier "y", .endOfInput] ∧
    Grammar.closing? 0 [.identifier "x", .closeParen, .operator .minus, .openParen, .identifier "y",
      .closeParen] = some 1 ∧
    program .reject "x) - (y" = .error (.unexpected .closeParen .factor ⟨1, 1, 2⟩) := by
  have wrapped : program .reject (parenthesized 1 "(x) - (y) # z") =
      .ok [.binary (.identifier "x") .minus (.identifier "y")] := by
    decide +kernel
  have found : tokens .reject "(x) - (y) # z" = .ok ([.openParen, .identifier "x", .closeParen,
      .operator .minus, .openParen, .identifier "y", .closeParen] ++ [.endOfInput]) := by
    decide +kernel
  obtain ⟨read, same, -, unwrapped⟩ := (program_parenthesized _ _ _).2 _ found
  obtain rfl := List.append_cancel_right same
  exact ⟨(program_parenthesized _ _ _).1 (by decide +kernel) rfl, wrapped,
    (unwrapped (by decide) wrapped).2, by decide +kernel, by decide +kernel, by decide,
    by decide +kernel⟩

end Source

end Kaleidoscope
