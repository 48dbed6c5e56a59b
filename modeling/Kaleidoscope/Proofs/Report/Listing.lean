import Kaleidoscope.Proofs.Lexeme.Joined
import Kaleidoscope.Proofs.ParseError.Message
import Kaleidoscope.Proofs.Source.Policies
import Kaleidoscope.Proofs.Transcript.Delivery
import Kaleidoscope.Report

/-! Listings of tokens in front of trees.

A listing and the trees behind it come from two scans of one source: the first one goes on to the end of
the text or to its first error, the second one no farther than the parser looks.

Main statements: a token is listed on one line; and a report with a listing fails with the first error of
the scan, or it is the listing with the report without one behind it.
-/

set_option autoImplicit false

namespace Kaleidoscope

open Text (OneLine)

theorem Text.oneLine_toString_int (value : Int) : OneLine (toString value) := by
  cases value with
  | ofNat value => exact oneLine_toString value
  | negSucc value => exact OneLine.append (by decide) (oneLine_toString (value + 1))

theorem Text.oneLine_quotedString (text : String) : OneLine (quotedString text) := by
  have escaped (char : Char) : '\n' ∉ escape '"' char := newline_notMem_escape (by decide) char
  simp [OneLine, quotedString, escaped]

namespace Digits

variable {number : Digits}

theorem newline_notMem_positional (plain : '\n' ∉ number.digits) : '\n' ∉ number.positional := by
  have front : '\n' ∉ number.digits.take number.point.toNat := mt List.mem_of_mem_take plain
  have behind : '\n' ∉ number.digits.drop number.point.toNat := mt List.mem_of_mem_drop plain
  unfold positional
  split
  · simp [zeros, plain]
  · split
    · simp [zeros, plain]
    · simp [front, behind]

theorem newline_notMem_scientific (plain : '\n' ∉ number.digits) : '\n' ∉ number.scientific := by
  have front : '\n' ∉ number.digits.take 1 := mt List.mem_of_mem_take plain
  have behind : '\n' ∉ number.digits.drop 1 := mt List.mem_of_mem_drop plain
  have exponent : '\n' ∉ (toString (number.point - 1)).toList := Text.oneLine_toString_int _
  have places : '\n' ∉ (if (number.digits.drop 1).isEmpty then [] else '.' :: number.digits.drop 1) := by
    split
    · exact List.not_mem_nil
    · exact List.not_mem_cons_of_ne_of_not_mem (by decide) behind
  simp only [scientific, List.mem_append, not_or]
  exact ⟨⟨⟨front, places⟩, by decide⟩, exponent⟩

theorem newline_notMem_full (plain : '\n' ∉ number.digits) : '\n' ∉ number.full := by
  have positional := newline_notMem_positional plain
  unfold full
  split
  · exact newline_notMem_scientific plain
  · split
    · simp [positional]
    · exact positional

end Digits

namespace Binary64

theorem oneLine_write {layout : Digits → List Char} {zero : List Char} (number : Binary64)
    (plain : '\n' ∉ zero) (digits : '\n' ∉ layout (.ofMagnitude number.magnitude)) :
    OneLine (number.write layout zero) := by
  have signed : '\n' ∉ (if number.negative then ['-'] else []) := by
    split <;> decide
  unfold write OneLine
  generalize (if number.negative then ['-'] else []) = sign at signed
  dsimp only
  split
  · decide
  · split
    · simp [signed]
    · split
      · simp [signed, plain]
      · simp [signed, digits]

theorem oneLine_fullText (value : Binary64) : OneLine value.fullText := by
  refine oneLine_write value (by decide) (Digits.newline_notMem_full ?_)
  exact Text.newline_notMem_toDigits (by decide) (by decide) _

end Binary64

theorem Outline.oneLine_tuple {head text : String} (front : OneLine head) (part : OneLine text) :
    OneLine (tuple head [.atom text]).oneLine := by
  unfold OneLine at front part ⊢
  simp [tuple, oneLine, oneLineParts, Bracket.opening, Bracket.closing, Bracket.gap, front, part]

theorem Token.Kind.oneLine_name (kind : Token.Kind) : OneLine kind.name := by
  cases kind <;> decide

theorem Token.oneLine_outline (token : Token) : OneLine token.outline.oneLine := by
  cases token with
  | identifier name => exact Outline.oneLine_tuple (Kind.oneLine_name _) (Text.oneLine_quotedString name)
  | number value => exact Outline.oneLine_tuple (Kind.oneLine_name _) value.oneLine_fullText
  | operator op => exact Outline.oneLine_tuple (Kind.oneLine_name _) (by cases op <;> decide)
  | endOfInput | define | declare | openParen | closeParen | comma | ifWord | thenWord | elseWord =>
    decide

namespace Source

variable {policy : Policy} {source : String} {error : LexicalError}

theorem last_of_program_lexical (failed : program policy source = .error (.lexical error)) :
    last policy source = .error error := by
  rw [program_eq] at failed
  exact Machine.last_of_judge_lexical failed

theorem last_of_definition_lexical (failed : definition policy source = .error (.lexical error)) :
    last policy source = .error error := by
  rw [definition_eq] at failed
  exact Machine.last_of_judge_lexical failed

end Source

namespace Report

theorem exists_line_tokenLine (lexeme : Lexeme) :
    ∃ line, tokenLine lexeme = line ++ "\n" ∧ OneLine line := by
  have place : OneLine (padded lexeme.position.text) := by
    have text : '\n' ∉ lexeme.position.text.toList := lexeme.position.oneLine_text
    simp [OneLine, padded, text]
  exact ⟨_, rfl, (place.append (by decide)).append lexeme.token.oneLine_outline⟩

theorem listing_append (source : String) (read : List Lexeme) (rest : List Item) :
    listing source (read.map .ok ++ rest) =
      (Transcript.ofWrites (read.map tokenLine)).andThen (listing source rest) := by
  induction read with
  | nil => rfl
  | cons lexeme read ih =>
    rw [List.map_cons, List.cons_append, listing, ih, ← Transcript.andThen_assoc]
    rfl

variable {options : Options} {source : String}

theorem ofResult_failed {α : Type} {write : α → List String} {result : Except ParseError α}
    {failure : Failure}
    (met : ∀ error, result = .error (.lexical error) → Source.last options.policy source = .error error)
    (failed : (ofResult source write result).ending = .error failure) :
    (ofResult source write result).writes = [] ∧
      ∃ error, failure = .refused error source ∧
        ∀ lexical, error = .lexical lexical →
          Source.last options.policy source = .error lexical := by
  cases result with
  | ok => exact nomatch failed
  | error error =>
    refine ⟨rfl, error, (Except.error.inj failed).symm, ?_⟩
    rintro lexical rfl
    exact met lexical rfl

theorem trees_failed {failure : Failure} (failed : (trees options source).ending = .error failure) :
    (trees options source).writes = [] ∧
      ∃ error, failure = .refused error source ∧
        ∀ lexical, error = .lexical lexical →
          Source.last options.policy source = .error lexical := by
  unfold trees at failed ⊢
  split at failed
  · next every =>
    rw [if_pos every]
    exact ofResult_failed (fun _ => Source.last_of_program_lexical) failed
  · next first =>
    rw [if_neg first]
    exact ofResult_failed (fun _ => Source.last_of_definition_lexical) failed

/-- The heading and a line for each lexeme. -/
def listed (lexemes : List Lexeme) : List String := "Tokens:\n" :: lexemes.map tokenLine

theorem ofSource_tokens {read : List Lexeme} {rest : List Item}
    (scanned : Source.items options.policy source = read.map .ok ++ rest) :
    ofSource { options with tokens := true } source =
      (Transcript.ofWrites (listed read)).andThen
        ((listing source rest).andThen (trees options source)) := by
  have report : ofSource { options with tokens := true } source =
      ((Transcript.ofWrites ["Tokens:\n"]).andThen
        (listing source (Source.items options.policy source))).andThen (trees options source) := rfl
  rw [report, scanned, listing_append, ← Transcript.andThen_assoc, Transcript.andThen_assoc]
  rfl

/-- With a listing the whole text is scanned first, so its first error is reported even where the parser would
not have come to it; without one in the scan, the listing changes nothing of what follows it. -/
theorem ofSource_listed (options : Options) (source : String) (read : List Lexeme) :
    (∀ error, Source.items options.policy source = read.map .ok ++ [.error error] →
      (ofSource { options with tokens := true } source).deliver none =
        (Text.encode (String.join (listed read)), .error (.refused (.lexical error) source))) ∧
    (∀ ending, Source.items options.policy source = read.map .ok ++ [.ok ending] →
      ending.token = .endOfInput ∧
      (ofSource { options with tokens := true } source).deliver none =
        (Text.encode (String.join (listed (read ++ [ending]))) ++
          ((ofSource { options with tokens := false } source).deliver none).1,
          ((ofSource { options with tokens := false } source).deliver none).2) ∧
      ∀ error shown, ((ofSource { options with tokens := false } source).deliver none).2 ≠
        .error (.refused (.lexical error) shown)) ∧
    (∀ failure, ((ofSource { options with tokens := false } source).deliver none).2 = .error failure →
      ((ofSource { options with tokens := false } source).deliver none).1 = []) ∧
    ∀ lexeme, ∃ line, tokenLine lexeme = line ++ "\n" ∧ OneLine line := by
  have plain : ofSource { options with tokens := false } source = trees options source := rfl
  rw [plain]
  refine ⟨?_, ?_, ?_, exists_line_tokenLine⟩
  · intro error scanned
    -- The listing ends with the error, and nothing is parsed behind it.
    have failed : (listing source [.error error]).andThen (trees options source) =
        .fail (.refused (.lexical error) source) := rfl
    rw [ofSource_tokens scanned, failed,
      Transcript.deliver_andThen_of_ok (Transcript.deliver_ofWrites _)]
    simp [Transcript.deliver_none, Transcript.bytes, Transcript.fail]
  · intro ending scanned
    -- The end of the text is listed, too, so nothing of the scan is left.
    have whole : Source.items options.policy source = (read ++ [ending]).map .ok ++ [] := by
      simp [scanned]
    rw [Source.items_eq] at scanned
    obtain ⟨-, ended⟩ := Item.append_inj scanned
    refine ⟨Lexeme.kind_eq_endOfInput_iff.mp (Source.kind_of_last _ ended), ?_, ?_⟩
    · have behind : (listing source []).andThen (trees options source) = trees options source := rfl
      rw [ofSource_tokens whole, behind,
        Transcript.deliver_andThen_of_ok (Transcript.deliver_ofWrites _)]
      rfl
    · intro error shown failed
      rw [Transcript.deliver_none] at failed
      obtain ⟨-, refused, same, lexical⟩ := trees_failed failed
      obtain ⟨rfl, -⟩ := Failure.refused.inj same
      have broken := lexical error rfl
      simp [ended] at broken
  · intro failure failed
    rw [Transcript.deliver_none] at failed ⊢
    simp [Transcript.bytes, (trees_failed failed).1]

-- The definition is reported alone, but not behind a listing; a definition that breaks off is
-- refused at the same place in either case.
theorem ofSource_listed_unread :
    (ofSource ⟨none, false, false, false, false⟩ "= f() 1 2$").deliver none =
      (Text.encode "FunctionDef(f, [], Number(1))\n", .ok ()) ∧
    (ofSource ⟨none, true, false, false, false⟩ "= f() 1 2$").deliver none =
      (Text.encode (String.join ["Tokens:\n", "   1:1  Def\n", "   1:3  Identifier(\"f\")\n",
          "   1:4  LParen\n", "   1:5  RParen\n", "   1:7  Number(1.0)\n", "   1:9  Number(2.0)\n"]),
        .error (.refused (.lexical (.unknownCharacter '$' ⟨9, 1, 10⟩)) "= f() 1 2$")) ∧
    (ofSource ⟨none, false, false, false, false⟩ "= f").deliver none =
      ([], .error (.refused (.unexpected .endOfInput (.kind .openParen) ⟨3, 1, 4⟩) "= f")) ∧
    (ofSource ⟨none, true, false, false, false⟩ "= f").deliver none =
      (Text.encode (String.join ["Tokens:\n", "   1:1  Def\n", "   1:3  Identifier(\"f\")\n",
          "   1:4  EndOfInput\n"]),
        .error (.refused (.unexpected .endOfInput (.kind .openParen) ⟨3, 1, 4⟩) "= f")) := by
  have unread : Source.items .reject "= f() 1 2$" =
      [⟨.define, "=", ⟨0, 1, 1⟩⟩, ⟨.identifier "f", "f", ⟨2, 1, 3⟩⟩, ⟨.openParen, "(", ⟨3, 1, 4⟩⟩,
        ⟨.closeParen, ")", ⟨4, 1, 5⟩⟩, ⟨.number (.ofQuotient 1 1), "1", ⟨6, 1, 7⟩⟩,
        ⟨.number (.ofQuotient 2 1), "2", ⟨8, 1, 9⟩⟩].map .ok ++
          [.error (.unknownCharacter '$' ⟨9, 1, 10⟩)] := by
    decide +kernel
  have scanned : Source.items .reject "= f" =
      [⟨.define, "=", ⟨0, 1, 1⟩⟩, ⟨.identifier "f", "f", ⟨2, 1, 3⟩⟩].map .ok ++
        [.ok (.ending ⟨3, 1, 4⟩)] := by
    decide +kernel
  have ends : ((ofSource ⟨none, false, false, false, false⟩ "= f").deliver none).2 =
      .error (.refused (.unexpected .endOfInput (.kind .openParen) ⟨3, 1, 4⟩) "= f") := by
    decide +kernel
  have failed := (ofSource_listed ⟨none, false, false, false, false⟩ _ _).1 _ unread
  obtain ⟨-, listed, nothing, -⟩ := ofSource_listed ⟨none, false, false, false, false⟩ "= f"
    [⟨.define, "=", ⟨0, 1, 1⟩⟩, ⟨.identifier "f", "f", ⟨2, 1, 3⟩⟩]
  obtain ⟨-, refused, -⟩ := listed _ scanned
  have plain : (ofSource ⟨none, false, false, false, false⟩ "= f").deliver none =
      ([], .error (.refused (.unexpected .endOfInput (.kind .openParen) ⟨3, 1, 4⟩) "= f")) :=
    Prod.ext (nothing _ ends) ends
  rw [plain, List.append_nil] at refused
  refine ⟨by decide +kernel, failed.trans ?_, plain, refused.trans ?_⟩
  · decide +kernel
  · decide +kernel

end Report

end Kaleidoscope
