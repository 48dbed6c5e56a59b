import Kaleidoscope.Proofs.Lexeme.Shifted

/-! Texts in other names.

Names are only passed on, so a renamed text is read as the text itself is, whether or not different names
stay different.

Main statement: a renamed text has the same items in the new names, and the same trees in the new names or
the same error at the item with the same index.
-/

set_option autoImplicit false

namespace Kaleidoscope

variable {image : String → String}

namespace Item

theorem position_rename (item : Item) : (item.rename image).position = item.position := by
  cases item with
  | ok lexeme => exact lexeme.position_rename image
  | error => rfl

theorem content_relocate (move : Position → Position) (item : Item) :
    (item.relocate move).content = item.content := by
  cases item with
  | ok => rfl
  | error error => cases error <;> rfl

theorem position_relocate (place : Position) (item : Item) :
    (item.relocate fun _ => place).position = place := by
  cases item with
  | ok => rfl
  | error error => cases error <;> rfl

variable {before items others : List Item}

theorem Renamed.contents (renamed : Renamed image before items others) :
    (items.map (rename image)).map content = others.map content := by
  apply List.ext_getElem?
  intro index
  simp only [List.getElem?_map]
  cases found : items[index]? with
  | none =>
    have outside : others.length ≤ index := renamed.length ▸ List.getElem?_eq_none_iff.mp found
    rw [List.getElem?_eq_none outside]
    rfl
  | some item =>
    obtain ⟨place, other, -⟩ := renamed.each index item found
    rw [other, Option.map_some, Option.map_some, Option.map_some, content_relocate]

theorem Renamed.line_eq (renamed : Renamed image before items others) {index : Nat}
    {position place : Position} (found : items[index]?.map Item.position = some position)
    (other : others[index]?.map Item.position = some place) : place.line = position.line := by
  obtain ⟨item, stands, rfl⟩ := Option.map_eq_some_iff.mp found
  obtain ⟨place', other', moves⟩ := renamed.each index item stands
  rw [other', Option.map_some, position_relocate] at other
  rw [← Option.some.inj other, moves.line]

end Item

theorem Alike.of_positions {α : Type} {items items' others : List Item}
    {judged judged' : Except ParseError α} (alike : Alike items others judged judged')
    (same : items.map Item.position = items'.map Item.position) :
    Alike items' others judged judged' := by
  cases judged with
  | ok => cases judged' <;> exact alike
  | error error =>
    cases judged' with
    | ok => exact alike
    | error error' =>
      obtain ⟨unplaced, index, found, found'⟩ := alike
      rw [← List.getElem?_map, same, List.getElem?_map] at found
      exact ⟨unplaced, index, found, found'⟩

namespace Source

/-- The text with the image of each name in its place, as far as the items are read. -/
def renamed (image : String → String) (policy : Policy) (source : String) : String :=
  String.ofList ((Cursor.start source).renamed image policy)

variable {policy : Policy} {source source' : String}

theorem exists_cut_renamed (images : ∀ name, IsName name → IsName (image name)) (policy : Policy)
    (source : String) : ∃ cut : Cut, cut.text = source.toList ∧ cut.Lawful policy ∧
      Cut.text ⟨cut.segments.map (Segment.rename image), cut.rest⟩ =
        (renamed image policy source).toList := by
  obtain ⟨cut, text, fits⟩ := Cut.exists_lawful policy source.toList
  refine ⟨cut, text, fits, ?_⟩
  rw [renamed, String.toList_ofList, Cursor.start, ← text]
  exact (Cut.Fits.renamed_eq images fits .start).symm

theorem items_renamed (images : ∀ name, IsName name → IsName (image name)) (policy : Policy)
    (source : String) :
    Item.Renamed image [] (items policy source) (items policy (renamed image policy source)) := by
  obtain ⟨cut, text, fits, text'⟩ := exists_cut_renamed images policy source
  have fits' : Cut.Lawful policy ⟨cut.segments.map (Segment.rename image), cut.rest⟩ :=
    Cut.Fits.rename images fits
  have drifts : Position.Drifts image [] .start .start := ⟨⟨rfl, rfl, rfl⟩, by simp⟩
  rw [← Cut.items_eq text fits, ← Cut.items_eq text' fits']
  exact Cut.Fits.itemsFrom_rename images fits drifts

theorem judge_of_renamed {State Result : Type} (machine : Machine State Result)
    (rename : State → State) {result : Result → Result}
    (follows : ∀ state token, machine.shift (rename state) (token.rename image) =
      (machine.shift state token).map rename)
    (stops : ∀ state lookahead, machine.stop (rename state) lookahead =
      (machine.stop state lookahead).map result)
    {state : State} (fixed : rename state = state)
    (same : Item.Renamed image [] (items policy source) (items policy source')) :
    Alike (items policy source) (items policy source')
      ((machine.judge (last policy source) state (lexemes policy source)).map result)
      (machine.judge (last policy source') state (lexemes policy source')) := by
  have items' : (items policy source).map (Item.rename image) =
      ((lexemes policy source).map (Lexeme.rename image)).map .ok ++
        [(last policy source).rename image] := by
    simp [items_eq, Item.rename, Function.comp_def]
  -- The renamed items need not be in their places: the machine does not look at these.
  have contents := same.contents
  rw [items', items_eq policy source'] at contents
  have alike := machine.judge_alike state contents
  rw [← items', ← items_eq] at alike
  rw [← machine.judge_rename image follows stops, fixed]
  refine alike.of_positions ?_
  rw [List.map_map]
  exact List.map_congr_left fun item _ => item.position_rename

/-- Reading commutes with renaming, for a renaming that may well give different names the same image. The
items stand where the growth of those in front of them leaves them. An error stays the same at the item with
the same index, so on the same line. -/
theorem parse_renamed (images : ∀ name, IsName name → IsName (image name)) (policy : Policy)
    (source : String) :
    Item.Renamed image [] (items policy source) (items policy (renamed image policy source)) ∧
    Alike (items policy source) (items policy (renamed image policy source))
      ((program policy source).map (List.map (Node.rename image)))
      (program policy (renamed image policy source)) ∧
    Alike (items policy source) (items policy (renamed image policy source))
      ((definition policy source).map (Node.rename image))
      (definition policy (renamed image policy source)) ∧
    ∀ error error', program policy source = .error error ∧
        program policy (renamed image policy source) = .error error' ∨
      definition policy source = .error error ∧
        definition policy (renamed image policy source) = .error error' →
      error'.position.line = error.position.line := by
  have same := items_renamed images policy source
  have programs := judge_of_renamed Program.machine (Program.State.rename image)
    (Program.shift_rename image) (Program.stop_rename image)
    (rfl : Program.start.rename image = Program.start) same
  have definitions := judge_of_renamed (Form.machine.behind .define (by simp) (.head .define .start))
    (Option.map (Form.State.rename image))
    (Machine.shift_behind_rename image (Form.shift_rename image) rfl)
    (Machine.stop_behind_rename fun state _ => Form.stop_rename image state)
    (rfl : Option.map (Form.State.rename image) none = none) same
  rw [← program_eq, ← program_eq] at programs
  rw [← definition_eq, ← definition_eq] at definitions
  refine ⟨same, programs, definitions, ?_⟩
  rintro error error' (⟨refused, refused'⟩ | ⟨refused, refused'⟩)
  · rw [refused, refused'] at programs
    obtain ⟨-, index, found, found'⟩ := programs
    exact same.line_eq found found'
  · rw [refused, refused'] at definitions
    obtain ⟨-, index, found, found'⟩ := definitions
    exact same.line_eq found found'

-- One longer name for all: what follows a name without a gap still follows it, and the error moves
-- by the one name that has grown in front of it on its line.
theorem parse_renamed_alike :
    renamed (fun _ => "été") .reject "def a(x) 1x +\n x.5 )" = "def été(été) 1été +\n été.5 )" ∧
    program .reject "def a(x) 1x +\n x.5 )" = .error (.unexpected .closeParen .factor ⟨19, 2, 6⟩) ∧
    program .reject "def été(été) 1été +\n été.5 )" =
      .error (.unexpected .closeParen .factor ⟨35, 2, 8⟩) ∧
    definition .reject "def a(x) 1x +\n x.5 )" =
      .ok (.definition ⟨"a", ["x"]⟩ (.number (.ofQuotient 1 1))) ∧
    definition .reject "def été(été) 1été +\n été.5 )" =
      .ok (.definition ⟨"été", ["été"]⟩ (.number (.ofQuotient 1 1))) ∧
    Item.Renamed (fun _ => "été") [] (items .reject "def a(x) 1x +\n x.5 )")
      (items .reject "def été(été) 1été +\n été.5 )") := by
  have image : renamed (fun _ => "été") .reject "def a(x) 1x +\n x.5 )" =
      "def été(été) 1été +\n été.5 )" := by decide +kernel
  have named : IsName "été" := by decide +kernel
  have same := (parse_renamed (fun _ _ => named) .reject "def a(x) 1x +\n x.5 )").1
  rw [image] at same
  exact ⟨image, by decide +kernel, by decide +kernel, by decide +kernel, by decide +kernel, same⟩

end Source

end Kaleidoscope
