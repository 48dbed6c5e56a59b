import Kaleidoscope.Lexeme.Reading

/-! Everything that stands in a text.

A scan goes on behind what is no lexeme, so it holds every item up to the end of the text. Behind
them the end of the text stands once and for all.
-/

set_option autoImplicit false

namespace Kaleidoscope

structure Scan where
  items : List Item
  ending : Position
  deriving Repr

namespace Scan

def next (scan : Scan) : Item × Scan :=
  match scan.items with
  | [] => (.ok (.ending scan.ending), scan)
  | item :: rest => (item, ⟨rest, scan.ending⟩)

/-- The lexemes with the end of the text, or the lexemes with the first error behind them. -/
def untilError (scan : Scan) : List Item :=
  scan.items.takeWhile Except.isOk ++
    [(scan.items.find? (!Except.isOk ·)).getD (.ok (.ending scan.ending))]

end Scan

def Cursor.scan (policy : Policy) (cursor : Cursor) : Scan :=
  match _found : (cursor.skipGap policy).read? with
  | none => ⟨[], (cursor.skipGap policy).position⟩
  | some (item, next) =>
      let scan := next.scan policy
      ⟨item :: scan.items, scan.ending⟩
termination_by cursor.rest.length
decreasing_by
  exact Nat.lt_of_lt_of_le (Cursor.read?_length_lt _found) (Cursor.skipGap_length_le policy cursor)

theorem Cursor.scan_of_read? {policy : Policy} {cursor next : Cursor} {item : Item}
    (found : (cursor.skipGap policy).read? = some (item, next)) :
    cursor.scan policy = ⟨item :: (next.scan policy).items, (next.scan policy).ending⟩ := by
  rw [Cursor.scan]
  split
  · next missing => simp [missing] at found
  · next other rest present =>
    obtain ⟨rfl, rfl⟩ : other = item ∧ rest = next := by simpa [found, eq_comm] using present
    rfl

theorem Cursor.scan_of_read?_none {policy : Policy} {cursor : Cursor}
    (missing : (cursor.skipGap policy).read? = none) :
    cursor.scan policy = ⟨[], (cursor.skipGap policy).position⟩ := by
  rw [Cursor.scan]
  split
  · rfl
  · next present => simp [missing] at present

end Kaleidoscope
