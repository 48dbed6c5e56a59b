/-! Sets of code points written as ascending ranges.

Main statement: two tables without a common range have no common member.
-/

set_option autoImplicit false

namespace Kaleidoscope.Unicode

/-- Both ends of each range belong to it; ranges ascend, so that a search may end early. -/
abbrev Ranges := List (Nat × Nat)

def Ranges.contains : Ranges → Nat → Bool
  | [], _ => false
  | (first, last) :: rest, code =>
      if code < first then false else code ≤ last || Ranges.contains rest code

theorem Ranges.exists_of_contains {ranges : Ranges} {code : Nat}
    (member : ranges.contains code = true) :
    ∃ range ∈ ranges, range.1 ≤ code ∧ code ≤ range.2 := by
  induction ranges with
  | nil => simp [contains] at member
  | cons range rest ih =>
    by_cases below : code < range.1
    · simp [contains, below] at member
    · by_cases within : code ≤ range.2
      · exact ⟨range, by simp, by omega, within⟩
      · obtain ⟨found, mem, bounds⟩ := ih (by simpa [contains, below, within] using member)
        exact ⟨found, by simp [mem], bounds⟩

def Ranges.apart (left right : Ranges) : Bool :=
  left.all fun one => right.all fun other => one.2 < other.1 || other.2 < one.1

theorem Ranges.contains_eq_false_of_apart {left right : Ranges} {code : Nat}
    (separate : left.apart right = true) (member : left.contains code = true) :
    right.contains code = false := by
  cases other : right.contains code with
  | false => rfl
  | true =>
    obtain ⟨one, oneMem, oneBounds⟩ := exists_of_contains member
    obtain ⟨two, twoMem, twoBounds⟩ := exists_of_contains other
    simp only [apart, List.all_eq_true, Bool.or_eq_true, decide_eq_true_eq] at separate
    have := separate one oneMem two twoMem
    omega

end Kaleidoscope.Unicode
