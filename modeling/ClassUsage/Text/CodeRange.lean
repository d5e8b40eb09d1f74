set_option autoImplicit false

/-!
Sets of characters given by ranges of code points, as the tables of character properties are.
-/
namespace ClassUsage

/-- The code points from the first number to the second, both included. -/
abbrev CodeRange := Nat × Nat

namespace CodeRange

def holds (range : CodeRange) (code : Nat) : Bool :=
  range.1 ≤ code && code ≤ range.2

def cover (ranges : List CodeRange) (c : Char) : Bool :=
  ranges.any (·.holds c.toNat)

theorem cover_eq_true_iff (ranges : List CodeRange) (c : Char) :
    cover ranges c = true ↔ ∃ range ∈ ranges, range.1 ≤ c.toNat ∧ c.toNat ≤ range.2 := by
  simp [cover, holds]

end CodeRange
end ClassUsage
