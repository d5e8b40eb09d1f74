import ClassUsage.Text.Basic
import ClassUsage.Text.WordChar

set_option autoImplicit false

/-! No blank is a word character: the tables of the two have no code point in common. -/
namespace ClassUsage

def blankRanges : List CodeRange :=
  [(9, 13), (28, 32), (0x85, 0x85), (0xA0, 0xA0), (0x1680, 0x1680), (0x2000, 0x200A),
    (0x2028, 0x2029), (0x202F, 0x202F), (0x205F, 0x205F), (0x3000, 0x3000)]

def asciiWordRanges : List CodeRange := [(48, 57), (65, 90), (95, 95), (97, 122)]

theorem isBlank_eq_cover (c : Char) : isBlank c = CodeRange.cover blankRanges c := by
  apply Bool.eq_iff_iff.mpr
  simp only [isBlank, CodeRange.cover, CodeRange.holds, blankRanges, List.any_cons, List.any_nil,
    Bool.or_eq_true, Bool.and_eq_true, decide_eq_true_eq, beq_iff_eq, Bool.false_eq_true, or_false]
  omega

theorem cover_of_isAsciiWordChar {c : Char} (word : isAsciiWordChar c = true) :
    CodeRange.cover asciiWordRanges c = true := by
  simp only [isAsciiWordChar, Char.le_def, UInt32.le_iff_toNat_le, Bool.or_eq_true,
    Bool.and_eq_true, decide_eq_true_eq, beq_iff_eq] at word
  simp only [asciiWordRanges, CodeRange.cover_eq_true_iff, List.mem_cons, List.not_mem_nil, or_false,
    exists_eq_or_imp, exists_eq_left, Char.toNat]
  rcases word with ((lower | upper) | digit) | rfl
  · exact Or.inr (Or.inr (Or.inr lower))
  · exact Or.inr (Or.inl upper)
  · exact Or.inl digit
  · decide

def CodeRange.apart (first second : List CodeRange) : Bool :=
  first.all fun range => second.all fun other => range.2 < other.1 || other.2 < range.1

theorem CodeRange.cover_eq_false {first second : List CodeRange} (separate : apart first second = true)
    {c : Char} (covered : cover first c = true) : cover second c = false := by
  obtain ⟨range, inFirst, lower, upper⟩ := (cover_eq_true_iff first c).mp covered
  cases other : cover second c with
  | false => rfl
  | true =>
    obtain ⟨meets, inSecond, below, above⟩ := (cover_eq_true_iff second c).mp other
    have disjoint := List.all_eq_true.mp (List.all_eq_true.mp separate range inFirst) meets inSecond
    simp only [Bool.or_eq_true, decide_eq_true_eq] at disjoint
    omega

theorem wordChars_apart : CodeRange.apart wordCharRanges blankRanges = true := by
  decide +kernel

theorem isBlank_of_isAsciiWordChar {c : Char} (word : isAsciiWordChar c = true) :
    isBlank c = false := by
  rw [isBlank_eq_cover]
  exact CodeRange.cover_eq_false (by decide) (cover_of_isAsciiWordChar word)

theorem isBlank_of_isWordChar {c : Char} (word : isWordChar c = true) : isBlank c = false := by
  unfold isWordChar at word
  split at word
  · exact isBlank_of_isAsciiWordChar word
  · rw [isBlank_eq_cover]
    exact CodeRange.cover_eq_false wordChars_apart word

end ClassUsage
