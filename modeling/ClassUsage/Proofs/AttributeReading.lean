import ClassUsage.Attribute.Bound
import ClassUsage.Attribute.Jsx
import ClassUsage.Attribute.Plain
import ClassUsage.Proofs.Trimming

set_option autoImplicit false

/-!
What each step of reading an attribute takes off a text. A step that succeeds names the part it has
taken, and it takes the same part whatever stands behind it.
-/
namespace ClassUsage
namespace Text

def IsEquals (gap : Text) : Prop :=
  ∃ before after, IsBlanks before ∧ IsBlanks after ∧ gap = before ++ '=' :: after

/-- No blank comes first. -/
def StartsSolid (text : Text) : Prop := ∀ c ∈ text.head?, isBlank c = false

def IsClassName (name : Text) : Prop := name = "className".toList ∨ name = "class".toList

def IsMark (mark : Char) : Prop := mark = '\x22' ∨ mark = '\x27'

theorem startsSolid_cons {c : Char} (solid : isBlank c = false) (rest : Text) :
    StartsSolid (c :: rest) := by
  intro d head
  cases head
  exact solid

theorem after?_append (start rest : Text) : (start ++ rest).after? start = some rest := by
  induction start with
  | nil => cases rest <;> rfl
  | cons c start ih => simpa only [List.cons_append, after?, ↓reduceIte] using ih

theorem after?_eq_some_iff {text start rest : Text} :
    text.after? start = some rest ↔ text = start ++ rest := by
  constructor
  · exact eq_of_after
  · rintro rfl
    exact after?_append start rest

theorem after?_eq_none_of_ne {c d : Char} (different : c ≠ d) (start rest others : Text) :
    (start ++ c :: rest).after? (start ++ d :: others) = none := by
  induction start with
  | nil => simp only [List.nil_append, after?, different, ↓reduceIte]
  | cons e start ih => simpa only [List.cons_append, after?, ↓reduceIte] using ih

theorem afterEquals?_eq_some_iff {text rest : Text} :
    text.afterEquals? = some rest ↔ ∃ gap, IsEquals gap ∧ text = gap ++ rest ∧ StartsSolid rest := by
  constructor
  · intro found
    unfold afterEquals? at found
    split at found
    · rename_i behind begins
      cases found
      obtain ⟨before, front, decomposed⟩ := exists_trimStart text
      obtain ⟨after, back, remaining⟩ := exists_trimStart behind
      refine ⟨before ++ '=' :: after, ⟨before, after, front, back, rfl⟩, ?_, head_trimStart behind⟩
      rw [decomposed, begins]
      calc
        before ++ '=' :: behind = before ++ '=' :: (after ++ trimStart behind) := by rw [← remaining]
        _ = before ++ '=' :: after ++ trimStart behind := by
          rw [List.append_assoc, List.cons_append]
    · cases found
  · rintro ⟨gap, ⟨before, after, front, back, rfl⟩, rfl, solid⟩
    have skipped : trimStart (before ++ '=' :: after ++ rest) = '=' :: (after ++ rest) := by
      rw [List.append_assoc, trimStart_append_of_isBlanks front, List.cons_append,
        trimStart_of_head (startsSolid_cons (by decide) _)]
    unfold afterEquals?
    rw [skipped]
    change some (trimStart (after ++ rest)) = some rest
    rw [trimStart_append_of_isBlanks back, trimStart_of_head solid]

theorem afterEquals?_append {gap : Text} (equals : IsEquals gap) {c : Char} (solid : isBlank c = false)
    (rest : Text) : afterEquals? (gap ++ c :: rest) = some (c :: rest) :=
  afterEquals?_eq_some_iff.mpr ⟨gap, equals, rfl, startsSolid_cons solid rest⟩

theorem afterMark?_eq_some_iff {text rest : Text} {mark : Char} :
    text.afterMark? = some (mark, rest) ↔ IsMark mark ∧ text = mark :: rest := by
  cases text with
  | nil =>
    simp only [afterMark?, reduceCtorEq, and_false]
  | cons c others =>
    simp only [afterMark?, IsMark, List.cons.injEq]
    constructor
    · intro found
      split at found
      · rename_i isMark
        cases found
        exact ⟨isMark, rfl, rfl⟩
      · cases found
    · rintro ⟨isMark, rfl, rfl⟩
      rw [if_pos isMark]

theorem afterBlanksAnd?_eq_some_iff {c : Char} (solid : isBlank c = false) {text rest : Text} :
    text.afterBlanksAnd? c = some rest ↔ ∃ blanks, IsBlanks blanks ∧ text = blanks ++ c :: rest := by
  constructor
  · intro found
    obtain ⟨blanks, are, decomposed⟩ := exists_trimStart text
    refine ⟨blanks, are, ?_⟩
    unfold afterBlanksAnd? at found
    split at found
    · cases found
    · rename_i d behind begins
      split at found
      · rename_i equal
        cases found
        rw [decomposed, begins, equal]
      · cases found
  · rintro ⟨blanks, are, rfl⟩
    unfold afterBlanksAnd?
    rw [trimStart_append_of_isBlanks are, trimStart_of_head (startsSolid_cons solid rest)]
    simp only [↓reduceIte]

theorem className?_eq_some {text name rest : Text} (found : text.className? = some (name, rest)) :
    IsClassName name ∧ text = name ++ rest := by
  unfold className? at found
  split at found
  · rename_i behind read
    cases found
    exact ⟨Or.inl rfl, eq_of_after read⟩
  · obtain ⟨behind, read, equal⟩ := Option.map_eq_some_iff.mp found
    cases equal
    exact ⟨Or.inr rfl, eq_of_after read⟩

theorem IsEquals.head {gap : Text} (equals : IsEquals gap) :
    ∃ c rest, gap = c :: rest ∧ (c = '=' ∨ isBlank c = true) := by
  obtain ⟨before, after, front, -, rfl⟩ := equals
  cases before with
  | nil => exact ⟨'=', after, rfl, Or.inl rfl⟩
  | cons c blanks => exact ⟨c, blanks ++ '=' :: after, rfl, Or.inr ((isBlanks_cons c blanks).mp front).1⟩

/-- An equals sign behind a text keeps it from being read as a part of a longer one. -/
theorem after?_eq_none_of_equals {gap : Text} (equals : IsEquals gap) {letter : Char}
    (notEquals : letter ≠ '=') (solid : isBlank letter = false) (start rest others : Text) :
    (start ++ (gap ++ rest)).after? (start ++ letter :: others) = none := by
  obtain ⟨c, behind, rfl, first⟩ := equals.head
  apply after?_eq_none_of_ne
  rintro rfl
  rcases first with equal | blank
  · exact notEquals equal
  · rw [blank] at solid
    cases solid

theorem className?_of_equals {name gap : Text} (known : IsClassName name) (equals : IsEquals gap)
    (rest : Text) : className? (name ++ (gap ++ rest)) = some (name, gap ++ rest) := by
  rcases known with rfl | rfl
  · unfold className?
    rw [after?_append]
  · have absent : after? ("class".toList ++ (gap ++ rest)) "className".toList = none :=
      after?_eq_none_of_equals equals (by decide) (by decide) "class".toList rest "ame".toList
    unfold className?
    rw [absent]
    dsimp only
    rw [after?_append]
    rfl

end Text

namespace Scan

/-- The bracket that closes the one being read comes right behind the text. -/
def ClosesAfter (closing : Bracket) (scan : Scan) (inner : Text) : Prop :=
  ∀ rest, scan.balanced closing (inner ++ closing.closer :: rest) = some (inner, rest)

/-- What stands behind the closing bracket has no influence on where it is found. -/
theorem balanced_eq_some_iff {closing : Bracket} {scan : Scan} {text inner rest : Text} :
    scan.balanced closing text = some (inner, rest) ↔
      scan.ClosesAfter closing inner ∧ text = inner ++ closing.closer :: rest := by
  constructor
  · intro found
    refine ⟨?_, eq_of_balanced found⟩
    induction text generalizing scan inner with
    | nil => cases found
    | cons c behind ih =>
      intro other
      simp only [balanced] at found
      split at found
      · rename_i closes
        cases found
        have isCloser : c = closing.closer := by
          simp only [Bool.and_eq_true, beq_iff_eq] at closes
          exact closes.2
        rw [isCloser] at closes
        simp only [List.nil_append, balanced, closes, ↓reduceIte]
      · rename_i stays
        obtain ⟨⟨inside, beyond⟩, later, equal⟩ := Option.map_eq_some_iff.mp found
        cases equal
        simp only [List.cons_append, balanced, stays, Bool.false_eq_true, ↓reduceIte]
        rw [ih later other]
        rfl
  · rintro ⟨closes, rfl⟩
    exact closes rest

end Scan

/-- The mark comes right behind the text, and no mark in the text ends it. -/
def MarkEndsAfter (mark : Char) (escaped : Bool) (value : Text) : Prop :=
  ∀ rest, splitAtMark mark escaped (value ++ mark :: rest) = some (value, rest)

/-- Where neither the mark nor a backslash stands in a text, only its end can end it. -/
theorem markEndsAfter_of_forall {mark : Char} (notEscape : mark ≠ '\\') {value : Text}
    (plain : ∀ c ∈ value, c ≠ mark ∧ c ≠ '\\') : MarkEndsAfter mark false value := by
  intro rest
  induction value with
  | nil => simp [splitAtMark, notEscape]
  | cons c behind ih =>
    obtain ⟨notMark, noEscape⟩ := plain c List.mem_cons_self
    have later := ih fun d member => plain d (List.mem_cons_of_mem c member)
    simp [splitAtMark, notMark, noEscape, later]

theorem splitAtMark_eq_some_iff {mark : Char} {escaped : Bool} {text value rest : Text} :
    splitAtMark mark escaped text = some (value, rest) ↔
      MarkEndsAfter mark escaped value ∧ text = value ++ mark :: rest := by
  constructor
  · intro found
    induction text generalizing escaped value with
    | nil => cases found
    | cons c behind ih =>
      -- the three ways to go on behind `c` differ in the state they leave, not in what they return
      have later : ∀ next, (∀ tail, splitAtMark mark escaped (c :: tail) =
            (splitAtMark mark next tail).map fun read => (c :: read.1, read.2)) →
          MarkEndsAfter mark escaped value ∧ c :: behind = value ++ mark :: rest := by
        intro next passes
        rw [passes] at found
        obtain ⟨⟨inside, beyond⟩, read, equal⟩ := Option.map_eq_some_iff.mp found
        cases equal
        obtain ⟨ends, rfl⟩ := ih read
        refine ⟨?_, rfl⟩
        intro other
        rw [List.cons_append, passes, ends other]
        rfl
      by_cases skipped : escaped = true
      · exact later false fun tail => by rw [splitAtMark, if_pos skipped]
      · by_cases slash : c = '\\'
        · exact later true fun tail => by rw [splitAtMark, if_neg skipped, if_pos slash]
        · by_cases isMark : c = mark
          · rw [splitAtMark, if_neg skipped, if_neg slash, if_pos isMark] at found
            cases found
            refine ⟨?_, by rw [isMark]; rfl⟩
            intro other
            rw [isMark] at slash
            rw [List.nil_append, splitAtMark, if_neg skipped, if_neg slash, if_pos rfl]
          · exact later false fun tail => by
              rw [splitAtMark, if_neg skipped, if_neg slash, if_neg isMark]
  · rintro ⟨ends, rfl⟩
    exact ends rest

end ClassUsage
