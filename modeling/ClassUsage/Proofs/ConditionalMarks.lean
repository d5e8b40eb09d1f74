import ClassUsage.Proofs.BranchPairing
import ClassUsage.Proofs.ExpressionProvenance
import Mathlib.Data.List.Induction
import Mathlib.Order.Bounds.Basic

set_option autoImplicit false

/-!
The question mark and the colon of a conditional expression by their places in the text. The question
mark is the first at the top level that belongs to a conditional expression, and the colon is the first
one with as many such question marks as colons before it.
-/
namespace ClassUsage

/-- The result of a search for the first offset that is wanted, not before a start. -/
def IsFirstFrom (wanted : Nat → Bool) (start : Nat) : Option Nat → Prop
  | none => ∀ offset, start ≤ offset → wanted offset = false
  | some found =>
    start ≤ found ∧ wanted found = true ∧
      ∀ offset, start ≤ offset → offset < found → wanted offset = false

namespace IsFirstFrom

variable {wanted : Nat → Bool} {start : Nat} {result : Option Nat}

theorem here (found : wanted start = true) : IsFirstFrom wanted start (some start) := by
  refine ⟨Nat.le_refl start, found, ?_⟩
  intro offset after before
  omega

/-- A search may begin further on, if nothing that is passed over is wanted. -/
theorem passing {next : Nat} (forward : start ≤ next)
    (unwanted : ∀ offset, start ≤ offset → offset < next → wanted offset = false)
    (behind : IsFirstFrom wanted next result) : IsFirstFrom wanted start result := by
  cases result with
  | none =>
    intro offset after
    rcases Nat.lt_or_ge offset next with passed | beyond
    · exact unwanted offset after passed
    · exact behind offset beyond
  | some found =>
    obtain ⟨inside, isWanted, first⟩ := behind
    refine ⟨Nat.le_trans forward inside, isWanted, ?_⟩
    intro offset after before
    rcases Nat.lt_or_ge offset next with passed | beyond
    · exact unwanted offset after passed
    · exact first offset beyond before

theorem later (unwanted : wanted start = false) (behind : IsFirstFrom wanted (start + 1) result) :
    IsFirstFrom wanted start result := by
  refine passing (Nat.le_succ start) ?_ behind
  intro offset after before
  obtain rfl : offset = start := by omega
  exact unwanted

theorem eq_none_iff (search : IsFirstFrom wanted 0 result) :
    result = none ↔ ∀ offset, wanted offset = false := by
  cases result with
  | none => exact iff_of_true rfl fun offset => search offset (Nat.zero_le offset)
  | some found =>
    refine iff_of_false (by simp) fun unwanted => ?_
    have isWanted := search.2.1
    rw [unwanted found] at isWanted
    cases isWanted

theorem eq_some_iff (search : IsFirstFrom wanted 0 result) {found : Nat} :
    result = some found ↔ IsLeast {offset | wanted offset = true} found := by
  have least : ∀ place, IsFirstFrom wanted 0 (some place) →
      IsLeast {offset | wanted offset = true} place := by
    rintro place ⟨-, isWanted, first⟩
    refine ⟨isWanted, ?_⟩
    intro offset alsoWanted
    apply Nat.le_of_not_lt
    intro before
    have unwanted := first offset (Nat.zero_le offset) before
    rw [show wanted offset = true from alsoWanted] at unwanted
    cases unwanted
  cases result with
  | none =>
    refine iff_of_false (by simp) fun isLeast => ?_
    have unwanted := search found (Nat.zero_le found)
    rw [show wanted found = true from isLeast.1] at unwanted
    cases unwanted
  | some place =>
    rw [Option.some_inj]
    constructor
    · rintro rfl
      exact least place search
    · exact (least place search).unique

theorem unique {other : Option Nat} (search : IsFirstFrom wanted start result)
    (again : IsFirstFrom wanted start other) : result = other := by
  cases result with
  | none =>
    cases other with
    | none => rfl
    | some place =>
      have unwanted := search place again.1
      rw [again.2.1] at unwanted
      cases unwanted
  | some found =>
    cases other with
    | none =>
      have unwanted := again found search.1
      rw [search.2.1] at unwanted
      cases unwanted
    | some place =>
      obtain ⟨after, isWanted, first⟩ := search
      obtain ⟨alsoAfter, alsoWanted, alsoFirst⟩ := again
      rcases Nat.lt_trichotomy found place with before | rfl | behind
      · rw [alsoFirst found after before] at isWanted
        cases isWanted
      · rfl
      · rw [first place alsoAfter behind] at alsoWanted
        cases alsoWanted

/-- A text cut at a mark is cut at the first place that is wanted. -/
theorem cut_iff {text : Text} {mark : Char} {parts : Option (Text × Text)}
    (search : IsFirstFrom wanted 0 (parts.map (·.1.length)))
    (cuts : ∀ {before after : Text}, parts = some (before, after) → text = before ++ mark :: after)
    {before after : Text} :
    parts = some (before, after) ↔
      text = before ++ mark :: after ∧ IsLeast {offset | wanted offset = true} before.length := by
  constructor
  · rintro rfl
    exact ⟨cuts rfl, search.eq_some_iff.mp rfl⟩
  · rintro ⟨whole, least⟩
    obtain ⟨⟨front, behind⟩, found, same⟩ := Option.map_eq_some_iff.mp (search.eq_some_iff.mpr least)
    obtain ⟨rfl, rest⟩ := List.append_inj ((cuts found).symm.trans whole) same
    rw [found, (List.cons.inj rest).2]

end IsFirstFrom

theorem isConditionalQuestion_iff {previous : Option Char} {next : Text} :
    isConditionalQuestion previous next = true ↔
      ¬ previous = some '?' ∧ next.head? ≠ some '?' ∧
        (next.head? = some '.' → next.tail.head?.any isDigitChar = true) := by
  cases next with
  | nil => simp [isConditionalQuestion]
  | cons d others =>
    rw [isConditionalQuestion_cons]
    by_cases doubled : previous = some '?' ∨ d = '?'
    · rw [if_pos doubled]
      rcases doubled with rfl | rfl <;> simp
    · rw [if_neg doubled]
      by_cases point : d = '.'
      · subst point
        simpa using fun _ same => doubled (Or.inl same)
      · simpa [point] using doubled

namespace Text

/-- Behind its character at an offset, the scan of a text is at the top level. -/
def neutralAt (text : Text) (offset : Nat) : Bool :=
  (Scan.fresh.run (text.take (offset + 1))).isNeutral

/-- A question mark that is not doubled, nor followed by a point without a digit behind it. -/
def asksAt (text : Text) (offset : Nat) : Bool :=
  text[offset]? = some '?' ∧ ¬ (0 < offset ∧ text[offset - 1]? = some '?') ∧
    text[offset + 1]? ≠ some '?' ∧
    (text[offset + 1]? = some '.' → text[offset + 2]?.any isDigitChar = true)

def questionAt (text : Text) (offset : Nat) : Bool := text.neutralAt offset && text.asksAt offset

def markAt (text : Text) (mark : Char) (offset : Nat) : Bool :=
  text.neutralAt offset && text[offset]? == some mark

theorem markAt_colon_of_questionAt {text : Text} {offset : Nat} (question : text.questionAt offset = true) :
    text.markAt ':' offset = false := by
  simp only [questionAt, asksAt, Bool.and_eq_true, decide_eq_true_eq] at question
  rw [markAt, question.2.1]
  exact Bool.and_false _

theorem questionAt_eq (text : Text) (offset : Nat) :
    text.questionAt offset = (text.markAt '?' offset && text.asksAt offset) := by
  by_cases question : text[offset]? = some '?'
  · simp [questionAt, markAt, question]
  · simp [questionAt, markAt, asksAt, question]

theorem markAt_outside (text : Text) (mark : Char) (offset : Nat) (outside : text.length ≤ offset) :
    text.markAt mark offset = false := by
  rw [markAt, List.getElem?_eq_none outside]
  exact Bool.and_false _

theorem questionAt_outside (text : Text) (offset : Nat) (outside : text.length ≤ offset) :
    text.questionAt offset = false := by
  rw [questionAt, asksAt, List.getElem?_eq_none outside]
  simp

/-- A colon that belongs to no question mark before it. -/
def closingColonAt (text : Text) (offset : Nat) : Bool :=
  text.markAt ':' offset &&
    (List.range offset).countP text.questionAt == (List.range offset).countP (text.markAt ':')

section

variable {text front rest : Text} {c : Char}

theorem getElem?_behind (whole : text = front ++ rest) (offset : Nat) :
    text[front.length + offset]? = rest[offset]? := by
  rw [whole, List.getElem?_append_right (Nat.le_add_right _ _), Nat.add_sub_cancel_left]

theorem neutralAt_behind (whole : text = front ++ c :: rest) :
    text.neutralAt front.length = ((Scan.fresh.run front).step c).isNeutral := by
  have taken : text.take (front.length + 1) = front ++ [c] := by
    rw [whole, List.take_length_add_append]
    rfl
  rw [neutralAt, taken, Scan.run_append]
  rfl

theorem asksAt_behind (whole : text = front ++ c :: rest) :
    text.asksAt front.length = startsConditional front.getLast? (c :: rest) := by
  have before : (0 < front.length ∧ text[front.length - 1]? = some '?') ↔
      front.getLast? = some '?' := by
    cases front using List.reverseRecOn with
    | nil => simp
    | append_singleton front last =>
      have there : text[(front ++ [last]).length - 1]? = some last := by
        rw [whole]
        simp
      rw [there, List.getLast?_concat]
      simp
  have here : text[front.length]? = some c := getElem?_behind whole 0
  have next : text[front.length + 1]? = rest.head? := by
    rw [getElem?_behind whole 1]
    cases rest <;> rfl
  have afterNext : text[front.length + 2]? = rest.tail.head? := by
    rw [getElem?_behind whole 2]
    cases rest with
    | nil => rfl
    | cons d others => cases others <;> rfl
  rw [Bool.eq_iff_iff, asksAt, decide_eq_true_iff, before, here, next, afterNext, startsConditional,
    Bool.and_eq_true, isConditionalQuestion_iff, beq_iff_eq, Option.some_inj]

theorem questionAt_behind (whole : text = front ++ c :: rest) :
    text.questionAt front.length =
      (((Scan.fresh.run front).step c).isNeutral && startsConditional front.getLast? (c :: rest)) := by
  rw [questionAt, neutralAt_behind whole, asksAt_behind whole]

theorem markAt_behind (whole : text = front ++ c :: rest) (mark : Char) :
    text.markAt mark front.length = (((Scan.fresh.run front).step c).isNeutral && c == mark) := by
  have here : text[front.length]? = some c := getElem?_behind whole 0
  rw [markAt, neutralAt_behind whole, here]
  rfl

end
end Text

/-- A search of the top level finds the first place that is wanted. -/
theorem Scan.findNeutral_isFirst {text : Text} (wanted : Nat → Option Char → Text → Bool)
    (marks : Nat → Bool)
    (inside : ∀ {front rest : Text} {c : Char}, text = front ++ c :: rest →
      marks front.length =
        (((fresh.run front).step c).isNeutral && wanted front.length front.getLast? (c :: rest)))
    (outside : ∀ offset, text.length ≤ offset → marks offset = false) {front rest : Text}
    (whole : text = front ++ rest) :
    IsFirstFrom marks front.length
      (((fresh.run front).findNeutral wanted front.length front.getLast? rest).map fun found =>
        front.length + found.1.length) := by
  induction rest generalizing front with
  | nil =>
    intro offset after
    apply outside
    rwa [whole, List.append_nil]
  | cons c rest ih =>
    have further := @ih (front ++ [c]) (by rw [whole, List.append_assoc]; rfl)
    rw [run_append, List.getLast?_concat, List.length_append, List.length_singleton, run_cons,
      run_nil] at further
    rw [findNeutral, ← inside whole]
    split
    · rename_i here
      exact IsFirstFrom.here here
    · rename_i unwanted
      rw [Bool.not_eq_true] at unwanted
      refine IsFirstFrom.later unwanted ?_
      rw [Option.map_map]
      convert further using 3
      simp only [Function.comp_apply, List.length_cons]
      omega

theorem countP_range_succ (holds : Nat → Bool) (offset : Nat) :
    (List.range (offset + 1)).countP holds =
      (List.range offset).countP holds + if holds offset then 1 else 0 := by
  rw [List.range_succ, List.countP_append, List.countP_singleton]

/-- While the search for the colon goes on, as many question marks are pending as there are more
question marks than colons so far. -/
theorem Scan.splitColon_isFirst {text front rest : Text} (whole : text = front ++ rest) {pending : Nat}
    (counted : pending + (List.range front.length).countP (text.markAt ':') =
      (List.range front.length).countP text.questionAt) :
    IsFirstFrom text.closingColonAt front.length
      (((fresh.run front).splitColon pending front.getLast? rest).map fun found =>
        front.length + found.1.length) := by
  induction rest generalizing front pending with
  | nil =>
    intro offset after
    have outside : text.length ≤ offset := by rwa [whole, List.append_nil]
    rw [Text.closingColonAt, text.markAt_outside ':' offset outside, Bool.false_and]
  | cons c rest ih =>
    have questions := countP_range_succ text.questionAt front.length
    have colons := countP_range_succ (text.markAt ':') front.length
    have further : ∀ {still : Nat},
        still + (List.range (front.length + 1)).countP (text.markAt ':') =
          (List.range (front.length + 1)).countP text.questionAt →
        text.closingColonAt front.length = false →
        IsFirstFrom text.closingColonAt front.length
          (((((fresh.run front).step c).splitColon still (some c) rest).map fun found =>
            (c :: found.1, found.2)).map fun found => front.length + found.1.length) := by
      intro still balanced unwanted
      have behind := @ih (front ++ [c]) (by rw [whole, List.append_assoc]; rfl) still
        (by rw [List.length_append]; exact balanced)
      rw [run_append, List.getLast?_concat, List.length_append, List.length_singleton, run_cons,
        run_nil] at behind
      refine IsFirstFrom.later unwanted ?_
      rw [Option.map_map]
      convert behind using 3
      simp only [Function.comp_apply, List.length_cons]
      omega
    rw [splitColon_cons, ← Text.questionAt_behind whole, ← Text.markAt_behind whole ':']
    split
    · rename_i question
      have noColon := Text.markAt_colon_of_questionAt question
      rw [if_pos question] at questions
      rw [noColon, if_neg Bool.false_ne_true] at colons
      exact further (by omega) (by rw [Text.closingColonAt, noColon, Bool.false_and])
    · rename_i noQuestion
      rw [if_neg noQuestion] at questions
      split
      · rename_i colon
        rw [if_pos colon] at colons
        cases pending with
        | zero =>
          refine IsFirstFrom.here ?_
          rw [Text.closingColonAt, colon, Bool.true_and, beq_iff_eq]
          omega
        | succ pending =>
          refine further (by omega) ?_
          rw [Text.closingColonAt, colon, Bool.true_and, beq_eq_false_iff_ne]
          omega
      · rename_i noColon
        rw [if_neg noColon] at colons
        rw [Bool.not_eq_true] at noColon
        exact further (by omega) (by rw [Text.closingColonAt, noColon, Bool.false_and])

theorem splitQuestion_isFirst (text : Text) :
    IsFirstFrom text.questionAt 0 ((splitQuestion text).map (·.1.length)) := by
  have search := Scan.findNeutral_isFirst (fun _ => startsConditional) text.questionAt
    Text.questionAt_behind text.questionAt_outside (List.nil_append text).symm
  simpa [splitQuestion_eq, Function.comp_def] using search

theorem eq_of_splitQuestion {text before after : Text}
    (found : splitQuestion text = some (before, after)) : text = before ++ '?' :: after :=
  (splitQuestion_sound found).1

theorem splitBranches_isFirst (text : Text) :
    IsFirstFrom text.closingColonAt 0 ((splitBranches text).map (·.1.length)) := by
  have search := Scan.splitColon_isFirst (List.nil_append text).symm (show 0 + _ = _ from rfl)
  simpa [splitBranches] using search

/-- An operator of one character is found where it stands first, not before the start. -/
theorem findOperator_isFirst (mark : Char) (start : Nat) (text : Text) :
    IsFirstFrom (fun offset => start ≤ offset && text.markAt mark offset) 0
      ((findOperator [mark] start text).map (·.offset)) := by
  have search := Scan.findNeutral_isFirst (fun offset _ rest => start ≤ offset && [mark].isPrefixOf rest)
    (fun offset => start ≤ offset && text.markAt mark offset) ?_ ?_ (List.nil_append text).symm
  · simpa [findOperator, Function.comp_def] using search
  · intro front rest c whole
    have same : [mark].isPrefixOf (c :: rest) = (c == mark) := by
      rw [List.isPrefixOf_cons_cons, List.isPrefixOf_nil_left, Bool.and_true, Bool.beq_comm]
    rw [Text.markAt_behind whole, same, Bool.and_left_comm]
  · intro offset outside
    rw [text.markAt_outside mark offset outside, Bool.and_false]

theorem offset_of_findOperator {mark : Char} {start : Nat} {text : Text} {found : Occurrence}
    (search : findOperator [mark] start text = some found) :
    start ≤ found.offset ∧ found.offset < text.length := by
  have first := findOperator_isFirst mark start text
  rw [search] at first
  obtain ⟨-, here, -⟩ := first
  rw [Bool.and_eq_true, decide_eq_true_iff] at here
  refine ⟨here.1, Nat.lt_of_not_le fun outside => ?_⟩
  rw [text.markAt_outside mark _ outside] at here
  cases here.2

/-- The question mark of a conditional expression, looked for among all question marks: behind one of
another kind the search begins again. -/
def searchQuestion (text : Text) (start : Nat) : Option Nat :=
  match _found : findOperator ['?'] start text with
  | none => none
  | some found =>
    if text.asksAt found.offset then some found.offset
    else searchQuestion text (found.offset + 1)
termination_by text.length - start
decreasing_by
  have := offset_of_findOperator _found
  omega

theorem searchQuestion_isFirst (text : Text) (start : Nat) :
    IsFirstFrom text.questionAt start (searchQuestion text start) := by
  -- between the start and the question mark that is found stands no other one
  have unasked : ∀ {origin offset : Nat}, origin ≤ offset →
      (decide (origin ≤ offset) && text.markAt '?' offset) = false → text.questionAt offset = false := by
    intro origin offset after unmarked
    rw [decide_eq_true after, Bool.true_and] at unmarked
    rw [Text.questionAt_eq, unmarked, Bool.false_and]
  fun_induction searchQuestion text start with
  | case1 start nothing =>
    have first := findOperator_isFirst '?' start text
    rw [nothing] at first
    exact fun offset after => unasked after (first offset (Nat.zero_le offset))
  | case2 start found search asks =>
    have first := findOperator_isFirst '?' start text
    rw [search] at first
    obtain ⟨-, here, before⟩ := first
    rw [Bool.and_eq_true, decide_eq_true_iff] at here
    refine ⟨here.1, by rw [Text.questionAt_eq, here.2, asks]; rfl, ?_⟩
    exact fun offset after inFront => unasked after (before offset (Nat.zero_le offset) inFront)
  | case3 start found search other ih =>
    have first := findOperator_isFirst '?' start text
    rw [search] at first
    obtain ⟨-, here, before⟩ := first
    rw [Bool.and_eq_true, decide_eq_true_iff] at here
    refine IsFirstFrom.passing (Nat.le_succ_of_le here.1) ?_ ih
    intro offset after inFront
    rcases Nat.lt_succ_iff_lt_or_eq.mp inFront with passed | rfl
    · exact unasked after (before offset (Nat.zero_le offset) passed)
    · rw [Bool.not_eq_true] at other
      rw [Text.questionAt_eq, other, Bool.and_false]

/-- The marks of a conditional expression by their places. The question mark is the first one at the
top level that belongs to a conditional expression, and is found just as well by beginning again behind
each question mark of another kind. The colon is the first one at the top level that has as many such
question marks as colons before it. -/
theorem conditional_marks_match (text : Text) :
    ((∀ before after, splitQuestion text = some (before, after) ↔
        text = before ++ '?' :: after ∧
          IsLeast {offset | text.questionAt offset = true} before.length) ∧
      (splitQuestion text = none ↔ ∀ offset, text.questionAt offset = false) ∧
      (splitQuestion text).map (·.1.length) = searchQuestion text 0) ∧
    (∀ before after, splitBranches text = some (before, after) ↔
        text = before ++ ':' :: after ∧
          IsLeast {offset | text.closingColonAt offset = true} before.length) ∧
      (splitBranches text = none ↔ ∀ offset, text.closingColonAt offset = false) := by
  have question := splitQuestion_isFirst text
  have colon := splitBranches_isFirst text
  refine ⟨⟨?_, ?_, ?_⟩, ?_, ?_⟩
  · intro before after
    exact question.cut_iff eq_of_splitQuestion
  · rw [← question.eq_none_iff, Option.map_eq_none_iff]
  · exact question.unique (searchQuestion_isFirst text 0)
  · intro before after
    exact colon.cut_iff fun found => (Scan.splitColon_sound found).1
  · rw [← colon.eq_none_iff, Option.map_eq_none_iff]

end ClassUsage
