import ClassUsage.Expression.Condition
import ClassUsage.Proofs.TopLevelSearch

set_option autoImplicit false

/-!
Phrases: the texts of operands and of expressions put together from them with operators. A phrase is
complete in itself, and how loosely it binds says which operators can stand at its top level.
-/
namespace ClassUsage

inductive Operator where
  | and
  | or
  | nullish
deriving DecidableEq, Repr

/-- How loosely the outermost part of an expression binds. -/
inductive Binding where
  | tight
  | comparison
  | operator (op : Operator)
  | conditional
deriving DecidableEq, Repr

namespace Operator

def token : Operator → Text
  | and => andToken
  | or => orToken
  | nullish => nullishToken

/-- The character that the token of an operator doubles. -/
def letter : Operator → Char
  | and => '&'
  | or => '|'
  | nullish => '?'

/-- Whether an operand that binds like this may stand beside the operator without brackets. Only
`||` takes operands of another operator, and that is `&&`. -/
def admits (outer : Operator) : Binding → Bool
  | .tight => true
  | .comparison => true
  | .operator inner => inner == outer || (outer == or && inner == and)
  | .conditional => false

def spaced (op : Operator) : Text := ' ' :: op.token ++ [' ']

def joined (op : Operator) (left right : Text) : Text := left ++ op.spaced ++ right

end Operator

/-- Whether the operator can stand at the top level of a text that binds like this. -/
def Binding.shows : Binding → Operator → Bool
  | tight, _ => false
  | comparison, _ => false
  | operator inner, op => inner.admits (.operator op)
  | conditional, _ => true

/-- A character that means nothing to a search of the top level. -/
def IsInert (c : Char) : Prop := Text.IsOrdinary c ∧ c ≠ '&' ∧ c ≠ '|' ∧ c ≠ '?' ∧ c ≠ ':'

instance (c : Char) : Decidable (IsInert c) :=
  inferInstanceAs (Decidable (_ ∧ _ ∧ _ ∧ _ ∧ _))

/-- A text that is complete in itself and holds only operators that bind as loosely as it does. -/
structure Phrase (binding : Binding) (text : Text) : Prop where
  clean : text.IsClean
  tidy : text.IsTidy
  ends : text.getLast? ≠ some '?'
  hides : ∀ op, binding.shows op = false → ∀ previous,
    Scan.fresh.Passes (beginsWith op.token) previous text
  unconditional : binding ≠ .conditional → ∀ previous, previous ≠ some '?' →
    Scan.fresh.Passes startsConditional previous text
  branches : ∀ previous, previous ≠ some '?' → Scan.fresh.PassesBranches previous text
  round : text.head? ≠ some '(' ∨
    ∃ inner rest, Text.IsSelfContained inner ∧ text = Condition.bracketed inner ++ rest

theorem beginsWith_token {op : Operator} {c : Char} (different : c ≠ op.letter)
    (before : Option Char) (behind : Text) : beginsWith op.token before (c :: behind) = false := by
  have unequal : (op.letter == c) = false := beq_eq_false_iff_ne.mpr different.symm
  have begins : op.token = [op.letter, op.letter] := by cases op <;> rfl
  rw [beginsWith, begins, List.isPrefixOf, unequal, Bool.false_and]

theorem startsConditional_of_ne {c : Char} (notQuestion : c ≠ '?') (before : Option Char)
    (behind : Text) : startsConditional before (c :: behind) = false := by
  simp only [startsConditional, beq_eq_false_iff_ne.mpr notQuestion, Bool.false_and]

theorem beginsWithColon_of_ne {c : Char} (notColon : c ≠ ':') (before : Option Char) (behind : Text) :
    beginsWithColon before (c :: behind) = false := by
  simp [beginsWithColon, notColon]

theorem IsInert.ne_letter {c : Char} (inert : IsInert c) (op : Operator) : c ≠ op.letter := by
  obtain ⟨-, notAnd, notOr, notQuestion, -⟩ := inert
  cases op with
  | and => exact notAnd
  | or => exact notOr
  | nullish => exact notQuestion

section

variable {piece : Text} (inert : ∀ c ∈ piece, IsInert c) (scan : Scan) (previous : Option Char)

include inert

theorem passes_token_of_inert (op : Operator) : scan.Passes (beginsWith op.token) previous piece := by
  apply Scan.passes_of_forall
  intro c member
  exact beginsWith_token ((inert c member).ne_letter op)

theorem passes_question_of_inert : scan.Passes startsConditional previous piece := by
  apply Scan.passes_of_forall
  intro c member
  exact startsConditional_of_ne (inert c member).2.2.2.1

theorem passesBranches_of_inert : scan.PassesBranches previous piece := by
  apply Scan.passesBranches_of_passes (passes_question_of_inert inert scan previous)
  apply Scan.passes_of_forall
  intro c member
  exact beginsWithColon_of_ne (inert c member).2.2.2.2

end

theorem Operator.ordinary_spaced (op : Operator) : ∀ c ∈ op.spaced, Text.IsOrdinary c := by
  apply Text.forall_mem_of_all
  cases op <;> decide

theorem Operator.passes_spaced {op other : Operator} (different : op ≠ other) (scan : Scan)
    (previous : Option Char) : scan.Passes (beginsWith other.token) previous op.spaced := by
  have letters : ∀ c ∈ op.spaced, c ≠ other.letter := by
    apply Text.forall_mem_of_all
    revert different
    cases op <;> cases other <;> decide
  apply Scan.passes_of_forall
  intro c member
  exact beginsWith_token (letters c member)

/-- A doubled question mark is not that of a conditional expression. -/
theorem Operator.passes_question_spaced (op : Operator) (scan : Scan) (previous : Option Char) :
    scan.Passes startsConditional previous op.spaced := by
  cases op with
  | and => exact ⟨fun _ _ => rfl, fun _ _ => rfl, fun _ _ => rfl, fun _ _ => rfl, trivial⟩
  | or => exact ⟨fun _ _ => rfl, fun _ _ => rfl, fun _ _ => rfl, fun _ _ => rfl, trivial⟩
  | nullish => exact ⟨fun _ _ => rfl, fun _ _ => rfl, fun _ _ => rfl, fun _ _ => rfl, trivial⟩

theorem Operator.passesBranches_spaced (op : Operator) (scan : Scan) (previous : Option Char) :
    scan.PassesBranches previous op.spaced := by
  have noColon : ∀ c ∈ op.spaced, c ≠ ':' := by
    apply Text.forall_mem_of_all
    cases op <;> decide
  apply Scan.passesBranches_of_passes (op.passes_question_spaced scan previous)
  apply Scan.passes_of_forall
  intro c member
  exact beginsWithColon_of_ne (noColon c member)

namespace Phrase

theorem getLast?_spaced (op : Operator) : op.spaced.getLast? = some ' ' := by
  cases op <;> rfl

theorem hides_of_admits {op other : Operator} {binding : Binding} (admits : op.admits binding = true)
    (hidden : (Binding.operator op).shows other = false) : binding.shows other = false := by
  cases binding with
  | tight => rfl
  | comparison => rfl
  | conditional => cases admits
  | operator inner => revert admits hidden; cases op <;> cases other <;> cases inner <;> decide

/-- Two phrases with an operator that admits them make a phrase. -/
theorem joined {first second : Binding} {left right : Text} (front : Phrase first left)
    (back : Phrase second right) {op : Operator} (admitsFirst : op.admits first = true)
    (admitsSecond : op.admits second = true) :
    Phrase (.operator op) (op.joined left right) := by
  have middle : Text.IsClean op.spaced := Text.isClean_of_forall op.ordinary_spaced
  have closed : Scan.fresh.run (left ++ op.spaced) = Scan.fresh := (front.clean.append middle).closed
  have behind : ∀ previous : Option Char, (left ++ op.spaced).getLast?.or previous ≠ some '?' := by
    intro previous
    rw [List.getLast?_append, getLast?_spaced]
    simp only [Option.some_or, ne_eq, Option.some.injEq]
    decide
  constructor
  case clean => exact (front.clean.append middle).append back.clean
  case tidy => exact front.tidy.surround back.tidy op.spaced
  case ends =>
    rw [Operator.joined, Text.getLast?_append_of_filled _ back.tidy.filled]
    exact back.ends
  case hides =>
    intro other hidden previous
    have different : op ≠ other := by
      rintro rfl
      revert hidden
      cases op <;> decide
    have inLeft := front.hides other (hides_of_admits admitsFirst hidden) previous
    have inRight := back.hides other (hides_of_admits admitsSecond hidden)
    apply (inLeft.append (Operator.passes_spaced different _ _)).append
    rw [closed]
    exact inRight _
  case unconditional =>
    intro _ previous fits
    have firstFits : first ≠ .conditional := by
      rintro rfl
      cases admitsFirst
    have secondFits : second ≠ .conditional := by
      rintro rfl
      cases admitsSecond
    apply ((front.unconditional firstFits previous fits).append (op.passes_question_spaced _ _)).append
    rw [closed]
    exact back.unconditional secondFits _ (behind previous)
  case branches =>
    intro previous fits
    apply ((front.branches previous fits).append (op.passesBranches_spaced _ _)).append
    rw [closed]
    exact back.branches _ (behind previous)
  case round =>
    rcases front.round with notRound | ⟨inner, rest, contained, opens⟩
    · left
      rw [Operator.joined, List.append_assoc, Text.head?_append_of_filled front.tidy.filled]
      exact notRound
    · right
      refine ⟨inner, rest ++ op.spaced ++ right, contained, ?_⟩
      rw [Operator.joined, opens]
      simp only [List.append_assoc]

/-- A text whose first and last character enclose all of it is a phrase, whatever stands inside. -/
theorem enclosed {first last : Char} {inner : Text}
    (clean : Text.IsClean (first :: inner ++ [last]))
    (opens : (Scan.fresh.step first).isNeutral = false)
    (hidden : ∀ scan ∈ (Scan.fresh.step first).trace inner, scan.isNeutral = false)
    (solid : isBlank first = false) (closes : isBlank last = false)
    (notLetter : ∀ op : Operator, last ≠ op.letter) (notColon : last ≠ ':')
    (round : first ≠ '(' ∨ last = ')' ∧ Text.IsSelfContained inner) :
    Phrase .tight (first :: inner ++ [last]) := by
  have passes : ∀ {wanted : Option Char → Text → Bool} {previous : Option Char},
      (∀ before behind, wanted before (last :: behind) = false) →
        Scan.fresh.Passes wanted previous (first :: inner ++ [last]) :=
    Scan.passes_enclosed opens hidden
  have notQuestion : last ≠ '?' := notLetter .nullish
  constructor
  case clean => exact clean
  case tidy =>
    refine ⟨List.cons_ne_nil _ _, Text.IsTrimmed.trim_eq ⟨?_, ?_⟩⟩
    · intro c head
      cases head
      exact solid
    · intro c ends
      rw [Text.getLast?_append_of_filled _ (List.cons_ne_nil last [])] at ends
      cases ends
      exact closes
  case ends =>
    rw [Text.getLast?_append_of_filled _ (List.cons_ne_nil last [])]
    exact fun ends => notQuestion (Option.some.inj ends)
  case hides =>
    intro op _ previous
    exact passes (beginsWith_token (notLetter op))
  case unconditional =>
    intro _ previous _
    exact passes (startsConditional_of_ne notQuestion)
  case branches =>
    intro previous _
    apply Scan.passesBranches_of_passes
    · exact passes (startsConditional_of_ne notQuestion)
    · exact passes (beginsWithColon_of_ne notColon)
  case round =>
    rcases round with notRound | ⟨rfl, contained⟩
    · left
      exact fun head => notRound (Option.some.inj head)
    · by_cases isRound : first = '('
      · right
        refine ⟨inner, [], contained, ?_⟩
        rw [isRound, List.append_nil]
        rfl
      · left
        exact fun head => isRound (Option.some.inj head)

/-- Brackets make a phrase of any self-contained text. -/
theorem enclose (bracket : Bracket) {text : Text} (contained : text.IsSelfContained) :
    Phrase .tight (bracket.enclose text) := by
  apply enclosed (contained.bracketed bracket bracket)
  · cases bracket <;> decide
  · rw [Scan.step_fresh_opener]
    exact Scan.trace_opened contained
  · cases bracket <;> decide
  · cases bracket <;> decide
  · intro op
    cases bracket <;> cases op <;> decide
  · cases bracket <;> decide
  · cases bracket with
    | round => exact Or.inr ⟨rfl, contained⟩
    | square => exact Or.inl (by decide)
    | curly => exact Or.inl (by decide)

theorem ofBrackets {text : Text} (contained : text.IsSelfContained) :
    Phrase .tight (Condition.bracketed text) := enclose .round contained

theorem bracketed {binding : Binding} {text : Text} (phrase : Phrase binding text) :
    Phrase .tight (Condition.bracketed text) :=
  ofBrackets phrase.clean.isSelfContained

/-- Characters that mean nothing to a search may stand before and behind a phrase. -/
theorem surround {binding : Binding} {before text after : Text} (phrase : Phrase binding text)
    (inertBefore : ∀ c ∈ before, IsInert c) (inertAfter : ∀ c ∈ after, IsInert c)
    (tidy : Text.IsTidy (before ++ text ++ after)) : Phrase binding (before ++ text ++ after) := by
  have front : Text.IsClean before := Text.isClean_of_forall fun c member => (inertBefore c member).1
  have back : Text.IsClean after := Text.isClean_of_forall fun c member => (inertAfter c member).1
  have noQuestion : ∀ {piece : Text}, (∀ c ∈ piece, IsInert c) → piece.getLast? ≠ some '?' := by
    intro piece inert last
    exact (inert '?' (List.mem_of_getLast? last)).2.2.2.1 rfl
  have behindBefore : ∀ previous : Option Char, previous ≠ some '?' →
      before.getLast?.or previous ≠ some '?' := by
    intro previous fits
    cases last : before.getLast? with
    | none => exact fits
    | some c =>
      have notQuestion := noQuestion inertBefore
      rw [last] at notQuestion
      exact notQuestion
  have closed : Scan.fresh.run before = Scan.fresh := front.closed
  constructor
  case clean => exact (front.append phrase.clean).append back
  case tidy => exact tidy
  case ends =>
    by_cases empty : after = []
    · rw [empty, List.append_nil, Text.getLast?_append_of_filled _ phrase.tidy.filled]
      exact phrase.ends
    · rw [Text.getLast?_append_of_filled _ empty]
      exact noQuestion inertAfter
  case hides =>
    intro op hidden previous
    refine Scan.Passes.append ?_ (passes_token_of_inert inertAfter _ _ op)
    apply (passes_token_of_inert inertBefore _ _ op).append
    rw [closed]
    exact phrase.hides op hidden _
  case unconditional =>
    intro unconditional previous fits
    refine Scan.Passes.append ?_ (passes_question_of_inert inertAfter _ _)
    apply (passes_question_of_inert inertBefore _ _).append
    rw [closed]
    exact phrase.unconditional unconditional _ (behindBefore previous fits)
  case branches =>
    intro previous fits
    refine Scan.PassesBranches.append ?_ (passesBranches_of_inert inertAfter _ _)
    apply (passesBranches_of_inert inertBefore _ _).append
    rw [closed]
    exact phrase.branches _ (behindBefore previous fits)
  case round =>
    cases before with
    | cons c before =>
      left
      intro head
      have opener := (inertBefore c List.mem_cons_self).1.2.1
      rw [Option.some.inj head] at opener
      cases opener
    | nil =>
      rw [List.nil_append]
      rcases phrase.round with notRound | ⟨inner, rest, contained, opens⟩
      · left
        rw [Text.head?_append_of_filled phrase.tidy.filled]
        exact notRound
      · right
        exact ⟨inner, rest ++ after, contained, by rw [opens, List.append_assoc]⟩

theorem ofInert {text : Text} (filled : text ≠ [])
    (inert : ∀ c ∈ text, IsInert c ∧ isBlank c = false) : Phrase .tight text := by
  have all : ∀ c ∈ text, IsInert c := fun c member => (inert c member).1
  constructor
  case clean => exact Text.isClean_of_forall fun c member => (all c member).1
  case tidy => exact Text.isTidy_of_forall filled fun c member => (inert c member).2
  case ends =>
    intro last
    exact (all '?' (List.mem_of_getLast? last)).2.2.2.1 rfl
  case hides => exact fun op _ previous => passes_token_of_inert all _ previous op
  case unconditional => exact fun _ previous _ => passes_question_of_inert all _ previous
  case branches => exact fun previous _ => passesBranches_of_inert all _ previous
  case round =>
    left
    intro head
    have opener := (all '(' (List.mem_of_head? head)).1.2.1
    cases opener

/-- A phrase of one binding is one of another that shows no fewer operators. -/
theorem weaken {binding looser : Binding} {text : Text} (phrase : Phrase binding text)
    (unconditional : binding ≠ .conditional)
    (shows : ∀ op, looser.shows op = false → binding.shows op = false) : Phrase looser text :=
  { phrase with
    hides := fun op hidden => phrase.hides op (shows op hidden)
    unconditional := fun _ => phrase.unconditional unconditional }

theorem literal {mark : Char} {body : Text} (quote : isQuote mark = true)
    (plain : body.IsQuotable mark) : Phrase .tight (mark :: body ++ [mark]) := by
  have one : mark = '\x22' ∨ mark = '\x27' ∨ mark = '\x60' := by
    simpa only [isQuote, Bool.or_eq_true, beq_iff_eq, or_assoc] using quote
  apply enclosed (plain.isClean quote)
  · rw [Scan.step_fresh_quote quote]
    rfl
  · rw [Scan.step_fresh_quote quote]
    exact Scan.trace_quoting plain.holdsBareMark
  · rcases one with rfl | rfl | rfl <;> decide
  · rcases one with rfl | rfl | rfl <;> decide
  · intro op
    rcases one with rfl | rfl | rfl <;> cases op <;> decide
  · rcases one with rfl | rfl | rfl <;> decide
  · rcases one with rfl | rfl | rfl <;> exact Or.inl (by decide)

end Phrase

def chosen (condition yes no : Text) : Text :=
  condition ++ " ? ".toList ++ yes ++ " : ".toList ++ no

theorem splitColon_question (pending : Nat) (previous : Option Char) (rest : Text) :
    Scan.splitColon pending previous Scan.fresh (" ? ".toList ++ rest) =
      (Scan.splitColon (pending + 1) (some ' ') Scan.fresh rest).map fun found =>
        (" ? ".toList ++ found.1, found.2) := by
  have steps : Scan.splitColon pending previous Scan.fresh (" ? ".toList ++ rest) =
      (((Scan.splitColon (pending + 1) (some ' ') Scan.fresh rest).map fun found =>
        (' ' :: found.1, found.2)).map fun found => ('?' :: found.1, found.2)).map fun found =>
        (' ' :: found.1, found.2) := rfl
  rw [steps, Option.map_map, Option.map_map]
  rfl

theorem splitColon_colon (pending : Nat) (previous : Option Char) (rest : Text) :
    Scan.splitColon (pending + 1) previous Scan.fresh (" : ".toList ++ rest) =
      (Scan.splitColon pending (some ' ') Scan.fresh rest).map fun found =>
        (" : ".toList ++ found.1, found.2) := by
  have steps : Scan.splitColon (pending + 1) previous Scan.fresh (" : ".toList ++ rest) =
      (((Scan.splitColon pending (some ' ') Scan.fresh rest).map fun found =>
        (' ' :: found.1, found.2)).map fun found => (':' :: found.1, found.2)).map fun found =>
        (' ' :: found.1, found.2) := rfl
  rw [steps, Option.map_map, Option.map_map]
  rfl

/-- The question mark and the colon around the first branch belong to each other. -/
theorem Phrase.passesBranches_between {binding : Binding} {yes : Text} (phrase : Phrase binding yes)
    (previous : Option Char) :
    Scan.fresh.PassesBranches previous (" ? ".toList ++ yes ++ " : ".toList) := by
  intro pending rest
  have last : (" ? ".toList ++ yes ++ " : ".toList).getLast?.or previous = some ' ' := by
    rw [Text.getLast?_append_of_filled _ (by decide)]
    rfl
  have closed : Scan.fresh.run (" ? ".toList ++ yes ++ " : ".toList) = Scan.fresh := by
    rw [Scan.run_append, Scan.run_append]
    change (Scan.fresh.run yes).run " : ".toList = Scan.fresh
    rw [phrase.clean.closed]
    rfl
  rw [last, closed, List.append_assoc, List.append_assoc, splitColon_question,
    phrase.branches _ (by decide), phrase.clean.closed, splitColon_colon, Option.map_map,
    Option.map_map]
  simp only [Function.comp_def, List.append_assoc]

theorem Phrase.chosen {first second third : Binding} {condition yes no : Text}
    (test : Phrase first condition) (whenTrue : Phrase second yes) (whenFalse : Phrase third no) :
    Phrase .conditional (chosen condition yes no) := by
  have question : Text.IsClean " ? ".toList := Text.isClean_of_forall (Text.forall_mem_of_all (by decide))
  have colon : Text.IsClean " : ".toList := Text.isClean_of_forall (Text.forall_mem_of_all (by decide))
  have between := (question.append whenTrue.clean).append colon
  have shape : ClassUsage.chosen condition yes no =
      condition ++ (" ? ".toList ++ yes ++ " : ".toList) ++ no := by
    simp only [ClassUsage.chosen, List.append_assoc]
  rw [shape]
  constructor
  case clean => exact (test.clean.append between).append whenFalse.clean
  case tidy => exact test.tidy.surround whenFalse.tidy _
  case ends =>
    rw [Text.getLast?_append_of_filled _ whenFalse.tidy.filled]
    exact whenFalse.ends
  case hides =>
    intro op hidden
    cases hidden
  case unconditional => exact fun unconditional => absurd rfl unconditional
  case branches =>
    intro previous fits
    have front := test.branches previous fits
    apply Scan.PassesBranches.append
    · apply front.append
      rw [test.clean.closed]
      exact whenTrue.passesBranches_between _
    · rw [(test.clean.append between).closed]
      apply whenFalse.branches
      rw [Text.getLast?_append_of_filled _ (by simp), Text.getLast?_append_of_filled _ (by decide)]
      show some ' ' ≠ some '?'
      decide
  case round =>
    rcases test.round with notRound | ⟨inner, rest, contained, opens⟩
    · left
      rw [List.append_assoc, Text.head?_append_of_filled test.tidy.filled]
      exact notRound
    · right
      exact ⟨inner, _, contained, by rw [opens, List.append_assoc, List.append_assoc]⟩

end ClassUsage
