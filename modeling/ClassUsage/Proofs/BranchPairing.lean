import ClassUsage.Proofs.PhraseReading

set_option autoImplicit false

/-!
Question marks and colons that pair up like brackets. A text in which they do can stand between the
question mark and the colon of a conditional expression, whatever else it holds.
-/
namespace ClassUsage

/-- What the search for the colon of a conditional expression counts. -/
inductive BranchMark where
  | question
  | colon
deriving DecidableEq, Repr

/-- The question marks of conditional expressions and the colons at the top level, in their order. -/
def Scan.branchMarks : Option Char → Scan → Text → List BranchMark
  | _, _, [] => []
  | previous, scan, c :: rest =>
    let scan := scan.step c
    let later := branchMarks (some c) scan rest
    if scan.isNeutral && startsConditional previous (c :: rest) then .question :: later
    else if scan.isNeutral && c == ':' then .colon :: later
    else later

namespace BranchMark

/-- Each colon belongs to a question mark in front of it, as a closing bracket to an opening one. -/
inductive Paired : List BranchMark → Prop
  | nil : Paired []
  | nest {inside behind : List BranchMark} (enclosed : Paired inside) (others : Paired behind) :
      Paired (.question :: (inside ++ .colon :: behind))

/-- The question marks that are open behind the marks, given those open before, unless one of the
colons has none to belong to. -/
def settle : Nat → List BranchMark → Option Nat
  | pending, [] => some pending
  | pending, .question :: marks => settle (pending + 1) marks
  | 0, .colon :: _ => none
  | pending + 1, .colon :: marks => settle pending marks

theorem settle_append (pending : Nat) (first second : List BranchMark) :
    settle pending (first ++ second) = (settle pending first).bind (settle · second) := by
  induction first generalizing pending with
  | nil => rfl
  | cons mark marks ih =>
    cases mark with
    | question => exact ih (pending + 1)
    | colon =>
      cases pending with
      | zero => rfl
      | succ pending => exact ih pending

/-- Marks that pair up leave as many question marks open as before. -/
theorem Paired.settle_eq {marks : List BranchMark} (paired : Paired marks) (pending : Nat) :
    settle pending marks = some pending := by
  induction paired generalizing pending with
  | nil => rfl
  | nest enclosed others first second =>
    rw [settle, settle_append, first (pending + 1), Option.bind_some, settle, second pending]

end BranchMark

/-- The question marks and colons at the top level of the text pair up like brackets. -/
def Text.PairsBranches (text : Text) : Prop :=
  BranchMark.Paired (Scan.fresh.branchMarks none text)

theorem isConditionalQuestion_cons (previous : Option Char) (d : Char) (next : Text) :
    isConditionalQuestion previous (d :: next) =
      if previous = some '?' ∨ d = '?' then false
      else if d = '.' then next.head?.any isDigitChar
      else true := by
  unfold isConditionalQuestion
  by_cases doubled : previous = some '?'
  · rw [if_pos doubled, if_pos (Or.inl doubled)]
  · by_cases question : d = '?'
    · subst question
      rw [if_neg doubled, if_pos (Or.inr rfl)]
      rfl
    · rw [if_neg doubled, if_neg (by simp only [doubled, question, or_self, not_false_eq_true])]
      by_cases point : d = '.'
      · subst point
        cases next with
        | nil => rfl
        | cons c rest => rfl
      · rw [if_neg point]
        split
        · exact absurd (List.cons.inj ‹_›).1 question
        · exact absurd (List.cons.inj ‹_›).1 point
        · exact absurd (List.cons.inj ‹_›).1 point
        · rfl

/-- A blank behind a text does not change what a question mark at its start belongs to. -/
theorem startsConditional_append_blank (previous : Option Char) (c : Char) (text rest : Text) :
    startsConditional previous (c :: (text ++ ' ' :: rest)) = startsConditional previous (c :: text) := by
  unfold startsConditional
  dsimp only
  congr 1
  cases text with
  | nil => rfl
  | cons d text =>
    rw [List.cons_append, isConditionalQuestion_cons, isConditionalQuestion_cons]
    cases text with
    | nil => rfl
    | cons e text => rfl

theorem startsConditional_blank (text : Text) :
    startsConditional (some ' ') text = startsConditional none text := by
  cases text with
  | nil => rfl
  | cons c rest => rfl

namespace Scan

theorem branchMarks_blank (scan : Scan) (text : Text) :
    scan.branchMarks (some ' ') text = scan.branchMarks none text := by
  cases text with
  | nil => rfl
  | cons c rest => rw [branchMarks, branchMarks, startsConditional_blank]

/-- The search for a colon counts the marks of a text in front of a blank. -/
theorem splitColon_append {pending left : Nat} {previous : Option Char} {scan : Scan} {text : Text}
    (settled : BranchMark.settle pending (scan.branchMarks previous text) = some left) (rest : Text) :
    splitColon pending previous scan (text ++ ' ' :: rest) =
      (splitColon left (text.getLast?.or previous) (scan.run text) (' ' :: rest)).map fun found =>
        (text ++ found.1, found.2) := by
  induction text generalizing pending previous scan with
  | nil =>
    cases settled
    simp only [List.nil_append, run_nil, List.getLast?_nil, Option.none_or]
    exact Option.map_id'.symm
  | cons c behind ih =>
    rw [branchMarks] at settled
    rw [List.cons_append, splitColon.eq_def, getLast?_or_cons, run_cons]
    dsimp only at settled ⊢
    rw [startsConditional_append_blank]
    split at settled
    · rename_i asks
      rw [if_pos asks, ih settled, Option.map_map]
      rfl
    · rename_i asks
      rw [if_neg asks]
      split at settled
      · rename_i colon
        rw [if_pos colon]
        cases pending with
        | zero => cases settled
        | succ pending =>
          dsimp only
          rw [ih settled, Option.map_map]
          rfl
      · rename_i colon
        rw [if_neg colon, ih settled, Option.map_map]
        rfl

theorem splitColon_blank (pending : Nat) (previous : Option Char) (scan : Scan) (rest : Text) :
    splitColon pending previous scan (' ' :: rest) =
      (splitColon pending (some ' ') (scan.step ' ') rest).map fun found =>
        (' ' :: found.1, found.2) := by
  rw [splitColon.eq_def]
  dsimp only
  rw [startsConditional_of_ne (by decide), Bool.and_false, if_neg (by decide),
    show (' ' == ':') = false from rfl, Bool.and_false, if_neg (by decide)]

end Scan

/-- A self-contained text can be a branch if its question marks and colons pair up. -/
theorem Text.IsSelfContained.isBranch {text : Text} (contained : text.IsSelfContained)
    (pairs : text.PairsBranches) : IsBranch text := by
  refine ⟨contained.append_ordinary (by decide), ?_⟩
  intro pending rest
  have settled : BranchMark.settle pending (Scan.fresh.branchMarks (some ' ') text) =
      some pending := by
    rw [Scan.branchMarks_blank]
    exact pairs.settle_eq pending
  have last : (text ++ [' ']).getLast?.or (some ' ') = some ' ' := by
    rw [List.getLast?_concat, Option.some_or]
  rw [List.append_assoc, List.singleton_append, Scan.splitColon_append settled,
    Scan.splitColon_blank, last, Scan.run_append, Scan.run_cons, Scan.run_nil, Option.map_map]
  simp only [Function.comp_def, List.append_assoc, List.singleton_append]

end ClassUsage
