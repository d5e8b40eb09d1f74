import ClassUsage.Expression.Ternary
import ClassUsage.Proofs.CleanScan

set_option autoImplicit false

/-!
Searching the top level of a text that is put together from parts: a part that does not hold what is
wanted is passed over, and the search goes on behind it.
-/
namespace ClassUsage

namespace Scan

/-- Nothing wanted stands at the top level of the text, whatever stands behind the text. -/
def Passes (wanted : Option Char → Text → Bool) : Scan → Option Char → Text → Prop
  | _, _, [] => True
  | scan, previous, c :: rest =>
    ((scan.step c).isNeutral = true → ∀ behind, wanted previous (c :: (rest ++ behind)) = false) ∧
      Passes wanted (scan.step c) (some c) rest

section

variable {wanted : Option Char → Text → Bool} {scan : Scan} {previous : Option Char}

theorem Passes.append {first second : Text} (front : scan.Passes wanted previous first)
    (back : (scan.run first).Passes wanted (first.getLast?.or previous) second) :
    scan.Passes wanted previous (first ++ second) := by
  induction first generalizing scan previous with
  | nil => exact back
  | cons c rest ih =>
    obtain ⟨here, later⟩ := front
    rw [getLast?_or_cons] at back
    refine ⟨?_, ih later back⟩
    intro neutral behind
    have regrouped : rest ++ second ++ behind = rest ++ (second ++ behind) := List.append_assoc ..
    have unwanted := here neutral (second ++ behind)
    rw [← regrouped] at unwanted
    exact unwanted

theorem passes_of_hidden {text : Text} (hidden : ∀ inner ∈ scan.trace text, inner.isNeutral = false) :
    scan.Passes wanted previous text := by
  induction text generalizing scan previous with
  | nil => trivial
  | cons c rest ih =>
    constructor
    · intro neutral
      rw [hidden (scan.step c) List.mem_cons_self] at neutral
      cases neutral
    · exact ih fun inner member => hidden inner (List.mem_cons_of_mem _ member)

theorem passes_of_forall {text : Text}
    (unwanted : ∀ c ∈ text, ∀ before behind, wanted before (c :: behind) = false) :
    scan.Passes wanted previous text := by
  induction text generalizing scan previous with
  | nil => trivial
  | cons c rest ih =>
    constructor
    · intro _ behind
      exact unwanted c List.mem_cons_self previous (rest ++ behind)
    · exact ih fun d member => unwanted d (List.mem_cons_of_mem c member)

/-- Of a text that its first and last character enclose, only the last is at the top level. -/
theorem passes_enclosed {first last : Char} {inner : Text} (opens : (scan.step first).isNeutral = false)
    (hidden : ∀ inside ∈ (scan.step first).trace inner, inside.isNeutral = false)
    (unwanted : ∀ before behind, wanted before (last :: behind) = false) :
    scan.Passes wanted previous (first :: inner ++ [last]) := by
  refine Passes.append ⟨?_, passes_of_hidden hidden⟩ ?_
  · intro neutral
    rw [opens] at neutral
    cases neutral
  · apply passes_of_forall
    intro c member
    rw [List.mem_singleton.mp member]
    exact unwanted

/-- The search goes on behind a text that does not hold what is wanted. -/
theorem findNeutral_append {text : Text} (passes : scan.Passes wanted previous text) (offset : Nat)
    (rest : Text) :
    findNeutral (fun _ => wanted) offset previous scan (text ++ rest) =
      (findNeutral (fun _ => wanted) (offset + text.length) (text.getLast?.or previous) (scan.run text)
        rest).map fun found => (text ++ found.1, found.2) := by
  induction text generalizing scan previous offset with
  | nil =>
    simp only [List.nil_append, List.length_nil, Nat.add_zero, run_nil, List.getLast?_nil,
      Option.none_or]
    exact Option.map_id'.symm
  | cons c behind ih =>
    obtain ⟨here, later⟩ := passes
    have unwanted : ((scan.step c).isNeutral && wanted previous (c :: (behind ++ rest))) = false := by
      cases neutral : (scan.step c).isNeutral with
      | false => rfl
      | true => exact here neutral rest
    rw [List.cons_append, findNeutral, unwanted, ih later (offset + 1), getLast?_or_cons, List.length_cons, Nat.add_assoc,
      Nat.add_comm 1, run_cons, Option.map_map]
    rfl

/-- What is found behind a text is found, or something before it. -/
theorem isSome_findNeutral_append (text rest : Text) (offset : Nat)
    (behind : (findNeutral (fun _ => wanted) (offset + text.length) (text.getLast?.or previous)
      (scan.run text) rest).isSome = true) :
    (findNeutral (fun _ => wanted) offset previous scan (text ++ rest)).isSome = true := by
  induction text generalizing scan previous offset with
  | nil => simpa using behind
  | cons c others ih =>
    rw [getLast?_or_cons, List.length_cons, Nat.add_comm others.length, ← Nat.add_assoc,
      run_cons] at behind
    rw [List.cons_append, findNeutral]
    split
    · rfl
    · rw [Option.isSome_map]
      exact ih (offset + 1) behind

theorem findNeutral_eq_none {text : Text} (passes : scan.Passes wanted previous text) (offset : Nat) :
    findNeutral (fun _ => wanted) offset previous scan text = none := by
  have whole := findNeutral_append passes offset []
  rw [List.append_nil] at whole
  rw [whole]
  rfl

end

end Scan

def beginsWith (token : Text) (_ : Option Char) (text : Text) : Bool := token.isPrefixOf text

theorem findOperator_eq (token text : Text) :
    findOperator token 0 text =
      (Scan.fresh.findNeutral (fun _ => beginsWith token) 0 none text).map fun found =>
        ⟨found.1.length, found.1.trim, Text.trim (found.2.drop token.length)⟩ := by
  have same : (fun (offset : Nat) (_ : Option Char) (rest : Text) =>
      decide (0 ≤ offset) && token.isPrefixOf rest) = fun _ => beginsWith token := by
    funext offset previous rest
    simp only [Nat.zero_le, decide_true, Bool.true_and, beginsWith]
  unfold findOperator
  dsimp only
  rw [same]

theorem findOperator_eq_none {token text : Text}
    (passes : Scan.fresh.Passes (beginsWith token) none text) : findOperator token 0 text = none := by
  rw [findOperator_eq, Scan.findNeutral_eq_none passes]
  rfl

theorem splitQuestion_eq (text : Text) :
    splitQuestion text =
      (Scan.fresh.findNeutral (fun _ => startsConditional) 0 none text).map fun found =>
        (found.1, found.2.drop 1) := rfl

theorem isConditional_eq_false {text : Text}
    (passes : Scan.fresh.Passes startsConditional none text) : isConditional text = false := by
  unfold isConditional
  rw [splitQuestion_eq, Scan.findNeutral_eq_none passes]
  rfl

def beginsWithSeparator (separates : Char → Bool) (_ : Option Char) (text : Text) : Bool :=
  text.head?.any separates

theorem Scan.segments_eq_singleton {separates : Char → Bool} {scan : Scan} {previous : Option Char}
    {text : Text} (passes : scan.Passes (beginsWithSeparator separates) previous text) :
    scan.segments separates text = [text] := by
  induction text generalizing scan previous with
  | nil => rfl
  | cons c rest ih =>
    obtain ⟨here, later⟩ := passes
    have unseparated : (separates c && (scan.step c).isNeutral) = false := by
      cases neutral : (scan.step c).isNeutral with
      | false => exact Bool.and_false _
      | true =>
        have unwanted := here neutral []
        simpa [beginsWithSeparator] using unwanted
    simp only [segments, unseparated, Bool.false_eq_true, ↓reduceIte, ih later, Text.consHead]

theorem splitTopLevel_eq_singleton {separates : Char → Bool} {text : Text}
    (passes : Scan.fresh.Passes (beginsWithSeparator separates) none text) (tidy : text.IsTidy) :
    splitTopLevel separates text = [text] := by
  rw [splitTopLevel, Scan.segments_eq_singleton passes, List.map_singleton, tidy.trimmed]
  simp [tidy.filled]

def beginsWithColon (_ : Option Char) (text : Text) : Bool := text.head? == some ':'

/-- The search for the colon of a conditional expression passes over the text: each colon in it belongs
to a question mark in it. -/
def Scan.PassesBranches (scan : Scan) (previous : Option Char) (text : Text) : Prop :=
  ∀ pending rest, splitColon pending previous scan (text ++ rest) =
    (splitColon pending (text.getLast?.or previous) (scan.run text) rest).map fun found =>
      (text ++ found.1, found.2)

theorem Scan.PassesBranches.append {scan : Scan} {previous : Option Char} {first second : Text}
    (front : scan.PassesBranches previous first)
    (back : (scan.run first).PassesBranches (first.getLast?.or previous) second) :
    scan.PassesBranches previous (first ++ second) := by
  intro pending rest
  have last : (first ++ second).getLast?.or previous =
      second.getLast?.or (first.getLast?.or previous) := by
    rw [List.getLast?_append, Option.or_assoc]
  rw [List.append_assoc, front, back, last, run_append, Option.map_map]
  simp only [Function.comp_def, List.append_assoc]

theorem Scan.passesBranches_of_passes {scan : Scan} {previous : Option Char} {text : Text}
    (unconditional : scan.Passes startsConditional previous text)
    (noColon : scan.Passes beginsWithColon previous text) : scan.PassesBranches previous text := by
  intro pending rest
  induction text generalizing scan previous with
  | nil =>
    simp only [List.nil_append, run_nil, List.getLast?_nil, Option.none_or]
    exact Option.map_id'.symm
  | cons c behind ih =>
    obtain ⟨noQuestion, laterQuestion⟩ := unconditional
    obtain ⟨notColon, laterColon⟩ := noColon
    have asks : ((scan.step c).isNeutral && startsConditional previous (c :: (behind ++ rest))) =
        false := by
      cases neutral : (scan.step c).isNeutral with
      | false => rfl
      | true => exact noQuestion neutral rest
    have colon : ((scan.step c).isNeutral && c == ':') = false := by
      cases neutral : (scan.step c).isNeutral with
      | false => rfl
      | true =>
        have unequal := notColon neutral rest
        simpa [beginsWithColon] using unequal
    rw [List.cons_append, splitColon.eq_def]
    dsimp only
    rw [asks, colon]
    simp only [Bool.false_eq_true, ↓reduceIte]
    rw [ih laterQuestion laterColon, getLast?_or_cons, run_cons, Option.map_map]
    rfl

end ClassUsage
