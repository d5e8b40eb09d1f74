import ClassUsage.Proofs.BranchChain
import ClassUsage.Proofs.ExpressionProvenance

set_option autoImplicit false

/-!
Operands with nothing in them. Of a text of blanks and round brackets nothing is left when the brackets are
taken off. What stands before `&&` and the value of an object entry are asked for characters before that and
not after, and so they can come out as empty conditions; no other condition can.
-/
namespace ClassUsage

/-- A text of blanks, also with round brackets around it. -/
inductive Text.IsHollow : Text → Prop where
  | blank {text : Text} (empty : text.trim = []) : IsHollow text
  | bracketed {text inside : Text} (encloses : text.trim = Condition.bracketed inside)
      (hollow : inside.IsHollow) : IsHollow text

theorem Text.IsHollow.isSelfContained {text : Text} (hollow : text.IsHollow) : text.IsSelfContained := by
  induction hollow with
  | blank empty => exact (isBlanks_of_trim_eq_nil empty).isClean.isSelfContained
  | @bracketed text inside encloses _ ih =>
    obtain ⟨before, after, first, second, decomposed⟩ := exists_trim text
    have enclosed : IsClean (Condition.bracketed inside) := ih.bracketed .round .round
    rw [decomposed, encloses]
    exact ((first.isClean.append enclosed).append second.isClean).isSelfContained

theorem stripParens_eq_nil_iff {text : Text} : stripParens text = [] ↔ text.IsHollow := by
  constructor
  · intro empty
    induction text using stripParens.induct with
    | case1 text inner found ih =>
      rw [stripParens_of_enclosed found] at empty
      exact .bracketed (trim_eq_of_unwrap found) (ih empty)
    | case2 text missing =>
      rw [stripParens_of_unwrap missing] at empty
      exact .blank empty
  · intro hollow
    induction hollow with
    | @blank text empty =>
      have notEnclosed : unwrap .round .round text = none := by
        apply unwrap_eq_none_of_head
        rw [empty]
        exact (Option.some_ne_none _).symm
      rw [stripParens_of_unwrap notEnclosed, empty]
    | bracketed encloses hollow ih =>
      have closes := Scan.closesAfter_of_isSelfContained hollow.isSelfContained .round
      rw [stripParens_of_enclosed (unwrap_eq_some_iff.mpr ⟨encloses, closes⟩), ih]

/-- The condition of `&&` is empty if what stands before it is hollow. -/
theorem exists_of_conjunction? {text condition operand : Text}
    (found : Shape.conjunction? text = some (.guarded condition operand)) :
    ∃ before behind, text = before ++ (andToken ++ behind) ∧
      ((Scan.fresh.run before).step '&').isNeutral = true ∧ (condition = [] ↔ before.IsHollow) := by
  obtain ⟨pair, read, equal⟩ := Option.map_eq_some_iff.mp found
  obtain ⟨before, behind, whole, neutral, rfl⟩ := Shape.exists_of_sides read
  cases equal
  refine ⟨before, behind, whole, neutral '&' ['&'] rfl, ?_⟩
  rw [stripParens_trim, stripParens_eq_nil_iff]

theorem condition_of_useOfPair_eq_nil_iff {key value : Text} {use : ClassUse}
    (found : useOfPair key value = some use) : use.condition = some [] ↔ value.IsHollow := by
  -- a value that stands for no condition is not hollow
  have word : stripParens "true".toList ≠ [] := by
    rw [stripParens_of_isAsciiName rfl]
    exact List.cons_ne_nil _ _
  unfold useOfPair at found
  split at found
  · cases found
  · split at found
    · cases found
    · rw [← stripParens_eq_nil_iff]
      split at found
      · rename_i holds
        cases found
        rw [holds]
        exact iff_of_false (Option.some_ne_none []).symm word
      · split at found
        · cases found
        · cases found
          exact Option.some_inj

/-- The condition of an object entry is empty if its value is hollow. -/
theorem condition_of_useOfEntry_eq_nil_iff {entry : Text} {use : ClassUse}
    (found : useOfEntry entry = some use) :
    use.condition = some [] ↔ ∃ key value, splitKey entry = some (key, value) ∧ value.IsHollow := by
  unfold useOfEntry at found
  split at found
  · cases found
  · split at found
    · rename_i noKey
      split at found
      · rename_i named
        cases found
        simp only [noKey, reduceCtorEq, false_and, exists_false, iff_false]
        rintro ⟨⟩
        cases named
      · cases found
    · rename_i key value split
      simp only [split, Option.some.injEq, Prod.mk.injEq]
      rw [condition_of_useOfPair_eq_nil_iff found, ← stripParens_eq_nil_iff, stripParens_trim,
        stripParens_eq_nil_iff]
      constructor
      · intro hollow
        exact ⟨key, value, ⟨rfl, rfl⟩, hollow⟩
      · rintro ⟨_, _, ⟨rfl, rfl⟩, hollow⟩
        exact hollow

/-- The expression, or one in an interpolation of it, holds a hollow text in front of `&&` or as the value
of an object entry. -/
inductive Text.HoldsHollow : Text → Prop where
  | operand {text before behind : Text} (whole : text.trim = before ++ (andToken ++ behind))
      (neutral : ((Scan.fresh.run before).step '&').isNeutral = true) (hollow : before.IsHollow) :
      HoldsHollow text
  | value {text body entry key value : Text} (object : unwrap .curly .curly text = some body)
      (listed : entry ∈ splitCommas body) (split : splitKey entry = some (key, value))
      (hollow : value.IsHollow) : HoldsHollow text
  | interpolation {text inner : Text} {template : Template} (read : Template.read text.trim = some template)
      (listed : .interpolation inner ∈ template.pieces) (holds : inner.HoldsHollow) : HoldsHollow text

def HoldsEmpty (uses : List ClassUse) : Prop := ∃ use ∈ uses, use.condition = some []

theorem not_holdsEmpty_nil : ¬ HoldsEmpty [] := fun ⟨_, member, _⟩ => absurd member List.not_mem_nil

theorem not_holdsEmpty_unconditional (classes : Text) : ¬ HoldsEmpty [⟨classes, none⟩] := by
  rintro ⟨use, member, empty⟩
  cases List.mem_singleton.mp member
  cases empty

/-- A condition on top of an empty one is not empty. -/
theorem HoldsEmpty.of_guardAll {condition : Text} {uses : List ClassUse}
    (holds : HoldsEmpty (guardAll condition uses)) : condition = [] := by
  obtain ⟨use, member, empty⟩ := holds
  obtain ⟨⟨classes, other⟩, -, rfl⟩ := List.mem_map.mp member
  cases other with
  | none => exact Option.some.inj empty
  | some other => exact absurd (Option.some.inj empty) (by simp [Condition.conjoin])

theorem HoldsEmpty.of_objectUses {text : Text} (holds : HoldsEmpty (objectUses text.trim)) :
    text.HoldsHollow := by
  obtain ⟨use, member, empty⟩ := holds
  unfold objectUses at member
  split at member
  · cases member
  · rename_i body object
    rw [unwrap_trim] at object
    obtain ⟨entry, listed, found⟩ := List.mem_filterMap.mp member
    obtain ⟨key, value, split, hollow⟩ := (condition_of_useOfEntry_eq_nil_iff found).mp empty
    exact .value object listed split hollow

section

variable {uses : Text → Except TooDeep (List ClassUse)}

theorem exists_of_resolve_guarded {condition operand : Text} {found : List ClassUse}
    (resolved : (Shape.guarded condition operand).resolve uses = .ok found) :
    ∃ inner, found = guardAll condition inner := by
  simp only [Shape.resolve] at resolved
  split at resolved
  · exact ⟨_, ((pure_eq_ok _ _).mp resolved).symm⟩
  · obtain ⟨inner, -, equal⟩ := (bind_eq_ok _ _ _).mp resolved
    exact ⟨inner, ((pure_eq_ok _ _).mp equal).symm⟩

variable (answers : ∀ inner found, uses inner = .ok found → HoldsEmpty found → inner.HoldsHollow)

include answers

theorem hollow_of_pieces {pieces : List Piece} {found : List (List ClassUse)}
    (resolved : pieces.mapM (Shape.resolvePiece uses) = .ok found) (holds : HoldsEmpty found.flatten) :
    ∃ inner, .interpolation inner ∈ pieces ∧ inner.HoldsHollow := by
  induction pieces generalizing found with
  | nil =>
    cases (pure_eq_ok _ _).mp (by simpa only [List.mapM_nil] using resolved)
    exact absurd holds not_holdsEmpty_nil
  | cons piece pieces ih =>
    simp only [List.mapM_cons, bind_eq_ok, pure_eq_ok] at resolved
    obtain ⟨first, read, others, readOthers, rfl⟩ := resolved
    obtain ⟨use, member, empty⟩ := holds
    rcases List.mem_append.mp member with here | later
    · cases piece with
      | interpolation text =>
        exact ⟨text, List.mem_cons_self, answers text first read ⟨use, here, empty⟩⟩
      | static text =>
        have equal := (pure_eq_ok _ _).mp read
        subst equal
        split at here
        · cases here
        · exact absurd ⟨use, here, empty⟩ (not_holdsEmpty_unconditional _)
    · obtain ⟨inner, listed, hollow⟩ := ih readOthers ⟨use, later, empty⟩
      exact ⟨inner, List.mem_cons_of_mem _ listed, hollow⟩

/-- Whatever way an expression is read in, an empty condition comes from a hollow text. -/
theorem hollow_of_reading {reading : Text → Option Shape} (listed : reading ∈ Shape.readings)
    {text : Text} {shape : Shape} (read : reading text.trim = some shape) {found : List ClassUse}
    (resolved : shape.resolve uses = .ok found) (holds : HoldsEmpty found) : text.HoldsHollow := by
  simp only [Shape.readings, List.mem_cons, List.not_mem_nil, or_false] at listed
  rcases listed with rfl | rfl | rfl | rfl | rfl | rfl | rfl
  · cases read
    cases (pure_eq_ok _ _).mp resolved
    exact holds.of_objectUses
  · obtain ⟨classes, -, rfl⟩ := Option.map_eq_some_iff.mp read
    cases (pure_eq_ok _ _).mp resolved
    exact absurd holds (not_holdsEmpty_unconditional classes)
  · obtain ⟨⟨condition, operand⟩, -, rfl⟩ := Option.map_eq_some_iff.mp read
    obtain ⟨before, behind, whole, neutral, empty⟩ := exists_of_conjunction? read
    obtain ⟨inner, rfl⟩ := exists_of_resolve_guarded resolved
    exact .operand whole neutral (empty.mp holds.of_guardAll)
  -- a sign or a comparison is put to what stands before the other operators, so something is left
  · obtain ⟨pair, -, rfl⟩ := Option.map_eq_some_iff.mp read
    obtain ⟨inner, rfl⟩ := exists_of_resolve_guarded resolved
    exact absurd holds.of_guardAll (List.cons_ne_nil _ _)
  · obtain ⟨pair, -, rfl⟩ := Option.map_eq_some_iff.mp read
    obtain ⟨inner, rfl⟩ := exists_of_resolve_guarded resolved
    exact absurd holds.of_guardAll (by simp [Condition.isNull])
  · obtain ⟨before, yes, no, -, -, -, filled, rfl⟩ := Shape.exists_of_conditional? read
    simp only [Shape.resolve, bind_eq_ok, pure_eq_ok] at resolved
    obtain ⟨whenTrue, -, whenFalse, -, rfl⟩ := resolved
    obtain ⟨use, member, empty⟩ := holds
    rcases List.mem_append.mp member with first | second
    · exact absurd (HoldsEmpty.of_guardAll ⟨use, first, empty⟩) filled
    · exact absurd (HoldsEmpty.of_guardAll ⟨use, second, empty⟩) (List.cons_ne_nil _ _)
  · obtain ⟨template, pieces, rfl⟩ := Option.map_eq_some_iff.mp read
    simp only [Shape.resolve, bind_eq_ok, pure_eq_ok] at resolved
    obtain ⟨inner, each, rfl⟩ := resolved
    split at holds
    · obtain ⟨expression, listed, hollow⟩ := hollow_of_pieces answers each holds
      exact .interpolation pieces listed hollow
    · exact absurd holds not_holdsEmpty_nil

end

theorem hollow_of_usesWithin {levels : Nat} {text : Text} {found : List ClassUse}
    (read : usesWithin levels text = .ok found) (holds : HoldsEmpty found) : text.HoldsHollow := by
  induction levels generalizing text found with
  | zero => cases read
  | succ levels ih =>
    rcases exists_of_usesOf read with rfl | ⟨reading, listed, shape, shaped, resolved⟩
    · exact absurd holds not_holdsEmpty_nil
    · exact hollow_of_reading (fun _ _ => ih) listed shaped resolved holds

/-- With any limit, a condition is empty only if a hollow text stands where a condition is asked for. -/
theorem hollow_of_empty_condition {form : ExpressionForm} {limit : Int} {text : Text}
    {uses : List ClassUse} (parsed : parseForm form limit text = some uses) (holds : HoldsEmpty uses) :
    text.HoldsHollow := by
  have read := (matchOf_eq_some parsed).1
  cases form with
  | any =>
    rw [ExpressionForm.usesOf, usesWithin_trim] at read
    exact hollow_of_usesWithin read holds
  | object =>
    cases (pure_eq_ok _ _).mp read
    exact holds.of_objectUses
  | template =>
    simp only [ExpressionForm.usesOf] at read
    split at read
    · cases (pure_eq_ok _ _).mp read
      exact absurd holds not_holdsEmpty_nil
    · rename_i shape shaped
      exact hollow_of_reading (fun _ _ => hollow_of_usesWithin) Shape.template?_mem_readings shaped read
        holds

/-- Behind brackets with nothing in them, the classes of a string literal count under an empty condition. -/
theorem parseForm_hollow_operand {inside : Text} (hollow : inside.IsHollow) (string : ClassString)
    (limit : Int) :
    parseForm .any limit (Operator.and.joined (Condition.bracketed inside) string.text) =
      if limit < 0 then none else some [⟨string.body.trim, some []⟩] := by
  have contained := hollow.isSelfContained
  have front := Phrase.ofBrackets contained
  have back : Phrase .tight string.text := Phrase.literal rfl string.plain
  have trimmed : Text.trim (Operator.and.joined (Condition.bracketed inside) string.text) =
      Operator.and.joined (Condition.bracketed inside) string.text :=
    (front.tidy.surround back.tidy Operator.and.spaced).trimmed
  have body : literalBody string.text = some string.body.trim :=
    literalBody_quoted rfl (by decide) string.plain string.filled
  have stripped : stripParens (Condition.bracketed inside) = [] := by
    rw [stripParens_bracketed contained, stripParens_eq_nil_iff.mpr hollow]
  have levels : levelsLeft limit 0 = 0 ↔ limit < 0 := by
    simp only [levelsLeft]
    omega
  rw [parseForm, ExpressionForm.usesOf, trimmed]
  cases left : levelsLeft limit 0 with
  | zero =>
    rw [if_pos (levels.mp left)]
    rfl
  | succ below =>
    rw [if_neg (levels.not.mp (by omega)), usesWithin, trimmed,
      usesOf_joined front back rfl rfl rfl (beginsOperand_bracketed inside), stripped, Shape.resolve,
      body]
    rfl

end ClassUsage
