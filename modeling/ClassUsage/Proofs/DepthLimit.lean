import ClassUsage.Proofs.NestingDepth

set_option autoImplicit false

/-!
The limit on how deep expressions are nested. It never changes a result: an expression either has all its
uses or is no match, and from its own length on the limit makes no difference.
-/
namespace ClassUsage

/-- A reading within a limit corresponds to one within a wider limit that keeps its answers. -/
def Simulation.widening : Simulation (Except TooDeep) (Except TooDeep) where
  Relates narrow wide := ∀ value, narrow = .ok value → wide = .ok value
  relates_pure _ _ same := same
  relates_bind := by
    intro α β first second next other kept later result read
    obtain ⟨value, answered, resumed⟩ := (bind_eq_ok _ _ _).mp read
    rw [kept value answered]
    exact later value result resumed

/-- More levels to open leave a result as it is. -/
theorem usesWithin_mono {few many : Nat} (fewer : few ≤ many) (text : Text) :
    Simulation.widening.Relates (usesWithin few text) (usesWithin many text) := by
  induction few generalizing many text with
  | zero =>
    intro uses read
    cases read
  | succ few ih =>
    cases many with
    | zero => omega
    | succ many =>
      apply Simulation.widening.relates_usesOf
      intro inner _
      exact ih (by omega) inner

theorem levelsLeft_mono {low high : Int} (lower : low ≤ high) (depth : Nat) :
    levelsLeft low depth ≤ levelsLeft high depth := by
  simp only [levelsLeft]
  omega

/-- A match within a limit is the same match within any higher one. -/
theorem parseForm_mono {form : ExpressionForm} {low high : Int} (lower : low ≤ high) {text : Text}
    {uses : List ClassUse} (parsed : parseForm form low text = some uses) :
    parseForm form high text = some uses := by
  have answered := (matchOf_eq_some parsed).1
  have kept : Simulation.widening.Relates
      (form.usesOf (usesWithin (levelsLeft low 0)) (usesWithin (levelsLeft low 1)) text)
      (form.usesOf (usesWithin (levelsLeft high 0)) (usesWithin (levelsLeft high 1)) text) := by
    apply Simulation.widening.relates_form
    · intro inner _
      exact usesWithin_mono (levelsLeft_mono lower 0) inner
    · intro inner _
      exact usesWithin_mono (levelsLeft_mono lower 1) inner
  rw [parseForm, answered] at parsed
  rw [parseForm, kept uses answered]
  exact parsed

/-- A match is the one that the expression has without a limit. -/
theorem matchOf_formUses {form : ExpressionForm} {limit : Int} {text : Text} {uses : List ClassUse}
    (parsed : parseForm form limit text = some uses) :
    matchOf (.ok (formUses form text).run) = some uses := by
  have lower : limit ≤ max limit text.length := by omega
  have enough : (text.length : Int) ≤ max limit text.length := by omega
  rw [← parseForm_eq_matchOf form enough]
  exact parseForm_mono lower parsed

/-- A limit leaves a result as it is or makes it no match, the less often the higher it is. A limit that
reaches the length of the text is without effect: no expression in it is read at a greater depth. -/
theorem parseForm_limit (form : ExpressionForm) (text : Text) :
    (∀ low high : Int, low ≤ high → ∀ uses, parseForm form low text = some uses →
      parseForm form high text = some uses) ∧
    (∀ low high : Int, (text.length : Int) ≤ low → (text.length : Int) ≤ high →
      parseForm form low text = parseForm form high text) ∧
    (∀ limit : Int, parseForm form limit text = none ∨
      parseForm form limit text = parseForm form text.length text) ∧
    ∀ limit : Int, (text.length : Int) ≤ limit →
      form.usesOf (usesWithin (levelsLeft limit 0)) (usesWithin (levelsLeft limit 1)) text ≠
        .error .tooDeep := by
  refine ⟨?_, ?_, ?_, ?_⟩
  · intro low high lower uses parsed
    exact parseForm_mono lower parsed
  · intro low high enough alsoEnough
    rw [parseForm_eq_matchOf form enough, parseForm_eq_matchOf form alsoEnough]
  · intro limit
    cases parsed : parseForm form limit text with
    | none => exact Or.inl rfl
    | some uses =>
      right
      rw [parseForm_eq_matchOf form (Int.le_refl _), matchOf_formUses parsed]
  · intro limit enough
    rw [usesOf_eq_ok form enough]
    intro failed
    cases failed

theorem parseForm_limit_chain :
    parseForm .any 1 "a && (b && (c && 'd'))".toList = none ∧
      parseForm .any 2 "a && (b && (c && 'd'))".toList =
        some [⟨"d".toList, some "a && b && c".toList⟩] ∧
      parseForm .any 200 "a && (b && (c && 'd'))".toList =
        some [⟨"d".toList, some "a && b && c".toList⟩] ∧
      parseForm .any 22 "a && (b && (c && 'd'))".toList =
        parseForm .any 50 "a && (b && (c && 'd'))".toList := by
  have read : parseForm .any 2 "a && (b && (c && 'd'))".toList =
      some [⟨"d".toList, some "a && b && c".toList⟩] := by decide +kernel
  obtain ⟨kept, same, -, -⟩ := parseForm_limit .any "a && (b && (c && 'd'))".toList
  exact ⟨by decide +kernel, read, kept 2 200 (by decide) _ read,
    same 22 50 (by decide) (by decide)⟩

end ClassUsage
