import ClassUsage.Proofs.Composition

set_option autoImplicit false

/-!
Chains of conditional expressions, each in the last branch of the one before. Each link opens one level,
so a chain is read exactly if the limit on depth is no less than the number of its links, and the classes
of a link count when its name holds and the names before it do not.
-/
namespace ClassUsage

/-- What stands between the apostrophes of a string literal that names classes. -/
structure ClassString where
  body : Text
  filled : body.trim ≠ []
  plain : body.IsQuotable '\x27'

namespace ClassString

def text (string : ClassString) : Text := '\x27' :: string.body ++ ['\x27']

theorem isBranch (string : ClassString) : IsBranch string.text :=
  (Phrase.literal rfl string.plain).isBranch

theorem usesWithin_text (string : ClassString) (levels : Nat) :
    usesWithin (levels + 1) string.text = .ok [⟨string.body.trim, none⟩] := by
  rw [usesWithin, text, (Phrase.literal rfl string.plain).tidy.trimmed]
  exact usesOf_literal string.plain string.filled _

end ClassString

/-- A name and the classes that count if it is the first in a chain that holds. -/
structure BranchLink where
  name : Text
  ascii : name.isAsciiName = true
  classes : ClassString

def BranchLink.fails (link : BranchLink) : Text := '!' :: link.name

/-- The text of a chain, with the classes that count if no name holds. -/
def branchChain (links : List BranchLink) (last : ClassString) : Text :=
  links.foldr (fun link rest => chosen link.name link.classes.text rest) last.text

def conjunction (conditions : List Text) : Option Text :=
  if conditions.isEmpty then none else some (Text.join " && ".toList conditions)

/-- The classes of a link behind some others count if its name is the first to hold. -/
def BranchLink.useBehind (before : List BranchLink) (link : BranchLink) : ClassUse :=
  ⟨link.classes.body.trim, conjunction (before.map BranchLink.fails ++ [link.name])⟩

def ClassString.useBehind (links : List BranchLink) (last : ClassString) : ClassUse :=
  ⟨last.body.trim, conjunction (links.map BranchLink.fails)⟩

/-- The uses of a chain, one for each link and one for the last classes. -/
def chainUses (links : List BranchLink) (last : ClassString) : List ClassUse :=
  links.mapIdx (fun index => BranchLink.useBehind (links.take index)) ++ [last.useBehind links]

theorem conjunction_singleton (condition : Text) : conjunction [condition] = some condition := by
  simp [conjunction, Text.join]

theorem conjunction_cons (first second : Text) (others : List Text) :
    conjunction (first :: second :: others) =
      (conjunction (second :: others)).map (Operator.and.joined first) := by
  simp only [conjunction, Text.join, List.isEmpty_cons, Bool.false_eq_true, ↓reduceIte, Option.map_some,
    List.intersperse_cons_cons, List.flatten_cons, Operator.joined, List.append_assoc]
  rfl

/-- Conditions that bind tightly make a condition that binds like `&&`, if not more tightly. -/
theorem exists_phrase_conjunction {conditions : List Text}
    (tight : ∀ condition ∈ conditions, Phrase .tight condition) {whole : Text}
    (joined : conjunction conditions = some whole) :
    ∃ binding, Phrase binding whole ∧ Operator.and.admits binding = true := by
  induction conditions generalizing whole with
  | nil => cases joined
  | cons first others ih =>
    obtain ⟨front, behind⟩ := List.forall_mem_cons.mp tight
    cases others with
    | nil =>
      rw [conjunction_singleton] at joined
      cases joined
      exact ⟨.tight, front, rfl⟩
    | cons second others =>
      rw [conjunction_cons] at joined
      obtain ⟨rest, rejoined, rfl⟩ := Option.map_eq_some_iff.mp joined
      obtain ⟨binding, phrase, admits⟩ := ih behind rejoined
      exact ⟨.operator .and, front.joined phrase rfl admits, rfl⟩

/-- A use under a condition has one more condition in its conjunction. -/
theorem under_conjunction {conditions : List Text}
    (tight : ∀ condition ∈ conditions, Phrase .tight condition) (guard classes : Text) :
    ClassUse.under guard ⟨classes, conjunction conditions⟩ =
      ⟨classes, conjunction (guard :: conditions)⟩ := by
  cases conditions with
  | nil =>
    rw [conjunction_singleton]
    rfl
  | cons first others =>
    rw [conjunction_cons]
    cases joined : conjunction (first :: others) with
    | none => cases joined
    | some whole =>
      obtain ⟨binding, phrase, admits⟩ := exists_phrase_conjunction tight joined
      simp only [ClassUse.under, phrase.group_eq admits, Option.map_some, Operator.joined,
        List.append_assoc]
      rfl

namespace BranchLink

theorem phrase_name (link : BranchLink) : Phrase .tight link.name := phrase_of_isAsciiName link.ascii

theorem phrase_fails (link : BranchLink) : Phrase .tight link.fails := by
  obtain ⟨identifier, same⟩ := exists_identifier link.ascii
  have phrase := (Formula.not (.name identifier)).phrase
  rw [fails, ← same]
  exact phrase

theorem phrase_of_mem_fails {links : List BranchLink} :
    ∀ condition ∈ links.map fails, Phrase .tight condition := by
  intro condition member
  obtain ⟨link, -, rfl⟩ := List.mem_map.mp member
  exact link.phrase_fails

theorem under_useBehind (first link : BranchLink) (before : List BranchLink) :
    ClassUse.under first.fails (link.useBehind before) = link.useBehind (first :: before) := by
  apply under_conjunction
  intro condition member
  rcases List.mem_append.mp member with inBefore | here
  · exact phrase_of_mem_fails condition inBefore
  · rw [List.mem_singleton.mp here]
    exact link.phrase_name

end BranchLink

theorem ClassString.under_useBehind (first : BranchLink) (last : ClassString)
    (links : List BranchLink) :
    ClassUse.under first.fails (last.useBehind links) = last.useBehind (first :: links) :=
  under_conjunction BranchLink.phrase_of_mem_fails first.fails last.body.trim

/-- Behind one more link, the uses of a chain are under one more condition. -/
theorem chainUses_cons (link : BranchLink) (links : List BranchLink) (last : ClassString) :
    chainUses (link :: links) last =
      ⟨link.classes.body.trim, some link.name⟩ ::
        (chainUses links last).map (ClassUse.under link.fails) := by
  have first : link.useBehind [] = ⟨link.classes.body.trim, some link.name⟩ :=
    congrArg (ClassUse.mk _) (conjunction_singleton link.name)
  have others : (links.mapIdx fun index => BranchLink.useBehind (links.take index)).map
        (ClassUse.under link.fails) =
      links.mapIdx fun index => BranchLink.useBehind (link :: links.take index) := by
    apply List.ext_getElem
    · simp only [List.length_map, List.length_mapIdx]
    · intro index _ _
      rw [List.getElem_map, List.getElem_mapIdx, List.getElem_mapIdx]
      exact BranchLink.under_useBehind link _ _
  rw [chainUses, List.mapIdx_cons, List.take_zero, first, chainUses, List.map_append, others,
    List.map_singleton, ClassString.under_useBehind]
  rfl

/-- A chain takes one level for each link and one for the last classes. -/
theorem usesWithin_branchChain (links : List BranchLink) (last : ClassString) (levels : Nat) :
    usesWithin levels (branchChain links last) =
      if levels ≤ links.length then .error .tooDeep else .ok (chainUses links last) := by
  induction links generalizing levels with
  | nil =>
    cases levels with
    | zero => rfl
    | succ levels => exact last.usesWithin_text levels
  | cons link links ih =>
    cases levels with
    | zero => rfl
    | succ levels =>
      have step : usesWithin (levels + 1) (branchChain (link :: links) last) = _ :=
        usesWithin_chosen link.ascii link.classes.isBranch (branchChain links last) levels
      rw [step, ih levels]
      cases levels with
      | zero => rfl
      | succ below =>
        rw [link.classes.usesWithin_text]
        by_cases deep : below + 1 ≤ links.length
        · simp only [deep, List.length_cons, Nat.add_le_add_iff_right, ↓reduceIte]
          rfl
        · simp only [deep, List.length_cons, Nat.add_le_add_iff_right, ↓reduceIte, chainUses_cons]
          rfl

/-- A chain with more links than the limit on depth is no match. Any other has the classes of all its
links in order and the last ones, each under the names that do not hold and the one that does. -/
theorem parseForm_branchChain (links : List BranchLink) (last : ClassString) (limit : Int) :
    parseForm .any limit (branchChain links last) =
      if limit < links.length then none else some (chainUses links last) := by
  have levels : levelsLeft limit 0 ≤ links.length ↔ limit < links.length := by
    simp only [levelsLeft]
    omega
  rw [parseForm, ExpressionForm.usesOf, usesWithin_trim, usesWithin_branchChain]
  by_cases deep : limit < links.length
  · rw [if_pos deep, if_pos (levels.mpr deep)]
    rfl
  · rw [if_neg deep, if_neg (levels.not.mpr deep)]
    cases links with
    | nil => rfl
    | cons link links =>
      rw [chainUses_cons]
      rfl

/-- The classes `x y`. -/
def spacedClasses : ClassString := ⟨"x y".toList, by decide, Text.forall_mem_of_all (by decide)⟩

/-- Two links on the names `a` and `b`. -/
def twoLinks : List BranchLink :=
  [⟨"a".toList, by decide, spacedClasses⟩,
    ⟨"b".toList, by decide, "z".toList, by decide, Text.forall_mem_of_all (by decide)⟩]

/-- Two links are read with a limit of two and not with a limit of one. -/
theorem parseForm_branchChain_two :
    branchChain twoLinks spacedClasses = "a ? 'x y' : b ? 'z' : 'x y'".toList ∧
      parseForm .any 2 (branchChain twoLinks spacedClasses) =
        some [⟨"x y".toList, some "a".toList⟩, ⟨"z".toList, some "!a && b".toList⟩,
          ⟨"x y".toList, some "!a && !b".toList⟩] ∧
      parseForm .any 1 (branchChain twoLinks spacedClasses) = none := by
  refine ⟨by decide, ?_, ?_⟩
  · exact (parseForm_branchChain twoLinks spacedClasses 2).trans (by decide)
  · exact (parseForm_branchChain twoLinks spacedClasses 1).trans (by decide)

end ClassUsage
