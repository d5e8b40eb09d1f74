import ClassUsage.Proofs.ClassTables
import ClassUsage.Proofs.CombinedClasses
import ClassUsage.Proofs.ExtractionGuarantees

set_option autoImplicit false

/-!
The parts of a summary agree. Its classes, its counts and its places are collected apart from one
another, and so are the classes that depend on a condition; all of them tell of the same uses.
-/
namespace ClassUsage

/-- The uses of a class with the extractions they stand in, as often as each use names the class. -/
def appearances (name : Text) (extractions : List Extraction) : List (Extraction × ClassUse) :=
  extractions.flatMap fun extraction =>
    extraction.uses.flatMap fun use => (use.tokens.filter (· = name)).map fun _ => (extraction, use)

/-- All names in the uses of extractions, in order and as often as they are written. -/
def allTokens (extractions : List Extraction) : List Text :=
  (extractions.flatMap (·.uses)).flatMap ClassUse.tokens

def Extraction.line (document : Text) (extraction : Extraction) : Nat :=
  lineOf document extraction.range.start.toNat

theorem mem_appearances {name : Text} {extractions : List Extraction}
    {found : Extraction × ClassUse} :
    found ∈ appearances name extractions ↔
      found.1 ∈ extractions ∧ found.2 ∈ found.1.uses ∧ name ∈ found.2.tokens := by
  obtain ⟨extraction, use⟩ := found
  simp only [appearances, List.mem_flatMap, List.mem_map, List.mem_filter, decide_eq_true_eq,
    Prod.mk.injEq]
  constructor
  · rintro ⟨other, member, otherUse, inUses, token, ⟨listed, rfl⟩, rfl, rfl⟩
    exact ⟨member, inUses, listed⟩
  · rintro ⟨member, inUses, listed⟩
    exact ⟨extraction, member, use, inUses, name, ⟨listed, rfl⟩, rfl, rfl⟩

theorem names_sightings (document : Text) (extractions : List Extraction) :
    (sightings document extractions).map (·.className) = allTokens extractions := by
  simp only [sightings, Extraction.sightings, allTokens, List.map_flatMap, List.map_map,
    List.flatMap_assoc, Function.comp_def, List.map_id']

theorem filter_sightings (document name : Text) (extractions : List Extraction) :
    (sightings document extractions).filter (·.className = name) =
      (appearances name extractions).map fun found =>
        ⟨name, found.1.line document, found.2.condition⟩ := by
  have tokens : ∀ (line : Nat) (use : ClassUse),
      (use.tokens.map fun token => (⟨token, line, use.condition⟩ : Sighting)).filter
        (·.className = name) =
      (use.tokens.filter (· = name)).map fun _ => ⟨name, line, use.condition⟩ := by
    intro line use
    rw [List.filter_map]
    apply List.map_congr_left
    intro token member
    have equal : token = name := by simpa using (List.mem_filter.mp member).2
    rw [equal]
  simp only [sightings, Extraction.sightings, appearances, List.filter_flatMap, tokens,
    List.map_flatMap, List.map_map, Function.comp_def, Extraction.line]

theorem count_allTokens (document name : Text) (extractions : List Extraction) :
    (allTokens extractions).count name =
      ((sightings document extractions).filter (·.className = name)).length := by
  rw [← names_sightings document, List.count_eq_countP, List.countP_map, List.countP_eq_length_filter]
  simp only [Function.comp_def, beq_eq_decide]

theorem line_le_of_start_le {document : Text} {first second : Extraction}
    (before : first.range.start ≤ second.range.start) :
    first.line document ≤ second.line document := by
  have offsets : first.range.start.toNat ≤ second.range.start.toNat := Int.toNat_le_toNat before
  exact Nat.succ_le_succ ((List.take_sublist_take_left offsets).count_le '\n')

theorem owner_eq {name : Text} {extraction : Extraction} {found : Extraction × ClassUse}
    (member : found ∈ extraction.uses.flatMap fun use =>
      (use.tokens.filter (· = name)).map fun _ => (extraction, use)) : found.1 = extraction := by
  obtain ⟨use, -, inTokens⟩ := List.mem_flatMap.mp member
  obtain ⟨token, -, rfl⟩ := List.mem_map.mp inTokens
  rfl

/-- Extractions come in document order, so their lines do not decrease. -/
theorem lines_appearances (document name : Text) :
    ((appearances name (extractAll document)).map (·.1.line document)).Pairwise (· ≤ ·) := by
  rw [List.pairwise_map, appearances, List.pairwise_flatMap]
  constructor
  · intro extraction _
    apply List.pairwise_of_forall_mem_list
    intro first inFirst second inSecond
    have together : first.1 = second.1 := (owner_eq inFirst).trans (owner_eq inSecond).symm
    exact Nat.le_of_eq (congrArg (Extraction.line document) together)
  · refine (extractAll_pairwise document).imp_of_mem ?_
    intro first second inFirst inSecond before one inOne other inOther
    rw [owner_eq inOne, owner_eq inOther]
    obtain ⟨-, forward, -⟩ := range_of_mem_extractAll inFirst
    exact line_le_of_start_le (Int.le_trans (Int.le_of_lt forward) before)

theorem mem_namesUsed {wanted : ClassUse → Bool} {name : Text} {extractions : List Extraction} :
    name ∈ namesUsed wanted extractions ↔
      ∃ found ∈ appearances name extractions, wanted found.2 = true := by
  simp only [namesUsed, List.mem_flatMap, List.mem_filter]
  constructor
  · rintro ⟨use, ⟨⟨extraction, member, inUses⟩, isWanted⟩, listed⟩
    exact ⟨(extraction, use), mem_appearances.mpr ⟨member, inUses, listed⟩, isWanted⟩
  · rintro ⟨found, member, isWanted⟩
    obtain ⟨inExtractions, inUses, listed⟩ := mem_appearances.mp member
    exact ⟨found.2, ⟨⟨found.1, inExtractions, inUses⟩, isWanted⟩, listed⟩

theorem mem_allTokens {name : Text} {extractions : List Extraction} :
    name ∈ allTokens extractions ↔ ∃ found, found ∈ appearances name extractions := by
  simp only [allTokens, List.mem_flatMap]
  constructor
  · rintro ⟨use, ⟨extraction, member, inUses⟩, listed⟩
    exact ⟨(extraction, use), mem_appearances.mpr ⟨member, inUses, listed⟩⟩
  · rintro ⟨found, member⟩
    obtain ⟨inExtractions, inUses, listed⟩ := mem_appearances.mp member
    exact ⟨found.2, ⟨found.1, inExtractions, inUses⟩, listed⟩

theorem mem_conditionalOnly {name : Text} {extractions : List Extraction} :
    name ∈ conditionalOnly extractions ↔
      name ∈ allTokens extractions ∧
        ∀ found ∈ appearances name extractions, found.2.condition ≠ none := by
  have member : name ∈ conditionalOnly extractions ↔
      name ∈ namesUsed (·.condition.isSome) extractions ∧
        name ∉ namesUsed (·.condition.isNone) extractions := by
    unfold conditionalOnly
    rw [(List.mergeSort_perm _ _).mem_iff]
    simp only [List.mem_filter, mem_firstOccurrences, Bool.not_eq_true', List.contains_eq_mem,
      decide_eq_false_iff_not]
  rw [member, mem_namesUsed, mem_namesUsed, mem_allTokens]
  constructor
  · rintro ⟨⟨found, inUses, -⟩, never⟩
    refine ⟨⟨found, inUses⟩, ?_⟩
    intro other inOther unconditional
    exact never ⟨other, inOther, by rw [unconditional, Option.isNone_none]⟩
  · rintro ⟨⟨found, inUses⟩, always⟩
    refine ⟨⟨found, inUses, Option.isSome_iff_ne_none.mpr (always found inUses)⟩, ?_⟩
    rintro ⟨other, inOther, unconditional⟩
    exact always other inOther (Option.isNone_iff_eq_none.mp unconditional)

theorem uniqueClasses_summarize (document : Text) :
    (summarize document).uniqueClasses = firstOccurrences (allTokens (extractAll document)) := by
  have names : ((extractAll document).flatMap (·.classStrings)).flatMap Text.words =
      allTokens (extractAll document) := by
    simp only [Extraction.classStrings, allTokens, List.flatMap_assoc, List.flatMap_map]
    rfl
  rw [← names]
  exact words_combineClasses _

/-- The table of a summary, by its classes. -/
theorem table_summarize (document : Text) :
    (summarize document).table.counts =
      ((summarize document).uniqueClasses.map fun name =>
        (name, ((sightings document (extractAll document)).filter (·.className = name)).length)) ∧
    (summarize document).table.locations =
      ((summarize document).uniqueClasses.map fun name =>
        (name, ((sightings document (extractAll document)).filter (·.className = name)).map
          Sighting.location)) := by
  rw [uniqueClasses_summarize, ← names_sightings document]
  exact ⟨ClassTable.counts_ofSightings _, ClassTable.locations_ofSightings _⟩

/-- A class has a bare line among its places just if it is used without a condition somewhere. -/
theorem bare_mem_places_iff {document name : Text} {extractions : List Extraction} :
    (∃ line : Nat, "line ".toList ++ (toString line).toList ∈
      ((sightings document extractions).filter (·.className = name)).map Sighting.location) ↔
      ∃ found ∈ appearances name extractions, found.2.condition = none := by
  have bare : ∀ line : Nat, "line ".toList ++ (toString line).toList =
      Sighting.location ⟨name, line, none⟩ := fun line => (List.append_nil _).symm
  rw [filter_sightings, List.map_map]
  constructor
  · rintro ⟨line, member⟩
    obtain ⟨found, inUses, same⟩ := List.mem_map.mp member
    rw [bare] at same
    exact ⟨found, inUses, (Sighting.eq_of_location_eq same).2⟩
  · rintro ⟨found, inUses, unconditional⟩
    refine ⟨found.1.line document, List.mem_map.mpr ⟨found, inUses, ?_⟩⟩
    rw [bare, Function.comp_apply, unconditional]

theorem mem_uniqueClasses_iff {document name : Text} :
    name ∈ (summarize document).uniqueClasses ↔ name ∈ allTokens (extractAll document) := by
  rw [uniqueClasses_summarize, mem_firstOccurrences]

/-- The count of a name is that of its occurrences, and a name without an entry does not occur. -/
theorem count_summarize (document name : Text) :
    ((summarize document).table.counts.lookup name).getD 0 =
      (allTokens (extractAll document)).count name := by
  rw [(table_summarize document).1]
  by_cases listed : name ∈ (summarize document).uniqueClasses
  · rw [lookup_map_of_mem listed, Option.getD_some, count_allTokens document]
  · have absent : name ∉ allTokens (extractAll document) := fun member =>
      listed (mem_uniqueClasses_iff.mpr member)
    have unknown : ((summarize document).uniqueClasses.map fun other => (other,
        ((sightings document (extractAll document)).filter (·.className = other)).length)).lookup
          name = none := by
      rw [List.lookup_eq_none_iff]
      intro entry member
      obtain ⟨other, isListed, rfl⟩ := List.mem_map.mp member
      exact bne_iff_ne.mpr fun same => listed (same ▸ isListed)
    rw [unknown, Option.getD_none, List.count_eq_zero_of_not_mem absent]

/-- The parts of a summary tell of the same uses, those of the extractions of the document. The classes
are the names in these uses, each once and in the order in which they are seen first, which is their order
everywhere. Any name is counted as often as it is written. Each time has a place of its own, which gives
the line of its extraction and its condition. The lines do not decrease, and a class depends on a
condition just if no place of it is a bare line. -/
theorem summarize_consistent (document : Text) :
    (summarize document).extractions = extractAll document ∧
    (summarize document).uniqueClasses.Nodup ∧
    (∀ name, name ∈ (summarize document).uniqueClasses ↔
      name ∈ allTokens (extractAll document)) ∧
    ((summarize document).uniqueClasses.Pairwise fun earlier later =>
      (allTokens (extractAll document)).idxOf earlier <
        (allTokens (extractAll document)).idxOf later) ∧
    (summarize document).table.counts.map (·.1) = (summarize document).uniqueClasses ∧
    (summarize document).table.locations.map (·.1) = (summarize document).uniqueClasses ∧
    (∀ name ∈ (summarize document).conditionalOnly, name ∈ (summarize document).uniqueClasses) ∧
    (∀ name, ((summarize document).table.counts.lookup name).getD 0 =
      (allTokens (extractAll document)).count name) ∧
    ∀ name ∈ (summarize document).uniqueClasses, ∃ places,
      (summarize document).table.locations.lookup name = some places ∧
      (summarize document).table.counts.lookup name = some places.length ∧
      places.length = (allTokens (extractAll document)).count name ∧
      places = (appearances name (extractAll document)).map (fun found =>
        "line ".toList ++
          (toString ((document.take found.1.range.start.toNat).count '\n' + 1)).toList ++
          Sighting.conditionWords found.2.condition) ∧
      ((appearances name (extractAll document)).map (fun found =>
        (document.take found.1.range.start.toNat).count '\n' + 1)).Pairwise (· ≤ ·) ∧
      (name ∈ (summarize document).conditionalOnly ↔
        ∀ line : Nat, "line ".toList ++ (toString line).toList ∉ places) := by
  obtain ⟨counts, locations⟩ := table_summarize document
  refine ⟨rfl, ?_, fun name => mem_uniqueClasses_iff, ?_, ?_, ?_, ?_, count_summarize document, ?_⟩
  · rw [uniqueClasses_summarize]
    exact nodup_firstOccurrences _
  · rw [uniqueClasses_summarize]
    exact firstOccurrences_pairwise _
  · rw [counts, List.map_map]
    exact List.map_id _
  · rw [locations, List.map_map]
    exact List.map_id _
  · intro name depends
    exact mem_uniqueClasses_iff.mpr (mem_conditionalOnly.mp depends).1
  · intro name listed
    rw [counts, locations]
    refine ⟨_, lookup_map_of_mem listed _, ?_, ?_, ?_, lines_appearances document name, ?_⟩
    · rw [List.length_map]
      exact lookup_map_of_mem listed _
    · rw [List.length_map]
      exact (count_allTokens document name _).symm
    · rw [filter_sightings, List.map_map]
      rfl
    · have written := mem_uniqueClasses_iff.mp listed
      rw [← not_exists, bare_mem_places_iff]
      refine mem_conditionalOnly.trans ?_
      simp only [written, true_and, not_exists, not_and]

def mixedDocument : Text := "\n<b :class=\x22['x', on && 'x y']\x22>".toList

theorem allTokens_mixedDocument :
    allTokens (extractAll mixedDocument) = ["x".toList, "x".toList, "y".toList] := by
  decide +kernel

theorem summarize_consistent_mixed :
    "w".toList ∉ (summarize mixedDocument).uniqueClasses ∧
    ((summarize mixedDocument).table.counts.lookup "w".toList).getD 0 = 0 ∧
    "x".toList ∈ (summarize mixedDocument).uniqueClasses ∧
    (summarize mixedDocument).table.counts.lookup "x".toList = some 2 ∧
    (summarize mixedDocument).table.locations.lookup "x".toList =
      some ["line 2".toList, "line 2 (if on)".toList] ∧
    "x".toList ∉ (summarize mixedDocument).conditionalOnly := by
  obtain ⟨-, -, classes, -, -, -, -, counts, told⟩ := summarize_consistent mixedDocument
  have listed : "x".toList ∈ (summarize mixedDocument).uniqueClasses := by
    rw [classes, allTokens_mixedDocument]
    decide
  have absent : "w".toList ∉ (summarize mixedDocument).uniqueClasses := by
    rw [classes, allTokens_mixedDocument]
    decide
  obtain ⟨places, found, often, -, named, -, always⟩ := told "x".toList listed
  have written : places = ["line 2".toList, "line 2 (if on)".toList] := by
    rw [named]
    decide +kernel
  subst written
  refine ⟨absent, ?_, listed, often, found, ?_⟩
  · rw [counts, allTokens_mixedDocument]
    decide
  · intro depends
    exact always.mp depends 2 List.mem_cons_self

end ClassUsage
