import ClassUsage.Proofs.AttributeLineEnds
import ClassUsage.Proofs.SummaryConsistency

set_option autoImplicit false

/-!
Documents with line feeds for all line ends. Their extractions are the same ones at the places that
stand for theirs, with line feeds in class lists and conditions, and the classes are counted alike.
-/
namespace ClassUsage

namespace Text

/-- The last line end of the text may go on behind it. -/
def endsReturned (text : Text) : Bool := text.getLast? == some '\r'

theorem withLineFeeds_append_lineFeedsAfter (front text : Text) :
    withLineFeeds (front ++ text) = front.withLineFeeds ++ text.lineFeedsAfter front.endsReturned := by
  have returned : (front.getLast?.map (· == '\r')).getD false = front.endsReturned := by
    unfold endsReturned
    cases front.getLast? with
    | none => rfl
    | some c => rfl
  rw [← lineFeedsAfter_false, lineFeedsAfter_append, returned, lineFeedsAfter_false]

theorem endsReturned_append {text : Text} {c : Char} (last : text.getLast? = some c) (front : Text) :
    endsReturned (front ++ text) = (c == '\r') := by
  have filled : text ≠ [] := by
    rintro rfl
    cases last
  rw [endsReturned, getLast?_append_of_filled front filled, last]
  rfl

theorem lineFeedsAfter_of_kept {returned : Bool} {text : Text}
    (kept : ∀ c ∈ text.head?, ¬ (returned = true ∧ c = '\n')) :
    lineFeedsAfter returned text = text.withLineFeeds := by
  cases text with
  | nil => rfl
  | cons c rest =>
    rw [lineFeedsAfter_kept (kept c rfl), ← lineFeedsAfter_false, lineFeedsAfter_kept (by simp)]

theorem placeOf_length (front text : Text) :
    placeOf (front ++ text) front.length = front.withLineFeeds.length := by
  rw [placeOf, List.take_left]

theorem placeOf_mono (text : Text) {first second : Nat} (before : first ≤ second) :
    text.placeOf first ≤ text.placeOf second := by
  have split : text.take second = text.take first ++ (text.take second).drop first := by
    have whole := List.take_append_drop first (text.take second)
    rw [List.take_take, Nat.min_eq_left before] at whole
    exact whole.symm
  rw [placeOf, placeOf, split, withLineFeeds_append_lineFeedsAfter, List.length_append]
  exact Nat.le_add_right _ _

/-- A character that is not blank keeps its two sides apart. -/
theorem placeOf_le_iff {front rest : Text} {c : Char} (solid : isBlank c = false) (offset : Nat) :
    placeOf (front ++ c :: rest) offset ≤ placeOf (front ++ c :: rest) front.length ↔
      offset ≤ front.length := by
  constructor
  · intro before
    by_contra beyond
    have next : placeOf (front ++ c :: rest) (front.length + 1) = front.withLineFeeds.length + 1 := by
      have taken : (front ++ c :: rest).take (front.length + 1) = front ++ [c] := by
        rw [List.take_length_add_append]
        rfl
      rw [placeOf, taken, withLineFeeds_concat solid, List.length_append, List.length_singleton]
    have later := placeOf_mono (front ++ c :: rest) (Nat.lt_of_not_le beyond)
    rw [Nat.succ_eq_add_one, next] at later
    rw [placeOf_length] at before
    omega
  · exact placeOf_mono _

end Text

def Extraction.withLineFeeds (document : Text) (extraction : Extraction) : Extraction :=
  { extraction with
    range :=
      { start := document.placeOf extraction.range.start.toNat
        stop := document.placeOf extraction.range.stop.toNat }
    uses := extraction.uses.map ClassUse.withLineFeeds }

namespace Locator

theorem locateFrom_passed (locator : Locator) (front rest : Text) (offset : Nat)
    (previous : Option Char) :
    locator.locateFrom offset front.length previous (front ++ rest) =
      locator.locateFrom (offset + front.length) 0 (front.getLast?.or previous) rest := by
  induction front generalizing offset previous with
  | nil => cases rest <;> rfl
  | cons c front ih =>
    rw [Scan.getLast?_or_cons, List.length_cons, Nat.add_comm front.length, ← Nat.add_assoc, ← ih,
      Nat.add_comm 1]
    rfl

/-- The search goes on behind what an opening passes over. -/
theorem locateFrom_openingUpTo {locator : Locator} {previous : Option Char} {taken rest : Text}
    {found : Option Attribute} (filled : taken ≠ [])
    (opens : locator previous (taken ++ rest) = openingUpTo (taken ++ rest) rest found) (offset : Nat) :
    locator.locateFrom offset 0 previous (taken ++ rest) =
      (found.map (·.extractionAt offset)).toList ++
        locator.locateFrom (offset + taken.length) 0 taken.getLast? rest := by
  obtain ⟨c, more, rfl⟩ := List.exists_cons_of_ne_nil filled
  have passed := locator.locateFrom_passed more rest (offset + 1) (some c)
  have last : (c :: more).getLast? = more.getLast?.or (some c) := by
    have before := Scan.getLast?_or_cons c more none
    rwa [Option.or_none] at before
  have lengths : offset + (c :: more).length = offset + 1 + more.length := by
    rw [List.length_cons]
    omega
  rw [List.cons_append] at opens
  rw [List.cons_append, locateFrom, opens, openingUpTo]
  dsimp only
  rw [last, lengths, ← passed]
  congr 2
  simp only [List.length_append, List.length_cons]
  omega

end Locator

/-- What is found at a place is the same, with line feeds. -/
theorem Attribute.extractionAt_withLineFeeds {front text : Text}
    (kept : ∀ c ∈ text.head?, ¬ (front.endsReturned = true ∧ c = '\n')) (found : Attribute) :
    (found.withLineFeeds text).extractionAt front.withLineFeeds.length =
      (found.extractionAt front.length).withLineFeeds (front ++ text) := by
  have start : Text.placeOf (front ++ text) front.length = front.withLineFeeds.length :=
    Text.placeOf_length front text
  have stop : Text.placeOf (front ++ text) (front.length + found.length) =
      front.withLineFeeds.length + text.placeOf found.length := by
    have keptHere : ∀ c ∈ (text.take found.length).head?, ¬ (front.endsReturned = true ∧ c = '\n') := by
      intro c head
      rw [List.head?_take] at head
      split at head
      · cases head
      · exact kept c head
    rw [Text.placeOf, List.take_length_add_append, Text.withLineFeeds_append_lineFeedsAfter,
      Text.lineFeedsAfter_of_kept keptHere, List.length_append, Text.placeOf]
  simp only [Attribute.extractionAt, Extraction.withLineFeeds, Attribute.withLineFeeds,
    Int.toNat_natCast, start, ← Int.natCast_add, stop]

theorem Locator.locateFrom_none {locator : Locator} {previous : Option Char} {c : Char} {rest : Text}
    (silent : locator previous (c :: rest) = none) (offset : Nat) :
    locator.locateFrom offset 0 previous (c :: rest) =
      locator.locateFrom (offset + 1) 0 (some c) rest := by
  rw [locateFrom, silent]

/-- The search with line feeds, from the middle of a document on. -/
def AttributeForm.LocatesAlike (form : AttributeForm) (front text : Text) : Prop :=
  form.locator.locateFrom front.withLineFeeds.length 0 front.withLineFeeds.getLast?
      (text.lineFeedsAfter front.endsReturned) =
    (form.locator.locateFrom front.length 0 front.getLast? text).map (·.withLineFeeds (front ++ text))

namespace AttributeForm

variable (form : AttributeForm) {front rest : Text}

/-- A line feed behind a carriage return is no place of its own. -/
theorem locatesAlike_of_passed (returned : front.endsReturned = true)
    (later : form.LocatesAlike (front ++ ['\n']) rest) : form.LocatesAlike front ('\n' :: rest) := by
  have fed : Text.withLineFeeds (front ++ ['\n']) = front.withLineFeeds := by
    rw [Text.withLineFeeds_append_lineFeedsAfter, returned]
    exact List.append_nil _
  have last : (front ++ ['\n']).getLast? = some '\n' := List.getLast?_concat
  unfold LocatesAlike at later ⊢
  rw [fed, last, Text.endsReturned_append rfl, List.length_append, List.append_assoc] at later
  rw [returned, Text.lineFeedsAfter_passed,
    Locator.locateFrom_none (form.locator_blank (by decide) _ _)]
  exact later

theorem locatesAlike_of_none {c : Char} (kept : ¬ (front.endsReturned = true ∧ c = '\n'))
    (plain : form.locator front.getLast? (c :: rest) = none)
    (fed : form.locator front.withLineFeeds.getLast? (Text.withLineFeeds (c :: rest)) = none)
    (later : form.LocatesAlike (front ++ [c]) rest) : form.LocatesAlike front (c :: rest) := by
  have shape : Text.withLineFeeds (c :: rest) = Text.lineFeed c :: rest.lineFeedsAfter (c == '\r') := by
    rw [← Text.lineFeedsAfter_false, Text.lineFeedsAfter_kept (by simp)]
  have fedFront : Text.withLineFeeds (front ++ [c]) = front.withLineFeeds ++ [Text.lineFeed c] := by
    rw [Text.withLineFeeds_append_lineFeedsAfter, Text.lineFeedsAfter_kept kept]
    rfl
  rw [shape] at fed
  unfold LocatesAlike at later ⊢
  rw [fedFront, Text.endsReturned_append rfl, List.getLast?_concat, List.getLast?_concat,
    List.length_append, List.length_append, List.append_assoc] at later
  rw [Text.lineFeedsAfter_kept kept, Locator.locateFrom_none plain, Locator.locateFrom_none fed]
  exact later

theorem locatesAlike_of_openingUpTo {taken : Text} {found : Option Attribute}
    (kept : ∀ c ∈ (taken ++ rest).head?, ¬ (front.endsReturned = true ∧ c = '\n'))
    (plain : form.locator front.getLast? (taken ++ rest) = openingUpTo (taken ++ rest) rest found)
    (fed : form.locator front.withLineFeeds.getLast? (taken.withLineFeeds ++ rest.withLineFeeds) =
      openingUpTo (taken.withLineFeeds ++ rest.withLineFeeds) rest.withLineFeeds
        (found.map (·.withLineFeeds (taken ++ rest))))
    (parts : taken.withLineFeeds ++ rest.withLineFeeds = Text.withLineFeeds (taken ++ rest)) {c : Char}
    (last : taken.getLast? = some c) (solid : isBlank c = false)
    (later : form.LocatesAlike (front ++ taken) rest) : form.LocatesAlike front (taken ++ rest) := by
  have filled : taken ≠ [] := by
    rintro rfl
    cases last
  have fedFilled : taken.withLineFeeds ≠ [] := fun empty =>
    filled (Text.withLineFeeds_eq_nil_iff.mp empty)
  have keptTaken : ∀ c ∈ taken.head?, ¬ (front.endsReturned = true ∧ c = '\n') := by
    rwa [Text.head?_append_of_filled filled] at kept
  have fedFront : Text.withLineFeeds (front ++ taken) = front.withLineFeeds ++ taken.withLineFeeds := by
    rw [Text.withLineFeeds_append_lineFeedsAfter, Text.lineFeedsAfter_of_kept keptTaken]
  unfold LocatesAlike at later ⊢
  rw [fedFront, Text.endsReturned_append last, Text.beq_return_of_solid solid,
    Text.lineFeedsAfter_false, Text.getLast?_append_of_filled _ filled, Text.getLast?_append_of_filled _ fedFilled,
    List.length_append, List.length_append, List.append_assoc] at later
  rw [Text.lineFeedsAfter_of_kept kept, ← parts, Locator.locateFrom_openingUpTo fedFilled fed,
    Locator.locateFrom_openingUpTo filled plain, List.map_append, later]
  congr 1
  cases found with
  | none => rfl
  | some opened => exact congrArg List.singleton (opened.extractionAt_withLineFeeds kept)

theorem locatesAlike (front text : Text) : form.LocatesAlike front text := by
  induction length : text.length using Nat.strongRecOn generalizing front text with
  | ind length ih =>
    have later : ∀ taken behind : Text, taken ++ behind = text → taken ≠ [] →
        form.LocatesAlike (front ++ taken) behind := by
      rintro taken behind rfl filled
      have short := List.length_pos_iff.mpr filled
      refine ih behind.length ?_ (front ++ taken) behind rfl
      rw [← length, List.length_append]
      omega
    cases text with
    | nil => rfl
    | cons c rest =>
      -- between the two characters of a line end, the text with line feeds has already gone on
      by_cases passed : front.endsReturned = true ∧ c = '\n'
      · obtain ⟨returned, rfl⟩ := passed
        exact form.locatesAlike_of_passed returned (later ['\n'] rest rfl (List.cons_ne_nil _ _))
      · have alike := form.opensAlike front.getLast? (c :: rest)
        rw [← Text.getLast?_withLineFeeds] at alike
        rcases alike with ⟨plain, fed⟩ | ⟨behind, found, splits, plain, fed⟩
        · exact form.locatesAlike_of_none passed plain fed (later [c] rest rfl (List.cons_ne_nil _ _))
        · obtain ⟨taken, whole, parts, d, last, solid⟩ := splits.exists_taken
          have kept : ∀ e ∈ (c :: rest).head?, ¬ (front.endsReturned = true ∧ e = '\n') := by
            rintro e ⟨⟩
            exact passed
          have filled : taken ≠ [] := by
            rintro rfl
            cases last
          have behindTaken := later taken behind whole.symm filled
          rw [← parts] at fed
          rw [whole] at kept plain fed parts ⊢
          exact form.locatesAlike_of_openingUpTo kept plain fed parts last solid behindTaken

theorem locate_withLineFeeds (document : Text) :
    form.locator.locate document.withLineFeeds =
      (form.locator.locate document).map (·.withLineFeeds document) := by
  have unreturned : Text.endsReturned [] = false := rfl
  have alike := form.locatesAlike [] document
  unfold LocatesAlike at alike
  rw [unreturned, Text.lineFeedsAfter_false] at alike
  exact alike

end AttributeForm

/-- The extraction begins at a character that is not blank. -/
def Extraction.StartsSolid (document : Text) (extraction : Extraction) : Prop :=
  ∃ front c rest, isBlank c = false ∧ document = front ++ c :: rest ∧
    extraction.range.start = front.length ∧ 0 ≤ extraction.range.stop

theorem startsSolid_of_mem_locate {form : AttributeForm} {document : Text} {extraction : Extraction}
    (located : extraction ∈ form.locator.locate document) : extraction.StartsSolid document := by
  have listed : form.locator ∈ allLocators := by
    rw [← AttributeForm.map_locator_all]
    exact List.mem_map_of_mem form.mem_all
  obtain ⟨before, taken, behind, stands⟩ := standsBetween_of_mem_locate listed located
  obtain ⟨c, rest, rfl, solid⟩ := stands.exists_solid
  have range := stands.range_eq
  refine ⟨before, c, rest ++ behind, solid, ?_, by rw [range], ?_⟩
  · rw [stands.whole, List.append_assoc, List.cons_append]
  · rw [range]
    dsimp only
    omega

/-- Where an extraction starts, places are in the same order. -/
theorem Extraction.StartsSolid.placeOf_le_iff {document : Text} {extraction : Extraction}
    (starts : extraction.StartsSolid document) (offset : Nat) :
    (document.placeOf offset : Int) ≤ (extraction.withLineFeeds document).range.start ↔
      (offset : Int) ≤ extraction.range.start := by
  obtain ⟨front, c, rest, solid, rfl, start, -⟩ := starts
  simp only [withLineFeeds, start, Int.toNat_natCast, Int.ofNat_le]
  exact Text.placeOf_le_iff solid offset

section

variable {document : Text} {extractions : List Extraction}
  (solid : ∀ extraction ∈ extractions, extraction.StartsSolid document)

include solid

theorem orderByStart_withLineFeeds :
    orderByStart (extractions.map (·.withLineFeeds document)) =
      (orderByStart extractions).map (·.withLineFeeds document) := by
  refine (List.map_mergeSort ?_).symm
  intro first inFirst second inSecond
  obtain ⟨front, -, -, -, -, start, -⟩ := solid first inFirst
  have same := (solid second inSecond).placeOf_le_iff front.length
  rw [Bool.eq_iff_iff, decide_eq_true_iff, decide_eq_true_iff, start, ← same]
  simp only [Extraction.withLineFeeds, start, Int.toNat_natCast]

theorem keepDisjoint_withLineFeeds (free : Nat) :
    keepDisjoint (document.placeOf free) (extractions.map (·.withLineFeeds document)) =
      (keepDisjoint free extractions).map (·.withLineFeeds document) := by
  induction extractions generalizing free with
  | nil => rfl
  | cons extraction others ih =>
    obtain ⟨first, later⟩ := List.forall_mem_cons.mp solid
    have sameOrder := first.placeOf_le_iff free
    obtain ⟨-, -, -, -, -, -, stop⟩ := first
    have next := ih later extraction.range.stop.toNat
    rw [Int.toNat_of_nonneg stop] at next
    rw [List.map_cons, keepDisjoint, keepDisjoint]
    simp only [sameOrder]
    split
    · rw [List.map_cons, ← next]
      rfl
    · exact ih later free

theorem removeOverlaps_withLineFeeds :
    removeOverlaps (extractions.map (·.withLineFeeds document)) =
      (removeOverlaps extractions).map (·.withLineFeeds document) := by
  have ordered : ∀ extraction ∈ orderByStart extractions, extraction.StartsSolid document :=
    fun extraction member => solid extraction (mem_orderByStart.mp member)
  have kept := keepDisjoint_withLineFeeds ordered 0
  have fromStart : keepDisjoint (-1) (orderByStart extractions) =
      keepDisjoint 0 (orderByStart extractions) := by
    apply keepDisjoint_eq_of_free
    intro extraction member
    obtain ⟨front, -, -, -, -, start, -⟩ := ordered extraction member
    rw [start]
    omega
  have fromStartFed : keepDisjoint (-1) ((orderByStart extractions).map (·.withLineFeeds document)) =
      keepDisjoint 0 ((orderByStart extractions).map (·.withLineFeeds document)) := by
    apply keepDisjoint_eq_of_free
    intro fed member
    obtain ⟨extraction, -, rfl⟩ := List.mem_map.mp member
    simp only [Extraction.withLineFeeds]
    omega
  rw [removeOverlaps, removeOverlaps, orderByStart_withLineFeeds solid, fromStart, fromStartFed]
  exact kept

end

/-- The extractions are the same ones, with line feeds. -/
theorem extractAll_withLineFeeds (document : Text) :
    extractAll document.withLineFeeds = (extractAll document).map (·.withLineFeeds document) := by
  rw [extractAll_eq, extractAll_eq, ← removeOverlaps_withLineFeeds, List.map_flatMap]
  · simp only [AttributeForm.locate_withLineFeeds]
  · intro extraction located
    obtain ⟨form, -, here⟩ := List.mem_flatMap.mp located
    exact startsSolid_of_mem_locate here

theorem tokens_withLineFeeds (use : ClassUse) : use.withLineFeeds.tokens = use.tokens :=
  Text.words_withLineFeeds use.classes

theorem uses_withLineFeeds (document : Text) (extractions : List Extraction) :
    (extractions.map (·.withLineFeeds document)).flatMap (·.uses) =
      (extractions.flatMap (·.uses)).map ClassUse.withLineFeeds := by
  rw [List.flatMap_map, List.map_flatMap]
  rfl

theorem allTokens_withLineFeeds (document : Text) (extractions : List Extraction) :
    allTokens (extractions.map (·.withLineFeeds document)) = allTokens extractions := by
  rw [allTokens, uses_withLineFeeds, List.flatMap_map]
  simp only [tokens_withLineFeeds]
  rfl

theorem namesUsed_withLineFeeds {wanted : ClassUse → Bool}
    (alike : ∀ use : ClassUse, wanted use.withLineFeeds = wanted use) (document : Text)
    (extractions : List Extraction) :
    namesUsed wanted (extractions.map (·.withLineFeeds document)) = namesUsed wanted extractions := by
  have same : wanted ∘ ClassUse.withLineFeeds = wanted := funext alike
  rw [namesUsed, uses_withLineFeeds, List.filter_map, same, List.flatMap_map]
  simp only [tokens_withLineFeeds]
  rfl

theorem conditionalOnly_withLineFeeds (document : Text) (extractions : List Extraction) :
    conditionalOnly (extractions.map (·.withLineFeeds document)) = conditionalOnly extractions := by
  unfold conditionalOnly
  rw [namesUsed_withLineFeeds (fun use => Option.isNone_map ..) document,
    namesUsed_withLineFeeds (fun use => Option.isSome_map ..) document]

theorem appearances_withLineFeeds (name document : Text) (extractions : List Extraction) :
    appearances name (extractions.map (·.withLineFeeds document)) =
      (appearances name extractions).map fun found =>
        (found.1.withLineFeeds document, found.2.withLineFeeds) := by
  simp only [appearances, List.flatMap_map, List.map_flatMap, Extraction.withLineFeeds,
    tokens_withLineFeeds, List.map_map]
  rfl

/-- The line at which an extraction starts if lines may end in any way. -/
def Extraction.lineAnyEnd (document : Text) (extraction : Extraction) : Nat :=
  (Text.withLineFeeds (document.take extraction.range.start.toNat)).count '\n' + 1

theorem line_withLineFeeds {document : Text} {extraction : Extraction}
    (starts : extraction.StartsSolid document) :
    (extraction.withLineFeeds document).line document.withLineFeeds =
      extraction.lineAnyEnd document := by
  obtain ⟨front, c, rest, solid, rfl, start, -⟩ := starts
  have apart : front.getLast? ≠ some '\r' ∨ (c :: rest).head? ≠ some '\n' := by
    refine Or.inr ?_
    rintro ⟨⟩
    exact absurd solid (by decide)
  simp only [Extraction.line, Extraction.lineAnyEnd, lineOf, Extraction.withLineFeeds, start,
    Int.toNat_natCast, Text.placeOf_length, List.take_left, Text.withLineFeeds_append apart]

/-- The summary of the document with line feeds: the classes are seen at the same places, in the lines
that end in any way. -/
def Summary.withLineFeeds (document : Text) (summary : Summary) : Summary :=
  { summary with
    extractions := summary.extractions.map (·.withLineFeeds document)
    table :=
      { summary.table with
        locations := summary.uniqueClasses.map fun name =>
          (name, (appearances name summary.extractions).map fun found =>
            Sighting.location ⟨name, found.1.lineAnyEnd document,
              found.2.condition.map Text.withLineFeeds⟩) } }

theorem startsSolid_of_mem_extractAll {document : Text} {extraction : Extraction}
    (extracted : extraction ∈ extractAll document) : extraction.StartsSolid document := by
  rw [extractAll_eq] at extracted
  obtain ⟨form, -, located⟩ := List.mem_flatMap.mp (mem_of_mem_removeOverlaps extracted)
  exact startsSolid_of_mem_locate located

theorem filter_sightings_withLineFeeds (document name : Text) :
    (sightings document.withLineFeeds (extractAll document.withLineFeeds)).filter (·.className = name) =
      (appearances name (extractAll document)).map fun found =>
        ⟨name, found.1.lineAnyEnd document, found.2.condition.map Text.withLineFeeds⟩ := by
  rw [filter_sightings, extractAll_withLineFeeds, appearances_withLineFeeds, List.map_map]
  apply List.map_congr_left
  intro found member
  have starts := startsSolid_of_mem_extractAll (mem_appearances.mp member).1
  rw [Function.comp_apply, line_withLineFeeds starts, ClassUse.withLineFeeds]

/-- A document with line feeds for all line ends has the same summary, at the places that stand for the
places in it. -/
theorem summarize_withLineFeeds (document : Text) :
    summarize document.withLineFeeds = (summarize document).withLineFeeds document := by
  have extractions := extractAll_withLineFeeds document
  have classes : (summarize document.withLineFeeds).uniqueClasses =
      (summarize document).uniqueClasses := by
    rw [uniqueClasses_summarize, uniqueClasses_summarize, extractions, allTokens_withLineFeeds]
  have counts : (summarize document.withLineFeeds).table.counts =
      (summarize document).table.counts := by
    rw [(table_summarize document.withLineFeeds).1, (table_summarize document).1, classes]
    simp only [filter_sightings, extractions, appearances_withLineFeeds, List.length_map]
  have locations : (summarize document.withLineFeeds).table.locations =
      ((summarize document).withLineFeeds document).table.locations := by
    rw [(table_summarize document.withLineFeeds).2, classes]
    simp only [filter_sightings_withLineFeeds, List.map_map]
    rfl
  have conditional : conditionalOnly (extractAll document.withLineFeeds) =
      conditionalOnly (extractAll document) := by
    rw [extractions, conditionalOnly_withLineFeeds]
  have table : (summarize document.withLineFeeds).table =
      ((summarize document).withLineFeeds document).table :=
    (ClassTable.mk.injEq ..).mpr ⟨counts, locations⟩
  exact (Summary.mk.injEq ..).mpr ⟨extractions, classes, table, conditional⟩

end ClassUsage
