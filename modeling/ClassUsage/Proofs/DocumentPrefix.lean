import ClassUsage.Proofs.LocatorOrder
import ClassUsage.Proofs.SummaryConsistency
import ClassUsage.Proofs.TopLevelSearch
import Mathlib.Data.List.Forall2
import Mathlib.Data.List.Infix

set_option autoImplicit false

/-!
Text put in front of a document. If it ends in a blank and holds no word with which an attribute
could begin, it only moves what is found, whatever marks and brackets it leaves open.
-/
namespace ClassUsage

namespace AttributeForm

def keywords : AttributeForm → List Text
  | plain | template | call | expression => ["class".toList]
  | binding => ["v-bind:class".toList, ":class".toList]
  | directive => ["class:".toList]
  | ngClass => ["[ngClass]".toList]
  | oneClass => ["[class.".toList]
  | classList => ["classList".toList]

theorem keyword_of_className {text name rest : Text} (named : text.className? = some (name, rest)) :
    ∃ keyword ∈ ["class".toList], ∃ behind, text = keyword ++ behind := by
  obtain ⟨rfl | rfl, rfl⟩ := Text.className?_eq_some named
  · exact ⟨_, List.mem_singleton_self _, "Name".toList ++ rest, rfl⟩
  · exact ⟨_, List.mem_singleton_self _, rest, rfl⟩

theorem keyword_of_braceOpening {previous : Option Char} {text : Text} {opened : Text × Text}
    (opens : braceOpening? previous text = some opened) :
    ∃ keyword ∈ ["class".toList], ∃ behind, text = keyword ++ behind := by
  obtain ⟨⟨name, rest⟩, named, -⟩ := Option.bind_eq_some_iff.mp opens
  exact keyword_of_className named

/-- Whatever a locator makes of a place, one of its words stands there. -/
theorem keyword_of_opens (form : AttributeForm) {previous : Option Char} {text : Text}
    {opening : Opening} (opens : form.locator previous text = some opening) :
    ∃ keyword ∈ form.keywords, ∃ behind, text = keyword ++ behind := by
  cases form with
  | plain =>
    obtain ⟨⟨name, rest⟩, named, -⟩ := Option.bind_eq_some_iff.mp opens
    exact keyword_of_className named
  | template =>
    obtain ⟨opened, brace, -⟩ := Option.bind_eq_some_iff.mp opens
    exact keyword_of_braceOpening brace
  | call =>
    obtain ⟨opened, called, -⟩ := Option.bind_eq_some_iff.mp opens
    obtain ⟨opened, brace, -⟩ := Option.bind_eq_some_iff.mp called
    exact keyword_of_braceOpening brace
  | expression =>
    obtain ⟨opened, brace, -⟩ := Option.bind_eq_some_iff.mp opens
    exact keyword_of_braceOpening brace
  | binding =>
    obtain ⟨⟨name, rest⟩, named, -⟩ := Option.bind_eq_some_iff.mp opens
    obtain ⟨known, split⟩ := vueName?_eq_some_iff.mp named
    exact ⟨name, by simpa [keywords, IsVueName] using known, rest, split⟩
  | directive =>
    obtain ⟨rest, named, -⟩ := Option.bind_eq_some_iff.mp opens
    exact ⟨_, List.mem_singleton_self _, rest, Text.eq_of_after named⟩
  | ngClass =>
    obtain ⟨rest, named, -⟩ := Option.bind_eq_some_iff.mp opens
    exact ⟨_, List.mem_singleton_self _, rest, Text.eq_of_after named⟩
  | oneClass =>
    obtain ⟨rest, named, -⟩ := Option.bind_eq_some_iff.mp opens
    exact ⟨_, List.mem_singleton_self _, rest, Text.eq_of_after named⟩
  | classList =>
    obtain ⟨rest, named, -⟩ := Option.bind_eq_some_iff.mp opens
    exact ⟨_, List.mem_singleton_self _, rest, Text.eq_of_after named⟩

theorem keyword_solid (form : AttributeForm) : ∀ keyword ∈ form.keywords,
    keyword.all (!isBlank ·) = true ∧
      ("class".toList <:+: keyword ∨ "ngClass".toList <:+: keyword) := by
  cases form <;> decide

/-- A blank before an attribute is as good as nothing. -/
theorem locator_of_isBlank (form : AttributeForm) {c : Char} (blank : isBlank c = true) (text : Text) :
    form.locator (some c) text = form.locator none text := by
  have notWord : isWordChar c = false := by
    cases word : isWordChar c with
    | false => rfl
    | true =>
      rw [isBlank_of_isWordChar word] at blank
      cases blank
  have notMark : ∀ mark : Char, isBlank mark = false → c ≠ mark := by
    rintro mark solid rfl
    rw [blank] at solid
    cases solid
  have asAttribute : mayBeginAttribute (some c) = mayBeginAttribute none := by
    simp [mayBeginAttribute, notWord, notMark ':' (by decide), notMark '.' (by decide),
      notMark '-' (by decide), notMark '[' (by decide), notMark '@' (by decide),
      notMark '$' (by decide)]
  have asKeyword : mayBeginKeyword (some c) = mayBeginKeyword none := by
    simp [mayBeginKeyword, notWord, notMark '-' (by decide)]
  have asDirective : mayBeginDirective (some c) = mayBeginDirective none := by
    simp [mayBeginDirective, notWord, notMark '-' (by decide), notMark ':' (by decide),
      notMark '.' (by decide)]
  have brace : braceOpening? (some c) text = braceOpening? none text := by
    simp only [braceOpening?, asAttribute]
  have call : helperOpening? (some c) text = helperOpening? none text := by
    simp only [helperOpening?, brace]
  cases form with
  | plain => simp only [locator, plainAttribute, asAttribute]
  | template => simp only [locator, jsxTemplate, brace]
  | call => simp only [locator, helperCall, call]
  | expression => simp only [locator, jsxExpression, brace, call]
  | binding => simp only [locator, vueBinding, asKeyword]
  | directive => simp only [locator, svelteDirective, asDirective]
  | ngClass => rfl
  | oneClass => rfl
  | classList => simp only [locator, solidClassList, asKeyword]

end AttributeForm

def Extraction.moved (distance : Nat) (extraction : Extraction) : Extraction :=
  { extraction with
    range := ⟨extraction.range.start + distance, extraction.range.stop + distance⟩ }

namespace Locator

theorem locateFrom_add (locator : Locator) (offset distance passed : Nat) (previous : Option Char)
    (text : Text) : locator.locateFrom (offset + distance) passed previous text =
      (locator.locateFrom offset passed previous text).map (·.moved distance) := by
  induction text generalizing offset passed previous with
  | nil => rfl
  | cons c rest ih =>
    have next : ∀ (left : Nat), locator.locateFrom (offset + distance + 1) left (some c) rest =
        (locator.locateFrom (offset + 1) left (some c) rest).map (·.moved distance) := by
      intro left
      rw [Nat.add_right_comm]
      exact ih (offset + 1) left (some c)
    cases passed with
    | succ passed => exact next passed
    | zero =>
      unfold locateFrom
      split
      · exact next 0
      · rename_i opening opens
        rw [List.map_append, next]
        congr 1
        cases opening.found with
        | none => rfl
        | some found =>
          simp only [Option.map_some, Option.toList_some, List.map_singleton, Attribute.extractionAt,
            Extraction.moved, Int.natCast_add, Int.add_right_comm]

/-- A text in which nothing opens is passed over, up to the character at its end. -/
theorem locateFrom_append (locator : Locator) {front document : Text}
    (silent : ∀ before c rest, front = before ++ c :: rest → ∀ previous,
      locator previous (c :: rest ++ document) = none)
    (offset : Nat) (previous : Option Char) :
    locator.locateFrom offset 0 previous (front ++ document) =
      locator.locateFrom (offset + front.length) 0 (front.getLast?.or previous) document := by
  induction front generalizing offset previous with
  | nil => rfl
  | cons c rest ih =>
    have later := ih (fun before d others split => silent (c :: before) d others (by rw [split]; rfl))
      (offset + 1) (some c)
    rw [Scan.getLast?_or_cons, List.length_cons, Nat.add_comm rest.length, ← Nat.add_assoc, ← later]
    rw [List.cons_append, locateFrom, ← List.cons_append, silent [] c rest rfl previous]

end Locator

theorem AttributeForm.locateFrom_of_isBlank (form : AttributeForm) {c : Char}
    (blank : isBlank c = true) (offset : Nat) (text : Text) :
    form.locator.locateFrom offset 0 (some c) text = form.locator.locateFrom offset 0 none text := by
  cases text with
  | nil => rfl
  | cons d rest =>
    unfold Locator.locateFrom
    rw [form.locator_of_isBlank blank]

theorem orderByStart_moved (distance : Nat) (extractions : List Extraction) :
    orderByStart (extractions.map (·.moved distance)) =
      (orderByStart extractions).map (·.moved distance) := by
  refine (List.map_mergeSort ?_).symm
  intro first _ second _
  simp only [Extraction.moved, Int.add_le_add_iff_right]

theorem keepDisjoint_moved (distance : Nat) (free : Int) (extractions : List Extraction) :
    keepDisjoint (free + distance) (extractions.map (·.moved distance)) =
      (keepDisjoint free extractions).map (·.moved distance) := by
  induction extractions generalizing free with
  | nil => rfl
  | cons extraction others ih =>
    have same : free + distance ≤ (extraction.moved distance).range.start ↔
        free ≤ extraction.range.start := Int.add_le_add_iff_right _
    simp only [List.map_cons, keepDisjoint, same]
    split
    · rw [List.map_cons]
      exact congrArg _ (ih extraction.range.stop)
    · exact ih free

/-- Where nothing is taken yet does not matter as long as all extractions start behind it. -/
theorem keepDisjoint_eq_of_free {first second : Int} {extractions : List Extraction}
    (behind : ∀ extraction ∈ extractions,
      first ≤ extraction.range.start ∧ second ≤ extraction.range.start) :
    keepDisjoint first extractions = keepDisjoint second extractions := by
  cases extractions with
  | nil => rfl
  | cons extraction others =>
    obtain ⟨afterFirst, afterSecond⟩ := behind extraction List.mem_cons_self
    unfold keepDisjoint
    rw [if_pos afterFirst, if_pos afterSecond]

theorem removeOverlaps_moved (distance : Nat) {extractions : List Extraction}
    (inside : ∀ extraction ∈ extractions, 0 ≤ extraction.range.start) :
    removeOverlaps (extractions.map (·.moved distance)) =
      (removeOverlaps extractions).map (·.moved distance) := by
  unfold removeOverlaps
  rw [orderByStart_moved, ← keepDisjoint_moved]
  apply keepDisjoint_eq_of_free
  intro moved member
  obtain ⟨extraction, listed, rfl⟩ := List.mem_map.mp member
  have start := inside extraction (mem_orderByStart.mp listed)
  simp only [Extraction.moved]
  omega

namespace AttributeForm

variable (form : AttributeForm) {front : Text} (ends : ∃ c ∈ front.getLast?, isBlank c = true)
  (absent : ∀ keyword ∈ form.keywords, ¬ keyword <:+: front)

include ends absent

/-- A word would lie in the front, or reach over its end and hold the blank there. -/
theorem locator_eq_none {before rest : Text} {c : Char} (split : front = before ++ c :: rest)
    (previous : Option Char) (document : Text) :
    form.locator previous (c :: rest ++ document) = none := by
  cases opens : form.locator previous (c :: rest ++ document) with
  | none => rfl
  | some opening =>
    exfalso
    obtain ⟨keyword, listed, behind, text⟩ := form.keyword_of_opens opens
    rcases List.append_eq_append_iff.mp text with ⟨tail, reaches, -⟩ | ⟨tail, inside, -⟩
    · obtain ⟨last, atEnd, blank⟩ := ends
      rw [split, List.getLast?_append_of_ne_nil _ (List.cons_ne_nil c rest)] at atEnd
      have inKeyword : last ∈ keyword := by
        rw [reaches]
        exact List.mem_append_left _ (List.mem_of_getLast? atEnd)
      have lastSolid := List.all_eq_true.mp (form.keyword_solid keyword listed).1 last inKeyword
      rw [blank] at lastSolid
      cases lastSolid
    · exact absent keyword listed ⟨before, tail, by rw [split, inside, List.append_assoc]⟩

theorem locate_append (document : Text) :
    form.locator.locate (front ++ document) =
      (form.locator.locate document).map (·.moved front.length) := by
  have silent : ∀ before c rest, front = before ++ c :: rest → ∀ previous,
      form.locator previous (c :: rest ++ document) = none :=
    fun before c rest split previous => form.locator_eq_none ends absent split previous document
  obtain ⟨last, atEnd, blank⟩ := ends
  calc form.locator.locate (front ++ document)
      = form.locator.locateFrom (0 + front.length) 0 (some last) document := by
        rw [Locator.locate, Locator.locateFrom_append form.locator silent, atEnd, Option.some_or]
    _ = form.locator.locateFrom (0 + front.length) 0 none document :=
        form.locateFrom_of_isBlank blank _ document
    _ = (form.locator.locate document).map (·.moved front.length) :=
        form.locator.locateFrom_add 0 front.length 0 none document

end AttributeForm

/-- Text that ends in a blank and holds none of the words with which an attribute begins. -/
structure Harmless (front : Text) : Prop where
  ends : ∃ c ∈ front.getLast?, isBlank c = true
  noClass : ¬ "class".toList <:+: front
  noNgClass : ¬ "ngClass".toList <:+: front

theorem Harmless.locate_append {front : Text} (harmless : Harmless front) (form : AttributeForm)
    (document : Text) : form.locator.locate (front ++ document) =
      (form.locator.locate document).map (·.moved front.length) := by
  apply form.locate_append harmless.ends
  intro keyword listed inFront
  rcases (form.keyword_solid keyword listed).2 with isClass | isNgClass
  · exact harmless.noClass (isClass.trans inFront)
  · exact harmless.noNgClass (isNgClass.trans inFront)

theorem start_nonneg {document : Text} {extraction : Extraction}
    (located : extraction ∈ AttributeForm.all.flatMap (·.locator.locate document)) :
    0 ≤ extraction.range.start := by
  obtain ⟨form, -, here⟩ := List.mem_flatMap.mp located
  exact Locator.start_of_mem_locateFrom here

theorem extractAll_eq (document : Text) :
    extractAll document = removeOverlaps (AttributeForm.all.flatMap (·.locator.locate document)) := by
  rw [extractAll, ← AttributeForm.map_locator_all, List.flatMap_map]

theorem Harmless.extractAll_append {front : Text} (harmless : Harmless front) (document : Text) :
    extractAll (front ++ document) = (extractAll document).map (·.moved front.length) := by
  rw [extractAll_eq, extractAll_eq, ← removeOverlaps_moved _ fun _ => start_nonneg, List.map_flatMap]
  simp only [harmless.locate_append]

def Sighting.lowered (lines : Nat) (sighting : Sighting) : Sighting :=
  { sighting with line := sighting.line + lines }

/-- The first place is the second one, some lines further down. -/
def PlaceBelow (lines : Nat) (below place : Text) : Prop :=
  ∃ sighting : Sighting, place = sighting.location ∧ below = (sighting.lowered lines).location

theorem lineOf_append (front document : Text) (offset : Nat) :
    lineOf (front ++ document) (offset + front.length) =
      lineOf document offset + front.count '\n' := by
  rw [lineOf, lineOf, Nat.add_comm offset, List.take_length_add_append, List.count_append]
  omega

theorem sightings_moved (front document : Text) {extractions : List Extraction}
    (inside : ∀ extraction ∈ extractions, 0 ≤ extraction.range.start) :
    sightings (front ++ document) (extractions.map (·.moved front.length)) =
      (sightings document extractions).map (·.lowered (front.count '\n')) := by
  rw [sightings, sightings, List.flatMap_map, List.map_flatMap]
  apply List.flatMap_congr
  intro extraction member
  have offset : (extraction.moved front.length).range.start.toNat =
      extraction.range.start.toNat + front.length := by
    have start := inside extraction member
    simp only [Extraction.moved]
    omega
  simp only [Extraction.sightings, offset, lineOf_append, List.map_flatMap, List.map_map]
  rfl

namespace ClassTable

theorem counts_lowered (lines : Nat) (seen : List Sighting) :
    (ofSightings (seen.map (·.lowered lines))).counts = (ofSightings seen).counts := by
  simp only [counts_ofSightings, List.map_map, List.filter_map, List.length_map]
  rfl

theorem locations_lowered (lines : Nat) (seen : List Sighting) :
    List.Forall₂ (fun lower upper =>
        lower.1 = upper.1 ∧ List.Forall₂ (PlaceBelow lines) lower.2 upper.2)
      (ofSightings (seen.map (·.lowered lines))).locations (ofSightings seen).locations := by
  have names : (seen.map (·.lowered lines)).map (·.className) = seen.map (·.className) := by
    rw [List.map_map]
    rfl
  rw [locations_ofSightings, locations_ofSightings, names, List.forall₂_map_left_iff,
    List.forall₂_map_right_iff, List.forall₂_same]
  intro name _
  refine ⟨rfl, ?_⟩
  rw [List.filter_map, List.map_map, List.forall₂_map_left_iff, List.forall₂_map_right_iff]
  exact List.forall₂_same.mpr fun sighting _ => ⟨sighting, rfl, rfl⟩

end ClassTable

/-- What stands in front of a document moves its extractions and their lines and does nothing else,
even if it leaves marks and brackets open, as long as it ends in a blank and holds no word with which
an attribute begins. -/
theorem document_append_moves {front : Text} (ends : ∃ c ∈ front.getLast?, isBlank c = true)
    (noClass : ¬ "class".toList <:+: front) (noNgClass : ¬ "ngClass".toList <:+: front)
    (document : Text) :
    extractAll (front ++ document) = (extractAll document).map (·.moved front.length) ∧
      (classTable (front ++ document)).counts = (classTable document).counts ∧
      List.Forall₂ (fun lower upper =>
          lower.1 = upper.1 ∧ List.Forall₂ (PlaceBelow (front.count '\n')) lower.2 upper.2)
        (classTable (front ++ document)).locations (classTable document).locations := by
  have extractions := Harmless.extractAll_append ⟨ends, noClass, noNgClass⟩ document
  have inside : ∀ extraction ∈ extractAll document, 0 ≤ extraction.range.start := by
    intro extraction member
    rw [extractAll_eq] at member
    exact start_nonneg (mem_of_mem_removeOverlaps member)
  have seen := sightings_moved front document inside
  refine ⟨extractions, ?_, ?_⟩
  · rw [classTable, classTable, extractions, seen]
    exact ClassTable.counts_lowered _ _
  · rw [classTable, classTable, extractions, seen]
    exact ClassTable.locations_lowered _ _

theorem document_append_moves_open_marks :
    (∃ c ∈ "it\x27s [\\\n ".toList.getLast?, isBlank c = true) ∧
      ¬ "class".toList <:+: "it\x27s [\\\n ".toList ∧
      ¬ "ngClass".toList <:+: "it\x27s [\\\n ".toList ∧
      extractAll "<a class=\x27b\x27>".toList ≠ [] ∧
      extractAll ("it\x27s [\\\n ".toList ++ "<a class=\x27b\x27>".toList) =
        (extractAll "<a class=\x27b\x27>".toList).map (·.moved 9) := by
  have noClass : ¬ "class".toList <:+: "it\x27s [\\\n ".toList := by decide +kernel
  have noNgClass : ¬ "ngClass".toList <:+: "it\x27s [\\\n ".toList := by decide +kernel
  have ends : ∃ c ∈ "it\x27s [\\\n ".toList.getLast?, isBlank c = true := ⟨' ', rfl, rfl⟩
  refine ⟨ends, noClass, noNgClass, by decide +kernel, ?_⟩
  exact (document_append_moves ends noClass noNgClass _).1

end ClassUsage
