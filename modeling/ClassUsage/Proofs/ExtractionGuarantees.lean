import ClassUsage.Proofs.DocumentExtraction

set_option autoImplicit false

/-! What holds of all extractions of any document. -/
namespace ClassUsage

theorem eq_or_start_of_mem_taken {document before taken behind : Text} {extraction : Extraction}
    (stands : StandsBetween document extraction before taken behind) {other : Extraction}
    (located : other ∈ allLocators.flatMap (·.locate (taken ++ [' ']))) :
    other = ⟨extraction.kind, extraction.name, ⟨0, taken.length⟩, extraction.uses⟩ ∨
      0 < other.range.start := by
  obtain ⟨-, form, found, -, occupies, rfl⟩ := stands
  obtain ⟨locator, listed, reported⟩ := List.mem_flatMap.mp located
  obtain ⟨front, inner, back, whole, otherForm, otherFound, finds, -, rfl⟩ :=
    standsBetween_of_mem_locate listed reported
  cases front with
  | cons c front =>
    right
    simp only [Attribute.extractionAt, List.length_cons]
    omega
  | nil =>
    left
    -- both are found at the start, so they are found by the same locator
    rw [List.nil_append] at whole
    rw [List.getLast?_nil, ← whole] at finds
    obtain rfl := AttributeForm.found_eq_of_finds finds occupies.again
    simp only [Attribute.extractionAt, occupies.length, List.length_nil, Int.natCast_zero, Int.zero_add]

theorem start_lt_of_mem_taken {taken : Text} {other : Extraction}
    (located : other ∈ allLocators.flatMap (·.locate (taken ++ [' ']))) :
    other.range.start < taken.length := by
  obtain ⟨locator, listed, reported⟩ := List.mem_flatMap.mp located
  obtain ⟨front, inner, back, stands⟩ := standsBetween_of_mem_locate listed reported
  obtain ⟨c, rest, rfl, solid⟩ := stands.exists_solid
  rw [stands.range_eq]
  by_contra late
  have long : taken.length ≤ front.length := by
    have := Int.not_lt.mp late
    simpa using this
  have lengths := congrArg List.length stands.whole
  simp only [List.length_append, List.length_cons, List.length_nil] at lengths
  have atEnd : front.length = taken.length := by omega
  have same : taken ++ [' '] = front ++ (c :: rest ++ back) := by
    rw [stands.whole, List.append_assoc]
  have last := (List.append_inj same atEnd.symm).2
  rw [List.cons_append] at last
  cases (List.cons.inj last).1
  cases solid

/-- What is extracted from an attribute is decided by the attribute alone. -/
theorem extractAll_slice {document : Text} {extraction : Extraction}
    (extracted : extraction ∈ extractAll document) :
    ∃ start stop : Nat, extraction.range = ⟨start, stop⟩ ∧ stop ≤ document.length ∧
      extraction.name <+: document.drop start ∧
      extractAll (document.slice start stop ++ [' ']) =
        [⟨extraction.kind, extraction.name, ⟨0, stop - start⟩, extraction.uses⟩] := by
  obtain ⟨before, taken, behind, stands⟩ := standsBetween_of_mem_extractAll extracted
  refine ⟨before.length, before.length + taken.length, stands.range_eq, stands.stop_le,
    stands.name_isPrefix, ?_⟩
  have width : ((before.length + taken.length : Nat) : Int) - before.length = taken.length := by
    omega
  rw [stands.slice_eq, width]
  apply removeOverlaps_eq_singleton stands.mem_locate_taken
  · simp only
    omega
  · intro other located
    exact start_lt_of_mem_taken located
  · intro other located
    exact eq_or_start_of_mem_taken stands located

theorem extractAll_slice_plain :
    ∃ start stop : Nat, (⟨3, 14⟩ : SourceRange) = ⟨start, stop⟩ ∧ stop ≤ 15 ∧
      "class".toList <+: List.drop start "<a class=\x27b c\x27>".toList ∧
      extractAll (Text.slice "<a class=\x27b c\x27>".toList start stop ++ [' ']) =
        [⟨.simple, "class".toList, ⟨0, stop - start⟩, [⟨"b c".toList, none⟩]⟩] :=
  have extracted : (⟨.simple, "class".toList, ⟨3, 14⟩, [⟨"b c".toList, none⟩]⟩ : Extraction) ∈
      extractAll "<a class=\x27b c\x27>".toList := by decide +kernel
  extractAll_slice extracted

theorem Kind.ofName?_name (kind : Kind) : Kind.ofName? kind.name = some kind := by
  cases kind <;> decide

/-- What a locator reports is not refused when it is built. -/
theorem StandsBetween.build_eq {document before taken behind : Text} {extraction : Extraction}
    (stands : StandsBetween document extraction before taken behind) :
    Extraction.build extraction.uses extraction.range.start extraction.range.stop
      extraction.kind.name extraction.name = .ok extraction := by
  have positive := stands.length_pos
  have forward : ¬ extraction.range.stop ≤ extraction.range.start := by
    rw [stands.range_eq]
    simp only
    omega
  unfold Extraction.build
  rw [Kind.ofName?_name]
  dsimp only
  rw [if_neg forward]

/-- An extraction takes up a part of the document that is not empty. -/
theorem range_of_mem_extractAll {document : Text} {extraction : Extraction}
    (extracted : extraction ∈ extractAll document) :
    0 ≤ extraction.range.start ∧ extraction.range.start < extraction.range.stop ∧
      extraction.range.stop ≤ document.length := by
  obtain ⟨before, taken, behind, stands⟩ := standsBetween_of_mem_extractAll extracted
  have positive := stands.length_pos
  have within := stands.stop_le
  rw [stands.range_eq]
  refine ⟨?_, ?_, ?_⟩ <;> simp only <;> omega

/-- Each extraction ends before the next one starts, or where it starts. -/
theorem extractAll_pairwise (document : Text) :
    (extractAll document).Pairwise fun first second => first.range.stop ≤ second.range.start := by
  apply removeOverlaps_pairwise
  intro extraction located
  obtain ⟨locator, listed, reported⟩ := List.mem_flatMap.mp located
  obtain ⟨before, taken, behind, stands⟩ := standsBetween_of_mem_locate listed reported
  rw [stands.range_eq]
  simp only
  omega

/-- Every extraction is well-formed: it takes up a part of the document that is not empty and ends
before the next one, it has uses, its class lists are those of the uses, and each of them is trimmed
and has a word. Nothing that a locator reports is refused when it is built. -/
theorem extractAll_wellFormed (document : Text) :
    (∀ extraction ∈ extractAll document,
      0 ≤ extraction.range.start ∧ extraction.range.start < extraction.range.stop ∧
      extraction.range.stop ≤ document.length ∧
      extraction.uses ≠ [] ∧ extraction.classStrings = extraction.uses.map (·.classes) ∧
      ∀ classes ∈ extraction.classStrings,
        classes.trim = classes ∧ classes ≠ [] ∧ classes.words ≠ []) ∧
    (extractAll document).Pairwise (fun first second => first.range.stop ≤ second.range.start) ∧
    ∀ locator ∈ allLocators, ∀ extraction ∈ locator.locate document,
      Extraction.build extraction.uses extraction.range.start extraction.range.stop
        extraction.kind.name extraction.name = .ok extraction := by
  refine ⟨?_, extractAll_pairwise document, ?_⟩
  · intro extraction extracted
    obtain ⟨start, forward, within⟩ := range_of_mem_extractAll extracted
    obtain ⟨before, taken, behind, stands⟩ := standsBetween_of_mem_extractAll extracted
    refine ⟨start, forward, within, stands.filled, rfl, ?_⟩
    intro classes listed
    obtain ⟨use, member, rfl⟩ := List.mem_map.mp listed
    have tidy := stands.drawn.tidy use member
    exact ⟨tidy.trimmed, tidy.filled, tidy.words_ne_nil⟩
  · intro locator listed extraction located
    obtain ⟨before, taken, behind, stands⟩ := standsBetween_of_mem_locate listed located
    exact stands.build_eq

/-- No class text is invented, moved, repeated or put together from parts: the class lists of a
fragment stand in it one after another, and those of an extraction in its part of the document. -/
theorem classes_placed :
    (∀ (form : ExpressionForm) (limit : Int) (fragment : Text) (uses : List ClassUse),
      parseForm form limit fragment = some uses →
        ∃ offsets, Text.PlacedAt fragment fragment.length 0 offsets (uses.map (·.classes))) ∧
    ∀ (document : Text), ∀ extraction ∈ extractAll document,
      ∃ (start stop : Nat) (offsets : List Nat), extraction.range = ⟨start, stop⟩ ∧
        stop ≤ document.length ∧
        Text.PlacedAt document stop start offsets extraction.classStrings := by
  constructor
  · intro form limit fragment uses parsed
    have placed := Text.placedAt_of_inOrder (drawn_parseForm parsed).placed [] []
    simpa only [List.nil_append, List.append_nil, List.length_nil, Nat.zero_add] using placed
  · intro document extraction extracted
    obtain ⟨before, taken, behind, stands⟩ := standsBetween_of_mem_extractAll extracted
    obtain ⟨offsets, placed⟩ := Text.placedAt_of_inOrder stands.drawn.placed before behind
    refine ⟨before.length, before.length + taken.length, offsets, stands.range_eq, stands.stop_le, ?_⟩
    rw [stands.whole]
    exact placed

theorem classes_placed_nested :
    (∃ offsets, Text.PlacedAt "\x60a $\x7bx && \x27 b \x27\x7dc\x60".toList 18 0 offsets
      ["a".toList, "b".toList, "c".toList]) ∧
    ∃ (start stop : Nat) (offsets : List Nat), (⟨3, 20⟩ : SourceRange) = ⟨start, stop⟩ ∧ stop ≤ 21 ∧
      Text.PlacedAt "<a class=\x7bx && \x27 b\x27\x7d>".toList stop start offsets ["b".toList] := by
  have parsed : parseForm .template 200 "\x60a $\x7bx && \x27 b \x27\x7dc\x60".toList =
      some [⟨"a".toList, none⟩, ⟨"b".toList, some "x".toList⟩, ⟨"c".toList, none⟩] := by
    decide +kernel
  have extracted : (⟨.mixed, "class".toList, ⟨3, 20⟩, [⟨"b".toList, some "x".toList⟩]⟩ : Extraction) ∈
      extractAll "<a class=\x7bx && \x27 b\x27\x7d>".toList := by decide +kernel
  exact ⟨classes_placed.1 .template 200 _ _ parsed, classes_placed.2 _ _ extracted⟩

end ClassUsage
