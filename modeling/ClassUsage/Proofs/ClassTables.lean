import ClassUsage.Proofs.ClassNames
import Mathlib.Data.List.Induction

set_option autoImplicit false

/-!
Tables of classes. They grow by one sighting after another; what they hold in the end is said here
without that order of events: each class stands where it was seen first, with the number of its
sightings and with their places.
-/
namespace ClassUsage

section Entries

variable {α : Type}

theorem changeEntry_of_mem {names : List Text} (distinct : names.Nodup) {name : Text}
    (listed : name ∈ names) (initial : α) (change : α → α) (value : Text → α) :
    changeEntry name initial change (names.map fun other => (other, value other)) =
      names.map fun other => (other, if name = other then change (value other) else value other) := by
  induction names with
  | nil => cases listed
  | cons first others ih =>
    obtain ⟨absent, apart⟩ := List.nodup_cons.mp distinct
    simp only [List.map_cons, changeEntry]
    by_cases same : name = first
    · subst same
      have kept : ∀ other ∈ others, (other, value other) =
          (other, if name = other then change (value other) else value other) := by
        intro other member
        have different : name ≠ other := by
          rintro rfl
          exact absent member
        rw [if_neg different]
      rw [if_pos rfl, if_pos rfl, List.map_congr_left kept]
    · have later := (List.mem_cons.mp listed).resolve_left same
      rw [if_neg fun equal => same equal.symm, if_neg same, ih apart later]

theorem changeEntry_of_not_mem {names : List Text} {name : Text} (absent : name ∉ names) (initial : α)
    (change : α → α) (value : Text → α) :
    changeEntry name initial change (names.map fun other => (other, value other)) =
      (names.map fun other => (other, value other)) ++ [(name, change initial)] := by
  induction names with
  | nil => rfl
  | cons first others ih =>
    have different : first ≠ name := fun equal => List.ne_of_not_mem_cons absent equal.symm
    simp only [List.map_cons, List.cons_append, changeEntry]
    rw [if_neg different, ih (List.not_mem_of_not_mem_cons absent)]

/-- Entries changed for one item after another hold, for each name in the order in which the names
came in, all that the items of that name have added up to. -/
theorem foldl_changeEntry {ι : Type} (key : ι → Text) (initial : α) (change : α → ι → α)
    (items : List ι) :
    items.foldl (fun entries item => changeEntry (key item) initial (change · item) entries) [] =
      (firstOccurrences (items.map key)).map fun name =>
        (name, (items.filter (key · = name)).foldl change initial) := by
  induction items using List.reverseRecOn with
  | nil => rfl
  | append_singleton items item ih =>
    -- the new item adds to what there is of its own name, and to no other
    have added : ∀ name, ((items ++ [item]).filter (key · = name)).foldl change initial =
        if key item = name then change ((items.filter (key · = name)).foldl change initial) item
        else (items.filter (key · = name)).foldl change initial := by
      intro name
      rw [List.filter_append, List.foldl_append]
      by_cases same : key item = name
      · simp [same]
      · simp [same]
    rw [List.foldl_append, ih, List.map_append, List.map_singleton, firstOccurrences_append_singleton,
      List.foldl_cons, List.foldl_nil]
    simp only [added]
    by_cases seen : key item ∈ items.map key
    · rw [if_pos seen]
      exact changeEntry_of_mem (nodup_firstOccurrences _) (mem_firstOccurrences.mpr seen) _ _ _
    · have unseen : key item ∉ firstOccurrences (items.map key) := fun member =>
        seen (mem_firstOccurrences.mp member)
      have none_before : items.filter (key · = key item) = [] := by
        rw [List.filter_eq_nil_iff]
        intro other member equal
        exact seen (List.mem_map.mpr ⟨other, member, by simpa using equal⟩)
      have kept : ∀ name ∈ firstOccurrences (items.map key),
          (name, (items.filter (key · = name)).foldl change initial) = (name,
            if key item = name then change ((items.filter (key · = name)).foldl change initial) item
            else (items.filter (key · = name)).foldl change initial) := by
        intro name member
        have different : key item ≠ name := by
          rintro rfl
          exact unseen member
        rw [if_neg different]
      rw [changeEntry_of_not_mem unseen, if_neg seen, List.map_append, List.map_singleton,
        if_pos rfl, none_before, List.foldl_nil, List.map_congr_left kept]

theorem lookup_map_of_mem {names : List Text} {name : Text} (listed : name ∈ names)
    (value : Text → α) : (names.map fun other => (other, value other)).lookup name =
      some (value name) := by
  induction names with
  | nil => cases listed
  | cons first others ih =>
    by_cases same : name = first
    · simp [same]
    · have later := ih ((List.mem_cons.mp listed).resolve_left same)
      simpa [List.lookup_cons, beq_eq_false_iff_ne.mpr same] using later

end Entries

namespace ClassTable

theorem counts_foldl_add (table : ClassTable) (seen : List Sighting) :
    (seen.foldl add table).counts =
      seen.foldl (fun counts sighting => changeEntry sighting.className 0 (· + 1) counts)
        table.counts := by
  induction seen generalizing table with
  | nil => rfl
  | cons first others ih => exact ih (table.add first)

theorem locations_foldl_add (table : ClassTable) (seen : List Sighting) :
    (seen.foldl add table).locations =
      seen.foldl (fun locations sighting =>
        changeEntry sighting.className [] (· ++ [sighting.location]) locations) table.locations := by
  induction seen generalizing table with
  | nil => rfl
  | cons first others ih => exact ih (table.add first)

/-- The classes of a table, with the number of sightings of each. -/
theorem counts_ofSightings (seen : List Sighting) :
    (ofSightings seen).counts = (firstOccurrences (seen.map (·.className))).map fun name =>
      (name, (seen.filter (·.className = name)).length) := by
  have counted : ∀ (start : Nat) (found : List Sighting),
      found.foldl (fun count _ => count + 1) start = start + found.length := by
    intro start found
    rw [List.foldl_add_const, Nat.one_mul]
  rw [ofSightings, counts_foldl_add]
  refine (foldl_changeEntry Sighting.className 0 (fun count _ => count + 1) seen).trans ?_
  simp only [counted, Nat.zero_add]

/-- The classes of a table, with the places of the sightings of each. -/
theorem locations_ofSightings (seen : List Sighting) :
    (ofSightings seen).locations = (firstOccurrences (seen.map (·.className))).map fun name =>
      (name, (seen.filter (·.className = name)).map Sighting.location) := by
  rw [ofSightings, locations_foldl_add]
  refine (foldl_changeEntry Sighting.className []
    (fun places sighting => places ++ [sighting.location]) seen).trans ?_
  simp only [List.foldl_append_eq_append, List.nil_append, ← List.flatMap_def, ← List.map_eq_flatMap]

end ClassTable

namespace Sighting

theorem isDigit_of_mem_number {line : Nat} {c : Char} (member : c ∈ (toString line).toList) :
    c.isDigit = true := by
  rw [Nat.toString_eq_ofList_toDigits, String.toList_ofList] at member
  exact Nat.isDigit_of_mem_toDigits (by decide) (by decide) member

/-- A number is told from what stands behind it, unless that goes on with a digit. -/
theorem number_append_inj {first second : Nat} {front back : Text}
    (atFront : ∀ c ∈ front.head?, c.isDigit = false) (atBack : ∀ c ∈ back.head?, c.isDigit = false)
    (same : (toString first).toList ++ front = (toString second).toList ++ back) :
    first = second ∧ front = back := by
  have taken : ∀ (line : Nat) (rest : Text), (∀ c ∈ rest.head?, c.isDigit = false) →
      ((toString line).toList ++ rest).takeWhile Char.isDigit = (toString line).toList := by
    intro line rest ends
    rw [List.takeWhile_append_of_pos fun c member => isDigit_of_mem_number member]
    cases rest with
    | nil => rw [List.takeWhile_nil, List.append_nil]
    | cons c others =>
      rw [List.takeWhile_cons_of_neg (by simp [ends c rfl]), List.append_nil]
  have digits : (toString first).toList = (toString second).toList := by
    rw [← taken first front atFront, same, taken second back atBack]
  rw [digits] at same
  refine ⟨?_, List.append_cancel_left same⟩
  rw [Nat.toString_eq_ofList_toDigits, Nat.toString_eq_ofList_toDigits, String.toList_ofList,
    String.toList_ofList] at digits
  simpa only [Nat.ofDigitChars_ten_toDigits] using congrArg (Nat.ofDigitChars 10 · 0) digits

theorem conditionWords_some (condition : Text) :
    conditionWords (some condition) = ' ' :: ("(if ".toList ++ (condition ++ [')'])) := rfl

theorem head_conditionWords (condition : Option Text) :
    ∀ c ∈ (conditionWords condition).head?, c.isDigit = false := by
  intro c head
  cases condition with
  | none => cases head
  | some condition =>
    cases head
    decide

theorem conditionWords_injective : Function.Injective conditionWords := by
  intro first second same
  cases first with
  | none =>
    cases second with
    | none => rfl
    | some condition => cases same
  | some condition =>
    cases second with
    | none => cases same
    | some other =>
      rw [conditionWords_some, conditionWords_some] at same
      have behind := List.append_cancel_left (List.cons.inj same).2
      exact congrArg some (List.append_cancel_right behind)

/-- The words for a place tell the line and the condition. -/
theorem eq_of_location_eq {first second : Sighting} (same : first.location = second.location) :
    first.line = second.line ∧ first.condition = second.condition := by
  unfold location at same
  rw [List.append_assoc, List.append_assoc] at same
  obtain ⟨line, words⟩ := number_append_inj (head_conditionWords first.condition)
    (head_conditionWords second.condition) (List.append_cancel_left same)
  exact ⟨line, conditionWords_injective words⟩

end Sighting
end ClassUsage
