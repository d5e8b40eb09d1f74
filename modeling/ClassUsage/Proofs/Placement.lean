import ClassUsage.ClassUse
import ClassUsage.Proofs.Trimming

set_option autoImplicit false

/-!
Pieces of a text that stand in it one after another: none is invented, moved in front of an earlier
one, used twice or put together from parts that were apart.
-/
namespace ClassUsage

namespace Text

/-- The pieces stand in the text in this order, and no two of them overlap. -/
def InOrder : List Text → Text → Prop
  | [], _ => True
  | piece :: pieces, text =>
    ∃ before after, text = before ++ piece ++ after ∧ InOrder pieces after

/-- The pieces stand at the offsets, each behind the one before it, the first not before `start` and
the last not beyond `stop`. -/
def PlacedAt (text : Text) (stop : Nat) : Nat → List Nat → List Text → Prop
  | start, [], [] => start ≤ stop
  | start, offset :: offsets, piece :: pieces =>
    start ≤ offset ∧ text.slice offset (offset + piece.length) = piece ∧
      PlacedAt text stop (offset + piece.length) offsets pieces
  | _, _, _ => False

theorem inOrder_singleton (before piece after : Text) : InOrder [piece] (before ++ piece ++ after) :=
  ⟨before, after, rfl, trivial⟩

theorem InOrder.append_right {pieces : List Text} {text : Text} (placed : InOrder pieces text)
    (more : Text) : InOrder pieces (text ++ more) := by
  induction pieces generalizing text with
  | nil => trivial
  | cons piece pieces ih =>
    obtain ⟨before, after, rfl, others⟩ := placed
    exact ⟨before, after ++ more, by simp only [List.append_assoc], ih others⟩

theorem InOrder.append_left {pieces : List Text} {text : Text} (placed : InOrder pieces text)
    (more : Text) : InOrder pieces (more ++ text) := by
  cases pieces with
  | nil => trivial
  | cons piece pieces =>
    obtain ⟨before, after, rfl, others⟩ := placed
    exact ⟨more ++ before, after, by simp only [List.append_assoc], others⟩

theorem InOrder.within {pieces : List Text} {text : Text} (placed : InOrder pieces text)
    (before after : Text) : InOrder pieces (before ++ text ++ after) :=
  (placed.append_left before).append_right after

theorem InOrder.append {first second : List Text} {front back : Text}
    (inFront : InOrder first front) (inBack : InOrder second back) :
    InOrder (first ++ second) (front ++ back) := by
  induction first generalizing front with
  | nil => exact inBack.append_left front
  | cons piece pieces ih =>
    obtain ⟨before, after, rfl, others⟩ := inFront
    exact ⟨before, after ++ back, by simp only [List.append_assoc], ih others⟩

/-- Pieces of pieces stand in the text as well. -/
theorem InOrder.flatMap {pieces : List Text} {text : Text} {inner : Text → List Text}
    (placed : InOrder pieces text) (each : ∀ piece ∈ pieces, InOrder (inner piece) piece) :
    InOrder (pieces.flatMap inner) text := by
  induction pieces generalizing text with
  | nil => trivial
  | cons piece pieces ih =>
    obtain ⟨before, after, rfl, others⟩ := placed
    have first := (each piece List.mem_cons_self).append_left before
    exact first.append (ih others fun other member => each other (List.mem_cons_of_mem _ member))

theorem InOrder.filter {pieces : List Text} {text : Text} (placed : InOrder pieces text)
    (keep : Text → Bool) : InOrder (pieces.filter keep) text := by
  induction pieces generalizing text with
  | nil => trivial
  | cons piece pieces ih =>
    obtain ⟨before, after, decomposed, others⟩ := placed
    rw [List.filter_cons]
    split
    · exact ⟨before, after, decomposed, ih others⟩
    · rw [decomposed]
      exact (ih others).append_left (before ++ piece)

theorem InOrder.of_trim {pieces : List Text} {text : Text} (placed : InOrder pieces text.trim) :
    InOrder pieces text := by
  obtain ⟨before, after, -, -, decomposed⟩ := exists_trim text
  rw [decomposed]
  exact placed.within before after

/-- A text that stands in a longer one is what is read between its offsets. -/
theorem slice_middle (before piece after : Text) :
    slice (before ++ piece ++ after) before.length (before.length + piece.length) = piece := by
  rw [slice, List.take_append_of_le_length (by simp only [List.length_append, Nat.le_refl]),
    List.take_of_length_le (by simp only [List.length_append, Nat.le_refl]), List.drop_left]

theorem placedAt_of_inOrder {pieces : List Text} {middle : Text} (placed : InOrder pieces middle)
    (front back : Text) :
    ∃ offsets, PlacedAt (front ++ middle ++ back) (front.length + middle.length) front.length
      offsets pieces := by
  induction pieces generalizing front middle with
  | nil => exact ⟨[], Nat.le_add_right _ _⟩
  | cons piece pieces ih =>
    obtain ⟨before, after, rfl, others⟩ := placed
    have regrouped : front ++ (before ++ piece ++ after) ++ back =
        (front ++ before) ++ piece ++ (after ++ back) := by simp only [List.append_assoc]
    have moved : front ++ (before ++ piece ++ after) ++ back =
        (front ++ before ++ piece) ++ after ++ back := by simp only [List.append_assoc]
    obtain ⟨offsets, rest⟩ := ih others (front ++ before ++ piece)
    refine ⟨(front ++ before).length :: offsets, ?_, ?_, ?_⟩
    · simp only [List.length_append, Nat.le_add_right]
    · rw [regrouped]
      exact slice_middle _ _ _
    · rw [moved]
      simp only [List.length_append, Nat.add_assoc] at rest ⊢
      exact rest

end Text

/-- The class uses have tidy class lists that stand in the text in the order of the uses. -/
structure Drawn (uses : List ClassUse) (text : Text) : Prop where
  placed : Text.InOrder (uses.map (·.classes)) text
  tidy : ∀ use ∈ uses, Text.IsTidy use.classes

namespace Drawn

@[simp] theorem nil (text : Text) : Drawn [] text :=
  ⟨trivial, by simp only [List.not_mem_nil, false_implies, implies_true]⟩

theorem single {classes : Text} (tidy : Text.IsTidy classes) (condition : Option Text)
    (before after : Text) : Drawn [⟨classes, condition⟩] (before ++ classes ++ after) := by
  refine ⟨Text.inOrder_singleton before classes after, ?_⟩
  intro use member
  rw [List.mem_singleton.mp member]
  exact tidy

theorem whole {classes : Text} (tidy : Text.IsTidy classes) (condition : Option Text) :
    Drawn [⟨classes, condition⟩] classes := by
  simpa using single tidy condition [] []

theorem append {first second : List ClassUse} {front back : Text} (inFront : Drawn first front)
    (inBack : Drawn second back) : Drawn (first ++ second) (front ++ back) := by
  refine ⟨?_, ?_⟩
  · rw [List.map_append]
    exact inFront.placed.append inBack.placed
  · intro use member
    rcases List.mem_append.mp member with inFirst | inSecond
    · exact inFront.tidy use inFirst
    · exact inBack.tidy use inSecond

theorem within {uses : List ClassUse} {text : Text} (drawn : Drawn uses text)
    (before after : Text) : Drawn uses (before ++ text ++ after) :=
  ⟨drawn.placed.within before after, drawn.tidy⟩

theorem of_trim {uses : List ClassUse} {text : Text} (drawn : Drawn uses text.trim) :
    Drawn uses text := ⟨drawn.placed.of_trim, drawn.tidy⟩

/-- Uses drawn from each of several pieces are drawn from the text that the pieces stand in. -/
theorem flatMap {α : Type} {items : List α} {written : α → Text} {text : Text}
    {uses : α → List ClassUse} (placed : Text.InOrder (items.map written) text)
    (each : ∀ item ∈ items, Drawn (uses item) (written item)) :
    Drawn (items.flatMap uses) text := by
  induction items generalizing text with
  | nil => exact nil text
  | cons item items ih =>
    obtain ⟨before, after, rfl, others⟩ := placed
    have first := (each item List.mem_cons_self).within before []
    rw [List.append_nil] at first
    exact first.append (ih others fun other member => each other (List.mem_cons_of_mem _ member))

/-- Only the class lists of the uses matter. -/
theorem congr {first second : List ClassUse} {text : Text} (drawn : Drawn first text)
    (same : second.map (·.classes) = first.map (·.classes)) : Drawn second text := by
  refine ⟨same ▸ drawn.placed, ?_⟩
  intro use member
  have listed : use.classes ∈ first.map (·.classes) := by
    rw [← same]
    exact List.mem_map_of_mem member
  obtain ⟨other, found, equal⟩ := List.mem_map.mp listed
  rw [← equal]
  exact drawn.tidy other found

end Drawn
end ClassUsage
