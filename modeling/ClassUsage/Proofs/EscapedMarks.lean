import ClassUsage.Proofs.CleanScan
import Mathlib.Algebra.Ring.Parity
import Mathlib.Data.List.DropRight

set_option autoImplicit false

/-!
Quotation marks behind backslashes. One way to read takes a mark for escaped if a backslash stands right
before it, the other takes each backslash together with the character behind it. The first asks for a
backslash before the mark, the second for an odd number of them.
-/
namespace ClassUsage
namespace Text

def backslashesAtEnd (text : Text) : Nat := (text.rtakeWhile (· == '\\')).length

/-- All that stands before an occurrence of the mark is of the given kind. -/
def EachMark (mark : Char) (allowed : Text → Prop) (text : Text) : Prop :=
  ∀ before after, text = before ++ mark :: after → allowed before

/-- Whether the character behind the text is escaped when each backslash is taken together with the
character behind it. -/
def leavesEscaped : (escaped : Bool) → Text → Bool
  | escaped, [] => escaped
  | escaped, c :: rest => leavesEscaped (!escaped && c == '\\') rest

theorem backslashesAtEnd_concat (text : Text) (c : Char) :
    backslashesAtEnd (text ++ [c]) = if c = '\\' then text.backslashesAtEnd + 1 else 0 := by
  unfold backslashesAtEnd
  rw [List.rtakeWhile_concat]
  by_cases slash : c = '\\'
  · rw [if_pos (beq_iff_eq.mpr slash), if_pos slash, List.length_append, List.length_singleton]
  · rw [if_neg (by simpa using slash), if_neg slash, List.length_nil]

theorem backslashesAtEnd_pos_iff {text : Text} :
    0 < text.backslashesAtEnd ↔ text.getLast? = some '\\' := by
  rcases List.eq_nil_or_concat' text with rfl | ⟨front, c, rfl⟩
  · exact ⟨fun positive => absurd positive (Nat.lt_irrefl 0), fun none => nomatch none⟩
  · rw [backslashesAtEnd_concat, List.getLast?_concat, Option.some.injEq]
    split <;> simp [*]

theorem leavesEscaped_append (escaped : Bool) (first second : Text) :
    leavesEscaped escaped (first ++ second) = leavesEscaped (leavesEscaped escaped first) second := by
  induction first generalizing escaped with
  | nil => rfl
  | cons c rest ih => exact ih _

/-- Backslashes in pairs escape nothing behind them. -/
theorem leavesEscaped_iff_odd {text : Text} :
    leavesEscaped false text = true ↔ Odd text.backslashesAtEnd := by
  induction text using List.reverseRecOn with
  | nil => decide
  | append_singleton front c ih =>
    rw [leavesEscaped_append, backslashesAtEnd_concat]
    change (!leavesEscaped false front && c == '\\') = true ↔ _
    split
    · rename_i slash
      rw [slash, beq_self_eq_true, Bool.and_true, Bool.not_eq_true', Nat.odd_add_one, ← ih,
        Bool.not_eq_true]
    · rename_i noSlash
      rw [beq_eq_false_iff_ne.mpr noSlash, Bool.and_false]
      decide

section

variable {mark : Char} {allowed : Text → Prop}

theorem eachMark_nil : EachMark mark allowed [] := by
  intro before after parts
  exact absurd parts.symm (by simp)

theorem eachMark_cons {c : Char} {rest : Text} :
    EachMark mark allowed (c :: rest) ↔
      (c = mark → allowed []) ∧ EachMark mark (fun before => allowed (c :: before)) rest := by
  constructor
  · intro each
    refine ⟨?_, ?_⟩
    · rintro rfl
      exact each [] rest rfl
    · intro before after parts
      exact each (c :: before) after (by rw [parts, List.cons_append])
  · rintro ⟨here, later⟩ before after parts
    cases before with
    | nil => exact here (List.cons.inj parts).1
    | cons d before =>
      obtain ⟨rfl, behind⟩ := List.cons.inj parts
      exact later before after behind

theorem eachMark_concat {text : Text} :
    EachMark mark allowed (text ++ [mark]) ↔ EachMark mark allowed text ∧ allowed text := by
  induction text generalizing allowed with
  | nil =>
    rw [List.nil_append, eachMark_cons]
    exact ⟨fun each => ⟨eachMark_nil, each.1 rfl⟩, fun each => ⟨fun _ => each.2, eachMark_nil⟩⟩
  | cons c rest ih => rw [List.cons_append, eachMark_cons, ih, eachMark_cons, and_assoc]

theorem EachMark.imp {text : Text} {weaker : Text → Prop} (each : EachMark mark allowed text)
    (implies : ∀ before, allowed before → weaker before) : EachMark mark weaker text :=
  fun before after parts => implies before (each before after parts)

end

end Text

/-- A mark is bare if no backslash stands right before it. -/
theorem holdsBareMark_eq_false_iff {mark : Char} (previous : Option Char) {text : Text} :
    holdsBareMark mark (previous == some '\\') text = false ↔
      Text.EachMark mark (fun before => before.getLast?.or previous = some '\\') text := by
  induction text generalizing previous with
  | nil => exact ⟨fun _ => Text.eachMark_nil, fun _ => rfl⟩
  | cons c rest ih =>
    have same : (c == '\\') = (some c == some '\\') := rfl
    rw [holdsBareMark, Bool.or_eq_false_iff, same, ih, Text.eachMark_cons]
    simp only [Scan.getLast?_or_cons]
    apply and_congr_left'
    by_cases isMark : c = mark <;> simp [isMark]

theorem holdsBareMark_iff_backslashes {mark : Char} {text : Text} :
    holdsBareMark mark false text = false ↔
      Text.EachMark mark (fun before => 0 < before.backslashesAtEnd) text := by
  have bare : holdsBareMark mark false text = false ↔ _ := holdsBareMark_eq_false_iff none
  simpa only [Option.or_none, ← Text.backslashesAtEnd_pos_iff] using bare

section

variable {mark : Char} (notEscape : mark ≠ '\\')

include notEscape

theorem markEndsAfter_cons {escaped : Bool} {c : Char} {value : Text} :
    MarkEndsAfter mark escaped (c :: value) ↔
      (c = mark → escaped = true) ∧ MarkEndsAfter mark (!escaped && c == '\\') value := by
  unfold MarkEndsAfter
  cases escaped with
  | true => simp [splitAtMark]
  | false =>
    by_cases slash : c = '\\'
    · simp [splitAtMark, slash, notEscape.symm]
    · by_cases isMark : c = mark
      · simp [splitAtMark, isMark, notEscape]
      · simp [splitAtMark, slash, isMark, beq_eq_false_iff_ne.mpr slash]

theorem markEndsAfter_iff {escaped : Bool} {value : Text} :
    MarkEndsAfter mark escaped value ↔
      Text.EachMark mark (fun before => Text.leavesEscaped escaped before = true) value ∧
        Text.leavesEscaped escaped value = false := by
  induction value generalizing escaped with
  | nil =>
    unfold MarkEndsAfter
    cases escaped with
    | true => simp [splitAtMark, Text.leavesEscaped]
    | false => simp [splitAtMark, Text.leavesEscaped, notEscape, Text.eachMark_nil]
  | cons c rest ih =>
    rw [markEndsAfter_cons notEscape, ih, Text.eachMark_cons, and_assoc]
    rfl

/-- A value ends at the first mark behind an even number of backslashes. -/
theorem markEndsAfter_iff_backslashes {value : Text} :
    MarkEndsAfter mark false value ↔
      Text.EachMark mark (fun before => Odd before.backslashesAtEnd) value ∧
        Even value.backslashesAtEnd := by
  rw [markEndsAfter_iff notEscape, ← Bool.not_eq_true]
  simp only [Text.leavesEscaped_iff_odd, Nat.not_odd_iff_even]

end

end ClassUsage
