import ClassUsage.Attribute.Bound
import ClassUsage.Proofs.EscapedMarks
import Mathlib.Order.Nat

set_option autoImplicit false

/-!
The mark that closes a value by its place in the text. It is the first mark behind an even number of
backslashes, counted from where the value begins, and a search that jumps over the character behind each
backslash finds the same one.
-/
namespace ClassUsage

/-- The mark stands at the offset, and the backslashes right before it come in pairs. Those in front of
the start do not count. -/
structure Text.ClosesAt (text : Text) (mark : Char) (start offset : Nat) : Prop where
  inside : start ≤ offset
  isMark : text[offset]? = some mark
  paired : Even (text.slice start offset).backslashesAtEnd

instance (text : Text) (mark : Char) (start offset : Nat) :
    Decidable (text.ClosesAt mark start offset) :=
  decidable_of_iff (start ≤ offset ∧ text[offset]? = some mark ∧
      Even (text.slice start offset).backslashesAtEnd)
    ⟨fun ⟨inside, isMark, paired⟩ => ⟨inside, isMark, paired⟩,
      fun closes => ⟨closes.inside, closes.isMark, closes.paired⟩⟩

/-- The search by offsets: a backslash is passed over together with the character behind it. Behind a
backslash at the end of the text it goes on past that end. -/
def searchMark (mark : Char) (text : Text) (start : Nat) : Option Nat :=
  if inside : start < text.length then
    if text[start] = '\\' then searchMark mark text (start + 2)
    else if text[start] = mark then some start
    else searchMark mark text (start + 1)
  else none
termination_by text.length - start

namespace Text

variable {text value rest : Text} {start : Nat} {mark : Char}

theorem slice_of_drop (parts : text.drop start = value ++ rest) :
    text.slice start (start + value.length) = value := by
  rw [slice, List.drop_take, Nat.add_sub_cancel_left, parts, List.take_left]

theorem drop_behind_of_drop (parts : text.drop start = value ++ mark :: rest) :
    text.drop (start + value.length + 1) = rest := by
  rw [Nat.add_assoc, ← List.drop_drop, parts, List.drop_length_add_append, List.drop_succ_cons,
    List.drop_zero]

theorem closesAt_iff {offset : Nat} :
    text.ClosesAt mark start offset ↔
      ∃ value rest : Text, text.drop start = value ++ mark :: rest ∧ start + value.length = offset ∧
        Even value.backslashesAtEnd := by
  constructor
  · rintro ⟨inside, isMark, paired⟩
    obtain ⟨length, rfl⟩ := Nat.exists_eq_add_of_le inside
    rw [← List.getElem?_drop] at isMark
    obtain ⟨short, isMark⟩ := List.getElem?_eq_some_iff.mp isMark
    rw [slice, List.drop_take, Nat.add_sub_cancel_left] at paired
    refine ⟨(text.drop start).take length, (text.drop start).drop (length + 1), ?_, ?_, paired⟩
    · rw [← isMark, ← List.drop_eq_getElem_cons short, List.take_append_drop]
    · rw [List.length_take_of_le (Nat.le_of_lt short)]
  · rintro ⟨value, rest, parts, rfl, even⟩
    refine ⟨Nat.le_add_right _ _, ?_, ?_⟩
    · rw [← List.getElem?_drop, parts, List.getElem?_append_right (Nat.le_refl _), Nat.sub_self,
        List.getElem?_cons_zero]
    · rw [slice_of_drop parts]
      exact even

end Text

section

variable {mark : Char} {text : Text} {start : Nat}

theorem closingMarkAt_eq_some_iff {found : Nat} :
    closingMarkAt text start [mark] = some found ↔
      ∃ value rest, MarkEndsAfter mark false value ∧ text.drop start = value ++ mark :: rest ∧
        start + value.length = found := by
  rw [closingMarkAt, Option.map_eq_some_iff]
  constructor
  · rintro ⟨⟨value, rest⟩, read, place⟩
    obtain ⟨ends, parts⟩ := splitAtMark_eq_some_iff.mp read
    exact ⟨value, rest, ends, parts, place⟩
  · rintro ⟨value, rest, ends, parts, place⟩
    exact ⟨(value, rest), splitAtMark_eq_some_iff.mpr ⟨ends, parts⟩, place⟩

/-- A character more in what is read puts its end one place further. -/
theorem end_of_prepended (read : Option (Text × Text)) (c : Char) (start : Nat) :
    (read.map fun found => (c :: found.1, found.2)).map (fun found => start + found.1.length) =
      read.map fun found => start + 1 + found.1.length := by
  rw [Option.map_map]
  congr 1
  funext found
  rw [Function.comp_apply, List.length_cons, Nat.add_assoc, Nat.add_comm 1]

/-- One round of the search. -/
theorem closingMarkAt_step (inside : start < text.length) :
    closingMarkAt text start [mark] =
      if text[start] = '\\' then closingMarkAt text (start + 2) [mark]
      else if text[start] = mark then some start
      else closingMarkAt text (start + 1) [mark] := by
  have here : text.drop start = text[start] :: text.drop (start + 1) :=
    List.drop_eq_getElem_cons inside
  have behind : text.drop (start + 2) = (text.drop (start + 1)).tail := List.tail_drop.symm
  simp only [closingMarkAt, here, behind, splitAtMark, Bool.false_eq_true, ↓reduceIte]
  split
  · rw [end_of_prepended]
    cases text.drop (start + 1) with
    | nil => rfl
    | cons c rest => exact end_of_prepended (splitAtMark mark false rest) c (start + 1)
  · split
    · rfl
    · exact end_of_prepended (splitAtMark mark false (text.drop (start + 1))) text[start] start

theorem closingMarkAt_eq_searchMark :
    closingMarkAt text start [mark] = searchMark mark text start := by
  fun_induction searchMark mark text start with
  | case1 start inside slash ih => rw [closingMarkAt_step inside, if_pos slash, ih]
  | case2 start inside noSlash isMark => rw [closingMarkAt_step inside, if_neg noSlash, if_pos isMark]
  | case3 start inside noSlash other ih =>
    rw [closingMarkAt_step inside, if_neg noSlash, if_neg other, ih]
  | case4 start beyond =>
    rw [closingMarkAt, List.drop_eq_nil_of_le (Nat.le_of_not_lt beyond)]
    rfl

/-- The value is what stands before the mark that is found. -/
theorem markedValue?_drop :
    markedValue? mark (text.drop start) = (closingMarkAt text start [mark]).map fun found =>
      (text.slice start found, text.drop (found + 1)) := by
  have place : closingMarkAt text start [mark] =
      (markedValue? mark (text.drop start)).map fun read => start + read.1.length := rfl
  rw [place]
  cases read : markedValue? mark (text.drop start) with
  | none => rfl
  | some found =>
    obtain ⟨-, parts⟩ := splitAtMark_eq_some_iff.mp read
    rw [Option.map_some, Option.map_some, Text.slice_of_drop parts, Text.drop_behind_of_drop parts]

/-- No mark inside the value closes it, if each stands behind an odd number of backslashes. -/
theorem le_of_closesAt {value rest : Text} {offset : Nat}
    (odd : Text.EachMark mark (fun before => Odd before.backslashesAtEnd) value)
    (parts : text.drop start = value ++ rest) (closes : text.ClosesAt mark start offset) :
    start + value.length ≤ offset := by
  obtain ⟨front, behind, also, rfl, even⟩ := Text.closesAt_iff.mp closes
  apply Nat.le_of_not_lt
  intro earlier
  have first : front ++ [mark] <+: text.drop start :=
    ⟨behind, by rw [also, List.append_assoc, List.singleton_append]⟩
  have within : front ++ [mark] <+: value := by
    apply List.prefix_of_prefix_length_le first ⟨rest, parts.symm⟩
    rw [List.length_append, List.length_singleton]
    omega
  obtain ⟨after, rfl⟩ := within
  exact Nat.not_odd_iff_even.mpr even (odd front after (List.append_assoc front [mark] after))

theorem closingMarkAt_eq_some_iff_isLeast (notEscape : mark ≠ '\\') {found : Nat} :
    closingMarkAt text start [mark] = some found ↔
      IsLeast {offset | text.ClosesAt mark start offset} found := by
  rw [closingMarkAt_eq_some_iff]
  constructor
  · rintro ⟨value, rest, ends, parts, rfl⟩
    obtain ⟨odd, even⟩ := (markEndsAfter_iff_backslashes notEscape).mp ends
    exact ⟨Text.closesAt_iff.mpr ⟨value, rest, parts, rfl, even⟩,
      fun offset => le_of_closesAt odd parts⟩
  · rintro ⟨closes, first⟩
    obtain ⟨value, rest, parts, rfl, even⟩ := Text.closesAt_iff.mp closes
    refine ⟨value, rest, (markEndsAfter_iff_backslashes notEscape).mpr ⟨?_, even⟩, parts, rfl⟩
    rintro front behind rfl
    by_contra notOdd
    -- the mark behind `front` would close the value before its end
    have earlier : text.ClosesAt mark start (start + front.length) := by
      refine Text.closesAt_iff.mpr ⟨front, behind ++ mark :: rest, ?_, rfl, ?_⟩
      · rw [parts, List.append_assoc, List.cons_append]
      · exact Nat.not_odd_iff_even.mp notOdd
    have notBefore := first earlier
    rw [List.length_append, List.length_cons] at notBefore
    omega

end

/-- The closing mark by its place. It is the first one from the start on that stands behind an even
number of backslashes, those in front of the start not counted, and nothing is found where there is no
such mark. A search that jumps over two characters at a backslash ends with the same result, and the
value of an attribute is the text up to that place. -/
theorem closingMarkAt_isLeast {mark : Char} (notEscape : mark ≠ '\\') (text : Text) (start : Nat) :
    (∀ found, closingMarkAt text start [mark] = some found ↔
        IsLeast {offset | text.ClosesAt mark start offset} found) ∧
    (closingMarkAt text start [mark] = none ↔ ∀ offset, ¬ text.ClosesAt mark start offset) ∧
    closingMarkAt text start [mark] = searchMark mark text start ∧
    markedValue? mark (text.drop start) = (closingMarkAt text start [mark]).map fun found =>
      (text.slice start found, text.drop (found + 1)) := by
  have least : ∀ found, closingMarkAt text start [mark] = some found ↔
      IsLeast {offset | text.ClosesAt mark start offset} found :=
    fun _ => closingMarkAt_eq_some_iff_isLeast notEscape
  refine ⟨least, ?_, closingMarkAt_eq_searchMark, markedValue?_drop⟩
  constructor
  · intro nothing offset closes
    have found := (least _).mpr (Nat.isLeast_find ⟨offset, closes⟩)
    rw [nothing] at found
    cases found
  · intro nowhere
    apply Option.eq_none_iff_forall_ne_some.mpr
    intro found search
    exact nowhere found ((least found).mp search).1

/-- Of three backslashes before a mark the start may leave two. Where only a backslash is left, the
search goes past the end. -/
theorem closingMarkAt_isLeast_backslashes :
    '"' ≠ '\\' ∧
    IsLeast {offset | Text.ClosesAt "a\\\\\\\"b\"\\".toList '"' 0 offset} 6 ∧
    IsLeast {offset | Text.ClosesAt "a\\\\\\\"b\"\\".toList '"' 2 offset} 4 ∧
    ∀ offset, ¬ Text.ClosesAt "a\\\\\\\"b\"\\".toList '"' 7 offset := by
  have notEscape : '"' ≠ '\\' := by decide
  refine ⟨notEscape, ?_, ?_, ?_⟩
  · exact ((closingMarkAt_isLeast notEscape _ 0).1 6).mp (by decide)
  · exact ((closingMarkAt_isLeast notEscape _ 2).1 4).mp (by decide)
  · exact (closingMarkAt_isLeast notEscape _ 7).2.1.mp (by decide)

end ClassUsage
