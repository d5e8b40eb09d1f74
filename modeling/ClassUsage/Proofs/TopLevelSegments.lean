import ClassUsage.Proofs.LiteralProvenance
import ClassUsage.Proofs.TopLevelSearch

set_option autoImplicit false

/-!
The segments between separators at the top level. A scan starts afresh behind each separator, so a
segment that is read by itself is the same segment again, and the segments of a text are those of its
parts.
-/
namespace ClassUsage

variable {separates : Char → Bool}

namespace Scan

theorem segments_ne_nil (separates : Char → Bool) (scan : Scan) (text : Text) :
    scan.segments separates text ≠ [] := by
  cases text with
  | nil => exact List.cons_ne_nil _ _
  | cons c rest =>
    rw [segments]
    split
    · exact List.cons_ne_nil _ _
    · unfold Text.consHead
      split
      · exact List.cons_ne_nil _ _
      · exact List.cons_ne_nil _ _

/-- A separator at the top level cuts the segments in two. -/
theorem segments_append_cons {scan : Scan} {front : Text} {c : Char} (separator : separates c = true)
    (neutral : ((scan.run front).step c).isNeutral = true) (back : Text) :
    scan.segments separates (front ++ c :: back) =
      scan.segments separates front ++ ((scan.run front).step c).segments separates back := by
  induction front generalizing scan with
  | nil =>
    rw [run_nil] at neutral ⊢
    simp only [List.nil_append, segments, separator, neutral, Bool.and_self, ↓reduceIte,
      List.cons_append]
  | cons d rest ih =>
    rw [run_cons] at neutral ⊢
    rw [List.cons_append, segments, segments, ih neutral]
    split
    · rw [List.cons_append]
    · rw [Text.consHead_append d (segments_ne_nil separates _ rest)]

/-- No separator stands at the top level of the text. -/
def IsUnseparated (separates : Char → Bool) (scan : Scan) (text : Text) : Prop :=
  scan.segments separates text = [text]

theorem isUnseparated_nil (scan : Scan) : scan.IsUnseparated separates [] := rfl

theorem isUnseparated_cons {scan : Scan} {c : Char} {rest : Text} :
    scan.IsUnseparated separates (c :: rest) ↔
      (separates c && (scan.step c).isNeutral) = false ∧
        (scan.step c).IsUnseparated separates rest := by
  unfold IsUnseparated
  cases cut : separates c && (scan.step c).isNeutral with
  | true => simp [segments, cut]
  | false =>
    obtain ⟨first, others, pieces⟩ :=
      List.exists_cons_of_ne_nil (segments_ne_nil separates (scan.step c) rest)
    simp [segments, cut, pieces, Text.consHead]

theorem isUnseparated_append {scan : Scan} {first second : Text} :
    scan.IsUnseparated separates (first ++ second) ↔
      scan.IsUnseparated separates first ∧ (scan.run first).IsUnseparated separates second := by
  induction first generalizing scan with
  | nil => exact (and_iff_right (isUnseparated_nil scan)).symm
  | cons c rest ih =>
    rw [List.cons_append, isUnseparated_cons, isUnseparated_cons, ih, run_cons, and_assoc]

/-- A text is one segment or has a first separator. -/
theorem isUnseparated_or_cut (separates : Char → Bool) (scan : Scan) (text : Text) :
    scan.IsUnseparated separates text ∨
      ∃ front c back, text = front ++ c :: back ∧ scan.IsUnseparated separates front ∧
        separates c = true ∧ ((scan.run front).step c).isNeutral = true := by
  induction text generalizing scan with
  | nil => exact Or.inl (isUnseparated_nil scan)
  | cons c rest ih =>
    cases cut : separates c && (scan.step c).isNeutral with
    | true =>
      obtain ⟨separator, neutral⟩ := Bool.and_eq_true_iff.mp cut
      exact Or.inr ⟨[], c, rest, rfl, isUnseparated_nil scan, separator, neutral⟩
    | false =>
      rcases ih (scan.step c) with whole | ⟨front, d, back, rfl, first, separator, neutral⟩
      · exact Or.inl (isUnseparated_cons.mpr ⟨cut, whole⟩)
      · exact Or.inr ⟨c :: front, d, back, rfl, isUnseparated_cons.mpr ⟨cut, first⟩, separator,
          neutral⟩

/-- An ordinary character at the top level starts the scan afresh. -/
theorem step_eq_fresh {scan : Scan} {c : Char} (ordinary : Text.IsOrdinary c)
    (quoting : scan.IsQuoting) (neutral : scan.isNeutral = true) : scan.step c = fresh := by
  apply eq_fresh
  · rw [ordinary.isNeutral_step quoting, neutral]
  · rw [escaped_step]
    exact beq_eq_false_iff_ne.mpr ordinary.2.2.2

/-- Blanks at the ends of a text do not matter to where its scan ends. -/
theorem isNeutral_run_trim (text : Text) :
    (fresh.run text.trim).isNeutral = (fresh.run text).isNeutral := by
  obtain ⟨before, after, front, back, decomposed⟩ := Text.exists_trim text
  have ordinary : ∀ c ∈ after, Text.IsOrdinary c := fun c member =>
    Text.isOrdinary_of_isBlank (back c member)
  have quoting := isQuoting_fresh.run text.trim
  calc
    (fresh.run text.trim).isNeutral = ((fresh.run text.trim).run after).isNeutral :=
      (Text.isNeutral_run_of_forall ordinary quoting).symm
    _ = (fresh.run (before ++ text.trim ++ after)).isNeutral := by
      rw [run_append, run_append, front.isClean.closed]
    _ = (fresh.run text).isNeutral := by rw [← decomposed]

theorem IsUnseparated.trim {text : Text} (whole : fresh.IsUnseparated separates text) :
    fresh.IsUnseparated separates text.trim := by
  obtain ⟨before, after, front, -, decomposed⟩ := Text.exists_trim text
  rw [decomposed, List.append_assoc, isUnseparated_append, front.isClean.closed,
    isUnseparated_append] at whole
  exact whole.2.1

/-- Texts are built from texts without separators, one put in front at a time. -/
theorem induction_on_separators {motive : Text → Prop}
    (ordinary : ∀ c, separates c = true → Text.IsOrdinary c)
    (single : ∀ text, fresh.IsUnseparated separates text → motive text)
    (more : ∀ front c back, fresh.IsUnseparated separates front →
      (fresh.run front).isNeutral = true → separates c = true → motive back →
        motive (front ++ c :: back)) (text : Text) : motive text := by
  induction length : text.length using Nat.strongRecOn generalizing text with
  | ind size ih =>
    rcases isUnseparated_or_cut separates fresh text with
      whole | ⟨front, c, back, rfl, first, separator, neutral⟩
    · exact single text whole
    · have shorter : back.length < size := by
        rw [← length, List.length_append, List.length_cons]
        omega
      rw [(ordinary c separator).isNeutral_step (isQuoting_fresh.run front)] at neutral
      exact more front c back first neutral separator (ih back.length shorter back rfl)

end Scan

/-- Behind a text that a scan leaves at the top level, a separator cuts. -/
theorem splitTopLevel_append_cons {front : Text} {c : Char} (ordinary : Text.IsOrdinary c)
    (separator : separates c = true) (neutral : (Scan.fresh.run front).isNeutral = true)
    (back : Text) :
    splitTopLevel separates (front ++ c :: back) =
      splitTopLevel separates front ++ splitTopLevel separates back := by
  have returns := Scan.step_eq_fresh ordinary (Scan.isQuoting_fresh.run front) neutral
  have again : ((Scan.fresh.run front).step c).isNeutral = true := by
    rw [returns]
    rfl
  rw [splitTopLevel, Scan.segments_append_cons separator again, returns, List.map_append,
    List.filter_append]
  rfl

theorem splitTopLevel_of_isUnseparated {text : Text}
    (whole : Scan.fresh.IsUnseparated separates text) :
    splitTopLevel separates text = if text.trim = [] then [] else [text.trim] := by
  rw [splitTopLevel, whole, List.map_singleton]
  split
  · rename_i blank
    rw [blank]
    rfl
  · rename_i filled
    simp [filled]

theorem splitTopLevel_trim {text : Text} (whole : Scan.fresh.IsUnseparated separates text)
    (filled : text.trim ≠ []) : splitTopLevel separates text.trim = [text.trim] := by
  rw [splitTopLevel_of_isUnseparated whole.trim, Text.trim_trim, if_neg filled]

/-- A segment that is read by itself is one segment. -/
theorem splitTopLevel_of_mem (ordinary : ∀ c, separates c = true → Text.IsOrdinary c) {text : Text} :
    ∀ part ∈ splitTopLevel separates text, splitTopLevel separates part = [part] := by
  induction text using Scan.induction_on_separators ordinary with
  | single text whole =>
    rw [splitTopLevel_of_isUnseparated whole]
    split
    · exact fun part member => absurd member List.not_mem_nil
    · rename_i filled
      intro part member
      rw [List.mem_singleton.mp member]
      exact splitTopLevel_trim whole filled
  | more front c back first neutral separator ih =>
    rw [splitTopLevel_append_cons (ordinary c separator) separator neutral,
      splitTopLevel_of_isUnseparated first]
    intro part member
    rcases List.mem_append.mp member with inFront | inBack
    · split at inFront
      · cases inFront
      · rename_i filled
        rw [List.mem_singleton.mp inFront]
        exact splitTopLevel_trim first filled
    · exact ih part inBack

section

variable {separator : Char} (ordinary : Text.IsOrdinary separator)

include ordinary

theorem isOrdinary_of_beq : ∀ c, (c == separator) = true → Text.IsOrdinary c := by
  intro c same
  rw [beq_iff_eq.mp same]
  exact ordinary

theorem splitTopLevel_append_separator {front : Text}
    (neutral : (Scan.fresh.run front).isNeutral = true) (back : Text) :
    splitTopLevel (· == separator) (front ++ separator :: back) =
      splitTopLevel (· == separator) front ++ splitTopLevel (· == separator) back :=
  splitTopLevel_append_cons ordinary (by exact beq_self_eq_true separator) neutral back

theorem splitTopLevel_join_cons {part : Text} (neutral : (Scan.fresh.run part).isNeutral = true)
    (whole : splitTopLevel (· == separator) part = [part]) (parts : List Text) :
    splitTopLevel (· == separator) (Text.join [separator] (part :: parts)) =
      part :: splitTopLevel (· == separator) (Text.join [separator] parts) := by
  cases parts with
  | nil =>
    have alone : Text.join [separator] [part] = part := List.append_nil part
    rw [alone, whole]
    rfl
  | cons next others =>
    have joined : Text.join [separator] (part :: next :: others) =
        part ++ separator :: Text.join [separator] (next :: others) := rfl
    rw [joined, splitTopLevel_append_separator ordinary neutral, whole, List.singleton_append]

theorem splitTopLevel_join (text : Text) :
    splitTopLevel (· == separator) (Text.join [separator] (splitTopLevel (· == separator) text)) =
      splitTopLevel (· == separator) text := by
  induction text using Scan.induction_on_separators (isOrdinary_of_beq ordinary) with
  | single text whole =>
    rw [splitTopLevel_of_isUnseparated whole]
    split
    · rfl
    · rename_i filled
      have alone : Text.join [separator] [text.trim] = text.trim := List.append_nil _
      rw [alone, splitTopLevel_trim whole filled]
  | more front c back first neutral same ih =>
    obtain rfl := beq_iff_eq.mp same
    rw [splitTopLevel_append_separator ordinary neutral, splitTopLevel_of_isUnseparated first]
    split
    · exact ih
    · rename_i filled
      have here : (Scan.fresh.run front.trim).isNeutral = true := by
        rw [Scan.isNeutral_run_trim, neutral]
      rw [List.singleton_append,
        splitTopLevel_join_cons ordinary here (splitTopLevel_trim first filled), ih]

/-- Cutting at a separator respects texts put together at one and undoes joining: each part is tidy and
one segment, and the parts with separators between them are cut into the same parts. -/
theorem splitTopLevel_undoes_join :
    (∀ front back : Text, (Scan.fresh.run front).isNeutral = true →
      splitTopLevel (· == separator) (front ++ separator :: back) =
        splitTopLevel (· == separator) front ++ splitTopLevel (· == separator) back) ∧
    ∀ text : Text,
      (∀ part ∈ splitTopLevel (· == separator) text,
        part.IsTidy ∧ splitTopLevel (· == separator) part = [part]) ∧
      splitTopLevel (· == separator)
          (Text.join [separator] (splitTopLevel (· == separator) text)) =
        splitTopLevel (· == separator) text := by
  refine ⟨?_, ?_⟩
  · intro front back neutral
    exact splitTopLevel_append_separator ordinary neutral back
  · intro text
    refine ⟨?_, splitTopLevel_join ordinary text⟩
    intro part member
    exact ⟨isTidy_of_mem_splitTopLevel member,
      splitTopLevel_of_mem (isOrdinary_of_beq ordinary) part member⟩

end

theorem splitTopLevel_undoes_join_blank :
    Text.IsOrdinary ' ' ∧ (Scan.fresh.run " f(a b)  \x27c d\x27\\".toList).isNeutral = true ∧
    splitTopLevel (· == ' ') (" f(a b)  \x27c d\x27\\".toList ++ ' ' :: "e [g h ".toList) =
      ["f(a b)".toList, "\x27c d\x27\\".toList] ++ ["e".toList, "[g h".toList] ∧
    "[g h".toList ∈ splitTopLevel (· == ' ') "e [g h ".toList ∧
    splitTopLevel (· == ' ') "[g h".toList = ["[g h".toList] := by
  have ordinary : Text.IsOrdinary ' ' := by decide
  have neutral : (Scan.fresh.run " f(a b)  \x27c d\x27\\".toList).isNeutral = true := by decide
  have member : "[g h".toList ∈ splitTopLevel (· == ' ') "e [g h ".toList := by decide
  obtain ⟨cut, parts⟩ := splitTopLevel_undoes_join ordinary
  refine ⟨ordinary, neutral, ?_, member, ((parts _).1 _ member).2⟩
  rw [cut _ "e [g h ".toList neutral]
  decide

end ClassUsage
