import ClassUsage.Text.Lemmas

set_option autoImplicit false

/-! What trimming takes off a text, and which texts it leaves as they are. -/
namespace ClassUsage.Text

def IsBlanks (text : Text) : Prop := ∀ c ∈ text, isBlank c = true

structure IsTrimmed (text : Text) : Prop where
  head : ∀ c ∈ text.head?, isBlank c = false
  last : ∀ c ∈ text.getLast?, isBlank c = false

/-- A list of class names as it is reported: not empty, and no blank at either end. -/
structure IsTidy (text : Text) : Prop where
  filled : text ≠ []
  trimmed : text.trim = text

@[simp] theorem isBlanks_nil : IsBlanks [] := by
  intro c member
  cases member

theorem isBlanks_cons (c : Char) (rest : Text) :
    IsBlanks (c :: rest) ↔ isBlank c = true ∧ IsBlanks rest := by
  simp only [IsBlanks, List.forall_mem_cons]

theorem IsBlanks.append {first second : Text} (before : IsBlanks first) (after : IsBlanks second) :
    IsBlanks (first ++ second) := by
  intro c member
  rcases List.mem_append.mp member with inFirst | inSecond
  · exact before c inFirst
  · exact after c inSecond

theorem IsBlanks.reverse {text : Text} (blanks : IsBlanks text) : IsBlanks text.reverse := by
  intro c member
  exact blanks c (List.mem_reverse.mp member)

/-- A property of all members of a list, decided for one after the other. -/
theorem forall_mem_of_all {α : Type} {holds : α → Prop} [DecidablePred holds] {items : List α}
    (all : (items.all fun item => decide (holds item)) = true) : ∀ item ∈ items, holds item := by
  intro item member
  exact of_decide_eq_true (List.all_eq_true.mp all item member)

theorem head?_append_of_filled {first : Text} (filled : first ≠ []) (second : Text) :
    (first ++ second).head? = first.head? := by
  cases first with
  | nil => exact absurd rfl filled
  | cons c rest => rfl

theorem getLast?_append_of_filled (first : Text) {second : Text} (filled : second ≠ []) :
    (first ++ second).getLast? = second.getLast? := by
  rw [List.getLast?_append, List.getLast?_eq_some_getLast filled]
  rfl

theorem trimStart_append_of_isBlanks {blanks : Text} (are : IsBlanks blanks) (text : Text) :
    trimStart (blanks ++ text) = trimStart text := by
  induction blanks with
  | nil => rfl
  | cons c blanks ih =>
    obtain ⟨first, others⟩ := (isBlanks_cons c blanks).mp are
    simp only [trimStart, List.cons_append, List.dropWhile_cons, first, ↓reduceIte]
    exact ih others

theorem trimStart_of_head {text : Text} (head : ∀ c ∈ text.head?, isBlank c = false) :
    trimStart text = text := by
  cases text with
  | nil => rfl
  | cons c rest =>
    have solid : isBlank c = false := head c rfl
    simp only [trimStart, List.dropWhile_cons, solid, Bool.false_eq_true, ↓reduceIte]

theorem head_trimStart (text : Text) : ∀ c ∈ (trimStart text).head?, isBlank c = false := by
  intro c head
  have found := List.head?_dropWhile_not isBlank text
  rw [show text.dropWhile isBlank = trimStart text from rfl, head] at found
  simpa using found

/-- The blanks that trimming takes off the start. -/
theorem exists_trimStart (text : Text) : ∃ blanks, IsBlanks blanks ∧ text = blanks ++ trimStart text := by
  refine ⟨text.takeWhile isBlank, ?_, (List.takeWhile_append_dropWhile).symm⟩
  intro c member
  have all := List.all_takeWhile (p := isBlank) (l := text)
  exact List.all_eq_true.mp all c member

theorem exists_trimEnd (text : Text) : ∃ blanks, IsBlanks blanks ∧ text = trimEnd text ++ blanks := by
  obtain ⟨blanks, are, decomposed⟩ := exists_trimStart text.reverse
  refine ⟨blanks.reverse, are.reverse, ?_⟩
  have reversed := congrArg List.reverse decomposed
  simpa only [List.reverse_reverse, List.reverse_append, trimEnd] using reversed

/-- Trimming takes blanks off both ends and nothing else. -/
theorem exists_trim (text : Text) :
    ∃ before after, IsBlanks before ∧ IsBlanks after ∧ text = before ++ text.trim ++ after := by
  obtain ⟨before, first, front⟩ := exists_trimStart text
  obtain ⟨after, second, back⟩ := exists_trimEnd (trimStart text)
  refine ⟨before, after, first, second, ?_⟩
  calc
    text = before ++ trimStart text := front
    _ = before ++ (trimEnd (trimStart text) ++ after) := by rw [← back]
    _ = before ++ text.trim ++ after := by rw [List.append_assoc, trim]

theorem isBlanks_of_trim_eq_nil {text : Text} (empty : text.trim = []) : IsBlanks text := by
  obtain ⟨before, after, first, second, decomposed⟩ := exists_trim text
  rw [decomposed, empty, List.append_nil]
  exact first.append second

theorem trimEnd_append_of_isBlanks {blanks : Text} (are : IsBlanks blanks) (text : Text) :
    trimEnd (text ++ blanks) = trimEnd text := by
  simp only [trimEnd, List.reverse_append]
  rw [trimStart_append_of_isBlanks are.reverse]

theorem trimEnd_of_last {text : Text} (last : ∀ c ∈ text.getLast?, isBlank c = false) :
    trimEnd text = text := by
  rw [trimEnd, trimStart_of_head (by simpa only [List.head?_reverse] using last),
    List.reverse_reverse]

theorem last_trimEnd (text : Text) : ∀ c ∈ (trimEnd text).getLast?, isBlank c = false := by
  intro c last
  apply head_trimStart text.reverse c
  simpa only [trimEnd, List.getLast?_reverse] using last

theorem IsTrimmed.trim_eq {text : Text} (trimmed : IsTrimmed text) : text.trim = text := by
  rw [trim, trimStart_of_head trimmed.head, trimEnd_of_last trimmed.last]

/-- Blanks around a text without blanks at its ends are all that trimming takes off. -/
theorem IsTrimmed.trim_padded {text before after : Text} (trimmed : IsTrimmed text)
    (first : IsBlanks before) (second : IsBlanks after) :
    trim (before ++ text ++ after) = text := by
  by_cases empty : text = []
  · subst empty
    have all : IsBlanks (before ++ after) := first.append second
    have dropped := trimStart_append_of_isBlanks all []
    simp only [List.append_nil] at dropped ⊢
    rw [trim, dropped]
    rfl
  · rw [trim, List.append_assoc, trimStart_append_of_isBlanks first]
    have solid : ∀ c ∈ (text ++ after).head?, isBlank c = false := by
      intro c head
      rw [head?_append_of_filled empty] at head
      exact trimmed.head c head
    rw [trimStart_of_head solid, trimEnd_append_of_isBlanks second, trimEnd_of_last trimmed.last]

theorem isTrimmed_trim (text : Text) : IsTrimmed text.trim := by
  refine ⟨?_, last_trimEnd _⟩
  intro c head
  obtain ⟨blanks, are, decomposed⟩ := exists_trimEnd (trimStart text)
  apply head_trimStart text c
  change c ∈ (trimEnd (trimStart text)).head? at head
  by_cases empty : trimEnd (trimStart text) = []
  · rw [empty] at head
    cases head
  · rw [decomposed, head?_append_of_filled empty]
    exact head

@[simp] theorem trim_trim (text : Text) : text.trim.trim = text.trim := (isTrimmed_trim text).trim_eq

/-- Blanks around a text do not matter to what is left after trimming. -/
theorem trim_padded {text before after : Text} (first : IsBlanks before) (second : IsBlanks after) :
    trim (before ++ text ++ after) = text.trim := by
  obtain ⟨left, right, leftBlanks, rightBlanks, decomposed⟩ := exists_trim text
  have grouped : before ++ text ++ after = (before ++ left) ++ text.trim ++ (right ++ after) := by
    calc
      before ++ text ++ after = before ++ (left ++ text.trim ++ right) ++ after := by rw [← decomposed]
      _ = (before ++ left) ++ text.trim ++ (right ++ after) := by simp only [List.append_assoc]
  rw [grouped]
  exact (isTrimmed_trim text).trim_padded (first.append leftBlanks) (rightBlanks.append second)

/-- What a text begins with, blanks apart, when something that is not blank stands behind it. -/
theorem head?_trimStart_append {c : Char} (solid : isBlank c = false) (text rest : Text) :
    (trimStart (text ++ c :: rest)).head? = text.trim.head?.or (some c) := by
  obtain ⟨before, after, front, back, decomposed⟩ := exists_trim text
  have skipped : trimStart (text ++ c :: rest) = trimStart (text.trim ++ (after ++ c :: rest)) := by
    calc
      trimStart (text ++ c :: rest) = trimStart (before ++ text.trim ++ after ++ c :: rest) := by
        rw [← decomposed]
      _ = trimStart (before ++ (text.trim ++ (after ++ c :: rest))) := by
        simp only [List.append_assoc]
      _ = trimStart (text.trim ++ (after ++ c :: rest)) := trimStart_append_of_isBlanks front _
  rw [skipped]
  by_cases empty : text.trim = []
  · have kept : trimStart (c :: rest) = c :: rest := by
      apply trimStart_of_head
      intro d head
      cases head
      exact solid
    rw [empty, List.nil_append, trimStart_append_of_isBlanks back, kept]
    rfl
  · have kept : trimStart (text.trim ++ (after ++ c :: rest)) = text.trim ++ (after ++ c :: rest) := by
      apply trimStart_of_head
      intro d head
      rw [head?_append_of_filled empty] at head
      exact (isTrimmed_trim text).head d head
    rw [kept, head?_append_of_filled empty]
    cases trimmed : text.trim with
    | nil => exact absurd trimmed empty
    | cons d others => rfl

theorem head?_trim_cons {c : Char} (solid : isBlank c = false) (rest : Text) :
    (trim (c :: rest)).head? = some c := by
  have kept : trimStart (c :: rest) = c :: rest := by
    apply trimStart_of_head
    intro d head
    cases head
    exact solid
  obtain ⟨blanks, are, decomposed⟩ := exists_trimEnd (c :: rest)
  rw [trim, kept]
  cases trimmed : trimEnd (c :: rest) with
  | nil =>
    rw [trimmed, List.nil_append] at decomposed
    have blank := are c (decomposed ▸ List.mem_cons_self)
    rw [solid] at blank
    cases blank
  | cons d others =>
    rw [trimmed] at decomposed
    rw [(List.cons.inj decomposed).1]
    rfl

theorem isTrimmed_of_trim_eq {text : Text} (same : text.trim = text) : IsTrimmed text := by
  rw [← same]
  exact isTrimmed_trim text

theorem isTidy_trim {text : Text} (filled : text.trim ≠ []) : IsTidy text.trim :=
  ⟨filled, trim_trim text⟩

theorem IsTidy.surround {first last : Text} (front : IsTidy first) (back : IsTidy last)
    (middle : Text) : IsTidy (first ++ middle ++ last) := by
  have head := (isTrimmed_of_trim_eq front.trimmed).head
  have tail := (isTrimmed_of_trim_eq back.trimmed).last
  refine ⟨?_, IsTrimmed.trim_eq ⟨?_, ?_⟩⟩
  · simp [front.filled]
  · rw [List.append_assoc, head?_append_of_filled front.filled]
    exact head
  · rw [getLast?_append_of_filled _ back.filled]
    exact tail

/-- A text without any blank is tidy as it stands. -/
theorem isTidy_of_forall {text : Text} (filled : text ≠ []) (solid : ∀ c ∈ text, isBlank c = false) :
    IsTidy text := by
  refine ⟨filled, IsTrimmed.trim_eq ⟨?_, ?_⟩⟩
  · intro c head
    exact solid c (List.mem_of_head? head)
  · intro c last
    exact solid c (List.mem_of_getLast? last)

/-- Between two characters that are not blank anything is tidy. -/
theorem isTidy_between {first last : Char} (front : isBlank first = false)
    (back : isBlank last = false) (inner : Text) : IsTidy (first :: inner ++ [last]) := by
  have single : ∀ {c : Char}, isBlank c = false → IsTidy [c] := by
    intro c solid
    apply isTidy_of_forall (List.cons_ne_nil c [])
    intro d member
    rw [List.mem_singleton.mp member]
    exact solid
  exact (single front).surround (single back) inner

theorem consHead_append (c : Char) {pieces : List Text} (filled : pieces ≠ [])
    (others : List Text) : consHead c (pieces ++ others) = consHead c pieces ++ others := by
  cases pieces with
  | nil => exact absurd rfl filled
  | cons piece rest => rfl

theorem split_ne_nil (separates : Char → Bool) (text : Text) : split separates text ≠ [] := by
  induction text with
  | nil => simp [split]
  | cons c rest ih =>
    simp only [split]
    split
    · simp
    · unfold consHead
      split <;> simp

/-- A text with a character that is not blank has a word. -/
theorem words_ne_nil {text : Text} {c : Char} (member : c ∈ text) (solid : isBlank c = false) :
    text.words ≠ [] := by
  suffices found : ∃ piece ∈ split isBlank text, piece ≠ [] by
    obtain ⟨piece, listed, filled⟩ := found
    apply List.ne_nil_of_mem (a := piece)
    simpa [words, List.mem_filter] using And.intro listed filled
  induction text with
  | nil => cases member
  | cons d rest ih =>
    simp only [split]
    by_cases blank : isBlank d = true
    · have later : c ∈ rest := by
        rcases List.mem_cons.mp member with rfl | later
        · rw [solid] at blank
          cases blank
        · exact later
      obtain ⟨piece, listed, filled⟩ := ih later
      simp only [blank, ↓reduceIte]
      exact ⟨piece, List.mem_cons_of_mem _ listed, filled⟩
    · simp only [blank, Bool.false_eq_true, ↓reduceIte]
      cases pieces : split isBlank rest with
      | nil => exact absurd pieces (split_ne_nil isBlank rest)
      | cons first others => exact ⟨d :: first, List.mem_cons_self, List.cons_ne_nil d first⟩

theorem IsTidy.words_ne_nil {text : Text} (tidy : IsTidy text) : text.words ≠ [] := by
  obtain ⟨filled, trimmed⟩ := tidy
  cases text with
  | nil => exact absurd rfl filled
  | cons c rest =>
    exact Text.words_ne_nil List.mem_cons_self ((isTrimmed_of_trim_eq trimmed).head c rfl)

end ClassUsage.Text
