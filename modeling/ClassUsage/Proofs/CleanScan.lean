import ClassUsage.Proofs.AttributeReading

set_option autoImplicit false

/-!
Texts that a scan passes through and leaves as it was: their brackets and string literals are complete.
What stands at the top level of such a text can be told apart from what stands around it.
-/
namespace ClassUsage

namespace Scan

def deeper (scan : Scan) (levels : Int) : Scan := { scan with depth := scan.depth + levels }

theorem step_deeper (scan : Scan) (levels : Int) (c : Char) :
    (scan.deeper levels).step c = (scan.step c).deeper levels := by
  unfold step deeper
  dsimp only
  split
  · split
    · rfl
    · split
      · simp only [Scan.mk.injEq, and_self, and_true]
        omega
      · split
        · simp only [Scan.mk.injEq, and_self, and_true]
          omega
        · rfl
  · split
    · rfl
    · rfl

theorem run_deeper (scan : Scan) (levels : Int) (text : Text) :
    (scan.deeper levels).run text = (scan.run text).deeper levels := by
  induction text generalizing scan with
  | nil => rfl
  | cons c rest ih => rw [run_cons, run_cons, step_deeper, ih]

theorem trace_deeper (scan : Scan) (levels : Int) (text : Text) :
    (scan.deeper levels).trace text = (scan.trace text).map (·.deeper levels) := by
  induction text generalizing scan with
  | nil => rfl
  | cons c rest ih => simp only [trace, List.map_cons, step_deeper, ih]

theorem trace_append (scan : Scan) (first second : Text) :
    scan.trace (first ++ second) = scan.trace first ++ (scan.run first).trace second := by
  induction first generalizing scan with
  | nil => rfl
  | cons c rest ih => simp only [List.cons_append, trace, run_cons, ih]

theorem mem_trace_append (scan : Scan) (text : Text) (c : Char) (rest : Text) :
    (scan.run text).step c ∈ scan.trace (text ++ c :: rest) := by
  rw [trace_append]
  exact List.mem_append_right _ List.mem_cons_self

theorem isNeutral_iff {scan : Scan} : scan.isNeutral = true ↔ scan.quote = none ∧ scan.depth = 0 := by
  simp only [isNeutral, Bool.and_eq_true, Option.isNone_iff_eq_none, beq_iff_eq]

/-- The scan is outside of string literals or in one between quotation marks. -/
def IsQuoting (scan : Scan) : Prop := ∀ mark ∈ scan.quote, isQuote mark = true

theorem isQuoting_of_quote_eq_none {scan : Scan} (unquoted : scan.quote = none) : scan.IsQuoting := by
  intro mark inside
  rw [unquoted] at inside
  cases inside

theorem isQuoting_fresh : fresh.IsQuoting := isQuoting_of_quote_eq_none rfl

theorem isQuoting_opened : opened.IsQuoting := isQuoting_of_quote_eq_none rfl

theorem IsQuoting.step {scan : Scan} (quoting : scan.IsQuoting) (c : Char) : (scan.step c).IsQuoting := by
  obtain ⟨depth, quote, escaped⟩ := scan
  intro mark inside
  unfold Scan.step at inside
  cases quote with
  | none =>
    dsimp only at inside
    split at inside
    · rename_i opens
      cases inside
      exact (Bool.and_eq_true_iff.mp opens).1
    · split at inside
      · cases inside
      · split at inside <;> cases inside
  | some current =>
    dsimp only at inside
    split at inside
    · cases inside
    · exact quoting mark inside

theorem IsQuoting.run {scan : Scan} (quoting : scan.IsQuoting) (text : Text) :
    (scan.run text).IsQuoting := by
  induction text generalizing scan with
  | nil => exact quoting
  | cons c rest ih => exact ih (quoting.step c)

end Scan

namespace Text

/-- A scan of the text ends as it began, and closes no bracket that was open before. -/
structure IsClean (text : Text) : Prop where
  closed : Scan.fresh.run text = Scan.fresh
  covered : ∀ scan ∈ Scan.fresh.trace text, 0 ≤ scan.depth

theorem isClean_nil : IsClean [] := ⟨rfl, fun _ member => absurd member List.not_mem_nil⟩

theorem IsClean.append {first second : Text} (front : IsClean first) (back : IsClean second) :
    IsClean (first ++ second) := by
  constructor
  · rw [Scan.run_append, front.closed, back.closed]
  · intro scan member
    rw [Scan.trace_append, front.closed] at member
    rcases List.mem_append.mp member with inFirst | inSecond
    · exact front.covered scan inFirst
    · exact back.covered scan inSecond

/-- A character that neither quotes nor brackets nor escapes anything. -/
def IsOrdinary (c : Char) : Prop :=
  isQuote c = false ∧ isOpener c = false ∧ isCloser c = false ∧ c ≠ '\\'

instance (c : Char) : Decidable (IsOrdinary c) := inferInstanceAs (Decidable (_ ∧ _ ∧ _ ∧ _))

def scanMarks : List Char := ['\x22', '\x27', '\x60', '(', '[', '{', ')', ']', '}', '\\']

theorem isOrdinary_of_forall_ne {c : Char} (differs : ∀ d ∈ scanMarks, c ≠ d) : IsOrdinary c := by
  simp only [scanMarks, List.forall_mem_cons, List.not_mem_nil, false_implies, implies_true,
    and_true] at differs
  simp only [IsOrdinary, isQuote, isOpener, isCloser, differs, beq_eq_false_iff_ne.mpr, ne_eq,
    not_false_eq_true, Bool.or_self, and_self]

section

variable {c : Char} (ordinary : IsOrdinary c)

include ordinary

/-- All that an ordinary character does is to end an escape. -/
theorem IsOrdinary.step_eq {scan : Scan} (quoting : scan.IsQuoting) :
    scan.step c = { scan with escaped := false } := by
  obtain ⟨noQuote, noOpener, noCloser, noEscape⟩ := ordinary
  obtain ⟨depth, quote, escaped⟩ := scan
  have notEscape : (c == '\\') = false := beq_eq_false_iff_ne.mpr noEscape
  cases quote with
  | none =>
    simp only [Scan.step, noQuote, noOpener, noCloser, notEscape, Bool.false_and, Bool.false_eq_true,
      ↓reduceIte]
  | some mark =>
    have notMark : (c == mark) = false := by
      apply beq_eq_false_iff_ne.mpr
      rintro rfl
      rw [quoting c rfl] at noQuote
      cases noQuote
    simp only [Scan.step, notMark, notEscape, Bool.false_and, Bool.false_eq_true, ↓reduceIte]

theorem IsOrdinary.isNeutral_step {scan : Scan} (quoting : scan.IsQuoting) :
    (scan.step c).isNeutral = scan.isNeutral := by
  rw [ordinary.step_eq quoting]
  rfl

theorem step_of_isOrdinary : Scan.fresh.step c = Scan.fresh :=
  ordinary.step_eq Scan.isQuoting_fresh

end

theorem isNeutral_run_of_forall {text : Text} (ordinary : ∀ c ∈ text, IsOrdinary c) {scan : Scan}
    (quoting : scan.IsQuoting) : (scan.run text).isNeutral = scan.isNeutral := by
  induction text generalizing scan with
  | nil => rfl
  | cons c rest ih =>
    have later := ih (fun d member => ordinary d (List.mem_cons_of_mem c member)) (quoting.step c)
    rw [Scan.run_cons, later, (ordinary c List.mem_cons_self).isNeutral_step quoting]

theorem isClean_of_forall {text : Text} (ordinary : ∀ c ∈ text, IsOrdinary c) : IsClean text := by
  induction text with
  | nil => exact isClean_nil
  | cons c rest ih =>
    have first := step_of_isOrdinary (ordinary c List.mem_cons_self)
    obtain ⟨closed, covered⟩ := ih fun d member => ordinary d (List.mem_cons_of_mem c member)
    constructor
    · rw [Scan.run_cons, first, closed]
    · intro scan member
      rw [Scan.trace, first] at member
      rcases List.mem_cons.mp member with rfl | later
      · exact Int.le_refl 0
      · exact covered scan later

theorem isOrdinary_of_isBlank {c : Char} (blank : isBlank c = true) : IsOrdinary c := by
  apply isOrdinary_of_forall_ne
  have solid : ∀ d ∈ scanMarks, isBlank d = false := forall_mem_of_all (by decide)
  rintro d listed rfl
  rw [solid c listed] at blank
  cases blank

theorem IsBlanks.isClean {blanks : Text} (are : IsBlanks blanks) : IsClean blanks :=
  isClean_of_forall fun c member => isOrdinary_of_isBlank (are c member)

/-- A scan of the text ends at the top level and closes no bracket that was open before. The last
character may be a backslash, which would escape a quotation mark right behind the text. -/
structure IsSelfContained (text : Text) : Prop where
  neutral : (Scan.fresh.run text).isNeutral = true
  covered : ∀ scan ∈ Scan.fresh.trace text, 0 ≤ scan.depth

theorem IsClean.isSelfContained {text : Text} (clean : IsClean text) : IsSelfContained text := by
  refine ⟨?_, clean.covered⟩
  rw [clean.closed]
  rfl

theorem IsClean.append_contained {front text : Text} (clean : IsClean front)
    (contained : text.IsSelfContained) : IsSelfContained (front ++ text) := by
  constructor
  · rw [Scan.run_append, clean.closed]
    exact contained.neutral
  · intro scan member
    rw [Scan.trace_append, clean.closed] at member
    rcases List.mem_append.mp member with inFront | inText
    · exact clean.covered scan inFront
    · exact contained.covered scan inText

/-- Only to a quotation mark does it matter how a self-contained text ends. -/
theorem IsSelfContained.step_eq {text : Text} (contained : IsSelfContained text) {c : Char}
    (noQuote : isQuote c = false) : (Scan.fresh.run text).step c = Scan.fresh.step c := by
  have neutral := contained.neutral
  generalize Scan.fresh.run text = scan at neutral
  obtain ⟨depth, quote, escaped⟩ := scan
  obtain ⟨rfl, rfl⟩ := Scan.isNeutral_iff.mp neutral
  simp only [Scan.step, Scan.fresh, noQuote, Bool.false_and, Bool.false_eq_true, ↓reduceIte]

theorem IsSelfContained.append_ordinary {text : Text} (contained : IsSelfContained text) {c : Char}
    (ordinary : IsOrdinary c) : IsClean (text ++ [c]) := by
  have last : (Scan.fresh.run text).step c = Scan.fresh := by
    rw [contained.step_eq ordinary.1, step_of_isOrdinary ordinary]
  constructor
  · rw [Scan.run_append, Scan.run_cons, last, Scan.run_nil]
  · intro scan member
    rw [Scan.trace_append, Scan.trace, last] at member
    rcases List.mem_append.mp member with inText | atEnd
    · exact contained.covered scan inText
    · rw [List.mem_singleton.mp atEnd]
      exact Int.le_refl 0

end Text

namespace Scan

theorem opened_eq_deeper : opened = fresh.deeper 1 := rfl

/-- Inside brackets no place is at the top level. -/
theorem trace_deeper_hidden {scan : Scan} {text : Text}
    (covered : ∀ inside ∈ scan.trace text, 0 ≤ inside.depth) :
    ∀ inside ∈ (scan.deeper 1).trace text, inside.isNeutral = false := by
  intro inside member
  rw [trace_deeper] at member
  obtain ⟨outer, inTrace, rfl⟩ := List.mem_map.mp member
  have above := covered outer inTrace
  apply Bool.eq_false_iff.mpr
  intro neutral
  have zero := (isNeutral_iff.mp neutral).2
  simp only [deeper] at zero
  omega

theorem trace_opened {text : Text} (contained : text.IsSelfContained) :
    ∀ scan ∈ opened.trace text, scan.isNeutral = false :=
  trace_deeper_hidden contained.covered

theorem step_opened_closer (closing : Bracket) : opened.step closing.closer = fresh := by
  cases closing <;> decide

theorem step_fresh_opener (opening : Bracket) : fresh.step opening.opener = opened := by
  cases opening <;> decide

theorem balanced_of_trace {closing : Bracket} {scan : Scan} {text : Text} (rest : Text)
    (hidden : ∀ inner ∈ scan.trace text, inner.isNeutral = false)
    (closes : ((scan.run text).step closing.closer).isNeutral = true) :
    scan.balanced closing (text ++ closing.closer :: rest) = some (text, rest) := by
  induction text generalizing scan with
  | nil =>
    rw [run_nil] at closes
    simp only [List.nil_append, balanced, closes, beq_self_eq_true, Bool.and_self, ↓reduceIte]
  | cons c behind ih =>
    have here := hidden (scan.step c) List.mem_cons_self
    have inside : ∀ inner ∈ (scan.step c).trace behind, inner.isNeutral = false :=
      fun inner member => hidden inner (List.mem_cons_of_mem _ member)
    have later := ih inside closes
    simp only [List.cons_append, balanced, here, Bool.false_and, Bool.false_eq_true, ↓reduceIte, later,
      Option.map_some]

/-- Behind a self-contained text, the bracket around it is still the one to close. -/
theorem step_run_opened {text : Text} (contained : text.IsSelfContained) (closing : Bracket) :
    (opened.run text).step closing.closer = fresh := by
  have noQuote : isQuote closing.closer = false := by cases closing <;> decide
  calc
    (opened.run text).step closing.closer = ((fresh.run text).step closing.closer).deeper 1 := by
      rw [opened_eq_deeper, run_deeper, step_deeper]
    _ = (fresh.step closing.closer).deeper 1 := by rw [contained.step_eq noQuote]
    _ = opened.step closing.closer := by rw [← step_deeper, opened_eq_deeper]
    _ = fresh := step_opened_closer closing

/-- The bracket around a self-contained text closes right behind it. -/
theorem closesAfter_of_isSelfContained {text : Text} (contained : text.IsSelfContained)
    (closing : Bracket) : opened.ClosesAfter closing text := by
  intro rest
  apply balanced_of_trace rest (trace_opened contained)
  rw [step_run_opened contained]
  rfl

/-- Only a bracket of the expected kind, in the text itself, can be the one that closes. -/
theorem balanced_append_iff {closing : Bracket} {scan : Scan} {text tail inner rest : Text}
    (absent : closing.closer ∉ tail) :
    scan.balanced closing (text ++ tail) = some (inner, rest) ↔
      ∃ behind, scan.balanced closing text = some (inner, behind) ∧ rest = behind ++ tail := by
  constructor
  · intro found
    obtain ⟨closes, parts⟩ := balanced_eq_some_iff.mp found
    rcases List.append_eq_append_iff.mp parts with ⟨more, -, inTail⟩ | ⟨more, extended, behindCloser⟩
    · exact absurd (by rw [inTail]; simp) absent
    · cases more with
      | nil =>
        rw [List.nil_append] at behindCloser
        exact absurd (by rw [← behindCloser]; simp) absent
      | cons c behind =>
        obtain ⟨rfl, rfl⟩ := List.cons.inj behindCloser
        exact ⟨behind, balanced_eq_some_iff.mpr ⟨closes, extended⟩, rfl⟩
  · rintro ⟨behind, found, rfl⟩
    obtain ⟨closes, rfl⟩ := balanced_eq_some_iff.mp found
    rw [List.append_assoc, List.cons_append]
    exact closes (behind ++ tail)

/-- The bracket that closes leads back to the top level. -/
theorem ClosesAfter.isNeutral {closing : Bracket} {scan : Scan} {inner : Text}
    (closes : scan.ClosesAfter closing inner) :
    ((scan.run inner).step closing.closer).isNeutral = true := by
  induction inner generalizing scan with
  | nil =>
    have found := closes []
    rw [List.nil_append, balanced, beq_self_eq_true, Bool.and_true] at found
    rw [run_nil]
    cases neutral : (scan.step closing.closer).isNeutral with
    | true => rfl
    | false =>
      rw [neutral] at found
      cases found
  | cons c inner ih =>
    apply ih
    intro rest
    have found := closes rest
    rw [List.cons_append, balanced] at found
    split at found
    · cases found
    · obtain ⟨⟨inside, behind⟩, later, equal⟩ := Option.map_eq_some_iff.mp found
      cases equal
      exact later

theorem escaped_step (scan : Scan) (c : Char) : (scan.step c).escaped = (c == '\\') := by
  unfold step
  dsimp only
  split
  · split
    · rfl
    · split
      · rfl
      · split
        · rfl
        · rfl
  · split
    · rfl
    · rfl

theorem eq_fresh {scan : Scan} (neutral : scan.isNeutral = true) (settled : scan.escaped = false) :
    scan = fresh := by
  obtain ⟨depth, quote, escaped⟩ := scan
  obtain ⟨rfl, rfl⟩ := isNeutral_iff.mp neutral
  cases settled
  rfl

theorem ClosesAfter.step_eq_fresh {closing : Bracket} {scan : Scan} {inner : Text}
    (closes : scan.ClosesAfter closing inner) :
    (scan.run inner).step closing.closer = fresh := by
  apply eq_fresh closes.isNeutral
  rw [escaped_step]
  cases closing <;> decide

end Scan

def Bracket.enclose (bracket : Bracket) (text : Text) : Text :=
  bracket.opener :: text ++ [bracket.closer]

theorem Text.IsSelfContained.bracketed {text : Text} (contained : IsSelfContained text)
    (opening closing : Bracket) : IsClean (opening.opener :: text ++ [closing.closer]) := by
  constructor
  · rw [List.cons_append, Scan.run_cons, Scan.step_fresh_opener, Scan.run_append, Scan.run_cons,
      Scan.step_run_opened contained, Scan.run_nil]
  · intro scan member
    rw [List.cons_append, Scan.trace, Scan.step_fresh_opener, Scan.trace_append, Scan.trace,
      Scan.step_run_opened contained] at member
    rcases List.mem_cons.mp member with rfl | later
    · decide
    · rcases List.mem_append.mp later with inside | last
      · rw [Scan.opened_eq_deeper, Scan.trace_deeper] at inside
        obtain ⟨outer, inTrace, rfl⟩ := List.mem_map.mp inside
        have above := contained.covered outer inTrace
        simp only [Scan.deeper]
        omega
      · rw [List.mem_singleton.mp last]
        decide

def Text.IsLiteralBody (body : Text) : Prop := ∀ c ∈ body, isQuote c = false ∧ c ≠ '\\'

/-- A text that can stand between two of the marks as it is. -/
def Text.IsQuotable (mark : Char) (body : Text) : Prop := ∀ c ∈ body, c ≠ mark ∧ c ≠ '\\'

theorem Text.IsLiteralBody.isQuotable {body : Text} (plain : body.IsLiteralBody) {mark : Char}
    (quote : isQuote mark = true) : body.IsQuotable mark := by
  intro c member
  obtain ⟨noQuote, noEscape⟩ := plain c member
  refine ⟨?_, noEscape⟩
  rintro rfl
  rw [quote] at noQuote
  cases noQuote

theorem holdsBareMark_eq_false {mark : Char} {body : Text} (absent : mark ∉ body) (escaped : Bool) :
    holdsBareMark mark escaped body = false := by
  induction body generalizing escaped with
  | nil => rfl
  | cons c rest ih =>
    have notMark : (c == mark) = false := beq_eq_false_iff_ne.mpr fun same =>
      absent (same ▸ List.mem_cons_self)
    rw [holdsBareMark, notMark, ih fun member => absent (List.mem_cons_of_mem c member)]
    rfl

theorem Text.IsQuotable.holdsBareMark {mark : Char} {body : Text} (plain : body.IsQuotable mark) :
    holdsBareMark mark false body = false :=
  holdsBareMark_eq_false (fun member => (plain mark member).1 rfl) false

theorem solid_of_isQuote {mark : Char} (isMark : isQuote mark = true) : isBlank mark = false := by
  simp only [isQuote, Bool.or_eq_true, beq_iff_eq] at isMark
  rcases isMark with (rfl | rfl) | rfl <;> decide

/-- What is read off a literal between two marks. -/
theorem literalBody_between {mark : Char} (quote : isQuote mark = true) (body : Text) :
    literalBody (mark :: body ++ [mark]) =
      if holdsBareMark mark false body || (mark == '\x60' && holdsInterpolation body) then none
      else if body.trim.isEmpty then none
      else some body.trim := by
  have solid := solid_of_isQuote quote
  have enclosed : enclosedBody (mark :: body ++ [mark]) = some (mark, body) := by
    have last : (body ++ [mark]).getLast? = some mark := List.getLast?_concat
    rw [List.cons_append, enclosedBody, last, List.dropLast_concat, quote, beq_self_eq_true]
    rfl
  rw [literalBody, (Text.isTidy_between solid solid body).trimmed, enclosed]

namespace Scan

def quoting (mark : Char) : Scan := { quote := some mark }

theorem getLast?_or_cons (c : Char) (rest : Text) (before : Option Char) :
    (c :: rest).getLast?.or before = rest.getLast?.or (some c) := by
  cases rest with
  | nil => rfl
  | cons d rest =>
    rw [List.getLast?_cons_cons, List.getLast?_eq_some_getLast (List.cons_ne_nil d rest)]
    rfl

theorem beq_backslash_of_isQuote {mark : Char} (quote : isQuote mark = true) :
    (mark == '\\') = false := by
  apply beq_eq_false_iff_ne.mpr
  rintro rfl
  cases quote

theorem step_fresh_quote {mark : Char} (quote : isQuote mark = true) :
    fresh.step mark = quoting mark := by
  simp only [step, fresh, quote, Bool.not_false, Bool.and_self, ↓reduceIte, quoting,
    beq_backslash_of_isQuote quote]

theorem step_quoting_quote {mark : Char} (quote : isQuote mark = true) :
    (quoting mark).step mark = fresh := by
  simp only [step, quoting, beq_self_eq_true, Bool.not_false, Bool.and_self, ↓reduceIte,
    beq_backslash_of_isQuote quote]
  rfl

/-- A literal goes on as long as its mark stands only behind backslashes. -/
theorem run_literal {mark : Char} (previous : Option Char) {body : Text}
    (noBare : holdsBareMark mark (previous == some '\\') body = false) :
    run ⟨0, some mark, previous == some '\\'⟩ body =
        ⟨0, some mark, body.getLast?.or previous == some '\\'⟩ ∧
      ∀ scan ∈ trace ⟨0, some mark, previous == some '\\'⟩ body,
        scan.depth = 0 ∧ scan.quote = some mark := by
  induction body generalizing previous with
  | nil => exact ⟨rfl, fun _ member => absurd member List.not_mem_nil⟩
  | cons c rest ih =>
    obtain ⟨here, later⟩ := Bool.or_eq_false_iff.mp noBare
    have stays : step ⟨0, some mark, previous == some '\\'⟩ c =
        ⟨0, some mark, some c == some '\\'⟩ := by
      simp only [step, here, Bool.false_eq_true, ↓reduceIte]
      rfl
    have behind := ih (some c) later
    rw [run_cons, trace, stays, getLast?_or_cons]
    refine ⟨behind.1, ?_⟩
    intro scan member
    rcases List.mem_cons.mp member with rfl | inRest
    · exact ⟨rfl, rfl⟩
    · exact behind.2 scan inRest

/-- The same from the start of the literal. -/
theorem run_quoting {mark : Char} {body : Text} (noBare : holdsBareMark mark false body = false) :
    (quoting mark).run body = ⟨0, some mark, body.getLast? == some '\\'⟩ ∧
      ∀ scan ∈ (quoting mark).trace body, scan.depth = 0 ∧ scan.quote = some mark := by
  have literal := run_literal none noBare
  rw [Option.or_none] at literal
  exact literal

/-- All of a literal but its last mark is hidden from the top level. -/
theorem trace_quoting {mark : Char} {body : Text} (noBare : holdsBareMark mark false body = false) :
    ∀ scan ∈ (quoting mark).trace body, scan.isNeutral = false := by
  intro scan member
  rw [isNeutral, ((run_quoting noBare).2 scan member).2]
  rfl

end Scan

namespace Text

theorem isClean_literal {mark : Char} (quote : isQuote mark = true) {body : Text}
    (noBare : holdsBareMark mark false body = false) (settled : body.getLast? ≠ some '\\') :
    IsClean (mark :: body ++ [mark]) := by
  obtain ⟨ends, inside⟩ := Scan.run_quoting noBare
  have returns : ((Scan.quoting mark).run body).step mark = Scan.fresh := by
    rw [ends, beq_eq_false_iff_ne.mpr settled]
    exact Scan.step_quoting_quote quote
  constructor
  · rw [List.cons_append, Scan.run_cons, Scan.step_fresh_quote quote, Scan.run_append, Scan.run_cons,
      returns, Scan.run_nil]
  · intro scan member
    rw [List.cons_append, Scan.trace, Scan.step_fresh_quote quote, Scan.trace_append, Scan.trace,
      returns] at member
    rcases List.mem_cons.mp member with rfl | later
    · exact Int.le_refl 0
    · rcases List.mem_append.mp later with within | last
      · exact Int.le_of_eq (inside scan within).1.symm
      · rw [List.mem_singleton.mp last]
        exact Int.le_refl 0

theorem IsQuotable.isClean {mark : Char} {body : Text} (plain : body.IsQuotable mark)
    (quote : isQuote mark = true) : IsClean (mark :: body ++ [mark]) := by
  apply isClean_literal quote plain.holdsBareMark
  exact fun last => (plain _ (List.mem_of_getLast? last)).2 rfl

end Text

end ClassUsage
