import ClassUsage.Expression.Object
import ClassUsage.Expression.Ternary
import ClassUsage.Proofs.PhraseReading

set_option autoImplicit false

/-!
Texts in which every bracket is closed by one of its own kind and every string literal is closed. A scan
of such a text is neutral only where no bracket is open, so what it cuts off there is such a text again.
-/
namespace ClassUsage

/-- What has to be remembered of the text read so far to tell the kinds of bracket apart. -/
inductive Nesting where
  /-- Outside string literals, with the open brackets, the innermost first. -/
  | outside (pending : List Bracket) (escaped : Bool)
  | inside (pending : List Bracket) (mark : Char) (isMark : isQuote mark = true)
deriving DecidableEq

namespace Nesting

def start : Nesting := outside [] false

/-- Reads one character. A bracket of the wrong kind is refused, and so is a backslash in a literal. -/
def step : Nesting → Char → Option Nesting
  | outside pending escaped, c =>
    if isMark : isQuote c = true ∧ escaped = false then some (inside pending c isMark.1)
    else
      match Bracket.ofOpener? [c], Bracket.ofCloser? [c] with
      | some bracket, _ => some (outside (bracket :: pending) false)
      | none, some bracket =>
        if pending.head? = some bracket then some (outside pending.tail false) else none
      | none, none => some (outside pending (c == '\\'))
  | inside pending mark isMark, c =>
    if c = '\\' then none
    else if c = mark then some (outside pending false)
    else some (inside pending mark isMark)

def run (nesting : Nesting) : Text → Option Nesting
  | [] => some nesting
  | c :: rest => (nesting.step c).bind fun next => next.run rest

inductive Reads : Nesting → Char → Nesting → Prop
  | quotes {pending : List Bracket} {c : Char} (isMark : isQuote c = true) :
      Reads (outside pending false) c (inside pending c isMark)
  | opens (bracket : Bracket) {pending : List Bracket} {escaped : Bool} :
      Reads (outside pending escaped) bracket.opener (outside (bracket :: pending) false)
  | closes (bracket : Bracket) {pending : List Bracket} {escaped : Bool} :
      Reads (outside (bracket :: pending) escaped) bracket.closer (outside pending false)
  | passes {pending : List Bracket} {escaped : Bool} {c : Char} (noOpener : isOpener c = false)
      (noCloser : isCloser c = false) (noMark : isQuote c = true → escaped = true) :
      Reads (outside pending escaped) c (outside pending (c == '\\'))
  | unquotes {pending : List Bracket} {mark : Char} (isMark : isQuote mark = true) :
      Reads (inside pending mark isMark) mark (outside pending false)
  | stays {pending : List Bracket} {mark c : Char} (isMark : isQuote mark = true) (notMark : c ≠ mark)
      (noEscape : c ≠ '\\') : Reads (inside pending mark isMark) c (inside pending mark isMark)

end Nesting

theorem Bracket.ofOpener?_eq_some_iff {c : Char} {bracket : Bracket} :
    Bracket.ofOpener? [c] = some bracket ↔ c = bracket.opener := by
  constructor
  · intro found
    have equal := List.find?_some found
    simpa using equal
  · rintro rfl
    cases bracket <;> decide

theorem Bracket.ofCloser?_eq_some_iff {c : Char} {bracket : Bracket} :
    Bracket.ofCloser? [c] = some bracket ↔ c = bracket.closer := by
  constructor
  · intro found
    have equal := List.find?_some found
    simpa using equal
  · rintro rfl
    cases bracket <;> decide

theorem Bracket.ofOpener?_eq_none_iff {c : Char} : Bracket.ofOpener? [c] = none ↔ isOpener c = false := by
  simp [ofOpener?, isOpener, opener, and_assoc]

theorem Bracket.ofCloser?_eq_none_iff {c : Char} : Bracket.ofCloser? [c] = none ↔ isCloser c = false := by
  simp [ofCloser?, isCloser, closer, and_assoc]

theorem Bracket.opener_marks (bracket : Bracket) :
    isQuote bracket.opener = false ∧ isOpener bracket.opener = true ∧ bracket.opener ≠ '\\' := by
  cases bracket <;> decide

theorem Bracket.closer_marks (bracket : Bracket) :
    isQuote bracket.closer = false ∧ isOpener bracket.closer = false ∧
      isCloser bracket.closer = true ∧ bracket.closer ≠ '\\' := by
  cases bracket <;> decide

theorem ne_escape_of_isQuote {c : Char} (isMark : isQuote c = true) : c ≠ '\\' := by
  rintro rfl
  cases isMark

namespace Nesting

theorem step_eq_some_iff {nesting next : Nesting} {c : Char} :
    nesting.step c = some next ↔ Reads nesting c next := by
  constructor
  · intro found
    cases nesting with
    | outside pending escaped =>
      simp only [step] at found
      split at found
      · rename_i isMark
        obtain ⟨isMark, rfl⟩ := isMark
        cases found
        exact .quotes isMark
      · rename_i notMark
        split at found
        · rename_i bracket opens
          cases found
          rw [Bracket.ofOpener?_eq_some_iff.mp opens]
          exact .opens bracket
        · rename_i bracket noOpener closes
          split at found
          · rename_i top
            cases found
            obtain ⟨others, rfl⟩ := List.head?_eq_some_iff.mp top
            rw [Bracket.ofCloser?_eq_some_iff.mp closes]
            exact .closes bracket
          · cases found
        · rename_i noOpener noCloser
          cases found
          apply Reads.passes (Bracket.ofOpener?_eq_none_iff.mp noOpener)
            (Bracket.ofCloser?_eq_none_iff.mp noCloser)
          intro isMark
          simpa [isMark] using notMark
    | inside pending mark isMark =>
      simp only [step] at found
      split at found
      · cases found
      · rename_i noEscape
        split at found
        · rename_i same
          cases found
          subst same
          exact .unquotes isMark
        · rename_i notMark
          cases found
          exact .stays isMark notMark noEscape
  · intro reads
    cases reads with
    | quotes isMark => simp [step, isMark]
    | opens bracket =>
      have opens := Bracket.ofOpener?_eq_some_iff.mpr (Eq.refl bracket.opener)
      simp [step, bracket.opener_marks, opens]
    | closes bracket =>
      have noOpener := Bracket.ofOpener?_eq_none_iff.mpr bracket.closer_marks.2.1
      have closes := Bracket.ofCloser?_eq_some_iff.mpr (Eq.refl bracket.closer)
      simp [step, bracket.closer_marks, noOpener, closes]
    | @passes pending escaped _ noOpener noCloser noMark =>
      have notMark : ¬ (isQuote c = true ∧ escaped = false) := by
        rintro ⟨isMark, rfl⟩
        cases noMark isMark
      simp [step, notMark, Bracket.ofOpener?_eq_none_iff.mpr noOpener,
        Bracket.ofCloser?_eq_none_iff.mpr noCloser]
    | unquotes isMark =>
      simp [step, ne_escape_of_isQuote isMark]
    | stays isMark notMark noEscape => simp [step, notMark, noEscape]

theorem Reads.unique {nesting next other : Nesting} {c : Char} (reads : Reads nesting c next)
    (also_reads : Reads nesting c other) : next = other := by
  have known := step_eq_some_iff.mpr reads
  rw [step_eq_some_iff.mpr also_reads] at known
  exact (Option.some.inj known).symm

theorem run_cons_eq_some_iff {nesting last : Nesting} {c : Char} {rest : Text} :
    nesting.run (c :: rest) = some last ↔
      ∃ next, Reads nesting c next ∧ next.run rest = some last := by
  simp only [run, Option.bind_eq_some_iff, step_eq_some_iff]

theorem run_append (nesting : Nesting) (first second : Text) :
    nesting.run (first ++ second) = (nesting.run first).bind fun next => next.run second := by
  induction first generalizing nesting with
  | nil => rfl
  | cons c rest ih => simp only [List.cons_append, run, Option.bind_assoc, ih]

def toScan : Nesting → Scan
  | outside pending escaped => ⟨pending.length, none, escaped⟩
  | inside pending mark _ => ⟨pending.length, some mark, false⟩

theorem Reads.toScan_eq {nesting next : Nesting} {c : Char} (reads : Reads nesting c next) :
    nesting.toScan.step c = next.toScan := by
  cases reads with
  | quotes isMark => simp [toScan, Scan.step, isMark, ne_escape_of_isQuote isMark]
  | opens bracket => simp [toScan, Scan.step, bracket.opener_marks]
  | closes bracket => simp [toScan, Scan.step, bracket.closer_marks]
  | @passes pending escaped _ noOpener noCloser noMark =>
    have notMark : (isQuote c && !escaped) = false := by
      cases isMark : isQuote c with
      | false => rfl
      | true => simp [noMark isMark]
    simp [toScan, Scan.step, noOpener, noCloser, notMark]
  | unquotes isMark => simp [toScan, Scan.step, ne_escape_of_isQuote isMark]
  | stays isMark notMark noEscape => simp [toScan, Scan.step, notMark, noEscape]

theorem toScan_run {nesting last : Nesting} {text : Text} (read : nesting.run text = some last) :
    nesting.toScan.run text = last.toScan := by
  induction text generalizing nesting with
  | nil =>
    cases read
    rfl
  | cons c rest ih =>
    obtain ⟨next, reads, later⟩ := run_cons_eq_some_iff.mp read
    rw [Scan.run_cons, reads.toScan_eq, ih later]

/-- The scan is neutral only where no bracket is open. -/
theorem isNeutral_toScan {nesting : Nesting} (neutral : nesting.toScan.isNeutral = true) :
    ∃ escaped, nesting = outside [] escaped := by
  cases nesting with
  | inside pending mark isMark => cases neutral
  | outside pending escaped =>
    simp only [toScan, Scan.isNeutral, Option.isNone_none, Bool.true_and, beq_iff_eq] at neutral
    have none_open : pending = [] := List.eq_nil_of_length_eq_zero (by omega)
    exact ⟨escaped, by rw [none_open]⟩

/-- An ordinary character leaves everything as it is, but for the memory of a backslash. -/
theorem Reads.of_isOrdinary {pending : List Bracket} {escaped : Bool} {c : Char}
    (ordinary : Text.IsOrdinary c) : Reads (outside pending escaped) c (outside pending false) := by
  obtain ⟨noMark, noOpener, noCloser, noEscape⟩ := ordinary
  have settled : (c == '\\') = false := beq_eq_false_iff_ne.mpr noEscape
  rw [← settled]
  apply Reads.passes noOpener noCloser
  rw [noMark]
  exact nofun

/-- Outside string literals after an ordinary character means outside before it. -/
theorem Reads.outside_of_isOrdinary {nesting : Nesting} {pending : List Bracket} {escaped : Bool}
    {c : Char} (reads : Reads nesting c (outside pending escaped)) (ordinary : Text.IsOrdinary c) :
    escaped = false ∧ ∃ before, nesting = outside pending before := by
  obtain ⟨noMark, noOpener, noCloser, noEscape⟩ := ordinary
  cases reads with
  | opens bracket => simp [bracket.opener_marks] at noOpener
  | closes bracket => simp [bracket.closer_marks] at noCloser
  | passes => exact ⟨beq_eq_false_iff_ne.mpr noEscape, _, rfl⟩
  | unquotes isMark => simp [isMark] at noMark

theorem run_ordinary {text : Text} (ordinary : ∀ c ∈ text, Text.IsOrdinary c) (filled : text ≠ [])
    (pending : List Bracket) (escaped : Bool) :
    (outside pending escaped).run text = some (outside pending false) := by
  induction text generalizing escaped with
  | nil => exact absurd rfl filled
  | cons c rest ih =>
    refine run_cons_eq_some_iff.mpr ⟨_, .of_isOrdinary (ordinary c List.mem_cons_self), ?_⟩
    cases rest with
    | nil => rfl
    | cons d rest =>
      exact ih (fun e member => ordinary e (List.mem_cons_of_mem c member)) (List.cons_ne_nil d rest) _

def atop (base : List Bracket) : Nesting → Nesting
  | outside pending escaped => outside (pending ++ base) escaped
  | inside pending mark isMark => inside (pending ++ base) mark isMark

theorem Reads.atop {nesting next : Nesting} {c : Char} (reads : Reads nesting c next)
    (base : List Bracket) : Reads (nesting.atop base) c (next.atop base) := by
  cases reads with
  | quotes isMark => exact .quotes isMark
  | opens bracket => exact .opens bracket
  | closes bracket => exact .closes bracket
  | passes noOpener noCloser noMark => exact .passes noOpener noCloser noMark
  | unquotes isMark => exact .unquotes isMark
  | stays isMark notMark noEscape => exact .stays isMark notMark noEscape

theorem run_atop {nesting last : Nesting} {text : Text} (read : nesting.run text = some last)
    (base : List Bracket) : (nesting.atop base).run text = some (last.atop base) := by
  induction text generalizing nesting with
  | nil =>
    cases read
    rfl
  | cons c rest ih =>
    obtain ⟨next, reads, later⟩ := run_cons_eq_some_iff.mp read
    exact run_cons_eq_some_iff.mpr ⟨_, reads.atop base, ih later⟩

/-- Inside a bracket, one character either closes that bracket or is read as it would be outside. -/
theorem Reads.of_atop {nesting next : Nesting} {c : Char} {bracket : Bracket}
    (reads : Reads (nesting.atop [bracket]) c next) :
    ((∃ escaped, nesting = outside [] escaped) ∧ c = bracket.closer ∧ next = start) ∨
      ∃ inner, Reads nesting c inner ∧ next = inner.atop [bracket] := by
  cases nesting with
  | inside pending mark isMark =>
    right
    cases reads with
    | unquotes => exact ⟨outside pending false, .unquotes isMark, rfl⟩
    | stays _ notMark noEscape => exact ⟨_, .stays isMark notMark noEscape, rfl⟩
  | outside pending escaped =>
    generalize around : (outside pending escaped).atop [bracket] = outer at reads
    cases reads with
    | quotes isMark =>
      cases around
      exact Or.inr ⟨_, .quotes isMark, rfl⟩
    | opens opened =>
      cases around
      exact Or.inr ⟨_, .opens opened, rfl⟩
    | passes noOpener noCloser noMark =>
      cases around
      exact Or.inr ⟨_, .passes noOpener noCloser noMark, rfl⟩
    | closes closed =>
      cases pending with
      | nil =>
        cases around
        exact Or.inl ⟨⟨escaped, rfl⟩, rfl, rfl⟩
      | cons top pending =>
        cases around
        exact Or.inr ⟨_, .closes closed, rfl⟩
    | unquotes => cases around
    | stays => cases around

/-- Inside a bracket the scan is not neutral. -/
theorem isNeutral_atop (nesting : Nesting) (bracket : Bracket) :
    (nesting.atop [bracket]).toScan.isNeutral = false := by
  cases nesting with
  | inside pending mark isMark => rfl
  | outside pending escaped =>
    have notZero : ((pending ++ [bracket]).length : Int) ≠ 0 := by
      rw [List.length_append, List.length_singleton]
      omega
    simp only [atop, toScan, Scan.isNeutral, Option.isNone_none, Bool.true_and, beq_eq_false_iff_ne]
    exact notZero

/-- Up to the bracket that closes, a text is read inside the bracket as it would be outside. -/
theorem run_of_balanced {nesting last : Nesting} {bracket : Bracket} {text inner rest : Text}
    (found : (nesting.atop [bracket]).toScan.balanced bracket text = some (inner, rest))
    (read : (nesting.atop [bracket]).run text = some last) :
    ∃ escaped, nesting.run inner = some (outside [] escaped) := by
  induction text generalizing nesting inner with
  | nil => cases found
  | cons c behind ih =>
    obtain ⟨next, reads, later⟩ := run_cons_eq_some_iff.mp read
    simp only [Scan.balanced, reads.toScan_eq] at found
    rcases reads.of_atop with ⟨⟨escaped, rfl⟩, rfl, rfl⟩ | ⟨goes, inside, rfl⟩
    · have neutral : start.toScan.isNeutral = true := rfl
      simp only [neutral, beq_self_eq_true, Bool.and_self, ↓reduceIte] at found
      cases found
      exact ⟨escaped, rfl⟩
    · simp only [isNeutral_atop, Bool.false_and, Bool.false_eq_true, ↓reduceIte] at found
      obtain ⟨⟨front, back⟩, closed, equal⟩ := Option.map_eq_some_iff.mp found
      cases equal
      obtain ⟨escaped, ends⟩ := ih closed later
      exact ⟨escaped, run_cons_eq_some_iff.mpr ⟨goes, inside, ends⟩⟩

end Nesting

/-- Every bracket of the text is closed by one of its kind, and every string literal is closed and holds
no backslash. -/
def Text.IsNested (text : Text) : Prop :=
  ∃ escaped, Nesting.start.run text = some (.outside [] escaped)

instance (text : Text) : Decidable text.IsNested :=
  inferInstanceAs (Decidable (∃ escaped, Nesting.start.run text = some (.outside [] escaped)))

namespace Text

open Nesting

theorem IsNested.surround {first middle last : Text} (front : first.IsNested) (back : last.IsNested)
    (ordinary : ∀ c ∈ middle, IsOrdinary c) (filled : middle ≠ []) :
    IsNested (first ++ middle ++ last) := by
  obtain ⟨escaped, read⟩ := front
  obtain ⟨ending, later⟩ := back
  have between := run_ordinary ordinary filled [] escaped
  refine ⟨ending, ?_⟩
  rw [run_append, run_append, read, Option.bind_some, between, Option.bind_some]
  exact later

theorem IsNested.cons {text : Text} (nested : text.IsNested) {c : Char} (ordinary : IsOrdinary c) :
    IsNested (c :: text) := by
  obtain ⟨escaped, read⟩ := nested
  exact ⟨escaped, run_cons_eq_some_iff.mpr ⟨_, .of_isOrdinary ordinary, read⟩⟩

theorem IsNested.enclose {text : Text} (nested : text.IsNested) (bracket : Bracket) :
    IsNested (bracket.enclose text) := by
  obtain ⟨escaped, read⟩ := nested
  have inside : (outside [bracket] false).run text = some (outside [bracket] escaped) :=
    run_atop read [bracket]
  have ends : (outside [bracket] escaped).run [bracket.closer] = some start :=
    run_cons_eq_some_iff.mpr ⟨start, .closes bracket, rfl⟩
  have closed : (outside [bracket] false).run (text ++ [bracket.closer]) = some start := by
    rw [run_append, inside, Option.bind_some, ends]
  exact ⟨false, run_cons_eq_some_iff.mpr ⟨outside [bracket] false, .opens bracket, closed⟩⟩

/-- A nested text is cut in two nested ones at any ordinary character at its top level. -/
theorem IsNested.cut {before rest : Text} {c : Char} (nested : IsNested (before ++ c :: rest))
    (ordinary : IsOrdinary c) (neutral : ((Scan.fresh.run before).step c).isNeutral = true) :
    before.IsNested ∧ rest.IsNested := by
  obtain ⟨ending, whole⟩ := nested
  rw [run_append] at whole
  obtain ⟨middle, read, behind⟩ := Option.bind_eq_some_iff.mp whole
  obtain ⟨next, reads, later⟩ := run_cons_eq_some_iff.mp behind
  have scanned : Scan.fresh.run before = middle.toScan := toScan_run read
  rw [scanned, reads.toScan_eq] at neutral
  obtain ⟨escaped, rfl⟩ := isNeutral_toScan neutral
  obtain ⟨rfl, ended, rfl⟩ := reads.outside_of_isOrdinary ordinary
  exact ⟨⟨ended, read⟩, ⟨ending, later⟩⟩

theorem IsNested.of_append_left {first text : Text} (nested : IsNested (first ++ text))
    (ordinary : ∀ c ∈ first, IsOrdinary c) : text.IsNested := by
  cases first with
  | nil => exact nested
  | cons c rest =>
    obtain ⟨escaped, whole⟩ := nested
    have front := run_ordinary ordinary (List.cons_ne_nil c rest) [] false
    rw [run_append, start, front, Option.bind_some] at whole
    exact ⟨escaped, whole⟩

theorem IsNested.of_append_right {text last : Text} (nested : IsNested (text ++ last))
    (ordinary : ∀ c ∈ last, IsOrdinary c) : text.IsNested := by
  obtain ⟨escaped, whole⟩ := nested
  rw [run_append] at whole
  obtain ⟨middle, read, behind⟩ := Option.bind_eq_some_iff.mp whole
  have ended : ∃ ending, middle = outside [] ending := by
    clear read whole
    induction last generalizing middle with
    | nil =>
      cases behind
      exact ⟨escaped, rfl⟩
    | cons c rest ih =>
      obtain ⟨next, reads, later⟩ := run_cons_eq_some_iff.mp behind
      obtain ⟨ending, rfl⟩ := ih (fun d member => ordinary d (List.mem_cons_of_mem c member)) next later
      exact (reads.outside_of_isOrdinary (ordinary c List.mem_cons_self)).2
  obtain ⟨ending, rfl⟩ := ended
  exact ⟨ending, read⟩

theorem IsNested.trim {text : Text} (nested : text.IsNested) : text.trim.IsNested := by
  obtain ⟨before, after, front, back, decomposed⟩ := exists_trim text
  rw [decomposed] at nested
  have inner := nested.of_append_right fun c member => isOrdinary_of_isBlank (back c member)
  exact inner.of_append_left fun c member => isOrdinary_of_isBlank (front c member)

theorem IsNested.unwrap {text inner : Text} {bracket : Bracket} (nested : text.IsNested)
    (found : unwrap bracket bracket text = some inner) : inner.IsNested := by
  obtain ⟨escaped, whole⟩ := nested.trim
  unfold ClassUsage.unwrap at found
  split at found
  · cases found
  · rename_i c rest trimmed
    split at found
    · rename_i opens
      subst opens
      split at found
      · rename_i closed
        cases found
        rw [trimmed] at whole
        obtain ⟨next, reads, later⟩ := run_cons_eq_some_iff.mp whole
        obtain rfl := reads.unique (.opens bracket)
        have inside : (start.atop [bracket]).toScan.balanced bracket rest = some (inner, []) := closed
        exact run_of_balanced inside later
      · cases found
    · cases found

theorem IsNested.stripParens {text : Text} (nested : text.IsNested) :
    IsNested (stripParens text) := by
  induction text using stripParens.induct with
  | case1 text inner found ih =>
    rw [stripParens_of_enclosed found]
    exact ih (nested.unwrap found)
  | case2 text missing =>
    rw [stripParens_of_unwrap missing]
    exact nested.trim

/-- Each segment between ordinary separators is nested. The first one begins where the scan is. -/
theorem run_of_mem_segments {separates : Char → Bool} (ordinary : ∀ c, separates c = true → IsOrdinary c)
    {nesting : Nesting} {escaped : Bool} {text : Text}
    (read : nesting.run text = some (outside [] escaped)) :
    ∃ first others, nesting.toScan.segments separates text = first :: others ∧
      (∃ ending, nesting.run first = some (outside [] ending)) ∧ ∀ segment ∈ others, segment.IsNested := by
  induction text generalizing nesting with
  | nil =>
    exact ⟨[], [], rfl, ⟨escaped, read⟩, fun _ member => absurd member List.not_mem_nil⟩
  | cons c rest ih =>
    obtain ⟨next, reads, later⟩ := run_cons_eq_some_iff.mp read
    obtain ⟨first, others, segments, ⟨ending, front⟩, behind⟩ := ih later
    simp only [Scan.segments, reads.toScan_eq, segments]
    split
    · rename_i separated
      obtain ⟨separator, neutral⟩ := Bool.and_eq_true_iff.mp separated
      obtain ⟨ended, rfl⟩ := isNeutral_toScan neutral
      obtain ⟨rfl, before, rfl⟩ := reads.outside_of_isOrdinary (ordinary c separator)
      refine ⟨[], first :: others, rfl, ⟨before, rfl⟩, ?_⟩
      exact List.forall_mem_cons.mpr ⟨⟨ending, front⟩, behind⟩
    · refine ⟨c :: first, others, rfl, ⟨ending, ?_⟩, behind⟩
      exact run_cons_eq_some_iff.mpr ⟨next, reads, front⟩

theorem IsNested.of_mem_splitCommas {text segment : Text} (nested : text.IsNested)
    (member : segment ∈ splitCommas text) : segment.IsNested := by
  obtain ⟨escaped, read⟩ := nested
  have ordinary : ∀ c : Char, (c == ',') = true → IsOrdinary c := by
    intro c isComma
    rw [beq_iff_eq.mp isComma]
    decide
  obtain ⟨first, others, segments, front, behind⟩ := run_of_mem_segments ordinary read
  have known : Scan.fresh.segments (· == ',') text = first :: others := segments
  simp only [splitCommas, splitTopLevel, known, List.mem_filter, List.mem_map] at member
  obtain ⟨⟨whole, listed, rfl⟩, -⟩ := member
  rcases List.mem_cons.mp listed with rfl | later
  · exact IsNested.trim front
  · exact (behind whole later).trim

/-- What stands behind a nested key and its colon is nested. -/
theorem IsNested.of_key {key value : Text} (nested : IsNested (key ++ ':' :: value))
    (front : key.IsNested) : value.IsNested := by
  obtain ⟨escaped, read⟩ := front
  have scanned : Scan.fresh.run key = (outside [] escaped).toScan := toScan_run read
  have reads : Reads (outside [] escaped) ':' start := .of_isOrdinary (by decide)
  have neutral : ((Scan.fresh.run key).step ':').isNeutral = true := by
    rw [scanned, reads.toScan_eq]
    rfl
  exact (nested.cut (by decide) neutral).2

end Text
end ClassUsage
