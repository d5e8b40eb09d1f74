import ClassUsage.Proofs.ScriptNesting

set_option autoImplicit false

/-!
The operators that bind more loosely than `&&`, and the question marks of conditional expressions. Where
one of them has been read outside of all brackets, a search of the top level of the text finds it.
-/
namespace ClassUsage.Script

/-- What is wanted stands at the top level of the text, whatever stands behind the text. -/
def Shows (wanted : Option Char → Text → Bool) (text : Text) : Prop :=
  ∃ before c rest, text = before ++ c :: rest ∧
    ((Scan.fresh.run before).step c).isNeutral = true ∧
      ∀ behind, wanted before.getLast? (c :: rest ++ behind) = true

theorem Shows.append {wanted : Option Char → Text → Bool} {text : Text} (shows : Shows wanted text)
    (more : Text) : Shows wanted (text ++ more) := by
  obtain ⟨before, c, rest, rfl, neutral, stands⟩ := shows
  refine ⟨before, c, rest ++ more, by rw [List.append_assoc, List.cons_append], neutral, ?_⟩
  intro behind
  have whole := stands (more ++ behind)
  rwa [← List.append_assoc, List.cons_append] at whole

theorem Shows.isSome {wanted : Option Char → Text → Bool} {text : Text} (shows : Shows wanted text) :
    (Scan.fresh.findNeutral (fun _ => wanted) 0 none text).isSome = true := by
  obtain ⟨before, c, rest, rfl, neutral, stands⟩ := shows
  apply Scan.isSome_findNeutral_append
  have here := stands []
  rw [List.append_nil] at here
  rw [Scan.findNeutral, Option.or_none, neutral, here]
  rfl

/-- An operator that binds more loosely than `&&`, or the question mark of a conditional expression. -/
def IsLoose (text : Text) : Prop :=
  Shows (beginsWith orToken) text ∨ Shows (beginsWith nullishToken) text ∨ Shows startsConditional text

theorem IsLoose.append {text : Text} (loose : IsLoose text) (more : Text) : IsLoose (text ++ more) := by
  rcases loose with either | nullish | question
  · exact Or.inl (either.append more)
  · exact Or.inr (Or.inl (nullish.append more))
  · exact Or.inr (Or.inr (question.append more))

theorem IsLoose.found {text : Text} (loose : IsLoose text) :
    (hasOperator [orToken, nullishToken] text || isConditional text) = true := by
  rcases loose with either | nullish | question
  · have found : (findOperator orToken 0 text).isSome = true := by
      rw [findOperator_eq, Option.isSome_map]
      exact either.isSome
    rw [hasOperator, List.any_cons, found]
    rfl
  · have found : (findOperator nullishToken 0 text).isSome = true := by
      rw [findOperator_eq, Option.isSome_map]
      exact nullish.isSome
    rw [hasOperator, List.any_cons, List.any_cons, found]
    simp
  · have found : isConditional text = true := by
      rw [isConditional, splitQuestion_eq, Option.isSome_map]
      exact question.isSome
    rw [found, Bool.or_true]

/-- The part belongs to an operator that binds more loosely than `&&`. -/
def Unfinished.isLoose : Unfinished → Bool
  | link _ op => op.rank == .either
  | yes _ | no _ _ => true
  | unary _ | group | index _ _ | call _ _ _ => false

def Sign.isLoose : Sign → Bool
  | binary op => op.rank == .either
  | question => true
  | _ => false

/-- A loose part is begun by a loose sign behind an operand. -/
theorem sign_of_isLoose {token : Token} {slot filled : Slot} {part : Unfinished}
    (reads : token.read slot = some (filled, some part)) (loose : part.isLoose = true) :
    filled = .empty ∧ (∃ operand, slot = .filled operand) ∧
      ∃ sign, token = .sign sign ∧ sign.isLoose = true := by
  unfold Token.read at reads
  split at reads
  case h_1 text => split at reads <;> cases reads
  case h_5 op =>
    obtain ⟨sign, -, same⟩ := Option.map_eq_some_iff.mp reads
    cases same
    cases loose
  case h_6 op left =>
    cases reads
    exact ⟨rfl, ⟨left, rfl⟩, .binary op, rfl, loose⟩
  case h_8 test =>
    cases reads
    exact ⟨rfl, ⟨test, rfl⟩, .question, rfl, rfl⟩
  all_goals cases reads <;> cases loose

/-- Punctuation that closes no bracket leaves a loose part only where there was one. -/
theorem isLoose_of_ends {mark : Punctuation} {content : Option Expression} {part other : Unfinished}
    {slot : Slot} (ends : mark.ends content part = some (slot, some other))
    (loose : other.isLoose = true) : part.isLoose = true := by
  unfold Punctuation.ends at ends
  split at ends
  case h_6 => rfl
  all_goals cases ends <;> cases loose

def LooseOutside (stack : List Unfinished) : Prop := ∃ part ∈ outside stack, part.isLoose = true

namespace Parse

variable {parse next : Parse}

/-- A token leaves a loose part outside of brackets only where there was one, unless it is a loose sign
behind an operand. -/
theorem looseOutside_of_read {token : Token} (read : parse.read token = some next)
    (loose : LooseOutside next.stack) :
    LooseOutside parse.stack ∨
      (brackets parse.stack = [] ∧ next.slot = .empty ∧ (∃ operand, parse.slot = .filled operand) ∧
        ∃ sign, token = .sign sign ∧ sign.isLoose = true) := by
  by_cases inside : brackets next.stack = []
  · have before := brackets_of_read read
    rw [inside] at before
    have none := (List.append_eq_nil_iff.mp before.symm).2
    obtain ⟨slot, begun, reads, rfl⟩ := read_eq_some_iff.mp read
    obtain ⟨other, member, isLoose⟩ := loose
    rw [outside_of_brackets_eq_nil inside] at member
    rcases List.mem_append.mp member with inBegun | inStack
    · obtain rfl := Option.mem_toList.mp inBegun
      exact Or.inr ⟨none, sign_of_isLoose reads isLoose⟩
    · refine Or.inl ⟨other, ?_, isLoose⟩
      rwa [outside_of_brackets_eq_nil none]
  · rw [LooseOutside, outside_of_read read inside] at loose
    exact Or.inl loose

theorem looseOutside_of_finish {mark : Punctuation} (finished : parse.finish mark = some next)
    (loose : LooseOutside next.stack) : LooseOutside parse.stack := by
  by_cases inside : brackets parse.stack = []
  · have after := brackets_of_finish finished
    rw [inside] at after
    have none := (List.append_eq_nil_iff.mp after.symm).2
    obtain ⟨content, part, rest, slot, begun, found, ends, rfl⟩ := finish_eq_some_iff.mp finished
    obtain ⟨above, shape, -⟩ := exists_above found
    obtain ⟨other, member, isLoose⟩ := loose
    rw [outside_of_brackets_eq_nil none] at member
    rw [LooseOutside, outside_of_brackets_eq_nil inside, shape]
    rcases List.mem_append.mp member with inBegun | inRest
    · obtain rfl := Option.mem_toList.mp inBegun
      exact ⟨part, by simp, isLoose_of_ends ends isLoose⟩
    · exact ⟨other, by simp [inRest], isLoose⟩
  · rw [LooseOutside, outside_of_finish finished inside] at loose
    exact loose

end Parse

namespace State

variable {state next : State} {c : Char}

theorem looseOutside_of_settled {parse : Parse} (settles : state.settled = some parse)
    (loose : LooseOutside parse.stack) :
    LooseOutside state.parse.stack ∨
      (brackets state.parse.stack = [] ∧ parse.slot = .empty ∧
        (∃ operand, state.parse.slot = .filled operand) ∧
          ∃ text sign, state.pending = .sign text ∧ Sign.of? text = some sign ∧
            sign.isLoose = true) := by
  have plain : ∀ {token : Token}, state.parse.read token = some parse →
      (∀ sign, token ≠ .sign sign) → LooseOutside state.parse.stack := by
    intro token read notSign
    rcases Parse.looseOutside_of_read read loose with before | ⟨-, -, -, sign, same, -⟩
    · exact before
    · exact absurd same (notSign sign)
  obtain ⟨before, pending⟩ := state
  cases pending with
  | idle =>
    cases settles
    exact Or.inl loose
  | word text => exact Or.inl (plain settles (by simp))
  | number text => exact Or.inl (plain settles (by simp))
  | string mark isMark body => cases settles
  | sign text =>
    obtain ⟨sign, found, reads⟩ := Option.bind_eq_some_iff.mp settles
    rcases Parse.looseOutside_of_read reads loose with inStack | ⟨none, empty, filled, _, same, isLoose⟩
    · exact Or.inl inStack
    · cases same
      exact Or.inr ⟨none, empty, filled, text, sign, rfl, found, isLoose⟩

/-- The first character of a token leaves a loose part outside of brackets only where there was one. -/
theorem Starts.looseOutside {parse : Parse} (starts : Starts parse c next)
    (loose : LooseOutside next.parse.stack) : LooseOutside parse.stack := by
  cases starts with
  | @punctuation mark after is reads =>
    cases mark with
    | opener bracket =>
      rcases Parse.looseOutside_of_read reads loose with before | ⟨-, -, -, sign, same, -⟩
      · exact before
      · cases same
    | closer bracket => exact Parse.looseOutside_of_finish reads loose
    | comma => exact Parse.looseOutside_of_finish reads loose
    | colon => exact Parse.looseOutside_of_finish reads loose
  | _ => exact loose

end State

/-- What has been read of a text tells where its loose signs stand. -/
structure Tracks (text : Text) (state : State) : Prop where
  nesting : Nesting.start.run text = some state.nesting
  /-- A sign that is being read stands at the end of the text. -/
  sign : ∀ sign, state.pending = .sign sign → ∃ before, text = before ++ sign ∧
    Nesting.start.run before = some (.outside (brackets state.parse.stack) false) ∧
      (before.getLast? = some '?' → state.parse.slot = .empty)
  question : text.getLast? = some '?' →
    state.pending = .sign Sign.question.text ∨ state.pending = .sign nullishToken ∨
      ∃ mark isMark body, state.pending = .string mark isMark body
  loose : LooseOutside state.parse.stack → IsLoose text

theorem Tracks.fresh : Tracks [] State.fresh where
  nesting := rfl
  sign := nofun
  question := nofun
  loose := by
    rintro ⟨part, member, -⟩
    cases member

theorem isDigitChar_of_isDigit {c : Char} (digit : c.isDigit = true) : isDigitChar c = true := by
  have bounds : '0'.toNat ≤ c.toNat ∧ c.toNat ≤ '9'.toNat := Char.isDigit_iff_toNat.mp digit
  have ascii : c.toNat < 128 := Nat.lt_of_le_of_lt bounds.2 (by decide)
  have isDecimal : isDecimalDigit c = true := by
    rw [isDecimalDigit, if_pos ascii]
    exact (Bool.and_eq_true _ _).mpr ⟨decide_eq_true bounds.1, decide_eq_true bounds.2⟩
  rw [isDigitChar, isDecimal, Bool.true_or]

theorem text_of_of? {text : Text} {sign : Sign} (found : Sign.of? text = some sign) :
    text = sign.text := by
  have same := List.find?_some found
  exact (eq_of_beq same).symm

theorem questions_of_beginsSign {text : Text} (begins : beginsSign (text ++ ['?']) = true) :
    text ++ ['?'] = Sign.question.text ∨ text ++ ['?'] = nullishToken := by
  have known : ∀ sign ∈ signTexts, ∀ length < sign.length + 1,
      (sign.take length).getLast? = some '?' →
        sign.take length = Sign.question.text ∨ sign.take length = nullishToken := by
    decide
  obtain ⟨sign, listed, isFront⟩ := List.any_eq_true.mp begins
  have front := List.isPrefixOf_iff_prefix.mp isFront
  rw [List.prefix_iff_eq_take.mp front]
  apply known sign listed _ (Nat.lt_succ_of_le front.length_le)
  rw [← List.prefix_iff_eq_take.mp front, List.getLast?_concat]

/-- Behind question marks an operand has to follow. -/
theorem State.slot_of_settled {state : State} {parse : Parse} (settles : state.settled = some parse)
    (question : state.pending = .sign Sign.question.text ∨ state.pending = .sign nullishToken) :
    parse.slot = .empty := by
  obtain ⟨before, pending⟩ := state
  have reads : ∃ sign, (sign = .question ∨ sign = .binary (.logical .nullish)) ∧
      before.read (.sign sign) = some parse := by
    rcases question with rfl | rfl
    · exact ⟨_, Or.inl rfl, settles⟩
    · exact ⟨_, Or.inr rfl, settles⟩
  obtain ⟨sign, which, read⟩ := reads
  obtain ⟨slot, begun, reads, rfl⟩ := Parse.read_eq_some_iff.mp read
  rcases which with rfl | rfl
  · cases held : before.slot with
    | filled operand =>
      rw [held] at reads
      cases reads
      rfl
    | _ =>
      rw [held] at reads
      cases reads
  · cases held : before.slot with
    | filled operand =>
      rw [held] at reads
      cases reads
      rfl
    | _ =>
      rw [held] at reads
      cases reads

namespace Tracks

variable {text : Text} {state next : State} {c : Char}

theorem question_step (steps : State.Steps state c next) (last : (text ++ [c]).getLast? = some '?') :
    next.pending = .sign Sign.question.text ∨ next.pending = .sign nullishToken ∨
      ∃ mark isMark body, next.pending = .string mark isMark body := by
  rw [List.getLast?_concat, Option.some.injEq] at last
  subst last
  have signs : ∀ {sign : Text}, beginsSign (sign ++ ['?']) = true →
      Pending.sign (sign ++ ['?']) = .sign Sign.question.text ∨
        Pending.sign (sign ++ ['?']) = .sign nullishToken ∨
          ∃ mark isMark body, Pending.sign (sign ++ ['?']) = .string mark isMark body := by
    intro sign begins
    rcases questions_of_beginsSign begins with same | same
    · exact Or.inl (congrArg _ same)
    · exact Or.inr (Or.inl (congrArg _ same))
  cases steps with
  | unquotes is reads => cases ‹isQuote '?' = true›
  | chooses is digit reads => cases digit
  | begins ends settles starts =>
    cases starts with
    | space blank => exact absurd blank (by decide)
    | number part digit => cases digit
    | word part => exact absurd part (by decide)
    | string isMark => cases isMark
    | punctuation is reads => cases is
    | sign begins => exact @signs [] begins
  | goesOn grows =>
    obtain ⟨parse, pending⟩ := state
    cases grows with
    | word part => exact absurd part (by decide)
    | number more => exact absurd more (by decide)
    | string notMark noEscape => exact Or.inr (Or.inr ⟨_, _, _, rfl⟩)
    | sign begins => exact signs begins
    | fraction digit => cases digit

theorem sign_step (tracks : Tracks text state) (steps : State.Steps state c next) {sign : Text}
    (reading : next.pending = .sign sign) :
    ∃ before, text ++ [c] = before ++ sign ∧
      Nesting.start.run before = some (.outside (brackets next.parse.stack) false) ∧
        (before.getLast? = some '?' → next.parse.slot = .empty) := by
  cases steps with
  | unquotes is reads => cases reading
  | chooses is digit reads => cases reading
  | begins ends settles starts =>
    cases starts with
    | sign begins =>
      cases reading
      refine ⟨text, rfl, ?_, ?_⟩
      · rw [tracks.nesting, State.nesting_of_settled settles]
      · intro last
        rcases tracks.question last with is | is | ⟨mark, isMark, body, is⟩
        · exact State.slot_of_settled settles (Or.inl is)
        · exact State.slot_of_settled settles (Or.inr is)
        · rw [State.settled, is] at settles
          cases settles
    | _ => cases reading
  | goesOn grows =>
    obtain ⟨parse, pending⟩ := state
    cases grows with
    | sign begins =>
      cases reading
      obtain ⟨before, rfl, nesting, question⟩ := tracks.sign _ rfl
      exact ⟨before, List.append_assoc .., nesting, question⟩
    | _ => cases reading

theorem isNeutral_behind {before : Text} (nesting : Nesting.start.run before = some (.outside [] false))
    (ordinary : Text.IsOrdinary c) : ((Scan.fresh.run before).step c).isNeutral = true := by
  have scanned : Scan.fresh.run before = (Nesting.outside [] false).toScan :=
    Nesting.toScan_run nesting
  rw [scanned, (Nesting.Reads.of_isOrdinary ordinary).toScan_eq]
  rfl

/-- Of what stands before a question mark only another one matters. -/
theorem isConditionalQuestion_eq {previous : Option Char} (single : previous ≠ some '?') (next : Text) :
    isConditionalQuestion previous next = isConditionalQuestion none next := by
  unfold isConditionalQuestion
  rw [if_neg single, if_neg nofun]

theorem shows_question {before rest : Text} (nesting : Nesting.start.run before = some (.outside [] false))
    (single : before.getLast? ≠ some '?')
    (goesOn : ∀ behind, isConditionalQuestion none (rest ++ behind) = true) :
    Shows startsConditional (before ++ '?' :: rest) := by
  refine ⟨before, '?', rest, rfl, isNeutral_behind nesting (by decide), ?_⟩
  intro behind
  rw [List.cons_append, startsConditional, beq_self_eq_true, Bool.true_and,
    isConditionalQuestion_eq single]
  exact goesOn behind

/-- A sign that is read behind an operand at the top level has no question mark right before it. -/
theorem behind_operand (tracks : Tracks text state) (top : brackets state.parse.stack = [])
    {operand : Expression} (filled : state.parse.slot = .filled operand) {written : Text}
    (reading : state.pending = .sign written) :
    ∃ before, text = before ++ written ∧ Nesting.start.run before = some (.outside [] false) ∧
      before.getLast? ≠ some '?' := by
  obtain ⟨before, shape, nesting, question⟩ := tracks.sign _ reading
  rw [top] at nesting
  refine ⟨before, shape, nesting, ?_⟩
  intro last
  rw [question last] at filled
  cases filled

/-- A loose sign behind an operand stands in the text once it is known to be complete. -/
theorem isLoose_of_sign (tracks : Tracks text state) (top : brackets state.parse.stack = [])
    {operand : Expression} (filled : state.parse.slot = .filled operand) {written : Text} {sign : Sign}
    (reading : state.pending = .sign written) (is : Sign.of? written = some sign)
    (loose : sign.isLoose = true) (ends : state.pending.extend c = none) : IsLoose (text ++ [c]) := by
  obtain ⟨before, rfl, nesting, single⟩ := tracks.behind_operand top filled reading
  obtain rfl := text_of_of? is
  cases sign with
  | binary op =>
    cases op with
    | logical op =>
      cases op with
      | and => cases loose
      | or =>
        have shows : Shows (beginsWith orToken) (before ++ orToken) :=
          ⟨before, '|', ['|'], rfl, isNeutral_behind nesting (by decide), fun behind => rfl⟩
        exact Or.inl (shows.append [c])
      | nullish =>
        have shows : Shows (beginsWith nullishToken) (before ++ nullishToken) :=
          ⟨before, '?', ['?'], rfl, isNeutral_behind nesting (by decide), fun behind => rfl⟩
        exact Or.inr (Or.inl (shows.append [c]))
    | _ => cases loose
  | question =>
    have notDoubled : c ≠ '?' := by
      rintro rfl
      rw [reading] at ends
      cases ends
    have noPoint : c ≠ '.' := by
      rintro rfl
      rw [reading] at ends
      cases ends
    have shows : Shows startsConditional (before ++ '?' :: [c]) := by
      apply shows_question nesting single
      intro behind
      simp [isConditionalQuestion, notDoubled, noPoint]
    rw [Sign.text, List.append_assoc]
    exact Or.inr (Or.inr shows)
  | _ => cases loose

theorem loose_step (tracks : Tracks text state) (steps : State.Steps state c next)
    (loose : LooseOutside next.parse.stack) : IsLoose (text ++ [c]) := by
  cases steps with
  | goesOn grows => exact (tracks.loose loose).append [c]
  | unquotes is reads =>
    rcases Parse.looseOutside_of_read reads loose with before | ⟨-, -, -, sign, same, -⟩
    · exact (tracks.loose before).append [c]
    · cases same
  | chooses is digit reads =>
    rcases Parse.looseOutside_of_read reads loose with already | ⟨top, -, ⟨operand, filled⟩, -⟩
    · exact (tracks.loose already).append [c]
    · obtain ⟨before, rfl, nesting, single⟩ := tracks.behind_operand top filled is
      have shows : Shows startsConditional (before ++ '?' :: ['.', c]) := by
        apply shows_question nesting single
        intro behind
        simp [isConditionalQuestion, isDigitChar_of_isDigit digit]
      rw [Sign.text, List.append_assoc]
      exact Or.inr (Or.inr shows)
  | begins ends settles starts =>
    rcases State.looseOutside_of_settled settles (starts.looseOutside loose) with already |
      ⟨top, -, ⟨operand, filled⟩, written, sign, reading, is, isLoose⟩
    · exact (tracks.loose already).append [c]
    · exact tracks.isLoose_of_sign top filled reading is isLoose ends

/-- What is known is still known after one more character. -/
theorem step (tracks : Tracks text state) (steps : State.Steps state c next) :
    Tracks (text ++ [c]) next where
  nesting := by
    rw [Nesting.run_append, tracks.nesting, Option.bind_some]
    exact Nesting.run_cons_eq_some_iff.mpr ⟨_, steps.reads, rfl⟩
  sign := fun _ reading => tracks.sign_step steps reading
  question := question_step steps
  loose := tracks.loose_step steps

theorem run (tracks : Tracks text state) {rest : Text} {last : State}
    (read : state.run rest = some last) : Tracks (text ++ rest) last := by
  induction rest generalizing text state with
  | nil =>
    cases read
    rw [List.append_nil]
    exact tracks
  | cons c rest ih =>
    obtain ⟨next, stepped, later⟩ := State.run_cons_eq_some_iff.mp read
    rw [List.append_cons]
    exact ih (tracks.step (State.steps_of_step stepped)) later

end Tracks

/-- Where a loose sign has been read outside of brackets and something has been read behind it, a search
of the text finds such a sign. -/
theorem isLoose_of_readAll {text : Text} {parse : Parse} (reads : readAll text = some parse)
    (held : parse.slot ≠ .empty) (loose : LooseOutside parse.stack) : IsLoose text := by
  obtain ⟨state, run, settles⟩ := readAll_eq_some_iff.mp reads
  rcases State.looseOutside_of_settled settles loose with already | ⟨-, empty, -⟩
  · exact (Tracks.fresh.run run).loose already
  · exact absurd empty held

end ClassUsage.Script
