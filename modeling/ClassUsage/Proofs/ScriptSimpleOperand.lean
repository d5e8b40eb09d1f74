import ClassUsage.Proofs.Composition
import ClassUsage.Proofs.ConditionLineEnds
import ClassUsage.Proofs.ScriptNesting

set_option autoImplicit false

/-!
Conditions that count as simple, read as expressions. Outside of its brackets, such a condition is made up
of a name or a bracket with members, indexes and a call behind it and operators in front of it only, however
its brackets and string literals hide the ends of one another from the recognition of simple operands.
-/
namespace ClassUsage.Script

/-- Outside of all brackets, nothing has been begun but operators in front of an operand. -/
def Plain (stack : List Unfinished) : Prop := ∀ part ∈ outside stack, ∃ op, part = .unary op

theorem plain_nil : Plain [] := nofun

theorem Plain.cons {stack : List Unfinished} (plain : Plain stack) (top : brackets stack = []) (op : Unary) :
    Plain (.unary op :: stack) := by
  have none : brackets (.unary op :: stack) = [] := by
    rw [brackets_cons, top]
    rfl
  rw [Plain, outside_of_brackets_eq_nil none, List.forall_mem_cons,
    ← outside_of_brackets_eq_nil top]
  exact ⟨⟨op, rfl⟩, plain⟩

theorem Plain.enter {part : Unfinished} {stack : List Unfinished} (plain : Plain stack)
    (inside : brackets (part :: stack) ≠ []) : Plain (part :: stack) := by
  rw [Plain, outside_cons inside]
  exact plain

theorem isNameChar_of_isNamePart {c : Char} (part : isNamePart c = true) : isNameChar c = true := by
  rcases (Bool.or_eq_true _ _).mp part with word | dollar
  · have notBlank := isBlank_of_isWordChar word
    have noMark : (c == '\ufeff') = false := by
      rw [beq_eq_false_iff_ne]
      rintro rfl
      exact absurd word (by decide +kernel)
    have identifier : isIdentifierChar c = true := by
      by_cases ascii : c.toNat < 128
      · rw [isWordChar_of_ascii ascii] at word
        rw [isIdentifierChar, word, Bool.true_or, Bool.true_or]
      · rw [isIdentifierChar, notBlank, decide_eq_true (Nat.le_of_not_lt ascii)]
        exact Bool.or_true _
    rw [isNameChar, identifier, isSpace, notBlank, noMark]
    rfl
  · rw [eq_of_beq dollar]
    decide

theorem isNamePart_of_isNameStart {c : Char} (start : isNameStart c = true) : isNamePart c = true :=
  isNamePart_of_isAsciiNamePart (isAsciiNamePart_of_isNameStart start)

theorem State.start_of_isNameStart {c : Char} (begins : isNameStart c = true) (parse : Parse) :
    State.start parse c = some ⟨parse, .word [c]⟩ := by
  have part := isNameChar_of_isNamePart (isNamePart_of_isNameStart begins)
  have solid : ¬ isSpace c = true := by
    intro blank
    simp [isNameChar, blank] at part
  rw [State.start, if_neg solid, if_pos part, isDigit_of_isNameStart begins, if_neg Bool.false_ne_true]

theorem Pending.extend_of_isNameStart {c : Char} (begins : isNameStart c = true) (sign : Text) :
    (Pending.sign sign).extend c = none := by
  have foreign : ∀ d ∈ signTexts.flatten, isNameStart d = false :=
    Text.forall_mem_of_all (by decide)
  have ends : ¬ beginsSign (sign ++ [c]) = true := by
    intro goes
    rw [foreign c (State.mem_of_beginsSign goes)] at begins
    cases begins
  rw [Pending.extend, if_neg ends, isDigit_of_isNameStart begins, Bool.false_and, if_neg Bool.false_ne_true]

/-- What is being read outside of all brackets where a simple operand has been read up to some state. -/
inductive Shape : OperandState → State → Prop
  | start {stack : List Unfinished} {pending : Pending}
      (is : pending = .idle ∨ pending = .sign Sign.not.text) : Shape .start ⟨⟨.empty, stack⟩, pending⟩
  | name {parse : Parse} {text : Text} : Shape .name ⟨parse, .word text⟩
  | question {stack : List Unfinished} {operand : Expression} :
      Shape .question ⟨⟨.filled operand, stack⟩, .sign Sign.question.text⟩
  | point {stack : List Unfinished} {operand : Expression} {sign : Text}
      (is : sign = Sign.point.text ∨ sign = Sign.optionalPoint.text) :
      Shape .point ⟨⟨.filled operand, stack⟩, .sign sign⟩
  | complete {stack : List Unfinished} {operand : Expression} {state : OperandState}
      (is : state = .indexed ∨ state = .called) : Shape state ⟨⟨.filled operand, stack⟩, .idle⟩

/-- Where a text has been read as a simple operand up to some state, and as an expression up to another. -/
inductive Follows : OperandState → State → Prop
  | straight {operand : OperandState} {state : State} (shape : Shape operand state)
      (top : brackets state.parse.stack = []) (plain : Plain state.parse.stack) : Follows operand state
  /-- In an index, outside of string literals. Further brackets may be open in it, but no square ones. -/
  | index {state : State} {inner : List Bracket} {escaped : Bool}
      (nesting : state.nesting = .outside (inner ++ [.square]) escaped) (single : .square ∉ inner)
      (plain : Plain state.parse.stack) : Follows .index state
  /-- In a string literal in an index. The end of the index may have been taken to stand in the literal. -/
  | string {operand : OperandState} {state : State} {inner : List Bracket} {mark : Char}
      {isMark : isQuote mark = true}
      (nesting : state.nesting = .inside (inner ++ [.square]) mark isMark) (single : .square ∉ inner)
      (plain : Plain state.parse.stack) (noCall : operand ≠ .arguments ∧ operand ≠ .called) :
      Follows operand state
  /-- In the arguments of a call, or what has been taken for some. If the outermost bracket is a round one,
  it is that of the call. -/
  | arguments {state : State}
      (plain : (brackets state.parse.stack).getLast? = some .round → Plain state.parse.stack) :
      Follows .arguments state
  /-- Behind what has been taken for a call, with a bracket or a string literal that is still open. -/
  | lost {state : State} (inside : ∀ escaped, state.nesting ≠ .outside [] escaped) : Follows .called state

/-- A word fills the place of an operand. -/
theorem filled_of_word {text : Text} {slot filled : Slot} {begun : Option Unfinished}
    (reads : Token.read (.word text) slot = some (filled, begun)) :
    (∃ held, filled = .filled held) ∧ begun = none := by
  cases slot with
  | empty =>
    obtain ⟨-, found⟩ := Option.ite_none_left_eq_some.mp reads
    cases found
    exact ⟨⟨_, rfl⟩, rfl⟩
  | filled operand => cases reads
  | pointed object optional =>
    cases reads
    exact ⟨⟨_, rfl⟩, rfl⟩

/-- A complete operand fills its place. -/
theorem Shape.of_settled {operand : OperandState} {state : State} {parse : Parse}
    (shape : Shape operand state) (final : operand.isFinal = true)
    (settles : state.settled = some parse) :
    (∃ held, parse.slot = .filled held) ∧ parse.stack = state.parse.stack := by
  cases shape with
  | name =>
    obtain ⟨slot, begun, reads, rfl⟩ := Parse.read_eq_some_iff.mp settles
    obtain ⟨filled, rfl⟩ := filled_of_word reads
    exact ⟨filled, rfl⟩
  | complete is =>
    cases settles
    exact ⟨⟨_, rfl⟩, rfl⟩
  | start => cases final
  | question => cases final
  | point => cases final

namespace Follows

variable {operand after : OperandState} {state next : State} {c : Char}

/-- What a suffix begins behind a complete operand. -/
theorem suffix {stack : List Unfinished} {held : Expression} (top : brackets stack = [])
    (plain : Plain stack) (moves : OperandState.suffix c = some after)
    (started : State.start ⟨.filled held, stack⟩ c = some next) : Follows after next := by
  unfold OperandState.suffix at moves
  split at moves
  · rename_i question
    subst question
    cases moves
    cases started
    exact .straight .question top plain
  · split at moves
    · rename_i point
      subst point
      cases moves
      cases started
      exact .straight (.point (Or.inl rfl)) top plain
    · split at moves
      · rename_i opener
        subst opener
        cases moves
        cases started
        have opened : brackets (.index held false :: stack) = [.square] := by
          rw [brackets_cons, top]
          rfl
        have nesting : Nesting.outside (brackets (.index held false :: stack)) false =
            .outside ([] ++ [.square]) false := by
          rw [opened]
          rfl
        exact .index nesting List.not_mem_nil (plain.enter (by simp [opened]))
      · obtain ⟨opener, same⟩ := Option.ite_none_right_eq_some.mp moves
        subst opener
        cases same
        cases started
        exact .arguments fun _ => plain.enter (by simp [brackets_cons, Unfinished.bracket?])

theorem chars_of_suffix (moves : OperandState.suffix c = some after) :
    isNameChar c = false ∧ c.isDigit = false := by
  have known : ∀ d ∈ ['?', '.', '[', '('], isNameChar d = false ∧ d.isDigit = false :=
    Text.forall_mem_of_all (by decide)
  apply known
  unfold OperandState.suffix at moves
  grind

theorem start_step {stack : List Unfinished} {pending : Pending}
    (is : pending = .idle ∨ pending = .sign Sign.not.text) (top : brackets stack = [])
    (plain : Plain stack) (moves : OperandState.step .start c = some after)
    (stepped : State.step ⟨⟨.empty, stack⟩, pending⟩ c = some next) : Follows after next := by
  have begins : c = '!' ∨ isNameStart c = true := by
    unfold OperandState.step at moves
    grind
  have ends : pending.extend c = none := by
    rcases is with rfl | rfl
    · rfl
    · rcases begins with rfl | begins
      · rfl
      · exact Pending.extend_of_isNameStart begins _
  have noDigit : c.isDigit = false := by
    rcases begins with rfl | begins
    · rfl
    · exact isDigit_of_isNameStart begins
  have noString : ∀ mark isMark body, pending ≠ .string mark isMark body := by
    rcases is with rfl | rfl
    · exact nofun
    · exact nofun
  obtain ⟨parse, settles, started⟩ := State.exists_settled_of_step stepped ends noDigit noString
  have shape : parse.slot = .empty ∧ brackets parse.stack = [] ∧ Plain parse.stack := by
    rcases is with rfl | rfl
    · cases settles
      exact ⟨rfl, top, plain⟩
    · cases settles
      refine ⟨rfl, ?_, plain.cons top .not⟩
      exact (brackets_cons _ _).trans top
  obtain ⟨slot, stack⟩ := parse
  obtain ⟨rfl, top, plain⟩ := shape
  rcases begins with rfl | begins
  · cases moves
    cases started
    exact .straight (.start (Or.inr rfl)) top plain
  · have same : after = .name := by
      have notMark : c ≠ '!' := by
        rintro rfl
        cases begins
      rw [OperandState.step, if_neg notMark, if_pos begins] at moves
      exact (Option.some.inj moves).symm
    rw [State.start_of_isNameStart begins] at started
    cases started
    subst same
    exact .straight .name top plain

theorem point_step {stack : List Unfinished} {held : Expression} {sign : Text}
    (is : sign = Sign.point.text ∨ sign = Sign.optionalPoint.text) (top : brackets stack = [])
    (plain : Plain stack) (begins : isNameStart c = true)
    (stepped : State.step ⟨⟨.filled held, stack⟩, .sign sign⟩ c = some next) :
    Follows .name next := by
  obtain ⟨parse, settles, started⟩ := State.exists_settled_of_step stepped
    (Pending.extend_of_isNameStart begins sign) (isDigit_of_isNameStart begins) nofun
  have same : parse.stack = stack := by
    rcases is with rfl | rfl
    · cases settles
      rfl
    · cases settles
      rfl
  rw [State.start_of_isNameStart begins] at started
  cases started
  rw [← same] at top plain
  exact .straight .name top plain

/-- One character outside of all brackets. -/
theorem straight_step (shape : Shape operand state) (top : brackets state.parse.stack = [])
    (plain : Plain state.parse.stack) (moves : operand.step c = some after)
    (stepped : state.step c = some next) : Follows after next := by
  cases shape with
  | start is => exact start_step is top plain moves stepped
  | @name parse text =>
    by_cases part : isNamePart c = true
    · rw [OperandState.step, if_pos part] at moves
      have extended : (Pending.word text).extend c = some (.word (text ++ [c])) :=
        if_pos (isNameChar_of_isNamePart part)
      rw [State.step, extended] at stepped
      cases moves
      cases stepped
      exact .straight .name top plain
    · rw [OperandState.step, if_neg part] at moves
      obtain ⟨apart, noDigit⟩ := chars_of_suffix moves
      have ends : (Pending.word text).extend c = none := by simp [Pending.extend, apart]
      have noString : ∀ mark isMark body, Pending.word text ≠ .string mark isMark body := by
        intro mark isMark body same
        cases same
      obtain ⟨⟨slot, stack⟩, settles, started⟩ :=
        State.exists_settled_of_step stepped ends noDigit noString
      obtain ⟨⟨held, rfl⟩, same⟩ := Shape.of_settled .name rfl settles
      subst same
      exact suffix top plain moves started
  | question =>
    obtain ⟨point, same⟩ := Option.ite_none_right_eq_some.mp moves
    subst point
    cases same
    cases stepped
    exact .straight (.point (Or.inr rfl)) top plain
  | point is =>
    obtain ⟨begins, same⟩ := Option.ite_none_right_eq_some.mp moves
    cases same
    exact point_step is top plain begins stepped
  | complete is =>
    rcases is with rfl | rfl
    · exact suffix top plain moves stepped
    · cases moves

end Follows

def openBrackets : Nesting → List Bracket
  | .outside pending _ | .inside pending _ _ => pending

theorem brackets_of_nesting {state : State} {nesting : Nesting} (is : state.nesting = nesting) :
    brackets state.parse.stack = openBrackets nesting := by
  obtain ⟨parse, pending⟩ := state
  subst is
  cases pending with
  | _ => rfl

theorem Plain.step {state next : State} {c : Char} (plain : Plain state.parse.stack)
    (steps : State.Steps state c next) (inside : brackets state.parse.stack ≠ []) :
    Plain next.parse.stack := by
  rw [Plain, steps.outside_eq inside]
  exact plain

theorem filled_of_closer {bracket : Bracket} {content : Option Expression} {part : Unfinished}
    {slot : Slot} {begun : Option Unfinished}
    (ends : (Punctuation.closer bracket).ends content part = some (slot, begun)) :
    ∃ held, slot = .filled held := by
  unfold Punctuation.ends at ends
  split at ends
  case h_1 | h_2 | h_3 | h_4 =>
    cases ends
    exact ⟨_, rfl⟩
  all_goals cases ends <;> contradiction

/-- A closing bracket makes a complete operand of what it closes. -/
theorem complete_of_closer {state next : State} {bracket : Bracket}
    (stepped : state.step bracket.closer = some next) {pending : List Bracket} {escaped : Bool}
    (nesting : state.nesting = .outside pending escaped) :
    ∃ held stack, next = ⟨⟨.filled held, stack⟩, .idle⟩ := by
  have breaks : State.Breaks bracket.closer := by cases bracket <;> decide
  have noString : ∀ mark isMark body, state.pending ≠ .string mark isMark body := by
    intro mark isMark body is
    rw [State.nesting, is] at nesting
    cases nesting
  obtain ⟨parse, -, started⟩ := State.exists_settled_of_step stepped
    (breaks.extend_eq_none noString) breaks.2.1 noString
  have finished : ∃ after, parse.finish (.closer bracket) = some after ∧ next = ⟨after, .idle⟩ := by
    cases bracket with
    | round =>
      obtain ⟨after, found, rfl⟩ := Option.map_eq_some_iff.mp started
      exact ⟨after, found, rfl⟩
    | square =>
      obtain ⟨after, found, rfl⟩ := Option.map_eq_some_iff.mp started
      exact ⟨after, found, rfl⟩
    | curly => cases started
  obtain ⟨after, found, rfl⟩ := finished
  obtain ⟨content, part, rest, slot, begun, -, ends, rfl⟩ := Parse.finish_eq_some_iff.mp found
  obtain ⟨held, rfl⟩ := filled_of_closer ends
  exact ⟨held, _, rfl⟩

/-- Only a round bracket can be closed by one. -/
theorem of_round_closer {nesting : Nesting} {escaped : Bool}
    (reads : Nesting.Reads nesting ')' (.outside [] escaped)) :
    ∃ before, nesting = .outside [.round] before := by
  generalize is : ')' = c at reads
  cases reads with
  | closes bracket =>
    cases bracket with
    | round => exact ⟨_, rfl⟩
    | _ => cases is
  | passes noOpener noCloser noMark =>
    subst is
    cases noCloser
  | unquotes isMark =>
    subst is
    cases isMark

/-- Without a round bracket that is opened, the outermost bracket is a round one only if it was before. -/
theorem outermost_of_reads {nesting next : Nesting} {c : Char} (reads : Nesting.Reads nesting c next)
    (notOpener : c ≠ '(') (round : (openBrackets next).getLast? = some .round) :
    (openBrackets nesting).getLast? = some .round := by
  cases reads with
  | @opens bracket pending escaped =>
    cases pending with
    | nil =>
      cases round
      exact absurd rfl notOpener
    | cons first pending => exact (List.getLast?_cons_cons ..).symm.trans round
  | @closes bracket pending escaped =>
    cases pending with
    | nil => cases round
    | cons first pending => exact (List.getLast?_cons_cons ..).trans round
  | _ => exact round

namespace Follows

variable {operand after : OperandState} {state next : State} {c : Char}

theorem index_step {inner : List Bracket} {escaped : Bool}
    (nesting : state.nesting = .outside (inner ++ [.square]) escaped) (single : .square ∉ inner)
    (plain : Plain state.parse.stack) (moves : OperandState.step .index c = some after)
    (stepped : state.step c = some next) : Follows after next := by
  have steps := State.steps_of_step stepped
  have inside : brackets state.parse.stack ≠ [] := by
    rw [brackets_of_nesting nesting]
    simp [openBrackets]
  have plainNext := plain.step steps inside
  have reads := steps.reads
  have goesOn : c ≠ ']' → after = .index ∧ c ≠ '[' := by
    intro notCloser
    rw [OperandState.step, if_neg notCloser] at moves
    obtain ⟨notOpener, same⟩ := Option.ite_none_left_eq_some.mp moves
    exact ⟨(Option.some.inj same).symm, notOpener⟩
  rw [nesting] at reads
  generalize around : inner ++ [Bracket.square] = pending at reads
  generalize reached : next.nesting = nextNesting at reads
  cases reads with
  | quotes isMark =>
    have notCloser : c ≠ ']' := by
      rintro rfl
      cases isMark
    obtain ⟨rfl, -⟩ := goesOn notCloser
    rw [← around] at reached
    exact .string reached single plainNext ⟨by decide, by decide⟩
  | opens bracket =>
    have notCloser : bracket.opener ≠ ']' := by cases bracket <;> decide
    obtain ⟨rfl, notOpener⟩ := goesOn notCloser
    have different : Bracket.square ≠ bracket := by
      rintro rfl
      exact notOpener rfl
    rw [← around, ← List.cons_append] at reached
    exact .index reached (List.not_mem_cons_of_ne_of_not_mem different single) plainNext
  | closes bracket =>
    cases inner with
    | nil =>
      cases around
      cases moves
      obtain ⟨held, stack, rfl⟩ := complete_of_closer stepped nesting
      exact .straight (.complete (Or.inl rfl)) (brackets_of_nesting reached) plainNext
    | cons first inner =>
      cases around
      have notCloser : bracket.closer ≠ ']' := by
        intro same
        apply List.ne_of_not_mem_cons single
        cases bracket with
        | square => rfl
        | _ => cases same
      obtain ⟨rfl, -⟩ := goesOn notCloser
      exact .index reached (List.not_mem_of_not_mem_cons single) plainNext
  | passes noOpener noCloser noMark =>
    have notCloser : c ≠ ']' := by
      rintro rfl
      cases noCloser
    obtain ⟨rfl, -⟩ := goesOn notCloser
    rw [← around] at reached
    exact .index reached single plainNext

/-- A quotation mark is read only inside of brackets. -/
theorem of_isQuote (isMark : isQuote c = true) (moves : operand.step c = some after) :
    (operand = .index ∧ after = .index) ∨ operand = .arguments := by
  have known : ∀ d : Char, isQuote d = true → d = '\x22' ∨ d = '\x27' ∨ d = '\x60' := by
    intro d isMark
    simpa [isQuote, or_assoc] using isMark
  rcases known c isMark with rfl | rfl | rfl
  all_goals
    cases operand with
    | index =>
      cases moves
      exact Or.inl ⟨rfl, rfl⟩
    | arguments => exact Or.inr rfl
    | _ => cases moves

theorem eq_arguments_of_step (moves : operand.step c = some .called) : operand = .arguments := by
  unfold OperandState.step OperandState.suffix at moves
  grind

theorem string_step {inner : List Bracket} {mark : Char} {isMark : isQuote mark = true}
    (nesting : state.nesting = .inside (inner ++ [.square]) mark isMark) (single : .square ∉ inner)
    (plain : Plain state.parse.stack) (noCall : operand ≠ .arguments ∧ operand ≠ .called)
    (moves : operand.step c = some after) (stepped : state.step c = some next) : Follows after next := by
  have steps := State.steps_of_step stepped
  have inside : brackets state.parse.stack ≠ [] := by
    rw [brackets_of_nesting nesting]
    simp [openBrackets]
  have plainNext := plain.step steps inside
  have reads := steps.reads
  rw [nesting] at reads
  generalize reached : next.nesting = nextNesting at reads
  cases reads with
  | unquotes =>
    rcases of_isQuote isMark moves with ⟨-, rfl⟩ | called
    · exact .index reached single plainNext
    · exact absurd called noCall.1
  | stays _ notMark noEscape =>
    by_cases call : after = .arguments
    · subst call
      apply Follows.arguments
      intro round
      rw [brackets_of_nesting reached] at round
      simp [openBrackets] at round
    · have notCalled : after ≠ .called := by
        rintro rfl
        exact noCall.1 (eq_arguments_of_step moves)
      exact .string reached single plainNext ⟨call, notCalled⟩

theorem arguments_step
    (plain : (brackets state.parse.stack).getLast? = some .round → Plain state.parse.stack)
    (moves : OperandState.step .arguments c = some after) (stepped : state.step c = some next) :
    Follows after next := by
  have steps := State.steps_of_step stepped
  have reads := steps.reads
  by_cases closes : c = ')'
  · subst closes
    cases moves
    by_cases top : ∃ escaped, next.nesting = .outside [] escaped
    · obtain ⟨escaped, reached⟩ := top
      rw [reached] at reads
      obtain ⟨before, nesting⟩ := of_round_closer reads
      have held : brackets state.parse.stack = [.round] := brackets_of_nesting nesting
      have plainNext := (plain (by rw [held]; rfl)).step steps (by rw [held]; exact List.cons_ne_nil _ _)
      have closes : state.step Bracket.round.closer = some next := stepped
      obtain ⟨held, stack, rfl⟩ := complete_of_closer closes nesting
      exact .straight (.complete (Or.inr rfl)) (brackets_of_nesting reached) plainNext
    · exact .lost (not_exists.mp top)
  · have goesOn : after = .arguments ∧ c ≠ '(' := by
      rw [OperandState.step, if_neg closes] at moves
      obtain ⟨notOpener, same⟩ := Option.ite_none_left_eq_some.mp moves
      exact ⟨(Option.some.inj same).symm, notOpener⟩
    obtain ⟨rfl, notOpener⟩ := goesOn
    apply Follows.arguments
    intro round
    rw [brackets_of_nesting rfl] at round
    have before := outermost_of_reads reads notOpener round
    rw [← brackets_of_nesting rfl] at before
    apply (plain before).step steps
    intro none
    rw [none] at before
    cases before

/-- What one character does to both. -/
theorem step (follows : Follows operand state) (moves : operand.step c = some after)
    (stepped : state.step c = some next) : Follows after next := by
  cases follows with
  | straight shape top plain => exact straight_step shape top plain moves stepped
  | index nesting single plain => exact index_step nesting single plain moves stepped
  | string nesting single plain noCall => exact string_step nesting single plain noCall moves stepped
  | arguments plain => exact arguments_step plain moves stepped
  | lost inside => cases moves

theorem run {text : Text} {last : OperandState} {final : State} (follows : Follows operand state)
    (moves : text.foldlM OperandState.step operand = some last) (read : state.run text = some final) :
    Follows last final := by
  induction text generalizing operand state with
  | nil =>
    cases moves
    cases read
    exact follows
  | cons c rest ih =>
    rw [List.foldlM_cons] at moves
    obtain ⟨after, here, later⟩ := Option.bind_eq_some_iff.mp moves
    obtain ⟨next, stepped, goes⟩ := State.run_cons_eq_some_iff.mp read
    exact ih (follows.step here stepped) later goes

end Follows

theorem brackets_of_expression? {parse : Parse} {expression : Expression}
    (whole : parse.expression? = some expression) : brackets parse.stack = [] := by
  obtain ⟨above, shape, finished⟩ := Parse.exists_above (Parse.expression?_eq_some_iff.mp whole)
  rw [shape, List.append_nil]
  exact brackets_of_finished finished

/-- A simple operand. -/
theorem plain_of_isSimpleOperand {text : Text} {state : State} {parse : Parse} {expression : Expression}
    (run : State.fresh.run text = some state) (settles : state.settled = some parse)
    (whole : parse.expression? = some expression) (trimmed : text.trim = text)
    (simple : text.isSimpleOperand = true) : Plain parse.stack := by
  rw [Text.isSimpleOperand, Text.dropFinalNewline_of_trimmed trimmed, Option.any_eq_true] at simple
  obtain ⟨last, moves, final⟩ := simple
  have fresh : Follows .start State.fresh := .straight (.start (Or.inl rfl)) rfl plain_nil
  have nesting : state.nesting = .outside [] false := by
    rw [State.nesting_of_settled settles, brackets_of_expression? whole]
  cases fresh.run moves run with
  | straight shape top plain =>
    rw [(shape.of_settled final settles).2]
    exact plain
  | index => cases final
  | string inside =>
    rw [inside] at nesting
    cases nesting
  | arguments => cases final
  | lost inside => exact absurd nesting (inside false)

/-- Up to the bracket that closes at the end of a text, nothing changes outside of it. -/
theorem outside_of_balanced {text inner : Text} {bracket : Bracket} {nesting : Nesting}
    {state last : State}
    (found : (nesting.atop [bracket]).toScan.balanced bracket text = some (inner, []))
    (around : state.nesting = nesting.atop [bracket]) (run : state.run text = some last) :
    outside last.parse.stack = outside state.parse.stack ∧ last.settled = some last.parse := by
  induction text generalizing nesting state inner with
  | nil => cases found
  | cons c rest ih =>
    obtain ⟨next, stepped, later⟩ := State.run_cons_eq_some_iff.mp run
    have steps := State.steps_of_step stepped
    have inside : brackets state.parse.stack ≠ [] := by
      rw [brackets_of_nesting around]
      cases nesting with
      | _ => simp [Nesting.atop, openBrackets]
    have kept := steps.outside_eq inside
    have reads := steps.reads
    rw [around] at reads
    simp only [Scan.balanced, reads.toScan_eq] at found
    rcases reads.of_atop with ⟨⟨escaped, rfl⟩, rfl, reached⟩ | ⟨goes, -, reached⟩
    · have neutral : Nesting.start.toScan.isNeutral = true := rfl
      simp only [reached, neutral, beq_self_eq_true, Bool.and_self, ↓reduceIte] at found
      cases found
      cases later
      obtain ⟨held, stack, rfl⟩ := complete_of_closer stepped around
      exact ⟨kept, rfl⟩
    · simp only [reached, Nesting.isNeutral_atop, Bool.false_and, Bool.false_eq_true,
        ↓reduceIte] at found
      obtain ⟨⟨front, back⟩, closed, equal⟩ := Option.map_eq_some_iff.mp found
      cases equal
      rw [← kept]
      exact ih closed reached later

/-- A condition between brackets. -/
theorem plain_of_unwrap {text inner : Text} {state : State} {parse : Parse} {expression : Expression}
    (run : State.fresh.run text = some state) (settles : state.settled = some parse)
    (whole : parse.expression? = some expression) (trimmed : text.trim = text)
    (simple : unwrap .round .round text = some inner) : Plain parse.stack := by
  rw [unwrap, trimmed] at simple
  cases text with
  | nil => cases simple
  | cons c rest =>
    obtain ⟨rfl, found⟩ := Option.ite_none_right_eq_some.mp simple
    split at found
    · rename_i closed
      have later : State.run ⟨⟨.empty, [.group]⟩, .idle⟩ rest = some state := run
      have inside : (Nesting.start.atop [.round]).toScan.balanced .round rest = some (_, []) := closed
      obtain ⟨kept, ends⟩ := outside_of_balanced inside rfl later
      rw [ends] at settles
      cases settles
      rw [Plain, kept]
      exact plain_nil
    · cases found

/-- Outside of brackets, a condition that counts as simple holds no operators between operands. -/
theorem unary_of_isSimple {text : Text} {parse : Parse} {expression : Expression}
    (reads : readAll text = some parse) (whole : parse.expression? = some expression)
    (trimmed : text.trim = text) (simple : Condition.isSimple text = true) :
    ∀ part ∈ parse.stack, ∃ op, part = .unary op := by
  obtain ⟨state, run, settles⟩ := readAll_eq_some_iff.mp reads
  have plain : Plain parse.stack := by
    rcases (Bool.or_eq_true _ _).mp simple with operand | enclosed
    · exact plain_of_isSimpleOperand run settles whole trimmed operand
    · obtain ⟨inner, found⟩ := Option.isSome_iff_exists.mp enclosed
      exact plain_of_unwrap run settles whole trimmed found
  rwa [Plain, outside_of_brackets_eq_nil (brackets_of_expression? whole)] at plain

end ClassUsage.Script
