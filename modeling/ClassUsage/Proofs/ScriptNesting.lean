import ClassUsage.Proofs.NestedText
import ClassUsage.Proofs.ScriptReader

set_option autoImplicit false

/-!
The stack of an expression that is being read beside the brackets that are open in its text. The brackets
on the stack are those of the text, and while one of them is open, what lies below all of them stays as it
is.
-/
namespace ClassUsage.Script

/-- The bracket that a part of the stack is opened by. -/
def Unfinished.bracket? : Unfinished → Option Bracket
  | group | call _ _ _ => some .round
  | index _ _ => some .square
  | unary _ | link _ _ | yes _ | no _ _ => none

/-- The open brackets, the innermost first. -/
def brackets (stack : List Unfinished) : List Bracket := stack.filterMap Unfinished.bracket?

/-- The part of the stack that lies outside of all brackets. -/
def outside : List Unfinished → List Unfinished
  | [] => []
  | part :: below => if brackets (part :: below) = [] then part :: below else outside below

theorem brackets_cons (part : Unfinished) (below : List Unfinished) :
    brackets (part :: below) = part.bracket?.toList ++ brackets below := by
  rw [brackets, List.filterMap_cons]
  cases part.bracket? with
  | none => rfl
  | some bracket => rfl

theorem brackets_append (above below : List Unfinished) :
    brackets (above ++ below) = brackets above ++ brackets below := List.filterMap_append

theorem brackets_of_finished {above : List Unfinished} (finished : ∀ part ∈ above, part.isOpen = false) :
    brackets above = [] := by
  apply List.filterMap_eq_nil_iff.mpr
  intro part member
  have notOpen := finished part member
  cases part with
  | unary op => rfl
  | link left op => rfl
  | no test yes => rfl
  | _ => cases notOpen

theorem outside_of_brackets_eq_nil {stack : List Unfinished} (none : brackets stack = []) :
    outside stack = stack := by
  cases stack with
  | nil => rfl
  | cons part below => rw [outside, if_pos none]

theorem outside_cons {part : Unfinished} {below : List Unfinished}
    (inside : brackets (part :: below) ≠ []) : outside (part :: below) = outside below := by
  rw [outside, if_neg inside]

theorem outside_append {above below : List Unfinished} (inside : brackets below ≠ []) :
    outside (above ++ below) = outside below := by
  induction above with
  | nil => rfl
  | cons part above ih =>
    have more : brackets (part :: (above ++ below)) ≠ [] := by
      rw [brackets_cons, brackets_append]
      simp [inside]
    rw [List.cons_append, outside_cons more, ih]

def Token.bracket? : Token → Option Bracket
  | opener bracket => some bracket
  | _ => none

def Punctuation.closes? : Punctuation → Option Bracket
  | closer bracket => some bracket
  | _ => none

theorem bracket?_of_read {token : Token} {slot filled : Slot} {begun : Option Unfinished}
    (reads : token.read slot = some (filled, begun)) :
    begun.bind Unfinished.bracket? = token.bracket? := by
  unfold Token.read at reads
  split at reads
  case h_1 text =>
    split at reads
    · cases reads
    · cases reads
      rfl
  case h_5 op =>
    obtain ⟨sign, -, same⟩ := Option.map_eq_some_iff.mp reads
    cases same
    rfl
  all_goals cases reads <;> rfl

/-- A closing bracket takes a part off the stack, and other punctuation puts one in its place. -/
theorem ends_cases {mark : Punctuation} {content : Option Expression} {part : Unfinished} {slot : Slot}
    {begun : Option Unfinished} (ends : mark.ends content part = some (slot, begun)) :
    (∃ bracket, mark.closes? = some bracket ∧ part.bracket? = some bracket ∧ begun = none) ∨
      (mark.closes? = none ∧ ∃ other, begun = some other ∧ other.bracket? = part.bracket?) := by
  unfold Punctuation.ends at ends
  split at ends
  case h_1 | h_2 | h_3 | h_4 =>
    cases ends
    exact Or.inl ⟨_, rfl, rfl, rfl⟩
  case h_5 | h_6 =>
    cases ends
    exact Or.inr ⟨rfl, _, rfl, rfl⟩
  case h_7 => cases ends

namespace Parse

variable {parse next : Parse}

theorem read_eq_some_iff {token : Token} :
    parse.read token = some next ↔ ∃ slot begun, token.read parse.slot = some (slot, begun) ∧
      next = ⟨slot, begun.toList ++ parse.stack⟩ := by
  rw [read, Option.map_eq_some_iff]
  constructor
  · rintro ⟨⟨slot, begun⟩, reads, rfl⟩
    exact ⟨slot, begun, reads, rfl⟩
  · rintro ⟨slot, begun, reads, rfl⟩
    exact ⟨(slot, begun), reads, rfl⟩

theorem brackets_of_read {token : Token} (read : parse.read token = some next) :
    brackets next.stack = token.bracket?.toList ++ brackets parse.stack := by
  obtain ⟨slot, begun, reads, rfl⟩ := read_eq_some_iff.mp read
  rw [← bracket?_of_read reads]
  cases begun with
  | none => rfl
  | some part => exact brackets_cons part parse.stack

theorem outside_of_read {token : Token} (read : parse.read token = some next)
    (inside : brackets next.stack ≠ []) : outside next.stack = outside parse.stack := by
  obtain ⟨slot, begun, reads, rfl⟩ := read_eq_some_iff.mp read
  cases begun with
  | none => rfl
  | some part => exact outside_cons inside

/-- What is not open lies above the part that punctuation brings to an end. -/
theorem exists_above {content : Option Expression} {rest : List Unfinished}
    (found : parse.content = some (content, rest)) :
    ∃ above, parse.stack = above ++ rest ∧ ∀ part ∈ above, part.isOpen = false := by
  obtain ⟨slot, stack⟩ := parse
  cases slot with
  | empty =>
    cases found
    exact ⟨[], rfl, nofun⟩
  | filled operand =>
    obtain ⟨⟨expression, below⟩, reduced, same⟩ := Option.map_eq_some_iff.mp found
    cases same
    exact (closable_of_reduce reduced).2
  | pointed object optional => cases found

theorem brackets_of_finish {mark : Punctuation} (finished : parse.finish mark = some next) :
    brackets parse.stack = mark.closes?.toList ++ brackets next.stack := by
  obtain ⟨content, part, rest, slot, begun, found, ends, rfl⟩ := finish_eq_some_iff.mp finished
  obtain ⟨above, shape, notOpen⟩ := exists_above found
  rw [shape, brackets_append, brackets_of_finished notOpen, List.nil_append, brackets_cons]
  rcases ends_cases ends with ⟨bracket, closes, opened, rfl⟩ | ⟨closes, other, rfl, same⟩
  · rw [closes, opened]
    rfl
  · rw [closes, ← same, ← brackets_cons]
    rfl

theorem outside_of_finish {mark : Punctuation} (finished : parse.finish mark = some next)
    (inside : brackets parse.stack ≠ []) : outside next.stack = outside parse.stack := by
  obtain ⟨content, part, rest, slot, begun, found, ends, rfl⟩ := finish_eq_some_iff.mp finished
  obtain ⟨above, shape, notOpen⟩ := exists_above found
  have top : brackets (part :: rest) ≠ [] := by
    rw [shape, brackets_append, brackets_of_finished notOpen] at inside
    exact inside
  have before : outside parse.stack = outside rest := by
    rw [shape, outside_append top, outside_cons top]
  rw [before]
  rcases ends_cases ends with ⟨bracket, closes, opened, rfl⟩ | ⟨closes, other, rfl, same⟩
  · rfl
  · apply outside_cons
    rw [brackets_cons, same, ← brackets_cons]
    exact top

end Parse

def State.nesting (state : State) : Nesting :=
  match state.pending with
  | .string mark isMark _ => .inside (brackets state.parse.stack) mark isMark
  | _ => .outside (brackets state.parse.stack) false

theorem isOrdinary_of_isSpace {c : Char} (blank : isSpace c = true) : Text.IsOrdinary c := by
  rcases (Bool.or_eq_true _ _).mp blank with isBlank | mark
  · exact Text.isOrdinary_of_isBlank isBlank
  · rw [eq_of_beq mark]
    decide

theorem isOrdinary_of_isNameChar {c : Char} (part : isNameChar c = true) : Text.IsOrdinary c :=
  (isInert_of_isIdentifierChar ((Bool.and_eq_true _ _).mp part).1).1.1

theorem isOrdinary_of_isDigit {c : Char} (digit : c.isDigit = true) : Text.IsOrdinary c := by
  apply Text.isOrdinary_of_forall_ne
  have foreign : ∀ d ∈ Text.scanMarks, d.isDigit = false := Text.forall_mem_of_all (by decide)
  rintro d listed rfl
  rw [foreign c listed] at digit
  cases digit

theorem isOrdinary_of_beginsSign {text : Text} {c : Char} (begins : beginsSign (text ++ [c]) = true) :
    Text.IsOrdinary c := by
  have ordinary : ∀ d ∈ signTexts.flatten, Text.IsOrdinary d := Text.forall_mem_of_all (by decide)
  exact ordinary c (State.mem_of_beginsSign begins)

theorem char_of_of? {c : Char} {mark : Punctuation} (is : Punctuation.of? c = some mark) :
    c = mark.char := by
  have same := List.find?_some is
  exact (eq_of_beq same).symm

namespace State

variable {state next : State} {c : Char}

theorem brackets_of_settled {parse : Parse} (settles : state.settled = some parse) :
    brackets parse.stack = brackets state.parse.stack := by
  obtain ⟨before, pending⟩ := state
  cases pending with
  | idle =>
    cases settles
    rfl
  | word text => exact Parse.brackets_of_read settles
  | number text => exact Parse.brackets_of_read settles
  | string mark isMark body => cases settles
  | sign text =>
    obtain ⟨sign, -, reads⟩ := Option.bind_eq_some_iff.mp settles
    exact Parse.brackets_of_read reads

theorem nesting_of_settled {parse : Parse} (settles : state.settled = some parse) :
    state.nesting = .outside (brackets parse.stack) false := by
  rw [brackets_of_settled settles]
  obtain ⟨before, pending⟩ := state
  cases pending with
  | string mark isMark body => cases settles
  | _ => rfl

/-- The first character of a token is read as it stands in the text. -/
theorem Starts.reads {parse : Parse} (starts : Starts parse c next) :
    Nesting.Reads (.outside (brackets parse.stack) false) c next.nesting := by
  cases starts with
  | space blank => exact .of_isOrdinary (isOrdinary_of_isSpace blank)
  | number part digit => exact .of_isOrdinary (isOrdinary_of_isNameChar part)
  | word part => exact .of_isOrdinary (isOrdinary_of_isNameChar part)
  | string isMark => exact .quotes isMark
  | sign begins => exact .of_isOrdinary (@isOrdinary_of_beginsSign [] c begins)
  | @punctuation mark after is reads =>
    rw [char_of_of? is]
    cases mark with
    | opener bracket =>
      have opened : brackets after.stack = bracket :: brackets parse.stack :=
        Parse.brackets_of_read reads
      show Nesting.Reads _ _ (.outside (brackets after.stack) false)
      rw [opened]
      exact .opens bracket
    | closer bracket =>
      have closed : brackets parse.stack = bracket :: brackets after.stack :=
        Parse.brackets_of_finish reads
      rw [closed]
      exact .closes bracket
    | comma =>
      have same : brackets parse.stack = brackets after.stack := Parse.brackets_of_finish reads
      rw [same]
      exact .of_isOrdinary (by decide)
    | colon =>
      have same : brackets parse.stack = brackets after.stack := Parse.brackets_of_finish reads
      rw [same]
      exact .of_isOrdinary (by decide)

/-- The brackets and literals of the text are those that the reader has open. -/
theorem Steps.reads (steps : Steps state c next) : Nesting.Reads state.nesting c next.nesting := by
  obtain ⟨parse, pending⟩ := state
  cases steps with
  | unquotes is reads =>
    cases is
    show Nesting.Reads _ _ (.outside (brackets _) false)
    rw [Parse.brackets_of_read reads]
    exact .unquotes _
  | chooses is digit reads =>
    cases is
    show Nesting.Reads _ _ (.outside (brackets _) false)
    rw [Parse.brackets_of_read reads]
    exact .of_isOrdinary (isOrdinary_of_isDigit digit)
  | begins ends settles starts =>
    rw [nesting_of_settled settles]
    exact starts.reads
  | goesOn grows =>
    cases grows with
    | word part => exact .of_isOrdinary (isOrdinary_of_isNameChar part)
    | number more =>
      rcases more with digit | rfl
      · exact .of_isOrdinary (isOrdinary_of_isDigit digit)
      · exact .of_isOrdinary (by decide)
    | string notMark noEscape => exact .stays _ notMark noEscape
    | sign begins => exact .of_isOrdinary (isOrdinary_of_beginsSign begins)
    | fraction digit => exact .of_isOrdinary (isOrdinary_of_isDigit digit)

theorem outside_of_settled {parse : Parse} (settles : state.settled = some parse)
    (inside : brackets state.parse.stack ≠ []) : outside parse.stack = outside state.parse.stack := by
  have still : brackets parse.stack ≠ [] := by
    rw [brackets_of_settled settles]
    exact inside
  obtain ⟨before, pending⟩ := state
  cases pending with
  | idle =>
    cases settles
    rfl
  | word text => exact Parse.outside_of_read settles still
  | number text => exact Parse.outside_of_read settles still
  | string mark isMark body => cases settles
  | sign text =>
    obtain ⟨sign, -, reads⟩ := Option.bind_eq_some_iff.mp settles
    exact Parse.outside_of_read reads still

theorem Starts.outside_eq {parse : Parse} (starts : Starts parse c next)
    (inside : brackets parse.stack ≠ []) : outside next.parse.stack = outside parse.stack := by
  cases starts with
  | @punctuation mark after is reads =>
    cases mark with
    | opener bracket =>
      apply Parse.outside_of_read reads
      rw [Parse.brackets_of_read reads]
      exact List.cons_ne_nil _ _
    | closer bracket => exact Parse.outside_of_finish reads inside
    | comma => exact Parse.outside_of_finish reads inside
    | colon => exact Parse.outside_of_finish reads inside
  | _ => rfl

/-- While a bracket is open, nothing changes outside of it. -/
theorem Steps.outside_eq (steps : Steps state c next) (inside : brackets state.parse.stack ≠ []) :
    outside next.parse.stack = outside state.parse.stack := by
  cases steps with
  | goesOn grows => rfl
  | unquotes is reads =>
    apply Parse.outside_of_read reads
    rw [Parse.brackets_of_read reads]
    exact inside
  | chooses is digit reads =>
    apply Parse.outside_of_read reads
    rw [Parse.brackets_of_read reads]
    exact inside
  | begins ends settles starts =>
    rw [starts.outside_eq, outside_of_settled settles inside]
    rw [brackets_of_settled settles]
    exact inside

end State
end ClassUsage.Script
