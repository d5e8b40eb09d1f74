import ClassUsage.Proofs.ScriptExpression

set_option autoImplicit false

/-!
Reading expressions character by character: the token that is being read, and a stack of what has been
begun. Whatever stands below on the stack, a text is read in the same way, so that what is known of a text
on its own is known of it between brackets and behind operators.
-/
namespace ClassUsage.Script

inductive Sign where
  | binary (op : Binary)
  | not
  | question
  | point
  | optionalPoint
deriving DecidableEq, Repr

/-- The characters that are tokens whatever follows them. -/
inductive Punctuation where
  | opener (bracket : Bracket)
  | closer (bracket : Bracket)
  | comma
  | colon
deriving DecidableEq, Repr

/-- The tokens that go on with what has been begun, or begin something more. -/
inductive Token where
  | word (text : Text)
  | number (text : Text)
  | string (body : Text)
  | sign (sign : Sign)
  | opener (bracket : Bracket)

def Binary.text : Binary → Text
  | logical op => op.token
  | equal => "==".toList
  | unequal => "!=".toList
  | same => "===".toList
  | different => "!==".toList
  | less => "<".toList
  | greater => ">".toList
  | atMost => "<=".toList
  | atLeast => ">=".toList
  | plus => "+".toList
  | minus => "-".toList
  | times => "*".toList
  | divided => "/".toList
  | remainder => "%".toList
  | power => "**".toList

def Sign.text : Sign → Text
  | binary op => op.text
  | not => "!".toList
  | question => "?".toList
  | point => ".".toList
  | optionalPoint => "?.".toList

def Sign.all : List Sign :=
  [.binary (.logical .and), .binary (.logical .or), .binary (.logical .nullish), .binary .equal,
    .binary .unequal, .binary .same, .binary .different, .binary .less, .binary .greater,
    .binary .atMost, .binary .atLeast, .binary .plus, .binary .minus, .binary .times, .binary .divided,
    .binary .remainder, .binary .power, .not, .question, .point, .optionalPoint]

def Sign.of? (text : Text) : Option Sign := Sign.all.find? fun sign => sign.text == text

/-- What is read as one token but is no sign here: counting up and down, and the starts of comments. -/
def foreignSigns : List Text := ["++".toList, "--".toList, "//".toList, "/*".toList]

/-- All that is read as one token of this kind. -/
def signTexts : List Text := Sign.all.map Sign.text ++ foreignSigns

def beginsSign (text : Text) : Bool := signTexts.any fun sign => text.isPrefixOf sign

def Punctuation.char : Punctuation → Char
  | comma => ','
  | colon => ':'
  | opener bracket => bracket.opener
  | closer bracket => bracket.closer

/-- The punctuation that a character is. Braces are not part of these expressions. -/
def Punctuation.of? (c : Char) : Option Punctuation :=
  [comma, colon, opener .round, closer .round, opener .square, closer .square].find? fun mark =>
    mark.char == c

def isSpace (c : Char) : Bool := isBlank c || c == '\ufeff'

/-- The characters of names: outside ASCII all but white space. -/
def isNameChar (c : Char) : Bool := isIdentifierChar c && !isSpace c

def reservedWords : List Text :=
  ["await", "break", "case", "catch", "class", "const", "continue", "debugger", "default", "delete",
    "do", "else", "enum", "export", "extends", "finally", "for", "function", "if", "import", "in",
    "instanceof", "new", "return", "super", "switch", "throw", "try", "typeof", "var", "void", "while",
    "with", "yield"].map String.toList

/-- The place of an operand. -/
inductive Slot where
  | empty
  | filled (operand : Expression)
  /-- A member has to follow, or behind an optional point also an index or a call. -/
  | pointed (object : Expression) (optional : Bool)

/-- What waits for the operand in the slot. -/
inductive Unfinished where
  | unary (op : Unary)
  | link (left : Expression) (op : Binary)
  | group
  | index (object : Expression) (optional : Bool)
  | call (callee : Expression) (optional : Bool) (arguments : List Expression)
  /-- The first branch of a conditional expression, behind the last operand of its test. -/
  | yes (test : Expression)
  /-- The second branch, with the last operand of the test and the first branch. -/
  | no (test yes : Expression)

/-- Only a closing bracket, a comma or a colon brings it to an end. -/
def Unfinished.isOpen : Unfinished → Bool
  | unary _ | link _ _ | no _ _ => false
  | group | index _ _ | call _ _ _ | yes _ => true

/-- All that has been read, up to the last complete token. The innermost is first on the stack. -/
structure Parse where
  slot : Slot := .empty
  stack : List Unfinished := []

/-- The sign of a number that an operator is where an operand has to follow. -/
def Binary.unary? : Binary → Option Unary
  | plus => some .plus
  | minus => some .minus
  | _ => none

/-- What a token makes of the slot, and what it begins. -/
def Token.read : Token → Slot → Option (Slot × Option Unfinished)
  | word text, .empty => if text ∈ reservedWords then none else some (.filled (.name text), none)
  | word text, .pointed object optional => some (.filled (.member object optional text), none)
  | number text, .empty => some (.filled (.number text), none)
  | string body, .empty => some (.filled (.string body), none)
  | sign (.binary op), .empty => op.unary?.map fun op => (.empty, some (.unary op))
  | sign (.binary op), .filled left => some (.empty, some (.link left op))
  | sign .not, .empty => some (.empty, some (.unary .not))
  | sign .question, .filled test => some (.empty, some (.yes test))
  | sign .point, .filled object => some (.pointed object false, none)
  | sign .optionalPoint, .filled object => some (.pointed object true, none)
  | opener .round, .empty => some (.empty, some .group)
  | opener .round, .filled callee => some (.empty, some (.call callee false []))
  | opener .round, .pointed callee true => some (.empty, some (.call callee true []))
  | opener .square, .filled object => some (.empty, some (.index object false))
  | opener .square, .pointed object true => some (.empty, some (.index object true))
  | _, _ => none

/-- A chain as far as it has been collected from its end, and the branches for which it is the test. -/
structure Span where
  chain : Chain
  branches : Option (Expression × Expression) := none

def Span.expression? (span : Span) : Option Expression :=
  span.chain.expression?.map fun test =>
    match span.branches with
    | none => test
    | some (yes, no) => .conditional test yes no

/-- Puts together all that ends where an open part of the stack is brought to an end. -/
def reduce : List Unfinished → Span → Option (Expression × List Unfinished)
  | .unary op :: rest, ⟨⟨first, links⟩, branches⟩ => reduce rest ⟨⟨.unary op first, links⟩, branches⟩
  | .link left op :: rest, ⟨⟨first, links⟩, branches⟩ =>
    reduce rest ⟨⟨left, (op, first) :: links⟩, branches⟩
  | .no test yes :: rest, span => span.expression?.bind fun no => reduce rest ⟨⟨test, []⟩, some (yes, no)⟩
  | stack, span => span.expression?.map fun expression => (expression, stack)

/-- What punctuation makes of the slot and of the open part that it brings to an end, given what stands
inside of that part since the last comma. Only a call may end with nothing there. -/
def Punctuation.ends : Punctuation → Option Expression → Unfinished → Option (Slot × Option Unfinished)
  | closer .round, some inner, .group => some (.filled (.group inner), none)
  | closer .round, none, .call callee optional others =>
    some (.filled (.call callee optional others), none)
  | closer .round, some last, .call callee optional others =>
    some (.filled (.call callee optional (others ++ [last])), none)
  | closer .square, some place, .index object optional =>
    some (.filled (.index object optional place), none)
  | comma, some last, .call callee optional others =>
    some (.empty, some (.call callee optional (others ++ [last])))
  | colon, some yes, .yes test => some (.empty, some (.no test yes))
  | _, _, _ => none

namespace Parse

/-- Reads a token that brings nothing to an end. -/
def read (parse : Parse) (token : Token) : Option Parse :=
  (token.read parse.slot).map fun found => ⟨found.1, found.2.toList ++ parse.stack⟩

/-- What has been read inside of the innermost open part, and the stack from that part on. -/
def content (parse : Parse) : Option (Option Expression × List Unfinished) :=
  match parse.slot with
  | .empty => some (none, parse.stack)
  | .filled operand => (reduce parse.stack ⟨⟨operand, []⟩, none⟩).map fun found => (some found.1, found.2)
  | .pointed _ _ => none

def finish (parse : Parse) (mark : Punctuation) : Option Parse :=
  match parse.content with
  | some (content, part :: rest) =>
    (mark.ends content part).map fun found => ⟨found.1, found.2.toList ++ rest⟩
  | _ => none

def punctuation (parse : Parse) : Punctuation → Option Parse
  | .opener bracket => parse.read (.opener bracket)
  | mark => parse.finish mark

/-- The expression that has been read if nothing is open. -/
def expression? (parse : Parse) : Option Expression :=
  match parse.content with
  | some (some expression, []) => some expression
  | _ => none

end Parse

inductive Pending where
  | idle
  | word (text : Text)
  | number (text : Text)
  | string (mark : Char) (isMark : isQuote mark = true) (body : Text)
  | sign (text : Text)

/-- The token with one more character, if that is still one token. Literals hold no backslashes and no
interpolations. -/
def Pending.extend : Pending → Char → Option Pending
  | .idle, _ => none
  | .word text, c => if isNameChar c then some (.word (text ++ [c])) else none
  | .number text, c =>
    if c.isDigit || (c == '.' && !text.contains '.') then some (.number (text ++ [c])) else none
  | .string mark isMark body, c =>
    if c = mark ∨ c = '\\' ∨ (mark = '\x60' ∧ c = '{' ∧ body.getLast? = some '$') then none
    else some (.string mark isMark (body ++ [c]))
  | .sign text, c =>
    if beginsSign (text ++ [c]) then some (.sign (text ++ [c]))
    else if c.isDigit && text == Sign.point.text then some (.number ['.', c])
    else none

inductive Pending.Grows (c : Char) : Pending → Pending → Prop
  | word {text : Text} (part : isNameChar c = true) : Grows c (.word text) (.word (text ++ [c]))
  | number {text : Text} (more : c.isDigit = true ∨ c = '.') :
      Grows c (.number text) (.number (text ++ [c]))
  | string {mark : Char} {isMark : isQuote mark = true} {body : Text} (notMark : c ≠ mark)
      (noEscape : c ≠ '\\') : Grows c (.string mark isMark body) (.string mark isMark (body ++ [c]))
  | sign {text : Text} (begins : beginsSign (text ++ [c]) = true) :
      Grows c (.sign text) (.sign (text ++ [c]))
  | fraction (digit : c.isDigit = true) : Grows c (.sign Sign.point.text) (.number ['.', c])

theorem Pending.grows_of_extend {pending more : Pending} {c : Char}
    (extended : pending.extend c = some more) : pending.Grows c more := by
  unfold extend at extended
  split at extended
  · cases extended
  · simp only [Option.ite_none_right_eq_some, Option.some.injEq] at extended
    obtain ⟨part, rfl⟩ := extended
    exact .word part
  · simp only [Option.ite_none_right_eq_some, Option.some.injEq, Bool.or_eq_true, Bool.and_eq_true,
      beq_iff_eq] at extended
    obtain ⟨digit | ⟨point, -⟩, rfl⟩ := extended
    · exact .number (Or.inl digit)
    · exact .number (Or.inr point)
  · simp only [Option.ite_none_left_eq_some, Option.some.injEq, not_or] at extended
    obtain ⟨⟨notMark, noEscape, -⟩, rfl⟩ := extended
    exact .string notMark noEscape
  · split at extended
    · rename_i begins
      cases extended
      exact .sign begins
    · simp only [Option.ite_none_right_eq_some, Option.some.injEq, Bool.and_eq_true,
        beq_iff_eq] at extended
      obtain ⟨⟨digit, rfl⟩, rfl⟩ := extended
      exact .fraction digit

structure State where
  parse : Parse := {}
  pending : Pending := .idle

namespace State

def fresh : State := {}

/-- All that has been read, the last token included. -/
def settled (state : State) : Option Parse :=
  match state.pending with
  | .idle => some state.parse
  | .word text => state.parse.read (.word text)
  | .number text => state.parse.read (.number text)
  | .string _ _ _ => none
  | .sign text => (Sign.of? text).bind fun sign => state.parse.read (.sign sign)

def start (parse : Parse) (c : Char) : Option State :=
  if isSpace c then some ⟨parse, .idle⟩
  else if isNameChar c then some ⟨parse, if c.isDigit then .number [c] else .word [c]⟩
  else if isMark : isQuote c = true then some ⟨parse, .string c isMark []⟩
  else
    match Punctuation.of? c with
    | some mark => (parse.punctuation mark).map fun parse => ⟨parse, .idle⟩
    | none => if beginsSign [c] then some ⟨parse, .sign [c]⟩ else none

/-- Ends the token that is being read and reads the first character of the next one. -/
def next (state : State) (c : Char) : Option State := state.settled.bind fun parse => start parse c

/-- Reads a character. A question mark stands for itself if a point and a digit follow. -/
def step (state : State) (c : Char) : Option State :=
  match state.pending.extend c with
  | some pending => some { state with pending }
  | none =>
    match state.pending with
    | .string mark _ body =>
      if c = mark then (state.parse.read (.string body)).map fun parse => ⟨parse, .idle⟩ else none
    | .number _ => if isNameChar c then none else state.next c
    | .sign text =>
      if c.isDigit && text == Sign.optionalPoint.text then
        (state.parse.read (.sign .question)).map fun parse => ⟨parse, .number ['.', c]⟩
      else state.next c
    | _ => state.next c

def run (state : State) : Text → Option State
  | [] => some state
  | c :: rest => (state.step c).bind fun next => next.run rest

end State

/-- The expression that a text is read as. -/
def read (text : Text) : Option Expression :=
  ((State.fresh.run text).bind State.settled).bind Parse.expression?

namespace State

inductive Starts (parse : Parse) (c : Char) : State → Prop
  | space (blank : isSpace c = true) : Starts parse c ⟨parse, .idle⟩
  | number (part : isNameChar c = true) (digit : c.isDigit = true) : Starts parse c ⟨parse, .number [c]⟩
  | word (part : isNameChar c = true) : Starts parse c ⟨parse, .word [c]⟩
  | string (isMark : isQuote c = true) : Starts parse c ⟨parse, .string c isMark []⟩
  | punctuation {mark : Punctuation} {next : Parse} (is : Punctuation.of? c = some mark)
      (reads : parse.punctuation mark = some next) : Starts parse c ⟨next, .idle⟩
  | sign (begins : beginsSign [c] = true) : Starts parse c ⟨parse, .sign [c]⟩

inductive Steps (state : State) (c : Char) : State → Prop
  | goesOn {pending : Pending} (grows : state.pending.Grows c pending) :
      Steps state c ⟨state.parse, pending⟩
  | unquotes {isMark : isQuote c = true} {body : Text} {next : Parse}
      (is : state.pending = .string c isMark body) (reads : state.parse.read (.string body) = some next) :
      Steps state c ⟨next, .idle⟩
  | chooses {next : Parse} (is : state.pending = .sign Sign.optionalPoint.text)
      (digit : c.isDigit = true) (reads : state.parse.read (.sign .question) = some next) :
      Steps state c ⟨next, .number ['.', c]⟩
  | begins {parse : Parse} {next : State} (ends : state.pending.extend c = none)
      (settles : state.settled = some parse) (starts : Starts parse c next) : Steps state c next

theorem starts_of_start {parse : Parse} {c : Char} {next : State} (started : start parse c = some next) :
    Starts parse c next := by
  unfold start at started
  split at started
  · rename_i blank
    cases started
    exact .space blank
  · split at started
    · rename_i part
      cases started
      by_cases digit : c.isDigit = true
      · rw [if_pos digit]
        exact .number part digit
      · rw [if_neg digit]
        exact .word part
    · split at started
      · rename_i isMark
        cases started
        exact .string isMark
      · split at started
        · rename_i mark is
          obtain ⟨parse, reads, rfl⟩ := Option.map_eq_some_iff.mp started
          exact .punctuation is reads
        · split at started
          · rename_i begins
            cases started
            exact .sign begins
          · cases started

theorem steps_of_step {state next : State} {c : Char} (stepped : state.step c = some next) :
    Steps state c next := by
  have begins : state.pending.extend c = none → state.next c = some next → Steps state c next := by
    intro ends goes
    obtain ⟨parse, settles, starts⟩ := Option.bind_eq_some_iff.mp goes
    exact .begins ends settles (starts_of_start starts)
  unfold step at stepped
  split at stepped
  · rename_i pending extended
    cases stepped
    exact .goesOn (Pending.grows_of_extend extended)
  · rename_i ends
    split at stepped
    · rename_i mark isMark body is
      split at stepped
      · rename_i same
        subst same
        obtain ⟨parse, reads, rfl⟩ := Option.map_eq_some_iff.mp stepped
        exact .unquotes is reads
      · cases stepped
    · split at stepped
      · cases stepped
      · exact begins ends stepped
    · rename_i text is
      split at stepped
      · rename_i chosen
        obtain ⟨digit, same⟩ := (Bool.and_eq_true _ _).mp chosen
        obtain ⟨parse, reads, rfl⟩ := Option.map_eq_some_iff.mp stepped
        exact .chooses (is.trans (congrArg _ (eq_of_beq same))) digit reads
      · exact begins ends stepped
    · exact begins ends stepped

end State

/-- A list that begins with an open part, or with nothing. -/
def Closable (stack : List Unfinished) : Prop := ∀ part ∈ stack.head?, part.isOpen = true

theorem reduce_of_closable {stack : List Unfinished} (closable : Closable stack) (span : Span) :
    reduce stack span = span.expression?.map fun expression => (expression, stack) := by
  cases stack with
  | nil => rfl
  | cons part rest =>
    have isOpen : part.isOpen = true := closable part rfl
    cases part with
    | unary op => cases isOpen
    | link left op => cases isOpen
    | no test yes => cases isOpen
    | group => rfl
    | index object optional => rfl
    | call callee optional arguments => rfl
    | yes test => rfl

/-- Putting together takes off the stack what is not open, up to the first open part. -/
theorem closable_of_reduce {stack rest : List Unfinished} {span : Span} {expression : Expression}
    (reduced : reduce stack span = some (expression, rest)) :
    Closable rest ∧ ∃ above, stack = above ++ rest ∧ ∀ part ∈ above, part.isOpen = false := by
  induction stack generalizing span with
  | nil =>
    obtain ⟨_, -, same⟩ := Option.map_eq_some_iff.mp reduced
    cases same
    exact ⟨nofun, [], rfl, nofun⟩
  | cons part below ih =>
    by_cases isOpen : part.isOpen = true
    · have closable : Closable (part :: below) := by
        intro first head
        cases head
        exact isOpen
      rw [reduce_of_closable closable] at reduced
      obtain ⟨_, -, same⟩ := Option.map_eq_some_iff.mp reduced
      cases same
      exact ⟨closable, [], rfl, nofun⟩
    · have later : ∃ span, reduce below span = some (expression, rest) := by
        obtain ⟨⟨first, links⟩, branches⟩ := span
        cases part with
        | unary op => exact ⟨_, reduced⟩
        | link left op => exact ⟨_, reduced⟩
        | no test yes =>
          obtain ⟨no, -, found⟩ := Option.bind_eq_some_iff.mp reduced
          exact ⟨_, found⟩
        | _ => exact absurd rfl isOpen
      obtain ⟨_, found⟩ := later
      obtain ⟨closable, above, rfl, finished⟩ := ih found
      refine ⟨closable, part :: above, rfl, ?_⟩
      exact List.forall_mem_cons.mpr ⟨Bool.eq_false_iff.mpr isOpen, finished⟩

/-- What lies below an open part does not matter to what is put together above it. -/
theorem reduce_append {stack rest base : List Unfinished} {span : Span} {expression : Expression}
    (reduced : reduce stack span = some (expression, rest)) (closable : Closable (rest ++ base)) :
    reduce (stack ++ base) span = some (expression, rest ++ base) := by
  induction stack generalizing span with
  | nil =>
    obtain ⟨_, found, same⟩ := Option.map_eq_some_iff.mp reduced
    cases same
    rw [List.nil_append] at closable ⊢
    rw [reduce_of_closable closable, found]
    rfl
  | cons part below ih =>
    obtain ⟨⟨first, links⟩, branches⟩ := span
    by_cases isOpen : part.isOpen = true
    · have top : ∀ others, Closable (part :: others) := by
        intro others first head
        cases head
        exact isOpen
      rw [reduce_of_closable (top below)] at reduced
      obtain ⟨_, found, same⟩ := Option.map_eq_some_iff.mp reduced
      cases same
      rw [List.cons_append, reduce_of_closable (top _), found]
      rfl
    · cases part with
      | unary op => exact ih reduced
      | link left op => exact ih reduced
      | no test yes =>
        obtain ⟨no, found, later⟩ := Option.bind_eq_some_iff.mp reduced
        rw [List.cons_append, reduce, found]
        exact ih later
      | _ => exact absurd rfl isOpen

namespace Parse

def atop (base : List Unfinished) (parse : Parse) : Parse := ⟨parse.slot, parse.stack ++ base⟩

variable {parse next : Parse}

theorem read_atop {token : Token} (read : parse.read token = some next) (base : List Unfinished) :
    (parse.atop base).read token = some (next.atop base) := by
  obtain ⟨found, reads, rfl⟩ := Option.map_eq_some_iff.mp read
  unfold Parse.read
  rw [atop, reads, Option.map_some, atop, List.append_assoc]

theorem content_atop {content : Option Expression} {rest base : List Unfinished}
    (found : parse.content = some (content, rest)) (closable : Closable (rest ++ base)) :
    (parse.atop base).content = some (content, rest ++ base) := by
  obtain ⟨slot, stack⟩ := parse
  cases slot with
  | empty =>
    cases found
    rfl
  | filled operand =>
    obtain ⟨⟨expression, below⟩, reduced, same⟩ := Option.map_eq_some_iff.mp found
    cases same
    show (reduce (stack ++ base) _).map _ = _
    rw [reduce_append reduced closable]
    rfl
  | pointed object optional => cases found

theorem isOpen_of_ends {mark : Punctuation} {content : Option Expression} {part : Unfinished}
    {found : Slot × Option Unfinished} (ends : mark.ends content part = some found) :
    part.isOpen = true := by
  cases part with
  | unary op => simp [Punctuation.ends] at ends
  | link left op => simp [Punctuation.ends] at ends
  | no test yes => simp [Punctuation.ends] at ends
  | _ => rfl

theorem finish_eq_some_iff {mark : Punctuation} :
    parse.finish mark = some next ↔ ∃ content part rest slot begun,
      parse.content = some (content, part :: rest) ∧ mark.ends content part = some (slot, begun) ∧
        next = ⟨slot, begun.toList ++ rest⟩ := by
  unfold finish
  split
  · rename_i content part rest found
    rw [found, Option.map_eq_some_iff]
    constructor
    · rintro ⟨⟨slot, begun⟩, ends, rfl⟩
      exact ⟨content, part, rest, slot, begun, rfl, ends, rfl⟩
    · rintro ⟨_, _, _, slot, begun, same, ends, rfl⟩
      cases same
      exact ⟨(slot, begun), ends, rfl⟩
  · rename_i other
    constructor
    · exact nofun
    · rintro ⟨content, part, rest, _, _, found, -⟩
      exact absurd found (other content part rest)

theorem finish_atop {mark : Punctuation} (finished : parse.finish mark = some next)
    (base : List Unfinished) : (parse.atop base).finish mark = some (next.atop base) := by
  obtain ⟨content, part, rest, slot, begun, found, ends, rfl⟩ := finish_eq_some_iff.mp finished
  have closable : Closable (part :: rest ++ base) := by
    intro first head
    cases head
    exact isOpen_of_ends ends
  refine finish_eq_some_iff.mpr ⟨content, part, rest ++ base, slot, begun,
    content_atop found closable, ends, ?_⟩
  rw [atop, List.append_assoc]

theorem punctuation_atop {mark : Punctuation} (read : parse.punctuation mark = some next)
    (base : List Unfinished) : (parse.atop base).punctuation mark = some (next.atop base) := by
  cases mark with
  | opener bracket => exact read_atop read base
  | closer bracket => exact finish_atop read base
  | comma => exact finish_atop read base
  | colon => exact finish_atop read base

end Parse

namespace State

def atop (base : List Unfinished) (state : State) : State := ⟨state.parse.atop base, state.pending⟩

variable {state last : State}

theorem settled_atop {parse : Parse} (settles : state.settled = some parse) (base : List Unfinished) :
    (state.atop base).settled = some (parse.atop base) := by
  obtain ⟨before, pending⟩ := state
  cases pending with
  | idle =>
    cases settles
    rfl
  | word text => exact Parse.read_atop settles base
  | number text => exact Parse.read_atop settles base
  | string mark isMark body => cases settles
  | sign text =>
    obtain ⟨sign, found, reads⟩ := Option.bind_eq_some_iff.mp settles
    exact Option.bind_eq_some_iff.mpr ⟨sign, found, Parse.read_atop reads base⟩

theorem start_atop {parse : Parse} {c : Char} (starts : start parse c = some last)
    (base : List Unfinished) : start (parse.atop base) c = some (last.atop base) := by
  unfold start at starts ⊢
  split at starts
  · rename_i blank
    cases starts
    rw [if_pos blank]
    rfl
  · rename_i solid
    rw [if_neg solid]
    split at starts
    · rename_i part
      cases starts
      rw [if_pos part]
      rfl
    · rename_i apart
      rw [if_neg apart]
      split at starts
      · rename_i isMark
        cases starts
        rw [dif_pos isMark]
        rfl
      · rename_i noMark
        rw [dif_neg noMark]
        split at starts
        · rename_i mark is
          obtain ⟨after, reads, rfl⟩ := Option.map_eq_some_iff.mp starts
          simp only [Parse.punctuation_atop reads base, Option.map_some]
          rfl
        · rename_i isNot
          split at starts
          · rename_i begins
            cases starts
            simp only [begins, ↓reduceIte]
            rfl
          · cases starts

theorem next_atop {c : Char} (goes : state.next c = some last) (base : List Unfinished) :
    (state.atop base).next c = some (last.atop base) := by
  obtain ⟨parse, settles, starts⟩ := Option.bind_eq_some_iff.mp goes
  exact Option.bind_eq_some_iff.mpr ⟨_, settled_atop settles base, start_atop starts base⟩

theorem step_atop {c : Char} (steps : state.step c = some last) (base : List Unfinished) :
    (state.atop base).step c = some (last.atop base) := by
  obtain ⟨parse, pending⟩ := state
  unfold step at steps ⊢
  dsimp only [atop] at steps ⊢
  split at steps
  · cases steps
    rfl
  · split at steps
    · rename_i mark isMark body
      split at steps
      · rename_i same
        obtain ⟨after, reads, rfl⟩ := Option.map_eq_some_iff.mp steps
        simp only [same, ↓reduceIte, Parse.read_atop reads base, Option.map_some]
      · cases steps
    · rename_i text
      split at steps
      · cases steps
      · rename_i apart
        rw [if_neg apart]
        exact next_atop steps base
    · rename_i text
      split at steps
      · rename_i chooses
        obtain ⟨after, reads, rfl⟩ := Option.map_eq_some_iff.mp steps
        rw [if_pos chooses, Parse.read_atop reads base]
        rfl
      · rename_i kept
        rw [if_neg kept]
        exact next_atop steps base
    · exact next_atop steps base

theorem run_cons_eq_some_iff {c : Char} {rest : Text} :
    state.run (c :: rest) = some last ↔ ∃ next, state.step c = some next ∧ next.run rest = some last :=
  Option.bind_eq_some_iff

theorem run_append (state : State) (first second : Text) :
    state.run (first ++ second) = (state.run first).bind fun next => next.run second := by
  induction first generalizing state with
  | nil => rfl
  | cons c rest ih => simp only [List.cons_append, run, Option.bind_assoc, ih]

/-- A text is read in the same way whatever has been begun around it. -/
theorem run_atop {text : Text} (read : state.run text = some last) (base : List Unfinished) :
    (state.atop base).run text = some (last.atop base) := by
  induction text generalizing state with
  | nil =>
    cases read
    rfl
  | cons c rest ih =>
    obtain ⟨next, steps, later⟩ := run_cons_eq_some_iff.mp read
    exact run_cons_eq_some_iff.mpr ⟨_, step_atop steps base, ih later⟩

/-- Characters that no token goes on with. -/
def Breaks (c : Char) : Prop := isNameChar c = false ∧ c.isDigit = false ∧ c ∉ signTexts.flatten

instance (c : Char) : Decidable (Breaks c) := inferInstanceAs (Decidable (_ ∧ _ ∧ _))

theorem mem_of_beginsSign {text : Text} {c : Char} (begins : beginsSign (text ++ [c]) = true) :
    c ∈ signTexts.flatten := by
  obtain ⟨sign, listed, front⟩ := List.any_eq_true.mp begins
  obtain ⟨rest, rfl⟩ := List.isPrefixOf_iff_prefix.mp front
  exact List.mem_flatten.mpr ⟨_, listed, by simp⟩

theorem Breaks.extend_eq_none {c : Char} (breaks : Breaks c) {pending : Pending}
    (noString : ∀ mark isMark body, pending ≠ .string mark isMark body) :
    pending.extend c = none := by
  obtain ⟨apart, noDigit, noSign⟩ := breaks
  have noPoint : c ≠ '.' := by
    rintro rfl
    exact noSign (by decide)
  cases pending with
  | idle => rfl
  | word text => simp [Pending.extend, apart]
  | number text => simp [Pending.extend, noDigit, noPoint]
  | string mark isMark body => exact absurd rfl (noString mark isMark body)
  | sign text =>
    have ends : beginsSign (text ++ [c]) = false := by
      rw [Bool.eq_false_iff]
      intro begins
      exact noSign (mem_of_beginsSign begins)
    simp [Pending.extend, ends, noDigit]

/-- A character that a token does not go on with is read after the token. -/
theorem exists_settled_of_step {c : Char} (stepped : state.step c = some last)
    (ends : state.pending.extend c = none) (noDigit : c.isDigit = false)
    (noString : ∀ mark isMark body, state.pending ≠ .string mark isMark body) :
    ∃ parse, state.settled = some parse ∧ start parse c = some last := by
  obtain ⟨before, pending⟩ := state
  unfold step at stepped
  rw [ends] at stepped
  have goes : State.next ⟨before, pending⟩ c = some last := by
    cases pending with
    | idle => exact stepped
    | word text => exact stepped
    | number text => exact (Option.ite_none_left_eq_some.mp stepped).2
    | string mark isMark body => exact absurd rfl (noString mark isMark body)
    | sign text => simpa only [noDigit, Bool.false_and, Bool.false_eq_true, ↓reduceIte] using stepped
  exact Option.bind_eq_some_iff.mp goes

theorem step_of_breaks {c : Char} (breaks : Breaks c) {parse : Parse}
    (settles : state.settled = some parse) : state.step c = start parse c := by
  have goes : state.next c = start parse c := by rw [next, settles, Option.bind_some]
  obtain ⟨before, pending⟩ := state
  have noString : ∀ mark isMark body, pending ≠ .string mark isMark body := by
    rintro mark isMark body rfl
    cases settles
  unfold step
  rw [breaks.extend_eq_none noString]
  cases pending with
  | idle => exact goes
  | word text => exact goes
  | number text => simpa only [breaks.1, Bool.false_eq_true, ↓reduceIte] using goes
  | string mark isMark body => exact absurd rfl (noString mark isMark body)
  | sign text => simpa only [breaks.2.1, Bool.false_and, Bool.false_eq_true, ↓reduceIte] using goes

end State

/-- All that a text on its own is read as, complete or not. -/
def readAll (text : Text) : Option Parse := (State.fresh.run text).bind State.settled

theorem readAll_eq_some_iff {text : Text} {parse : Parse} :
    readAll text = some parse ↔
      ∃ state, State.fresh.run text = some state ∧ state.settled = some parse :=
  Option.bind_eq_some_iff

theorem read_eq_some_iff {text : Text} {expression : Expression} :
    read text = some expression ↔
      ∃ parse, readAll text = some parse ∧ parse.expression? = some expression :=
  Option.bind_eq_some_iff

example : read "a ?.5 : b || !c".toList =
    some (.conditional (.name "a".toList) (.number ".5".toList)
      (.binary (.logical .or) (.name "b".toList) (.unary .not (.name "c".toList)))) := by
  rfl

example : read "a ?? b && c".toList = none ∧ read "-a ** b".toList = none := ⟨rfl, rfl⟩

theorem Parse.expression?_eq_some_iff {parse : Parse} {expression : Expression} :
    parse.expression? = some expression ↔ parse.content = some (some expression, []) := by
  unfold expression?
  split
  · rename_i found
    rw [found]
    simp
  · rename_i other
    constructor
    · exact nofun
    · exact fun found => absurd found (other expression)

/-- Behind a text comes a character that ends its last token. -/
theorem run_append_breaks {text : Text} {parse : Parse} (reads : readAll text = some parse) {c : Char}
    (breaks : State.Breaks c) (rest : Text) (base : List Unfinished) :
    (State.fresh.atop base).run (text ++ c :: rest) =
      (State.start (parse.atop base) c).bind fun next => next.run rest := by
  obtain ⟨state, run, settles⟩ := readAll_eq_some_iff.mp reads
  rw [State.run_append, State.run_atop run base, Option.bind_some, State.run,
    State.step_of_breaks breaks (State.settled_atop settles base)]

/-- Between brackets, an expression is one operand. -/
theorem run_bracketed {text : Text} {expression : Expression} (reads : read text = some expression)
    (stack : List Unfinished) :
    State.run ⟨⟨.empty, stack⟩, .idle⟩ (Condition.bracketed text) =
      some ⟨⟨.filled (.group expression), stack⟩, .idle⟩ := by
  obtain ⟨parse, all, whole⟩ := read_eq_some_iff.mp reads
  have opens : State.step ⟨⟨.empty, stack⟩, .idle⟩ '(' =
      some (State.fresh.atop (.group :: stack)) := rfl
  have closable : Closable ([] ++ .group :: stack) := by
    intro part head
    cases head
    rfl
  have content := Parse.content_atop (Parse.expression?_eq_some_iff.mp whole) closable
  have closes : State.start (parse.atop (.group :: stack)) ')' =
      some ⟨⟨.filled (.group expression), stack⟩, .idle⟩ := by
    have finished : (parse.atop (.group :: stack)).finish (.closer .round) =
        some ⟨.filled (.group expression), stack⟩ := by
      rw [Parse.finish, content]
      rfl
    show ((parse.atop (.group :: stack)).finish (.closer .round)).map _ = _
    rw [finished]
    rfl
  have shape : Condition.bracketed text = '(' :: (text ++ [')']) := rfl
  rw [shape, State.run, opens, Option.bind_some, run_append_breaks all (by decide), closes]
  rfl

end ClassUsage.Script
