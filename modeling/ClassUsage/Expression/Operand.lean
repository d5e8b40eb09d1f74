import ClassUsage.Text.Basic
import ClassUsage.Text.WordChar

set_option autoImplicit false

/-!
Identifiers and simple operands. A simple operand is an identifier with any number of `!` in
front, followed by members, indexes without nested brackets and at most one call at the end, so
that a `!` or a comparison applies to all of it. A single line break at the very end is allowed.
-/
namespace ClassUsage

def isNameStart (c : Char) : Bool :=
  ('a' ≤ c && c ≤ 'z') || ('A' ≤ c && c ≤ 'Z') || c == '_' || c == '$'

def isNamePart (c : Char) : Bool := isWordChar c || c == '$'

namespace Text

/-- The text without a line break at its very end. -/
def dropFinalNewline (text : Text) : Text :=
  if text.getLast? = some '\n' then text.dropLast else text

def isIdentifier (text : Text) : Bool :=
  match text.dropFinalNewline with
  | [] => false
  | c :: rest => isNameStart c && rest.all isNamePart

end Text

inductive OperandState where
  /-- Nothing but exclamation marks. -/
  | start
  | name
  | question
  | point
  | index
  | indexed
  | arguments
  /-- A complete call, after which nothing may stand. -/
  | called
deriving DecidableEq, Repr

namespace OperandState

/-- What follows an identifier or an index, unless the identifier goes on. -/
def suffix (c : Char) : Option OperandState :=
  if c = '?' then some question
  else if c = '.' then some point
  else if c = '[' then some index
  else if c = '(' then some arguments
  else none

def step : OperandState → Char → Option OperandState
  | start, c => if c = '!' then some start else if isNameStart c then some name else none
  | name, c => if isNamePart c then some name else suffix c
  | question, c => if c = '.' then some point else none
  | point, c => if isNameStart c then some name else none
  | index, c => if c = ']' then some indexed else if c = '[' then none else some index
  | indexed, c => suffix c
  | arguments, c => if c = ')' then some called else if c = '(' then none else some arguments
  | called, _ => none

def isFinal : OperandState → Bool
  | name | indexed | called => true
  | _ => false

end OperandState

def Text.isSimpleOperand (text : Text) : Bool :=
  (text.dropFinalNewline.foldlM OperandState.step .start).any OperandState.isFinal

end ClassUsage
