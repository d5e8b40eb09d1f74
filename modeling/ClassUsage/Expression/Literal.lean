import ClassUsage.Scan.Basic
import ClassUsage.Text.Basic

set_option autoImplicit false

/-!
String literals: a body between two equal quotation marks, in which the mark stands only behind a
backslash.
-/
namespace ClassUsage

/-- Whether a mark stands in a text without a backslash just before it. -/
def holdsBareMark (mark : Char) : (escaped : Bool) → Text → Bool
  | _, [] => false
  | escaped, c :: rest => (c == mark && !escaped) || holdsBareMark mark (c == '\\') rest

def holdsInterpolation : Text → Bool
  | [] => false
  | c :: rest => (c == '$' && rest.head? == some '{') || holdsInterpolation rest

/-- The quotation mark that a trimmed text begins and ends with, and the text between. -/
def enclosedBody (text : Text) : Option (Char × Text) :=
  match text with
  | mark :: body =>
    if isQuote mark && body.getLast? == some mark then some (mark, body.dropLast) else none
  | [] => none

/-- The trimmed body of a text that is a single string literal and not blank. A literal between
backticks must not hold an interpolation. -/
def literalBody (text : Text) : Option Text :=
  match enclosedBody text.trim with
  | none => none
  | some (mark, body) =>
    if holdsBareMark mark false body || (mark == '\x60' && holdsInterpolation body) then none
    else if body.trim.isEmpty then none
    else some body.trim

end ClassUsage
