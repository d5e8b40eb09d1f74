import ClassUsage.Text.Basic

set_option autoImplicit false

/-!
Reading a text from left to right while keeping track of string literals and bracket depth. The
kinds of bracket are not told apart here: any closing bracket undoes any opening one.
-/
namespace ClassUsage

def isQuote (c : Char) : Bool := c == '\x22' || c == '\x27' || c == '\x60'

/-- The brackets that go one level deeper. -/
def isOpener (c : Char) : Bool := c == '(' || c == '[' || c == '{'

/-- The brackets that come back one level. -/
def isCloser (c : Char) : Bool := c == ')' || c == ']' || c == '}'

/-- What has to be remembered of the text read so far. -/
structure Scan where
  /-- Opening brackets less closing ones, outside string literals. -/
  depth : Int := 0
  /-- The quotation mark of the string literal being read. -/
  quote : Option Char := none
  /-- The last character was a backslash, so a quotation mark now has no effect. -/
  escaped : Bool := false
deriving DecidableEq, Repr

namespace Scan

def inString (scan : Scan) : Bool := scan.quote.isSome

/-- Outside string literals and at depth zero. -/
def isNeutral (scan : Scan) : Bool := scan.quote.isNone && scan.depth == 0

/-- The scan of a text of its own, before anything is read. -/
def fresh : Scan := {}

/-- The scan of the inside of a bracket whose opener has just been read. -/
def opened : Scan := { depth := 1 }

def step (scan : Scan) (c : Char) : Scan :=
  let escaped := c == '\\'
  match scan.quote with
  | none =>
    if isQuote c && !scan.escaped then { scan with quote := some c, escaped }
    else if isOpener c then { scan with depth := scan.depth + 1, escaped }
    else if isCloser c then { scan with depth := scan.depth - 1, escaped }
    else { scan with escaped }
  | some quote =>
    if c == quote && !scan.escaped then { scan with quote := none, escaped }
    else { scan with escaped }

/-- Reads a token of which only a single character can mean anything, after the given token. -/
def stepAfter (scan : Scan) (previous token : Text) : Scan :=
  let scan := { scan with escaped := previous == ['\\'] }
  match token with
  | [c] => scan.step c
  | _ => scan

def run (scan : Scan) (text : Text) : Scan := text.foldl step scan

/-- The scans after each character of a text. -/
def trace (scan : Scan) : Text → List Scan
  | [] => []
  | c :: rest => scan.step c :: trace (scan.step c) rest

@[simp] theorem run_nil (scan : Scan) : scan.run [] = scan := rfl

@[simp] theorem run_cons (scan : Scan) (c : Char) (rest : Text) :
    scan.run (c :: rest) = (scan.step c).run rest := rfl

theorem run_append (scan : Scan) (first second : Text) :
    scan.run (first ++ second) = (scan.run first).run second :=
  List.foldl_append

end Scan
end ClassUsage
