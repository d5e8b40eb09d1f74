import ClassUsage.Attribute.Locator
import ClassUsage.Attribute.Payload

set_option autoImplicit false

/-!
Directives for one class, `class:name={condition}`, and the short form `class:name`, in which the
name is its own condition.
-/
namespace ClassUsage

def mayBeginDirective (previous : Option Char) : Bool :=
  previous.all fun c => !(isWordChar c || c == '-' || c == ':' || c == '.')

def isDirectiveNameChar (c : Char) : Bool :=
  isWordChar c || c == '-' || c == ':' || c == '.' || c == '/' || c == '[' || c == ']'

inductive DirectiveEnd where
  /-- A condition in braces, which the text begins with. -/
  | condition (inside : Text)
  /-- Nothing that belongs to the directive. -/
  | bare
deriving DecidableEq, Repr

/-- What ends the name of a directive at this place, if it may end here. -/
def directiveEnd? (text : Text) : Option DirectiveEnd :=
  match text.afterEquals? with
  | some ('{' :: inside) => some (.condition inside)
  | _ =>
    match text with
    | '/' :: '>' :: _ => some .bare
    | c :: _ => if isBlank c || c == '>' then some .bare else none
    | [] => none

/-- The shortest name at the start of a text behind which a directive may end, with the text behind
the name and what ends it. -/
def directiveName? : Text → Option (Text × Text × DirectiveEnd)
  | [] => none
  | c :: rest =>
    if isDirectiveNameChar c then
      match directiveEnd? rest with
      | some ending => some ([c], rest, ending)
      | none => (directiveName? rest).map fun found => (c :: found.1, found.2)
    else none

def svelteDirective : Locator := fun previous text => do
  let rest ← text.after? "class:".toList
  guard (mayBeginDirective previous)
  let (name, rest, ending) ← directiveName? rest
  let reported := "class:".toList ++ name
  match ending with
  | .bare =>
    openingUpTo text rest (attributeUpTo text rest .helper reported (directiveUses name name))
  | .condition inside =>
    openingUpTo text inside do
      let (condition, rest) ← Scan.opened.balanced .curly inside
      attributeUpTo text rest .helper reported (directiveUses name condition)

end ClassUsage
