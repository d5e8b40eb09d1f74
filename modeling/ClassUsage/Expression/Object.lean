import ClassUsage.ClassUse
import ClassUsage.Expression.Literal
import ClassUsage.Expression.Operand
import ClassUsage.Scan.Bracket
import ClassUsage.Scan.TopLevel

set_option autoImplicit false

/-!
Object literals that map class names to conditions, `{ 'a b': condition, c: true, d }`.
-/
namespace ClassUsage

/-- The text before the first colon outside string literals, and the text after it. -/
def Scan.splitKey : Scan → Text → Option (Text × Text)
  | _, [] => none
  | scan, c :: rest =>
    let scan := scan.step c
    if c == ':' && !scan.inString then some ([], rest)
    else (splitKey scan rest).map fun found => (c :: found.1, found.2)

/-- The key and the value of an object entry, not trimmed. -/
def splitKey (entry : Text) : Option (Text × Text) := Scan.fresh.splitKey entry

/-- The class names that a key stands for: the body of a literal, or the key itself. -/
def keyClasses (key : Text) : Option Text :=
  match key with
  | [] => none
  | c :: _ => if c = '[' then none else if isQuote c then literalBody key else some key

/-- The use that a key and its value stand for. A value that is `false`, an object or an array
stands for none. -/
def useOfPair (key value : Text) : Option ClassUse :=
  match value with
  | [] => none
  | c :: _ =>
    match keyClasses key with
    | none => none
    | some classes =>
      if value = "true".toList then some ⟨classes, none⟩
      else if value = "false".toList ∨ c = '{' ∨ c = '[' then none
      else some ⟨classes, some (stripParens value)⟩

/-- The use that an object entry stands for. A lone identifier is its own condition, and a spread
stands for none. -/
def useOfEntry (entry : Text) : Option ClassUse :=
  if "...".toList.isPrefixOf entry then none
  else
    match splitKey entry with
    | none => if entry.isIdentifier then some ⟨entry, some entry⟩ else none
    | some (key, value) => useOfPair key.trim value.trim

/-- The uses of an object literal; none if the text is no object literal. -/
def objectUses (text : Text) : List ClassUse :=
  match unwrap .curly .curly text with
  | none => []
  | some body => (splitCommas body).filterMap useOfEntry

end ClassUsage
