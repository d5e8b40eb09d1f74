import ClassUsage.Attribute.Locator
import ClassUsage.Attribute.Payload

set_option autoImplicit false

/-!
Attributes with an expression in braces: `className={expression}`, in which the expression may be a
template literal or a call of a helper that joins classes, and `classList={{ name: condition }}`.
-/
namespace ClassUsage

/-- The functions that join class names, whose arguments are read one by one. -/
def helperNames : List Text :=
  ["clsx".toList, "classnames".toList, "classNames".toList, "cn".toList, "cx".toList,
    "twMerge".toList, "twJoin".toList, "cva".toList, "tw".toList]

/-- The name of an attribute with an expression in braces, and the text behind the brace. -/
def braceOpening? (previous : Option Char) (text : Text) : Option (Text × Text) := do
  let (name, rest) ← text.className?
  guard (mayBeginAttribute previous)
  let rest ← rest.afterEquals?
  let rest ← rest.after? ['{']
  some (name, rest)

/-- The name of an attribute whose expression begins with a helper call, and the text behind the
bracket of the call. -/
def helperOpening? (previous : Option Char) (text : Text) : Option (Text × Text) := do
  let (name, rest) ← braceOpening? previous text
  let rest ← helperNames.findSome? fun helper => do
    let rest ← rest.trimStart.after? helper
    rest.afterBlanksAnd? '('
  some (name, rest)

/-- Attributes whose expression begins with a backtick. -/
def jsxTemplate : Locator := fun previous text => do
  let (name, inside) ← braceOpening? previous text
  openingUpTo text inside do
    let (inner, rest) ← Scan.opened.balanced .curly inside
    guard (inner.trim.head? = some '\x60')
    attributeUpTo text rest .template name ((parseTemplate inner.trim).getD [])

/-- The arguments of a helper call. A single array stands for its elements. -/
def helperArguments (content : Text) : List Text :=
  splitCommas ((unwrap .square .square content).getD content)

/-- Attributes whose expression is a helper call and nothing else. -/
def helperCall : Locator := fun previous text => do
  let (name, inside) ← helperOpening? previous text
  openingUpTo text inside do
    let (inner, rest) ← Scan.opened.balanced .round inside
    let rest ← rest.afterBlanksAnd? '}'
    attributeUpTo text rest .helper name (argumentUses (helperArguments inner))

def jsxExpression : Locator := fun previous text => do
  let (name, inside) ← braceOpening? previous text
  openingUpTo text inside do
    let (inner, rest) ← Scan.opened.balanced .curly inside
    guard (inner.trim.head? ≠ some '\x60' ∧ (helperOpening? previous text).isNone)
    attributeUpTo text rest .mixed name ((parseExpression inner.trim).getD [])

/-- Attributes that list classes in an object, `classList={{ name: condition }}`. -/
def solidClassList : Locator := fun previous text => do
  let rest ← text.after? "classList".toList
  guard (mayBeginKeyword previous)
  let rest ← rest.afterEquals?
  let rest ← rest.after? ['{']
  let inside ← rest.afterBlanksAnd? '{'
  openingUpTo text inside do
    let (inner, rest) ← Scan.opened.balanced .curly inside
    let rest ← rest.afterBlanksAnd? '}'
    attributeUpTo text rest .helper "classList".toList
      ((parseObject ('{' :: inner ++ ['}'])).getD [])

end ClassUsage
