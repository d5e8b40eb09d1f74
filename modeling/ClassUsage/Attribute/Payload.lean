import ClassUsage.Expression.Parser
import ClassUsage.Scan.TopLevel
import ClassUsage.Text.Marked

set_option autoImplicit false

/-!
What the values of attributes mean: quoted values, conditions of directives, arguments of helper
calls, and values that bind an object, an array or an expression.
-/
namespace ClassUsage

/-- The offset of the closing mark of a quoted value that begins at `start`. Only a mark of one
character is ever found. -/
def closingMarkAt (text : Text) (start : Nat) (mark : Text) : Option Nat :=
  match mark with
  | [mark] => (splitAtMark mark false (text.drop start)).map fun found => start + found.1.length
  | _ => none

/-- The uses of a directive that applies one class under a condition; `true` is no condition. -/
def directiveUses (name condition : Text) : List ClassUse :=
  if condition.trim.isEmpty then []
  else if condition.trim = "true".toList then [⟨name, none⟩]
  else [⟨name, some condition.trim⟩]

/-- The elements of an argument that is an array, or the argument alone. -/
def argumentElements (argument : Text) : List Text :=
  match unwrap .square .square argument with
  | some inner => splitCommas inner
  | none => [argument]

/-- The uses of arguments, each read as an expression of its own. Arrays are opened one level
deep, and what is no class expression is passed over. -/
def argumentUses (arguments : List Text) : List ClassUse :=
  (arguments.flatMap argumentElements).flatMap fun element => (parseExpression element).getD []

/-- The uses of a value that may be an object, an array or an expression; anything else is taken
as a plain list of classes. -/
def bindingUses (value : Text) : List ClassUse :=
  let value := value.trim
  match value with
  | [] => []
  | '{' :: _ => (parseObject value).getD []
  | '[' :: _ =>
    match unwrap .square .square value with
    | some inner => argumentUses (splitCommas inner)
    | none => []
  | _ => (parseExpression value).getD [⟨value, none⟩]

end ClassUsage
