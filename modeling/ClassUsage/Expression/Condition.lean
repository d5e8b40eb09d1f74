import ClassUsage.ClassUse
import ClassUsage.Expression.Operand
import ClassUsage.Expression.Ternary
import ClassUsage.Scan.Bracket

set_option autoImplicit false

/-!
Conditions as texts: joining, negating and testing them for null, with brackets where the parts
bind more loosely than the operator that is put in.
-/
namespace ClassUsage

def andToken : Text := "&&".toList

def orToken : Text := "||".toList

def nullishToken : Text := "??".toList

namespace Condition

/-- A condition that a `!` or a comparison applies to as a whole. -/
def isSimple (condition : Text) : Bool :=
  condition.isSimpleOperand || (unwrap .round .round condition).isSome

def bracketed (condition : Text) : Text := '(' :: condition ++ [')']

/-- A condition as an operand of `&&`. -/
def group (condition : Text) : Text :=
  if hasOperator [orToken, nullishToken] condition || isConditional condition then
    bracketed condition
  else condition

def negate (condition : Text) : Text :=
  '!' :: if isSimple condition then condition else bracketed condition

/-- The condition that holds when the given expression is null or undefined. -/
def isNull (condition : Text) : Text :=
  (if isSimple condition then condition else bracketed condition) ++ " == null".toList

def conjoin (left : Text) : Option Text → Text
  | none => left
  | some right => group left ++ " && ".toList ++ group right

end Condition

/-- Uses that apply only when a further condition holds. -/
def guardAll (condition : Text) (uses : List ClassUse) : List ClassUse :=
  uses.map fun use => ⟨use.classes, some (Condition.conjoin condition use.condition)⟩

/-- An expression in which `??` stands beside `&&` or `||` without brackets, which is not allowed
outside a conditional expression. -/
def mixesNullish (text : Text) : Bool :=
  !isConditional text && hasOperator [nullishToken] text && hasOperator [andToken, orToken] text

end ClassUsage
