import ClassUsage.Expression.Condition
import ClassUsage.Expression.Object
import ClassUsage.Expression.Template

set_option autoImplicit false

/-!
The shapes of a class expression. A shape is read off the text of one expression alone; the
expressions inside it are still texts, and resolving the shape asks for their uses.
-/
namespace ClassUsage

inductive Shape where
  | literal (uses : List ClassUse)
  /-- An operand that counts only when a condition holds. -/
  | guarded (condition operand : Text)
  | branches (condition yes no : Text)
  | template (parts : Template)
deriving DecidableEq, Repr

namespace Shape

/-- The two sides of an operator, the left one without enclosing brackets, unless the expression
is a conditional one or holds an operator that binds more loosely. -/
def sides (token : Text) (looser : List Text) (text : Text) : Option (Text × Text) :=
  if isConditional text || hasOperator looser text then none
  else
    match findOperator token 0 text with
    | none => none
    | some found =>
      if found.before.isEmpty || found.after.isEmpty then none
      else some (stripParens found.before, found.after)

def object? (text : Text) : Option Shape := some (.literal (objectUses text))

def string? (text : Text) : Option Shape :=
  (literalBody text).map fun classes => .literal [⟨classes, none⟩]

/-- `condition && operand`: the operand counts when the condition holds. -/
def conjunction? (text : Text) : Option Shape :=
  (sides andToken [orToken, nullishToken] text).map fun found => .guarded found.1 found.2

/-- `condition || operand`: the operand counts when the condition does not hold. -/
def disjunction? (text : Text) : Option Shape :=
  (sides orToken [] text).map fun found => .guarded (Condition.negate found.1) found.2

/-- `value ?? operand`: the operand counts when the value is null or undefined. -/
def nullish? (text : Text) : Option Shape :=
  (sides nullishToken [] text).map fun found => .guarded (Condition.isNull found.1) found.2

/-- `condition ? yes : no`. -/
def conditional? (text : Text) : Option Shape :=
  match splitQuestion text with
  | none => none
  | some (before, after) =>
    match splitBranches after with
    | none => none
    | some (yes, no) =>
      let condition := stripParens before
      if condition.isEmpty then none else some (.branches condition yes no)

def template? (text : Text) : Option Shape := (Template.read text).map .template

/-- The readings of an expression in the order in which they are tried. String literals come
before the operators, since a string may hold the characters of an operator. -/
def readings : List (Text → Option Shape) :=
  [object?, string?, conjunction?, disjunction?, nullish?, conditional?, template?]

variable {m : Type → Type} [Monad m]

/-- The uses of a part of a template literal, given the uses of expressions. -/
def resolvePiece (uses : Text → m (List ClassUse)) : Piece → m (List ClassUse)
  | .static text => pure (if text.trim.isEmpty then [] else [⟨text.trim, none⟩])
  | .interpolation text => uses text

/-- The uses of a shape, given the uses of the expressions inside it. An incomplete template
literal has none, but what it holds is asked for all the same. -/
def resolve (uses : Text → m (List ClassUse)) : Shape → m (List ClassUse)
  | .literal found => pure found
  | .guarded condition operand =>
    match literalBody operand with
    | some classes => pure (guardAll condition [⟨classes, none⟩])
    | none => do
      let found ← uses (stripParens operand)
      pure (guardAll condition found)
  | .branches condition yes no => do
    let whenTrue ← uses yes
    let whenFalse ← uses no
    pure (guardAll condition whenTrue ++ guardAll (Condition.negate condition) whenFalse)
  | .template parts => do
    let found ← parts.pieces.mapM (resolvePiece uses)
    pure (if parts.complete then found.flatten else [])

/-- The uses of the first reading that has any. -/
def firstUses (uses : Text → m (List ClassUse)) (text : Text) :
    List (Text → Option Shape) → m (List ClassUse)
  | [] => pure []
  | reading :: others =>
    match reading text with
    | none => firstUses uses text others
    | some shape => do
      let found ← shape.resolve uses
      if found.isEmpty then firstUses uses text others else pure found

/-- The uses of a trimmed expression, given the uses of the expressions inside it. -/
def usesOf (uses : Text → m (List ClassUse)) (text : Text) : m (List ClassUse) :=
  if text.isEmpty || mixesNullish text then pure [] else firstUses uses text readings

end Shape
end ClassUsage
