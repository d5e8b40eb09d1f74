import ClassUsage.Expression.Shape

set_option autoImplicit false

/-!
The uses of a class expression, up to a limit on how deep expressions are nested in one another.
An expression that goes deeper has no uses at all.
-/
namespace ClassUsage

inductive TooDeep where
  | tooDeep
deriving DecidableEq, Repr

/-- The uses of an expression that may open the given number of levels, itself included. -/
def usesWithin : Nat → Text → Except TooDeep (List ClassUse)
  | 0, _ => .error .tooDeep
  | levels + 1, text => Shape.usesOf (usesWithin levels) text.trim

inductive ExpressionForm where
  | any
  /-- An object literal and nothing else. -/
  | object
  /-- A template literal and nothing else. -/
  | template
deriving DecidableEq, Repr

namespace ExpressionForm

variable {m : Type → Type} [Monad m]

/-- The uses of an expression of this form, given the uses of any expression at the outermost
level and one level inside it. -/
def usesOf (form : ExpressionForm) (outer inner : Text → m (List ClassUse)) (text : Text) :
    m (List ClassUse) :=
  match form with
  | any => outer text.trim
  | object => pure (objectUses text.trim)
  | template =>
    match Shape.template? text.trim with
    | none => pure []
    | some shape => shape.resolve inner

end ExpressionForm

def defaultDepthLimit : Int := 200

/-- Levels that may still be opened at a depth under a limit. -/
def levelsLeft (limit : Int) (depth : Nat) : Nat := (limit + 1 - depth).toNat

/-- A match has at least one use; an expression nested too deeply is no match. -/
def matchOf : Except TooDeep (List ClassUse) → Option (List ClassUse)
  | .ok (use :: uses) => some (use :: uses)
  | _ => none

/-- The uses of an expression of the given form, or none if it is no class expression. -/
def parseForm (form : ExpressionForm) (limit : Int) (text : Text) : Option (List ClassUse) :=
  matchOf (form.usesOf (usesWithin (levelsLeft limit 0)) (usesWithin (levelsLeft limit 1)) text)

def parseExpression : Text → Option (List ClassUse) := parseForm .any defaultDepthLimit

def parseObject : Text → Option (List ClassUse) := parseForm .object defaultDepthLimit

def parseTemplate : Text → Option (List ClassUse) := parseForm .template defaultDepthLimit

end ClassUsage
