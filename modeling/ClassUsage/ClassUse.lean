import ClassUsage.Text.Basic

set_option autoImplicit false

/-!
A class use: a list of class names written in one place, and the condition under which they apply.
-/
namespace ClassUsage

/-- Class names separated by blanks, applied when the condition holds, or always if there is none. -/
structure ClassUse where
  classes : Text
  condition : Option Text := none
deriving DecidableEq, Repr

def ClassUse.tokens (use : ClassUse) : List Text := use.classes.words

end ClassUsage
