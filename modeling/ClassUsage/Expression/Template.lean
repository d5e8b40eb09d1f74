import ClassUsage.Scan.Bracket

set_option autoImplicit false

/-!
Template literals: static text between backticks with interpolations `${expression}` in it.
-/
namespace ClassUsage

inductive Piece where
  | static (text : Text)
  | interpolation (text : Text)
deriving DecidableEq, Repr

/-- What can be read of a template literal: its parts up to the end or up to a fault. -/
structure Template where
  pieces : List Piece
  /-- The parts are all of the literal. -/
  complete : Bool
deriving DecidableEq, Repr

namespace Template

def consStatic (c : Char) (template : Template) : Template :=
  match template.pieces with
  | .static text :: pieces => { template with pieces := .static (c :: text) :: pieces }
  | pieces => { template with pieces := .static [c] :: pieces }

def consInterpolation (text : Text) (template : Template) : Template :=
  { template with pieces := .interpolation text :: template.pieces }

/-- Reads the text between the outer backticks. A backslash makes the next character static, a
backtick of its own is a fault, and so is an interpolation that does not close. -/
def ofBody (body : Text) : Template :=
  match body with
  | [] => ⟨[], true⟩
  | c :: rest =>
    if c = '\\' then
      match rest with
      | [] => consStatic c ⟨[], true⟩
      | d :: rest => consStatic c (consStatic d (ofBody rest))
    else if c = '\x60' then ⟨[], false⟩
    else if c = '$' then
      match rest with
      | '{' :: inside =>
        match _found : Scan.opened.balanced .curly inside with
        | none => ⟨[], false⟩
        | some (inner, after) => consInterpolation inner (ofBody after)
      | rest => consStatic c (ofBody rest)
    else consStatic c (ofBody rest)
termination_by body.length
decreasing_by
  · simp only [List.length_cons]
    omega
  · have := Scan.length_of_balanced _found
    simp only [List.length_cons]
    omega
  · simp only [List.length_cons]
    omega
  · simp only [List.length_cons]
    omega

/-- Reads a text that begins and ends with backticks. -/
def read (text : Text) : Option Template :=
  match text with
  | '\x60' :: body =>
    if body.getLast? = some '\x60' then some (ofBody body.dropLast) else none
  | _ => none

end Template
end ClassUsage
