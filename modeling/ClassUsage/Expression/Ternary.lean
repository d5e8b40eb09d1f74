import ClassUsage.Scan.TopLevel
import ClassUsage.Text.DigitChar

set_option autoImplicit false

/-!
The question mark and the colon of a conditional expression `condition ? yes : no`. A doubled
question mark is the nullish operator, and `?.` before anything but a digit is a member access.
-/
namespace ClassUsage

/-- Whether a question mark with the given neighbours belongs to a conditional expression. -/
def isConditionalQuestion (previous : Option Char) (next : Text) : Bool :=
  if previous = some '?' then false
  else
    match next with
    | '?' :: _ => false
    | '.' :: c :: _ => isDigitChar c
    | ['.'] => false
    | _ => true

def startsConditional (previous : Option Char) : Text → Bool
  | [] => false
  | c :: next => c == '?' && isConditionalQuestion previous next

/-- The text before the question mark of a conditional expression and the text after it. -/
def splitQuestion (text : Text) : Option (Text × Text) :=
  let wanted (_ : Nat) (previous : Option Char) (rest : Text) : Bool :=
    startsConditional previous rest
  (Scan.fresh.findNeutral wanted 0 none text).map fun found => (found.1, found.2.drop 1)

def isConditional (text : Text) : Bool := (splitQuestion text).isSome

/-- Reads up to the colon at the top level that leaves no question mark pending. -/
def Scan.splitColon : Nat → Option Char → Scan → Text → Option (Text × Text)
  | _, _, _, [] => none
  | pending, previous, scan, c :: rest =>
    let scan := scan.step c
    let prepend (found : Text × Text) : Text × Text := (c :: found.1, found.2)
    if scan.isNeutral && startsConditional previous (c :: rest) then
      (splitColon (pending + 1) (some c) scan rest).map prepend
    else if scan.isNeutral && c == ':' then
      match pending with
      | 0 => some ([], rest)
      | pending + 1 => (splitColon pending (some c) scan rest).map prepend
    else (splitColon pending (some c) scan rest).map prepend

theorem Scan.splitColon_cons (pending : Nat) (previous : Option Char) (scan : Scan) (c : Char)
    (rest : Text) :
    splitColon pending previous scan (c :: rest) =
      if (scan.step c).isNeutral && startsConditional previous (c :: rest) then
        (splitColon (pending + 1) (some c) (scan.step c) rest).map fun found =>
          (c :: found.1, found.2)
      else if (scan.step c).isNeutral && c == ':' then
        match pending with
        | 0 => some ([], rest)
        | pending + 1 =>
          (splitColon pending (some c) (scan.step c) rest).map fun found => (c :: found.1, found.2)
      else
        (splitColon pending (some c) (scan.step c) rest).map fun found => (c :: found.1, found.2) :=
  (splitColon.eq_def pending previous scan (c :: rest)).trans rfl

def splitBranches (text : Text) : Option (Text × Text) :=
  Scan.fresh.splitColon 0 none text

end ClassUsage
