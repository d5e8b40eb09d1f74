import ClassUsage.Scan.Basic

set_option autoImplicit false

/-!
What stands at the top level of a text, outside string literals and brackets: cutting at
separators, and the first operator. A character is at the top level when the scan is neutral just
after reading it.
-/
namespace ClassUsage

namespace Scan

/-- The segments between separators at the top level, neither trimmed nor filtered. -/
def segments (separates : Char → Bool) : Scan → Text → List Text
  | _, [] => [[]]
  | scan, c :: rest =>
    let scan := scan.step c
    if separates c && scan.isNeutral then [] :: segments separates scan rest
    else Text.consHead c (segments separates scan rest)

/-- The first place at the top level that is wanted, as the text before it and the text from it
on. A place is described by its offset, the character before it and the text from it on. -/
def findNeutral (wanted : Nat → Option Char → Text → Bool) :
    Nat → Option Char → Scan → Text → Option (Text × Text)
  | _, _, _, [] => none
  | offset, previous, scan, c :: rest =>
    let scan := scan.step c
    if scan.isNeutral && wanted offset previous (c :: rest) then some ([], c :: rest)
    else
      (findNeutral wanted (offset + 1) (some c) scan rest).map fun found =>
        (c :: found.1, found.2)

end Scan

/-- The trimmed segments between separators at the top level; blank segments are left out. -/
def splitTopLevel (separates : Char → Bool) (text : Text) : List Text :=
  ((Scan.fresh.segments separates text).map Text.trim).filter (!·.isEmpty)

def splitCommas : Text → List Text := splitTopLevel (· == ',')

/-- An operator found at the top level, with the trimmed texts on its two sides. -/
structure Occurrence where
  offset : Nat
  before : Text
  after : Text
deriving DecidableEq, Repr

/-- The first occurrence of an operator at the top level, not before the offset `start`. -/
def findOperator (token : Text) (start : Nat) (text : Text) : Option Occurrence :=
  let wanted (offset : Nat) (_ : Option Char) (rest : Text) : Bool :=
    start ≤ offset && token.isPrefixOf rest
  (Scan.fresh.findNeutral wanted 0 none text).map fun found =>
    ⟨found.1.length, found.1.trim, Text.trim (found.2.drop token.length)⟩

def hasOperator (tokens : List Text) (text : Text) : Bool :=
  tokens.any fun token => (findOperator token 0 text).isSome

end ClassUsage
