import ClassUsage.Extraction
import ClassUsage.Text.WordChar

set_option autoImplicit false

/-!
Locators look for one form of class attribute. A locator says what opens at a single place, given
the character before it and the text from it on; the search asks it at one place after another and
goes on behind each opening it finds.
-/
namespace ClassUsage

/-- The class uses of an attribute, with the number of characters that the attribute takes up. -/
structure Attribute where
  kind : Kind
  name : Text
  uses : List ClassUse
  length : Nat
deriving DecidableEq, Repr

structure Opening where
  /-- The characters that the search passes over. -/
  length : Nat
  /-- The attribute itself, unless its value is faulty or names no classes. -/
  found : Option Attribute
deriving DecidableEq, Repr

/-- Looks for an opening at a place. -/
abbrev Locator := Option Char → Text → Option Opening

def Attribute.extractionAt (found : Attribute) (offset : Nat) : Extraction :=
  ⟨found.kind, found.name, ⟨offset, offset + found.length⟩, found.uses⟩

namespace Locator

/-- The extractions of a locator in the rest of a document. The first argument counts the
characters before the rest, the second those still to be passed over. -/
def locateFrom (locator : Locator) : Nat → Nat → Option Char → Text → List Extraction
  | _, _, _, [] => []
  | offset, passed + 1, _, c :: rest => locateFrom locator (offset + 1) passed (some c) rest
  | offset, 0, previous, c :: rest =>
    match locator previous (c :: rest) with
    | none => locateFrom locator (offset + 1) 0 (some c) rest
    | some opening =>
      (opening.found.map (·.extractionAt offset)).toList ++
        locateFrom locator (offset + 1) (opening.length - 1) (some c) rest

def locate (locator : Locator) (document : Text) : List Extraction :=
  locateFrom locator 0 0 none document

end Locator

/-- The opening of an attribute of which the search passes over all up to `rest`. -/
def openingUpTo (text rest : Text) (found : Option Attribute) : Option Opening :=
  some ⟨text.length - rest.length, found⟩

/-- The attribute that takes up all of a text up to `rest`, if it has uses. -/
def attributeUpTo (text rest : Text) (kind : Kind) (name : Text) (uses : List ClassUse) :
    Option Attribute :=
  if uses.isEmpty then none else some ⟨kind, name, uses, text.length - rest.length⟩

/-- Whether an attribute name may begin after a character: it may not go on a longer name or be
the tail of a directive. -/
def mayBeginAttribute (previous : Option Char) : Bool :=
  previous.all fun c =>
    !(isWordChar c || c == ':' || c == '.' || c == '-' || c == '[' || c == '@' || c == '$')

/-- Whether a keyword may begin after a character: it may not go on a longer name. -/
def mayBeginKeyword (previous : Option Char) : Bool :=
  previous.all fun c => !(isWordChar c || c == '-')

namespace Text

def afterEquals? (text : Text) : Option Text :=
  match text.trimStart with
  | '=' :: rest => some (trimStart rest)
  | _ => none

/-- A quotation mark of markup and the text behind it. -/
def afterMark? : Text → Option (Char × Text)
  | [] => none
  | c :: rest => if c = '\x22' ∨ c = '\x27' then some (c, rest) else none

/-- The text behind the given character, with blanks before it passed over. -/
def afterBlanksAnd? (c : Char) (text : Text) : Option Text :=
  match text.trimStart with
  | [] => none
  | d :: rest => if d = c then some rest else none

/-- The attribute name `className` or `class`, and the text behind it. -/
def className? (text : Text) : Option (Text × Text) :=
  match text.after? "className".toList with
  | some rest => some ("className".toList, rest)
  | none => (text.after? "class".toList).map fun rest => ("class".toList, rest)

end Text
end ClassUsage
