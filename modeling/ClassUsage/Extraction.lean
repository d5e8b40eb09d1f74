import ClassUsage.ClassUse

set_option autoImplicit false

/-!
Extractions: the class uses found in one attribute of a document, with the place they were found at.
-/
namespace ClassUsage

inductive Kind where
  /-- A plain list. -/
  | simple
  /-- A template literal. -/
  | template
  /-- A helper call, a binding or a directive. -/
  | helper
  /-- Any other expression. -/
  | mixed
deriving DecidableEq, Repr

namespace Kind

def name : Kind → Text
  | simple => "simple".toList
  | template => "template".toList
  | helper => "helper".toList
  | mixed => "mixed".toList

def ofName? (word : Text) : Option Kind :=
  [simple, template, helper, mixed].find? fun kind => kind.name == word

end Kind

/-- A part of a document, from one offset up to another. -/
structure SourceRange where
  start : Int
  stop : Int
deriving DecidableEq, Repr

/-- Whether a position lies in a range. The position just after its last character does, so that a
cursor behind the closing mark still belongs to the attribute. -/
def SourceRange.contains (range : SourceRange) (position : Int) : Bool :=
  range.start ≤ position && position ≤ range.stop

structure Extraction where
  kind : Kind
  name : Text
  range : SourceRange
  uses : List ClassUse
deriving DecidableEq, Repr

inductive BuildError where
  | unknownKind (name : Text)
  | emptyRange (start stop : Int)
deriving DecidableEq, Repr

def BuildError.message : BuildError → Text
  | unknownKind name => "Unknown extraction kind: ".toList ++ name
  | emptyRange start stop =>
    "Empty extraction range: ".toList ++ (toString start).toList ++ "..".toList ++
      (toString stop).toList

namespace Extraction

/-- The class names as they are written, one text for each use. -/
def classStrings (extraction : Extraction) : List Text := extraction.uses.map (·.classes)

/-- Builds an extraction of a kind given by its word, with a range that is not empty. -/
def build (uses : List ClassUse) (start stop : Int) (kind name : Text) :
    Except BuildError Extraction :=
  match Kind.ofName? kind with
  | none => .error (.unknownKind kind)
  | some kind =>
    if stop ≤ start then .error (.emptyRange start stop)
    else .ok ⟨kind, name, ⟨start, stop⟩, uses⟩

/-- Whether two extractions say the same of the same place; how the attribute is named does not
matter. -/
def agrees (first second : Extraction) : Bool :=
  first.uses == second.uses && first.range == second.range && first.kind == second.kind

end Extraction
end ClassUsage
