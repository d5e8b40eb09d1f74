import ClassUsage.Document.Extract

set_option autoImplicit false

/-!
Reports on a document: how often and where each class is used, and which classes depend on a
condition. Classes are listed in the order in which they are first seen.
-/
namespace ClassUsage

def firstOccurrences : List Text → List Text
  | [] => []
  | name :: names => name :: (firstOccurrences names).filter (· ≠ name)

def distinctClasses (classLists : List Text) : List Text :=
  firstOccurrences (classLists.flatMap Text.words)

def combineClasses (classLists : List Text) : Text :=
  Text.join [' '] (distinctClasses classLists)

/-- A class seen once: its line and its condition. -/
structure Sighting where
  className : Text
  line : Nat
  condition : Option Text
deriving DecidableEq, Repr

namespace Sighting

def conditionWords : Option Text → Text
  | none => []
  | some condition => " (if ".toList ++ condition ++ [')']

def location (sighting : Sighting) : Text :=
  "line ".toList ++ (toString sighting.line).toList ++ conditionWords sighting.condition

end Sighting

/-- The number of the line that holds an offset. -/
def lineOf (document : Text) (offset : Nat) : Nat := (document.take offset).count '\n' + 1

def Extraction.sightings (document : Text) (extraction : Extraction) : List Sighting :=
  let line := lineOf document extraction.range.start.toNat
  extraction.uses.flatMap fun use => use.tokens.map fun name => ⟨name, line, use.condition⟩

def sightings (document : Text) (extractions : List Extraction) : List Sighting :=
  extractions.flatMap (·.sightings document)

/-- The entries with the value of a name changed. A name without an entry gets one behind all
others, with the initial value changed. -/
def changeEntry {α : Type} (name : Text) (initial : α) (change : α → α) :
    List (Text × α) → List (Text × α)
  | [] => [(name, change initial)]
  | (other, value) :: entries =>
    if other = name then (other, change value) :: entries
    else (other, value) :: changeEntry name initial change entries

structure ClassTable where
  counts : List (Text × Nat) := []
  locations : List (Text × List Text) := []
deriving DecidableEq, Repr

namespace ClassTable

def add (table : ClassTable) (sighting : Sighting) : ClassTable :=
  { counts := changeEntry sighting.className 0 (· + 1) table.counts
    locations := changeEntry sighting.className [] (· ++ [sighting.location]) table.locations }

def ofSightings (seen : List Sighting) : ClassTable := seen.foldl add {}

end ClassTable

def classTable (document : Text) : ClassTable :=
  .ofSightings (sightings document (extractAll document))

def namesUsed (wanted : ClassUse → Bool) (extractions : List Extraction) : List Text :=
  ((extractions.flatMap (·.uses)).filter wanted).flatMap ClassUse.tokens

/-- The classes that are never used without a condition, in alphabetical order. -/
def conditionalOnly (extractions : List Extraction) : List Text :=
  let always := namesUsed (·.condition.isNone) extractions
  let sometimes := firstOccurrences (namesUsed (·.condition.isSome) extractions)
  (sometimes.filter (!always.contains ·)).mergeSort Text.precedes

structure Summary where
  extractions : List Extraction
  uniqueClasses : List Text
  table : ClassTable
  conditionalOnly : List Text
deriving DecidableEq, Repr

def summarize (document : Text) : Summary :=
  let extractions := extractAll document
  { extractions
    uniqueClasses := (combineClasses (extractions.flatMap (·.classStrings))).words
    table := classTable document
    conditionalOnly := conditionalOnly extractions }

end ClassUsage
