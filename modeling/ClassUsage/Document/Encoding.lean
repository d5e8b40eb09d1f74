import ClassUsage.Document.Report
import ClassUsage.Json.Basic

set_option autoImplicit false

/-! Class uses, extractions and summaries as JSON. -/
namespace ClassUsage

/-- A class use as JSON; a use without a condition has no member for it. -/
def ClassUse.toJson (use : ClassUse) : Json :=
  .ofFields (("classes", .string use.classes) ::
    use.condition.toList.map fun condition => ("condition", .string condition))

def ClassUse.listToJson (uses : List ClassUse) : Json := .array (uses.map toJson)

def SourceRange.toJson (range : SourceRange) : Json :=
  .ofFields [("start", .integer range.start), ("end", .integer range.stop)]

def Extraction.toJson (extraction : Extraction) : Json :=
  .ofFields
    [("kind", .string extraction.kind.name),
      ("attribute", .string extraction.name),
      ("range", extraction.range.toJson),
      ("class_strings", .ofTexts extraction.classStrings),
      ("conditional_classes", ClassUse.listToJson extraction.uses)]

def Extraction.listToJson (extractions : List Extraction) : Json :=
  .array (extractions.map toJson)

def ClassTable.countsToJson (table : ClassTable) : Json :=
  .object (table.counts.map fun entry => (entry.1, .integer entry.2))

def ClassTable.locationsToJson (table : ClassTable) : Json :=
  .object (table.locations.map fun entry => (entry.1, .ofTexts entry.2))

def Summary.fields (summary : Summary) : List (String × Json) :=
  [("extractions", Extraction.listToJson summary.extractions),
    ("unique_classes", .ofTexts summary.uniqueClasses),
    ("class_counts", summary.table.countsToJson),
    ("class_locations", summary.table.locationsToJson),
    ("conditional_only", .ofTexts summary.conditionalOnly)]

def Summary.toJson (summary : Summary) : Json := .ofFields summary.fields

end ClassUsage
