import ClassUsage.Attribute.Bound
import ClassUsage.Attribute.Jsx
import ClassUsage.Attribute.Plain
import ClassUsage.Attribute.Svelte

set_option autoImplicit false

/-!
The extractions of a whole document. All locators search it independently; where extractions
overlap, the one that starts first is kept.
-/
namespace ClassUsage

/-- The extractions that start at or after `free`, each at or after the end of the one kept
before it. -/
def keepDisjoint (free : Int) : List Extraction → List Extraction
  | [] => []
  | extraction :: others =>
    if free ≤ extraction.range.start then
      extraction :: keepDisjoint extraction.range.stop others
    else keepDisjoint free others

/-- The extractions ordered by where they start; those that start together keep their order. -/
def orderByStart (extractions : List Extraction) : List Extraction :=
  extractions.mergeSort fun first second => first.range.start ≤ second.range.start

/-- The extractions in document order without those that begin inside one already kept. The first
one may begin just before the document, but no earlier. -/
def removeOverlaps (extractions : List Extraction) : List Extraction :=
  keepDisjoint (-1) (orderByStart extractions)

/-- All locators. Of extractions that start together, the locator listed first wins. -/
def allLocators : List Locator :=
  [plainAttribute, jsxTemplate, helperCall, jsxExpression, vueBinding, svelteDirective,
    angularNgClass, angularClass, solidClassList]

/-- The class attributes of a document, in document order and without overlaps. -/
def extractAll (document : Text) : List Extraction :=
  removeOverlaps (allLocators.flatMap (·.locate document))

/-- The first extraction whose range holds a position. -/
def extractionAt (extractions : List Extraction) (position : Int) : Option Extraction :=
  extractions.find? (·.range.contains position)

end ClassUsage
