import ClassUsage.Attribute.Locator
import ClassUsage.Attribute.Payload

set_option autoImplicit false

/-!
Attributes with a bound value between quotation marks: `:class="value"`, `[ngClass]="value"` and
`[class.name]="condition"`.
-/
namespace ClassUsage

/-- The value of an attribute behind its opening mark and the text behind its closing mark. -/
def markedValue? (mark : Char) (inside : Text) : Option (Text × Text) :=
  splitAtMark mark false inside

/-- The opening of an attribute with a marked value, from behind its name on. -/
def markedOpening (text rest name : Text) (uses : Text → List ClassUse) : Option Opening := do
  let rest ← rest.afterEquals?
  let (mark, inside) ← rest.afterMark?
  openingUpTo text inside do
    let (value, rest) ← markedValue? mark inside
    attributeUpTo text rest .helper name (uses value)

def vueName? (text : Text) : Option (Text × Text) :=
  ["v-bind:class".toList, ":class".toList].findSome? fun name =>
    (text.after? name).map fun rest => (name, rest)

/-- `:class="value"` and `v-bind:class="value"`. -/
def vueBinding : Locator := fun previous text => do
  let (name, rest) ← vueName? text
  guard (mayBeginKeyword previous)
  markedOpening text rest name bindingUses

/-- `[ngClass]="value"`. -/
def angularNgClass : Locator := fun _ text => do
  let name := "[ngClass]".toList
  let rest ← text.after? name
  markedOpening text rest name bindingUses

/-- `[class.name]="condition"`. -/
def angularClass : Locator := fun _ text => do
  let rest ← text.after? "[class.".toList
  let ends (c : Char) : Bool := c == ']' || isBlank c
  let name := rest.takeWhile (!ends ·)
  guard (!name.isEmpty)
  let rest ← Text.after? (rest.dropWhile (!ends ·)) [']']
  markedOpening text rest ("[class.".toList ++ name ++ [']']) (directiveUses name)

end ClassUsage
