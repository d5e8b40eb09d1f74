import ClassUsage.Attribute.Locator

set_option autoImplicit false

/-!
Plain attributes, `class="a b"` and `className='a b'`. The value holds no quotation mark of
either kind.
-/
namespace ClassUsage

/-- A value between marks that holds no mark, and the text behind it. -/
def plainValue? (text : Text) : Option (Text × Text) :=
  let isMark (c : Char) : Bool := c == '\x22' || c == '\x27'
  match text.afterMark? with
  | none => none
  | some (mark, body) =>
    let value := body.takeWhile (!isMark ·)
    match body.dropWhile (!isMark ·) with
    | [] => none
    | c :: rest => if c = mark then some (value, rest) else none

def plainUses (value : Text) : List ClassUse :=
  if value.trim.isEmpty then [] else [⟨value.trim, none⟩]

def plainAttribute : Locator := fun previous text => do
  let (name, rest) ← text.className?
  guard (mayBeginAttribute previous)
  let rest ← rest.afterEquals?
  let (value, rest) ← plainValue? rest
  openingUpTo text rest (attributeUpTo text rest .simple name (plainUses value))

end ClassUsage
