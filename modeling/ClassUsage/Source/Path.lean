import ClassUsage.Text.Basic

set_option autoImplicit false

/-!
Paths of files and directories: names between slashes, with an anchor in front if the path does not
start from the working directory. Empty names and single dots between slashes say nothing and are
left out; two dots are kept.
-/
namespace ClassUsage

structure Path where
  /-- No slash, one, or exactly two. -/
  anchor : Text
  components : List Text
deriving DecidableEq, Repr

namespace Path

/-- The texts between the slashes of a path, as they are written. -/
def parts (text : Text) : List Text := text.split (· == '/')

/-- Whether a part says nothing: it is empty or a single dot. -/
def isVoid (part : Text) : Bool := part.isEmpty || part == ['.']

/-- The anchor of a path. Three slashes or more count as one. -/
def anchorOf (text : Text) : Text :=
  let slashes := text.takeWhile (· == '/')
  if slashes.length ≤ 2 then slashes else ['/']

def ofText (text : Text) : Path := ⟨anchorOf text, (parts text).filter (!isVoid ·)⟩

/-- The text of a path; the working directory itself is a single dot. -/
def text (path : Path) : Text :=
  if path.anchor.isEmpty ∧ path.components.isEmpty then ['.']
  else path.anchor ++ Text.join ['/'] path.components

def isAbsolute (path : Path) : Bool := !path.anchor.isEmpty

/-- The last name of a path, empty if there is none. -/
def name (path : Path) : Text := path.components.getLast?.getD []

end Path

/-- The end of a name from its last dot on. A dot at either end of the name begins no suffix. -/
def suffixOf (name : Text) : Text :=
  let ending := (name.reverse.takeWhile (· != '.')).reverse
  if ending.isEmpty ∨ name.length < ending.length + 2 then [] else '.' :: ending

def isHiddenName (name : Text) : Bool := name.head? == some '.'

def Path.suffix (path : Path) : Text := suffixOf path.name

def Path.isHidden (path : Path) : Bool := isHiddenName path.name

end ClassUsage
