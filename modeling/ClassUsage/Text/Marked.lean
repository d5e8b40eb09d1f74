import ClassUsage.Text.Basic

set_option autoImplicit false

/-! Texts that end at a mark, in which a backslash makes the next character an ordinary one. -/
namespace ClassUsage

/-- Reads up to a mark that is not escaped: the text before it and the text after it. A backslash
passes over the next character, whatever it is. -/
def splitAtMark (mark : Char) : (escaped : Bool) → Text → Option (Text × Text)
  | _, [] => none
  | escaped, c :: rest =>
    let prepend (found : Text × Text) : Text × Text := (c :: found.1, found.2)
    if escaped then (splitAtMark mark false rest).map prepend
    else if c = '\\' then (splitAtMark mark true rest).map prepend
    else if c = mark then some ([], rest)
    else (splitAtMark mark false rest).map prepend

end ClassUsage
