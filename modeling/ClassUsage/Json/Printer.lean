import ClassUsage.Json.Basic
import ClassUsage.Text.Quoted
import ClassUsage.Text.Utf16

set_option autoImplicit false

/-!
JSON values as text. Each item and each member has a line of its own, indented by two blanks a
level, and the text holds visible ASCII characters and blanks only.
-/
namespace ClassUsage.Json

def unitEscape (unit : Nat) : Text := '\\' :: 'u' :: Text.hexDigits 4 unit

def escaped (c : Char) : Text :=
  if c = '\x22' ∨ c = '\\' then ['\\', c]
  else if c = '\n' then ['\\', 'n']
  else if c = '\r' then ['\\', 'r']
  else if c = '\t' then ['\\', 't']
  else if c = '\x08' then ['\\', 'b']
  else if c = '\x0c' then ['\\', 'f']
  else if ' ' ≤ c ∧ c ≤ '\x7e' then [c]
  else (Text.charUnits c).flatMap unitEscape

def quotedString (text : Text) : Text := '\x22' :: text.flatMap escaped ++ ['\x22']

def lineStart (level : Nat) : Text := '\n' :: List.replicate (2 * level) ' '

/-- Parts between brackets at a level, each on a line of its own. -/
def bracketedLines (opener closer : Char) (level : Nat) (parts : List Text) : Text :=
  match parts with
  | [] => [opener, closer]
  | parts =>
    let lines := Text.join [','] (parts.map fun part => lineStart (level + 1) ++ part)
    opener :: lines ++ lineStart level ++ [closer]

mutual

/-- A value that starts on a line at a level. -/
def printAt (level : Nat) : Json → Text
  | .null => "null".toList
  | .bool true => "true".toList
  | .bool false => "false".toList
  | .integer value => (toString value).toList
  | .decimal literal => literal
  | .string value => quotedString value
  | .array items => bracketedLines '[' ']' level (printItems (level + 1) items)
  | .object members => bracketedLines '{' '}' level (printMembers (level + 1) members)

def printItems (level : Nat) : List Json → List Text
  | [] => []
  | item :: items => printAt level item :: printItems level items

def printMembers (level : Nat) : List (Text × Json) → List Text
  | [] => []
  | (name, value) :: members =>
    (quotedString name ++ ": ".toList ++ printAt level value) :: printMembers level members

end

def print (json : Json) : Text := printAt 0 json

end ClassUsage.Json
