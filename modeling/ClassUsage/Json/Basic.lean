import ClassUsage.Text.Basic

set_option autoImplicit false

/-! JSON values. -/
namespace ClassUsage

/-- A JSON value. The members of an object are kept in the order in which they are written. -/
inductive Json where
  | null
  | bool (value : Bool)
  | integer (value : Int)
  /-- Any other number, as it is written. -/
  | decimal (literal : Text)
  | string (value : Text)
  | array (items : List Json)
  | object (members : List (Text × Json))
deriving Repr

namespace Json

/-- The value of a member of an object; of members with the same name the last one counts. -/
def member? (name : Text) : Json → Option Json
  | object members => (members.reverse.find? (·.1 == name)).map (·.2)
  | _ => none

def text? : Json → Option Text
  | string value => some value
  | _ => none

def textMember? (name : Text) (json : Json) : Option Text := (json.member? name).bind text?

def ofTexts (texts : List Text) : Json := array (texts.map string)

def ofFields (fields : List (String × Json)) : Json :=
  object (fields.map fun field => (field.1.toList, field.2))

end Json
end ClassUsage
