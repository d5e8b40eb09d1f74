import ClassUsage.Json.Token

set_option autoImplicit false

/-! Values that hold nothing, and the words for the types of values. -/
namespace ClassUsage.Json

/-- Whether the whole and the fraction of a number hold nothing but zeros, or the number is too
small to tell from zero: at most half of two to the power of -1074. -/
def isNegligible (literal : Text) : Bool :=
  let mantissa := literal.takeWhile fun c => c != 'e' && c != 'E'
  let exponent := literal.drop (mantissa.length + 1)
  let digits := decimalNumber (mantissa.filter isDigit)
  let places := ((mantissa.dropWhile (· != '.')).filter isDigit).length
  let power := decimalNumber (exponent.filter isDigit)
  if !mantissa.all (fun c => isDigit c || c == '.' || c == '-') then false
  else if digits = 0 then true
  else if exponent.head? = some '-' then
    let down := power + places
    mantissa.length + 400 < down || digits * Nat.pow 2 1075 ≤ Nat.pow 10 down
  else if places ≤ power then false
  else digits * Nat.pow 2 1075 ≤ Nat.pow 10 (places - power)

/-- Whether a value holds nothing: null, false, zero, or empty. -/
def isVoid : Json → Bool
  | null => true
  | bool value => !value
  | integer value => value == 0
  | decimal literal => isNegligible literal
  | string value => value.isEmpty
  | array items => items.isEmpty
  | object members => members.isEmpty

def typeName : Json → Text
  | null => "NoneType".toList
  | bool _ => "bool".toList
  | integer _ => "int".toList
  | decimal _ => "float".toList
  | string _ => "str".toList
  | array _ => "list".toList
  | object _ => "dict".toList

end ClassUsage.Json
