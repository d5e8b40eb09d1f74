import ClassUsage.Text.Basic

set_option autoImplicit false

/-!
Texts as numbers of sixteen bits, in which a character beyond the first 65536 is a pair of
surrogates, and as bytes that make up such numbers.
-/
namespace ClassUsage.Text

/-- The first number of a pair. -/
def isHighSurrogate (unit : Nat) : Bool := 0xD800 ≤ unit && unit < 0xDC00

/-- The second number of a pair. -/
def isLowSurrogate (unit : Nat) : Bool := 0xDC00 ≤ unit && unit < 0xE000

/-- The character with a number; a number without a character is replaced. -/
def charOrReplacement (code : Nat) : Char :=
  if code.isValidChar then Char.ofNat code else '\uFFFD'

/-- The text that numbers stand for. Pairs of surrogates are joined, and a surrogate on its own is
replaced. -/
def ofUnits : List Nat → Text
  | [] => []
  | [unit] => [charOrReplacement unit]
  | first :: second :: rest =>
    if isHighSurrogate first && isLowSurrogate second then
      Char.ofNat (0x10000 + (first - 0xD800) * 0x400 + (second - 0xDC00)) :: ofUnits rest
    else charOrReplacement first :: ofUnits (second :: rest)

/-- The numbers of sixteen bits that stand for a character. -/
def charUnits (c : Char) : List Nat :=
  if c.toNat < 0x10000 then [c.toNat]
  else [0xD800 + (c.toNat - 0x10000) / 0x400, 0xDC00 + (c.toNat - 0x10000) % 0x400]

/-- Bytes taken two by two, the more significant one first; an odd byte is refused. -/
def bytePairs : List UInt8 → Option (List Nat)
  | [] => some []
  | [_] => none
  | a :: b :: rest => (bytePairs rest).map ((a.toNat * 0x100 + b.toNat) :: ·)

/-- Numbers of sixteen bits taken two by two; an odd one is refused, and so is a pair that is too
great for a character. -/
def unitPairs : List Nat → Option (List Nat)
  | [] => some []
  | [_] => none
  | a :: b :: rest =>
    if a * 0x10000 + b < 0x110000 then (unitPairs rest).map ((a * 0x10000 + b) :: ·) else none

end ClassUsage.Text
