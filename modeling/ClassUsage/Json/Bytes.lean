import ClassUsage.Json.Reader
import ClassUsage.Text.Utf8

set_option autoImplicit false

/-!
Reading JSON from bytes. The text is in UTF-8, UTF-16 or UTF-32, which a byte-order mark tells; without
one the zeros among the first bytes tell, as JSON text begins with an ASCII character. A surrogate is let
pass wherever it stands, and replaced like all surrogates on their own.
-/
namespace ClassUsage.Json

/-- The order of the bytes that make up a number. -/
inductive ByteOrder where
  | mostSignificantFirst
  | leastSignificantFirst
deriving DecidableEq, Repr

inductive Encoding where
  | utf8
  | utf16 (order : ByteOrder)
  | utf32 (order : ByteOrder)
deriving DecidableEq, Repr

namespace Encoding

/-- The encoding that a byte-order mark tells, and the bytes behind the mark. The mark of UTF-32 with the
least significant byte first begins with that of UTF-16. -/
def ofMark? : List UInt8 → Option (Encoding × List UInt8)
  | 0x00 :: 0x00 :: 0xFE :: 0xFF :: rest => some (utf32 .mostSignificantFirst, rest)
  | 0xFF :: 0xFE :: 0x00 :: 0x00 :: rest => some (utf32 .leastSignificantFirst, rest)
  | 0xFE :: 0xFF :: rest => some (utf16 .mostSignificantFirst, rest)
  | 0xFF :: 0xFE :: rest => some (utf16 .leastSignificantFirst, rest)
  | 0xEF :: 0xBB :: 0xBF :: rest => some (utf8, rest)
  | _ => none

/-- The encoding of JSON text without a mark, told by its first bytes. -/
def ofFirstBytes : List UInt8 → Encoding
  | a :: b :: c :: d :: _ =>
    if a = 0 then if b = 0 then utf32 .mostSignificantFirst else utf16 .mostSignificantFirst
    else if b = 0 then
      if c = 0 ∧ d = 0 then utf32 .leastSignificantFirst else utf16 .leastSignificantFirst
    else utf8
  | [a, b] =>
    if a = 0 then utf16 .mostSignificantFirst
    else if b = 0 then utf16 .leastSignificantFirst
    else utf8
  | _ => utf8

/-- Numbers read from bytes in either order. Numbers with the least significant byte first are read
from the end. -/
def numbers (order : ByteOrder) (read : List UInt8 → Option (List Nat)) (bytes : List UInt8) :
    Option (List Nat) :=
  match order with
  | .mostSignificantFirst => read bytes
  | .leastSignificantFirst => (read bytes.reverse).map List.reverse

/-- The bytes in UTF-8 with the replacement character in place of surrogates, whose three bytes are no
text otherwise. -/
def withoutSurrogates : List UInt8 → List UInt8
  | 0xED :: b :: c :: rest =>
    if 0xA0 ≤ b ∧ b ≤ 0xBF ∧ 0x80 ≤ c ∧ c ≤ 0xBF then 0xEF :: 0xBF :: 0xBD :: withoutSurrogates rest
    else 0xED :: withoutSurrogates (b :: c :: rest)
  | byte :: rest => byte :: withoutSurrogates rest
  | [] => []

def decode (encoding : Encoding) (bytes : List UInt8) : Option Text :=
  match encoding with
  | utf8 => Text.ofUtf8? (withoutSurrogates bytes)
  | utf16 order => (numbers order Text.bytePairs bytes).map Text.ofUnits
  | utf32 order =>
    let read (bytes : List UInt8) := (Text.bytePairs bytes).bind Text.unitPairs
    (numbers order read bytes).map fun codes => codes.map Text.charOrReplacement

end Encoding

def readBytes? (bytes : List UInt8) : Option Json :=
  let (encoding, bytes) := (Encoding.ofMark? bytes).getD (Encoding.ofFirstBytes bytes, bytes)
  (encoding.decode bytes).bind read?

end ClassUsage.Json
