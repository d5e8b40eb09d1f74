import ClassUsage.Text.Basic

set_option autoImplicit false

/-!
Texts as bytes in UTF-8. Reading refuses bytes that are no text: stray or missing continuation
bytes, longer forms than needed, surrogates and numbers beyond the last character.
-/
namespace ClassUsage.Text

def continuationBits (byte : UInt8) : Option Nat :=
  if 0x80 ≤ byte ∧ byte ≤ 0xBF then some (byte.toNat - 0x80) else none

/-- The number made of some leading bits and the bits of continuation bytes. -/
def appendBits (leading : Nat) : List UInt8 → Option Nat
  | [] => some leading
  | byte :: bytes =>
    match continuationBits byte with
    | none => none
    | some bits => appendBits (leading * 64 + bits) bytes

/-- The character with a number, if the number is not below the least that needs the form. -/
def charAtLeast (least code : Nat) : Option Char :=
  if least ≤ code ∧ code.isValidChar then some (Char.ofNat code) else none

def multibyteChar (least leading : Nat) (continuation : List UInt8) : Option Char :=
  (appendBits leading continuation).bind (charAtLeast least)

def cons? (c : Option Char) (rest : Option Text) : Option Text :=
  match c, rest with
  | some c, some rest => some (c :: rest)
  | _, _ => none

def ofUtf8? : List UInt8 → Option Text
  | [] => some []
  | a :: rest =>
    if a < 0x80 then cons? (some (Char.ofNat a.toNat)) (ofUtf8? rest)
    else
      match rest with
      | [] => none
      | b :: rest =>
        if 0xC0 ≤ a ∧ a < 0xE0 then
          cons? (multibyteChar 0x80 (a.toNat - 0xC0) [b]) (ofUtf8? rest)
        else
          match rest with
          | [] => none
          | c :: rest =>
            if 0xE0 ≤ a ∧ a < 0xF0 then
              cons? (multibyteChar 0x800 (a.toNat - 0xE0) [b, c]) (ofUtf8? rest)
            else
              match rest with
              | [] => none
              | d :: rest =>
                if 0xF0 ≤ a ∧ a < 0xF8 then
                  cons? (multibyteChar 0x10000 (a.toNat - 0xF0) [b, c, d]) (ofUtf8? rest)
                else none

end ClassUsage.Text
