import ClassUsage.Text.Basic
import ClassUsage.Text.Printable

set_option autoImplicit false

/-!
Texts written between quotation marks for messages: apostrophes by preference, double quotation
marks for a text that holds apostrophes and no double ones. Characters that cannot be shown are
written as escapes.
-/
namespace ClassUsage.Text

def hexDigits (width n : Nat) : Text :=
  let digits := Nat.toDigits 16 n
  List.replicate (width - digits.length) '0' ++ digits

def quotedChar (mark c : Char) : Text :=
  if c = mark ∨ c = '\\' then ['\\', c]
  else if c = '\n' then ['\\', 'n']
  else if c = '\r' then ['\\', 'r']
  else if c = '\t' then ['\\', 't']
  else if isPrintable c then [c]
  else if c.toNat < 0x100 then '\\' :: 'x' :: hexDigits 2 c.toNat
  else if c.toNat < 0x10000 then '\\' :: 'u' :: hexDigits 4 c.toNat
  else '\\' :: 'U' :: hexDigits 8 c.toNat

def quotedMark (text : Text) : Char :=
  if text.contains '\x27' && !text.contains '\x22' then '\x22' else '\x27'

def quoted (text : Text) : Text :=
  let mark := quotedMark text
  mark :: text.flatMap (quotedChar mark) ++ [mark]

end ClassUsage.Text
