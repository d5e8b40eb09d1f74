set_option autoImplicit false

/-!
Texts as lists of characters, the blanks that separate words in them, and cutting a text into
trimmed parts and words.
-/
namespace ClassUsage

/-- A text is its characters in order, so an offset into it counts characters. -/
abbrev Text := List Char

/-- Whether a character is white space: it separates words and is trimmed from ends. -/
def isBlank (c : Char) : Bool :=
  let code := c.toNat
  (9 ≤ code && code ≤ 13) || (28 ≤ code && code ≤ 32) || code == 0x85 || code == 0xA0 ||
    code == 0x1680 || (0x2000 ≤ code && code ≤ 0x200A) || code == 0x2028 || code == 0x2029 ||
    code == 0x202F || code == 0x205F || code == 0x3000

namespace Text

def trimStart (text : Text) : Text := text.dropWhile isBlank

def trimEnd (text : Text) : Text := (trimStart text.reverse).reverse

def trim (text : Text) : Text := trimEnd (trimStart text)

/-- Puts a character in front of the first piece. -/
def consHead (c : Char) : List Text → List Text
  | [] => [[c]]
  | piece :: pieces => (c :: piece) :: pieces

/-- The pieces of a text between separators, empty ones included. -/
def split (separates : Char → Bool) : Text → List Text
  | [] => [[]]
  | c :: rest =>
    if separates c then [] :: split separates rest else consHead c (split separates rest)

/-- The maximal runs of characters that are not blank. -/
def words (text : Text) : List Text :=
  (split isBlank text).filter (!·.isEmpty)

def join (separator : Text) (pieces : List Text) : Text :=
  (pieces.intersperse separator).flatten

def after? : (text start : Text) → Option Text
  | text, [] => some text
  | [], _ :: _ => none
  | c :: text, d :: start => if c = d then after? text start else none

def slice (text : Text) (start stop : Nat) : Text := (text.take stop).drop start

/-- Whether a text comes before another or is equal to it, character by character. -/
def precedes (first second : Text) : Bool := !decide (second < first)

end Text
end ClassUsage
