import ClassUsage.Command.Flag
import ClassUsage.Text.DigitChar

set_option autoImplicit false

/-!
Telling flags from other arguments. A long flag may be cut short as long as it stays the only one
that begins so, a value may be attached to a flag, and what follows two dashes is never a flag.
-/
namespace ClassUsage

inductive Argument where
  | plain (text : Text)
  /-- A long flag, with the value attached to it by an equals sign, or a flag on its own. -/
  | flag (flag : Flag) (value : Option Text)
  /-- A flag of one letter with something attached to it, by an equals sign or directly. -/
  | letters (flag : Flag) (attached : Text)
  /-- An argument that looks like a flag but is none. -/
  | unknown (text : Text)
  /-- Two dashes. -/
  | separator
deriving DecidableEq, Repr

namespace Argument

def splitEquals : Text → Text × Option Text
  | [] => ([], none)
  | c :: rest =>
    if c = '=' then ([], some rest)
    else
      let found := splitEquals rest
      (c :: found.1, found.2)

/-- The flag that begins with a dash and a letter, if there is one. An equals sign right behind the
letter does not belong to what is attached. -/
def shortFlag? (text : Text) : Option Argument :=
  let behind : Text := text.drop 2
  (Flag.ofSpelling? (text.take 2)).map fun found =>
    letters found ((behind.after? ['=']).getD behind)

/-- The flag that a text with two dashes stands for, in full or cut short. -/
def longFlag? (text : Text) : Except UsageError (Option Argument) :=
  let (start, value) := splitEquals text
  match Flag.ofSpelling? start with
  | some found => .ok (some (flag found value))
  | none =>
    match Flag.spellings.filter fun entry => start.isPrefixOf entry.1 with
    | [] => .ok none
    | [entry] => .ok (some (flag entry.2 value))
    | several => .error (.ambiguous text (several.map (·.1)))

def flag? (text : Text) : Except UsageError (Option Argument) :=
  match Flag.ofSpelling? text with
  | some found => .ok (some (flag found none))
  | none => if "--".toList.isPrefixOf text then longFlag? text else .ok (shortFlag? text)

/-- Whether a text is one decimal digit or more. -/
def isDigits (text : Text) : Bool := !text.isEmpty && text.all isDecimalDigit

/-- Whether a text is a negative number; a line feed behind it does not matter. -/
def isNegativeNumber (text : Text) : Bool :=
  match text with
  | '-' :: rest =>
    let number := if rest.getLast? = some '\n' then rest.dropLast else rest
    let whole := number.takeWhile isDecimalDigit
    match number.dropWhile isDecimalDigit with
    | [] => isDigits whole
    | c :: fraction => c == '.' && isDigits fraction
  | _ => false

/-- What an argument is, as long as there have been no two dashes. -/
def classify (text : Text) : Except UsageError Argument :=
  if text.head? ≠ some '-' ∨ text = ['-'] then .ok (plain text)
  else
    match flag? text with
    | .error error => .error error
    | .ok (some found) => .ok found
    | .ok none =>
      if isNegativeNumber text || text.contains ' ' then .ok (plain text) else .ok (unknown text)

def classifyAll : List Text → Except UsageError (List Argument)
  | [] => .ok []
  | text :: texts =>
    if text = "--".toList then .ok (separator :: texts.map plain)
    else do
      let found ← classify text
      let others ← classifyAll texts
      .ok (found :: others)

end Argument
end ClassUsage
