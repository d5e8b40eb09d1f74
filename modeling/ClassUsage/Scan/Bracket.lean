import ClassUsage.Scan.Basic
import ClassUsage.Text.Lemmas
import ClassUsage.Text.Quoted

set_option autoImplicit false

/-!
Balanced brackets: the text between an opening bracket and the bracket that closes it. String
literals are skipped, and only the bracket that comes back to depth zero has to be of the
expected kind.
-/
namespace ClassUsage

inductive Bracket where
  | round
  | square
  | curly
deriving DecidableEq, Repr

namespace Bracket

def opener : Bracket → Char
  | round => '('
  | square => '['
  | curly => '{'

def closer : Bracket → Char
  | round => ')'
  | square => ']'
  | curly => '}'

def ofOpener? (text : Text) : Option Bracket :=
  [round, square, curly].find? fun bracket => text == [bracket.opener]

def ofCloser? (text : Text) : Option Bracket :=
  [round, square, curly].find? fun bracket => text == [bracket.closer]

structure NotAPair where
  opener : Text
  closer : Text

def NotAPair.message (refused : NotAPair) : Text :=
  "Not a bracket pair: ".toList ++ Text.quoted refused.opener ++ [' '] ++
    Text.quoted refused.closer

/-- The two kinds that a pair of texts opens and closes; they need not be the same. -/
def pair (opener closer : Text) : Except NotAPair (Bracket × Bracket) :=
  match ofOpener? opener, ofCloser? closer with
  | some first, some last => .ok (first, last)
  | _, _ => .error ⟨opener, closer⟩

end Bracket

/-- Reads up to the bracket of the given kind that comes back to depth zero: the text before that
bracket and the text after it. -/
def Scan.balanced (closing : Bracket) : Scan → Text → Option (Text × Text)
  | _, [] => none
  | scan, c :: rest =>
    let scan := scan.step c
    if scan.isNeutral && c == closing.closer then some ([], rest)
    else (balanced closing scan rest).map fun found => (c :: found.1, found.2)

theorem Scan.eq_of_balanced {closing : Bracket} {scan : Scan} {text inner after : Text}
    (found : scan.balanced closing text = some (inner, after)) :
    text = inner ++ closing.closer :: after := by
  induction text generalizing scan inner after with
  | nil => simp [balanced] at found
  | cons c rest ih =>
    simp only [balanced] at found
    split at found
    · rename_i closes
      simp only [Bool.and_eq_true, beq_iff_eq] at closes
      simp only [Option.some.injEq, Prod.mk.injEq] at found
      simp [← found.1, ← found.2, closes.2]
    · simp only [Option.map_eq_some_iff] at found
      obtain ⟨⟨inside, beyond⟩, found, equal⟩ := found
      simp only [Prod.mk.injEq] at equal
      simp [← equal.1, ← equal.2, ih found]

theorem Scan.length_of_balanced {closing : Bracket} {scan : Scan} {text inner after : Text}
    (found : scan.balanced closing text = some (inner, after)) :
    inner.length + after.length + 1 = text.length := by
  simp only [eq_of_balanced found, List.length_append, List.length_cons]
  omega

/-- The content between a bracket that ends just before `start` and its closing bracket, with the
offset after the closing bracket. -/
def balancedAt (text : Text) (start : Nat) (closing : Bracket) : Option (Text × Nat) :=
  let escaped := (text.take start).getLast? == some '\\'
  (Scan.balanced closing { Scan.opened with escaped } (text.drop start)).map fun found =>
    (found.1, start + found.1.length + 1)

/-- The inside of a text that, trimmed, is one balanced pair of brackets. -/
def unwrap (opening closing : Bracket) (text : Text) : Option Text :=
  match text.trim with
  | [] => none
  | c :: rest =>
    if c = opening.opener then
      match Scan.opened.balanced closing rest with
      | some (inner, []) => some inner
      | _ => none
    else none

theorem trim_eq_of_unwrap {opening closing : Bracket} {text inner : Text}
    (found : unwrap opening closing text = some inner) :
    text.trim = opening.opener :: inner ++ [closing.closer] := by
  simp only [unwrap] at found
  split at found
  · contradiction
  · rename_i c rest trimmed
    split at found
    · rename_i opens
      split at found
      · rename_i inside balanced
        simp only [Option.some.injEq] at found
        rw [trimmed, opens, Scan.eq_of_balanced balanced, found]
        rfl
      · contradiction
    · contradiction

theorem length_of_unwrap {opening closing : Bracket} {text inner : Text}
    (found : unwrap opening closing text = some inner) : inner.length + 2 ≤ text.length := by
  have shorter := Text.length_trim_le text
  rw [trim_eq_of_unwrap found] at shorter
  simp only [List.length_append, List.length_cons, List.length_nil] at shorter
  omega

/-- The inside of a text that, trimmed, begins and ends with the given texts. Texts that are not
brackets are refused, but only if the trimmed text does begin and end with them. -/
def unwrapBetween (opener closer text : Text) : Except Bracket.NotAPair (Option Text) :=
  let trimmed := text.trim
  if 2 ≤ trimmed.length ∧ trimmed.take 1 = opener ∧ trimmed.getLast?.toList = closer then
    (Bracket.pair opener closer).map fun pair => unwrap pair.1 pair.2 text
  else .ok none

/-- The text without blanks and round brackets that enclose all of it. -/
def stripParens (text : Text) : Text :=
  match _found : unwrap .round .round text with
  | some inner => stripParens inner
  | none => text.trim
termination_by text.length
decreasing_by
  have := length_of_unwrap _found
  omega

theorem stripParens_of_unwrap {text : Text} (notEnclosed : unwrap .round .round text = none) :
    stripParens text = text.trim := by
  rw [stripParens]
  split
  · rename_i inner found
    rw [notEnclosed] at found
    cases found
  · rfl

theorem stripParens_of_enclosed {text inner : Text} (enclosed : unwrap .round .round text = some inner) :
    stripParens text = stripParens inner := by
  rw [stripParens]
  split
  · rename_i other found
    rw [enclosed] at found
    cases found
    rfl
  · rename_i found
    rw [enclosed] at found
    cases found

end ClassUsage
