import ClassUsage.Json.Basic
import ClassUsage.Text.Lemmas
import ClassUsage.Text.Utf16

set_option autoImplicit false

/-!
The tokens of JSON text: brackets, commas, colons, and values that hold no others. Besides the
numbers of the standard there are the words for infinities and for what is not a number.
-/
namespace ClassUsage.Json

inductive Token where
  | openArray
  | closeArray
  | openObject
  | closeObject
  | comma
  | colon
  | scalar (value : Json)
deriving Repr

def isSpace (c : Char) : Bool := c == ' ' || c == '\t' || c == '\n' || c == '\r'

def isDigit (c : Char) : Bool := '0' ≤ c && c ≤ '9'

def hexValue (c : Char) : Option Nat :=
  if isDigit c then some (c.toNat - '0'.toNat)
  else if 'a' ≤ c ∧ c ≤ 'f' then some (c.toNat - 'a'.toNat + 10)
  else if 'A' ≤ c ∧ c ≤ 'F' then some (c.toNat - 'A'.toNat + 10)
  else none

def hexNumber (digits : Text) : Option Nat :=
  digits.foldlM (fun number c => (hexValue c).map (number * 16 + ·)) 0

def decimalNumber (digits : Text) : Nat :=
  digits.foldl (fun number c => number * 10 + (c.toNat - '0'.toNat)) 0

/-- The character that a letter behind a backslash stands for. -/
def unescaped (c : Char) : Option Char :=
  if c = '\x22' ∨ c = '\\' ∨ c = '/' then some c
  else if c = 'b' then some '\x08'
  else if c = 'f' then some '\x0c'
  else if c = 'n' then some '\n'
  else if c = 'r' then some '\r'
  else if c = 't' then some '\t'
  else none

/-- The numbers that make up a string whose opening mark has been read, and the text behind its
closing mark. Control characters have to be written as escapes. -/
def stringUnits : Text → Option (List Nat × Text)
  | [] => none
  | '\\' :: 'u' :: c₁ :: c₂ :: c₃ :: c₄ :: rest =>
    match hexNumber [c₁, c₂, c₃, c₄], stringUnits rest with
    | some unit, some found => some (unit :: found.1, found.2)
    | _, _ => none
  | '\\' :: c :: rest =>
    match unescaped c, stringUnits rest with
    | some c, some found => some (c.toNat :: found.1, found.2)
    | _, _ => none
  | c :: rest =>
    if c = '\x22' then some ([], rest)
    else if c < ' ' then none
    else (stringUnits rest).map fun found => (c.toNat :: found.1, found.2)

theorem length_of_stringUnits {text rest : Text} {units : List Nat}
    (found : stringUnits text = some (units, rest)) : rest.length < text.length := by
  fun_induction stringUnits text generalizing units rest with
  | case1 => contradiction
  | case2 c₁ c₂ c₃ c₄ after unit inner hex read ih =>
    simp only [Option.some.injEq, Prod.mk.injEq] at found
    have shorter : inner.2.length < after.length := ih ‹_›
    simp only [← found.2, List.length_cons]
    omega
  | case3 => contradiction
  | case4 c after _ letter inner escape read ih =>
    simp only [Option.some.injEq, Prod.mk.injEq] at found
    have shorter : inner.2.length < after.length := ih ‹_›
    simp only [← found.2, List.length_cons]
    omega
  | case5 => contradiction
  | case6 after =>
    simp only [Option.some.injEq, Prod.mk.injEq] at found
    simp [← found.2]
  | case7 => contradiction
  | case8 c after _ _ _ _ ih =>
    simp only [Option.map_eq_some_iff, Prod.mk.injEq] at found
    obtain ⟨inner, read, _, equal⟩ := found
    have shorter : inner.2.length < after.length := ih read
    simp only [← equal, List.length_cons]
    omega

/-- The digits that a whole number without a sign begins with. A zero stands alone. -/
def naturalPart : Text → Text
  | [] => []
  | c :: rest =>
    if c = '0' then [c] else if isDigit c then c :: rest.takeWhile isDigit else []

def integerPart (text : Text) : Text :=
  match text with
  | '-' :: rest => if (naturalPart rest).isEmpty then [] else '-' :: naturalPart rest
  | text => naturalPart text

def fractionPart (text : Text) : Text :=
  match text with
  | '.' :: rest =>
    if (rest.takeWhile isDigit).isEmpty then [] else '.' :: rest.takeWhile isDigit
  | _ => []

def exponentSign (text : Text) : Text := (text.take 1).filter fun c => c == '+' || c == '-'

def exponentPart (text : Text) : Text :=
  match text with
  | [] => []
  | c :: rest =>
    let sign := exponentSign rest
    let digits := (rest.drop sign.length).takeWhile isDigit
    if (c = 'e' ∨ c = 'E') ∧ !digits.isEmpty then c :: sign ++ digits else []

/-- A whole number of more digits is refused. -/
def maxIntegerDigits : Nat := 4300

def integerValue (literal : Text) : Option Json :=
  let digits := literal.filter isDigit
  if maxIntegerDigits < digits.length then none
  else
    let value : Int := decimalNumber digits
    some (.integer (if literal.head? = some '-' then -value else value))

def number? (text : Text) : Option (Json × Text) :=
  let whole := integerPart text
  let rest := text.drop whole.length
  let fraction := fractionPart rest
  let rest := rest.drop fraction.length
  let exponent := exponentPart rest
  let rest := rest.drop exponent.length
  if whole.isEmpty then none
  else if fraction.isEmpty ∧ exponent.isEmpty then
    (integerValue whole).map fun value => (value, rest)
  else some (.decimal (whole ++ fraction ++ exponent), rest)

def constants : List (Text × Json) :=
  [("null".toList, .null), ("true".toList, .bool true), ("false".toList, .bool false)] ++
    ["NaN".toList, "Infinity".toList, "-Infinity".toList].map fun word => (word, .decimal word)

def constant? (text : Text) : Option (Json × Text) :=
  constants.findSome? fun entry => (text.after? entry.1).map fun rest => (entry.2, rest)

def punctuation? (c : Char) : Option Token :=
  if c = '[' then some .openArray
  else if c = ']' then some .closeArray
  else if c = '{' then some .openObject
  else if c = '}' then some .closeObject
  else if c = ',' then some .comma
  else if c = ':' then some .colon
  else none

def token? (text : Text) : Option (Token × Text) :=
  match text with
  | [] => none
  | c :: rest =>
    match punctuation? c with
    | some token => some (token, rest)
    | none =>
      if c = '\x22' then
        (stringUnits rest).map fun found => (.scalar (.string (Text.ofUnits found.1)), found.2)
      else
        ((constant? text).or (number? text)).map fun found => (.scalar found.1, found.2)

theorem length_of_number {text rest : Text} {value : Json}
    (found : number? text = some (value, rest)) : rest.length < text.length := by
  simp only [number?] at found
  split at found
  · contradiction
  · rename_i present
    have shorter : ∀ kept : Nat, ((text.drop (integerPart text).length).drop kept).length <
        text.length := by
      intro kept
      cases text with
      | nil => simp [integerPart, naturalPart] at present
      | cons c others =>
        have := List.length_pos_iff.mpr (by simpa using present)
        simp only [List.length_drop]
        have : 0 < (c :: others).length := by simp
        omega
    have twice : ∀ kept again : Nat,
        (((text.drop (integerPart text).length).drop kept).drop again).length <
          text.length := by
      intro kept again
      have := shorter kept
      rw [List.length_drop]
      omega
    split at found
    · simp only [Option.map_eq_some_iff, Prod.mk.injEq] at found
      obtain ⟨_, _, _, equal⟩ := found
      rw [← equal]
      exact twice _ _
    · simp only [Option.some.injEq, Prod.mk.injEq] at found
      rw [← found.2]
      exact twice _ _

theorem length_of_constant {text rest : Text} {value : Json}
    (found : constant? text = some (value, rest)) : rest.length < text.length := by
  obtain ⟨entry, member, read⟩ := List.exists_of_findSome?_eq_some found
  simp only [Option.map_eq_some_iff, Prod.mk.injEq] at read
  obtain ⟨_, after, _, equal⟩ := read
  have present : 0 < entry.1.length := by
    simp only [constants, List.map_cons, List.map_nil, List.cons_append, List.nil_append,
      List.mem_cons, List.not_mem_nil, or_false] at member
    rcases member with rfl | rfl | rfl | rfl | rfl | rfl <;> decide
  rw [Text.eq_of_after after, ← equal, List.length_append]
  omega

theorem length_of_token {text rest : Text} {token : Token}
    (found : token? text = some (token, rest)) : rest.length < text.length := by
  simp only [token?] at found
  split at found
  · contradiction
  · rename_i c others
    split at found
    · simp only [Option.some.injEq, Prod.mk.injEq] at found
      simp [← found.2]
    · split at found
      · simp only [Option.map_eq_some_iff, Prod.mk.injEq] at found
        obtain ⟨inner, read, _, equal⟩ := found
        have shorter : inner.2.length < others.length := length_of_stringUnits read
        simp only [← equal, List.length_cons]
        omega
      · simp only [Option.map_eq_some_iff, Prod.mk.injEq] at found
        obtain ⟨inner, read, _, equal⟩ := found
        rw [← equal]
        rcases Option.or_eq_some_iff.mp read with read | ⟨_, read⟩
        · exact length_of_constant read
        · exact length_of_number read

/-- The tokens of a text; none if part of it is no token. -/
def tokens (text : Text) : Option (List Token) :=
  match text with
  | [] => some []
  | c :: others =>
    if isSpace c then tokens others
    else
      match _found : token? (c :: others) with
      | none => none
      | some (token, rest) => (tokens rest).map (token :: ·)
termination_by text.length
decreasing_by
  · simp
  · exact length_of_token _found

end ClassUsage.Json
