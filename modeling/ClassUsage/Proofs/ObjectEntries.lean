import ClassUsage.Proofs.Composition
import ClassUsage.Proofs.TemplateReading
import ClassUsage.Proofs.TopLevelSegments

set_option autoImplicit false

/-!
Object literals put together from entries. Where one entry ends and the next begins, and where a key ends
and its value begins, is read as it was written, whatever colons, commas and brackets a quoted key holds
and whatever stands in a value.
-/
namespace ClassUsage

/-- A text that can stand in an entry: it has no blanks at its ends, its brackets and string literals are
complete, and each comma in it stands inside of these. -/
structure EntryText where
  text : Text
  tidy : text.IsTidy
  contained : text.IsSelfContained
  unseparated : ∀ place < text.length, text[place]? = some ',' →
    (Scan.fresh.run (text.take (place + 1))).isNeutral = false

inductive EntryKey where
  | name (text : Text) (ascii : text.isAsciiName = true)
  /-- A text in single or double quotation marks, not blank, that holds neither the mark nor a backslash. -/
  | quoted (mark : Char) (body : Text) (mark_eq : mark = '\x22' ∨ mark = '\x27')
    (plain : body.IsQuotable mark) (filled : body.trim ≠ [])

inductive ObjectEntry where
  | pair (key : EntryKey) (value : EntryText)
  | name (text : Text) (ascii : text.isAsciiName = true)
  | spread (source : EntryText)
  | computed (key value : EntryText)

def EntryKey.text : EntryKey → Text
  | name text _ => text
  | quoted mark body .. => mark :: body ++ [mark]

def EntryKey.classes : EntryKey → Text
  | name text _ => text
  | quoted _ body .. => body.trim

namespace ObjectEntry

def text : ObjectEntry → Text
  | pair key value => key.text ++ ": ".toList ++ value.text
  | name text _ => text
  | spread source => "...".toList ++ source.text
  | computed key value => Bracket.square.enclose key.text ++ ": ".toList ++ value.text

def use? : ObjectEntry → Option ClassUse
  | pair key value =>
    if value.text = "true".toList then some ⟨key.classes, none⟩
    else if value.text = "false".toList ∨ value.text.head? = some '{' ∨ value.text.head? = some '['
    then none
    else some ⟨key.classes, some (stripParens value.text)⟩
  | name text _ => some ⟨text, some text⟩
  | spread _ => none
  | computed _ _ => none

end ObjectEntry

def objectText (entries : List ObjectEntry) : Text :=
  Bracket.curly.enclose (Text.join ", ".toList (entries.map ObjectEntry.text))

abbrev beginsWithComma : Option Char → Text → Bool := beginsWithSeparator (· == ',')

namespace Text

/-- A text that is one item of a list: a scan that looks for commas passes over it. -/
structure IsItem (text : Text) : Prop where
  tidy : text.IsTidy
  contained : text.IsSelfContained
  passes : ∀ previous, Scan.fresh.Passes beginsWithComma previous text

theorem passes_comma_of_notMem {scan : Scan} {previous : Option Char} {text : Text}
    (absent : ',' ∉ text) : scan.Passes beginsWithComma previous text := by
  apply Scan.passes_of_forall
  intro c member _ _
  have different : c ≠ ',' := fun same => absent (same ▸ member)
  simpa [beginsWithSeparator] using different

/-- What stands in front of an item belongs to it if it is complete and holds no comma. -/
theorem IsItem.prefixed {front text : Text} (item : text.IsItem) (first : front.IsTidy)
    (clean : IsClean front) (passes : ∀ previous, Scan.fresh.Passes beginsWithComma previous front) :
    IsItem (front ++ text) := by
  constructor
  · have surrounded := first.surround item.tidy []
    rwa [List.append_nil] at surrounded
  · exact clean.append_contained item.contained
  · intro previous
    apply (passes previous).append
    rw [clean.closed]
    exact item.passes _

end Text

theorem EntryText.isItem (part : EntryText) : part.text.IsItem := by
  obtain ⟨text, tidy, contained, unseparated⟩ := part
  refine ⟨tidy, contained, ?_⟩
  -- The commas of a text that is scanned from the middle are those of the whole text further on.
  suffices behind : ∀ before rest : Text, text = before ++ rest → ∀ previous,
      (Scan.fresh.run before).Passes beginsWithComma previous rest from behind [] text rfl
  intro before rest
  induction rest generalizing before with
  | nil => exact fun _ _ => trivial
  | cons c rest ih =>
    intro shape previous
    have moved : Scan.fresh.run (before ++ [c]) = (Scan.fresh.run before).step c := by
      rw [Scan.run_append, Scan.run_cons, Scan.run_nil]
    constructor
    · intro neutral _
      have different : c ≠ ',' := by
        rintro rfl
        have inside : before.length < text.length := by
          rw [shape, List.length_append, List.length_cons]
          omega
        have here : text[before.length]? = some ',' := by
          rw [shape, List.getElem?_append_right (Nat.le_refl _), Nat.sub_self, List.getElem?_cons_zero]
        have front : text.take (before.length + 1) = before ++ [','] := by
          rw [shape, List.take_append, List.take_of_length_le (by omega), Nat.add_sub_cancel_left]
          rfl
        have hidden := unseparated before.length inside here
        rw [front, moved, neutral] at hidden
        cases hidden
      simpa [beginsWithSeparator] using different
    · rw [← moved]
      exact ih (before ++ [c]) (by rw [shape, List.append_assoc]; rfl) (some c)

/-- The first separator behind a text without any ends the first segment. -/
theorem Scan.segments_append {separates : Char → Bool} {scan : Scan} {previous : Option Char}
    {text : Text} (passes : scan.Passes (beginsWithSeparator separates) previous text) {c : Char}
    (separator : separates c = true) (neutral : ((scan.run text).step c).isNeutral = true)
    (rest : Text) :
    scan.segments separates (text ++ c :: rest) =
      text :: ((scan.run text).step c).segments separates rest := by
  rw [segments_append_cons separator neutral, segments_eq_singleton passes, List.singleton_append]

theorem map_trim_consHead_blank {pieces : List Text} (filled : pieces ≠ []) :
    (Text.consHead ' ' pieces).map Text.trim = pieces.map Text.trim := by
  cases pieces with
  | nil => exact absurd rfl filled
  | cons piece others => rw [Text.consHead, List.map_cons, List.map_cons, trim_blank_left]

theorem join_cons_cons (first second : Text) (others : List Text) :
    Text.join ", ".toList (first :: second :: others) =
      first ++ ',' :: ' ' :: Text.join ", ".toList (second :: others) := rfl

theorem trim_segments_join {first : Text} {others : List Text} (item : first.IsItem)
    (items : ∀ text ∈ others, text.IsItem) :
    (Scan.fresh.segments (· == ',') (Text.join ", ".toList (first :: others))).map Text.trim =
      first :: others := by
  induction others generalizing first with
  | nil =>
    have whole : Text.join ", ".toList [first] = first := List.append_nil first
    rw [whole, Scan.segments_eq_singleton (item.passes none), List.map_singleton, item.tidy.trimmed]
  | cons second others ih =>
    obtain ⟨next, rest⟩ := List.forall_mem_cons.mp items
    have returns : (Scan.fresh.run first).step ',' = Scan.fresh := by
      rw [item.contained.step_eq (by decide)]
      rfl
    have found := Scan.segments_append (item.passes none) (c := ',') rfl (by rw [returns]; rfl)
      (' ' :: Text.join ", ".toList (second :: others))
    have blank : Scan.fresh.segments (· == ',') (' ' :: Text.join ", ".toList (second :: others)) =
        Text.consHead ' ' (Scan.fresh.segments (· == ',') (Text.join ", ".toList (second :: others))) :=
      rfl
    rw [join_cons_cons, found, returns, blank, List.map_cons, map_trim_consHead_blank
      (Scan.segments_ne_nil _ _ _), ih next rest, item.tidy.trimmed]

/-- Items with commas between them are found again. -/
theorem splitCommas_join {items : List Text} (are : ∀ text ∈ items, text.IsItem) :
    splitCommas (Text.join ", ".toList items) = items := by
  cases items with
  | nil => rfl
  | cons first others =>
    obtain ⟨item, rest⟩ := List.forall_mem_cons.mp are
    rw [splitCommas, splitTopLevel, trim_segments_join item rest]
    apply List.filter_eq_self.mpr
    intro text member
    simp [(are text member).tidy.filled]

theorem isSelfContained_join {items : List Text} (are : ∀ text ∈ items, text.IsItem) :
    Text.IsSelfContained (Text.join ", ".toList items) := by
  induction items with
  | nil => exact Text.isClean_nil.isSelfContained
  | cons first others ih =>
    obtain ⟨item, rest⟩ := List.forall_mem_cons.mp are
    cases others with
    | nil =>
      have whole : Text.join ", ".toList [first] = first := List.append_nil first
      rw [whole]
      exact item.contained
    | cons second others =>
      have comma : Text.IsClean (first ++ [',']) := item.contained.append_ordinary (by decide)
      have blank : Text.IsClean [' '] := isBlanks_blank.isClean
      have shape : Text.join ", ".toList (first :: second :: others) =
          (first ++ [','] ++ [' ']) ++ Text.join ", ".toList (second :: others) := by
        rw [join_cons_cons, List.append_assoc, List.append_assoc]
        rfl
      rw [shape]
      exact (comma.append blank).append_contained (ih rest)

theorem isOrdinary_of_isAsciiNamePart {c : Char} (part : isAsciiNamePart c = true) :
    Text.IsOrdinary c := by
  apply Text.isOrdinary_of_forall_ne
  have foreign : ∀ d ∈ Text.scanMarks, isAsciiNamePart d = false :=
    Text.forall_mem_of_all (by decide)
  rintro d listed rfl
  rw [foreign c listed] at part
  cases part

section

variable {name : Text} (ascii : name.isAsciiName = true)

include ascii

theorem isAsciiNamePart_of_mem {c : Char} (member : c ∈ name) : isAsciiNamePart c = true := by
  obtain ⟨first, rest, rfl, start, parts⟩ := exists_cons_of_isAsciiName ascii
  rcases List.mem_cons.mp member with rfl | later
  · exact isAsciiNamePart_of_isNameStart start
  · exact parts c later

theorem notMem_asciiName {c : Char} (foreign : isAsciiNamePart c = false) : c ∉ name := by
  intro member
  rw [isAsciiNamePart_of_mem ascii member] at foreign
  cases foreign

theorem isItem_of_isAsciiName : name.IsItem :=
  ⟨(phrase_of_isAsciiName ascii).tidy, (phrase_of_isAsciiName ascii).clean.isSelfContained,
    fun _ => Text.passes_comma_of_notMem (notMem_asciiName ascii (by decide))⟩

end

/-- A text that its first and last character enclose is an item, whatever stands inside. -/
theorem Phrase.isItem_enclosed {binding : Binding} {first last : Char} {inner : Text}
    (phrase : Phrase binding (first :: inner ++ [last]))
    (opens : (Scan.fresh.step first).isNeutral = false)
    (hidden : ∀ scan ∈ (Scan.fresh.step first).trace inner, scan.isNeutral = false)
    (closes : last ≠ ',') : Text.IsItem (first :: inner ++ [last]) := by
  refine ⟨phrase.tidy, phrase.clean.isSelfContained, fun _ => ?_⟩
  apply Scan.passes_enclosed opens hidden
  intro _ _
  simpa [beginsWithSeparator] using closes

theorem isItem_enclose (bracket : Bracket) {text : Text} (contained : text.IsSelfContained) :
    Text.IsItem (bracket.enclose text) := by
  apply (Phrase.enclose bracket contained).isItem_enclosed
  · cases bracket <;> decide
  · rw [Scan.step_fresh_opener]
    exact Scan.trace_opened contained
  · cases bracket <;> decide

namespace EntryKey

theorem isQuote_mark {mark : Char} (is : mark = '\x22' ∨ mark = '\x27') : isQuote mark = true := by
  rcases is with rfl | rfl <;> rfl

/-- The key is complete and holds no comma outside of quotation marks. -/
theorem isPhrase_isItem (key : EntryKey) : Phrase .tight key.text ∧ key.text.IsItem := by
  cases key with
  | name text ascii => exact ⟨phrase_of_isAsciiName ascii, isItem_of_isAsciiName ascii⟩
  | quoted mark body is plain filled =>
    have quote := isQuote_mark is
    refine ⟨Phrase.literal quote plain, (Phrase.literal quote plain).isItem_enclosed ?_ ?_ ?_⟩
    · rw [Scan.step_fresh_quote quote]
      rfl
    · rw [Scan.step_fresh_quote quote]
      exact Scan.trace_quoting plain.holdsBareMark
    · rcases is with rfl | rfl <;> decide

end EntryKey

/-- A key, a colon and a value are an item. -/
theorem Text.IsItem.withKey {key value : Text} (item : value.IsItem) (phrase : Phrase .tight key)
    (front : key.IsItem) : IsItem (key ++ ": ".toList ++ value) := by
  have colon : IsClean ": ".toList := isClean_of_forall (forall_mem_of_all (by decide))
  refine ⟨front.tidy.surround item.tidy _, ?_, ?_⟩
  · exact (phrase.clean.append colon).append_contained item.contained
  · intro previous
    apply Scan.Passes.append
    · apply (front.passes previous).append
      rw [phrase.clean.closed]
      exact passes_comma_of_notMem (by decide)
    · rw [(phrase.clean.append colon).closed]
      exact item.passes _

theorem ObjectEntry.isItem (entry : ObjectEntry) : entry.text.IsItem := by
  cases entry with
  | pair key value =>
    obtain ⟨phrase, front⟩ := key.isPhrase_isItem
    exact value.isItem.withKey phrase front
  | name text ascii => exact isItem_of_isAsciiName ascii
  | spread source =>
    apply source.isItem.prefixed
    · exact ⟨by decide, by decide⟩
    · exact Text.isClean_of_forall (Text.forall_mem_of_all (by decide))
    · exact fun _ => Text.passes_comma_of_notMem (by decide)
  | computed key value =>
    exact value.isItem.withKey (Phrase.enclose .square key.contained)
      (isItem_enclose .square key.contained)

/-- The colon behind a key is the first one if each colon in the key stands in a string literal. -/
theorem Scan.splitKey_append {scan : Scan} {text : Text}
    (hidden : ∀ before behind, text = before ++ ':' :: behind →
      ((scan.run before).step ':').inString = true) (rest : Text) :
    scan.splitKey (text ++ rest) =
      ((scan.run text).splitKey rest).map fun found => (text ++ found.1, found.2) := by
  induction text generalizing scan with
  | nil => exact Option.map_id'.symm
  | cons c behind ih =>
    have inRest : ∀ before others, behind = before ++ ':' :: others →
        (((scan.step c).run before).step ':').inString = true :=
      fun before others shape => hidden (c :: before) others (by rw [shape]; rfl)
    have passed : (c == ':' && !(scan.step c).inString) = false := by
      by_cases colon : c = ':'
      · subst colon
        have inside : (scan.step ':').inString = true := hidden [] behind rfl
        rw [inside]
        rfl
      · rw [beq_eq_false_iff_ne.mpr colon, Bool.false_and]
    rw [List.cons_append, splitKey, passed, ih inRest, run_cons, Option.map_map]
    rfl

theorem Scan.splitKey_append_of_notMem {scan : Scan} {text : Text} (absent : ':' ∉ text)
    (rest : Text) :
    scan.splitKey (text ++ rest) =
      ((scan.run text).splitKey rest).map fun found => (text ++ found.1, found.2) := by
  apply splitKey_append
  intro before behind shape
  exact absurd (by simp [shape]) absent

/-- What a string literal holds is no end of a key. -/
theorem Scan.splitKey_literal {mark : Char} {body : Text} (quote : isQuote mark = true)
    (plain : body.IsQuotable mark) (rest : Text) :
    fresh.splitKey (mark :: body ++ [mark] ++ rest) =
      (fresh.splitKey rest).map fun found => (mark :: body ++ [mark] ++ found.1, found.2) := by
  have notColon : ':' ∉ [mark] := by
    intro member
    rw [← List.mem_singleton.mp member] at quote
    cases quote
  have quoted : ∀ before behind, body = before ++ ':' :: behind →
      (((quoting mark).run before).step ':').inString = true := by
    intro before behind shape
    have inside := (run_quoting plain.holdsBareMark).2 (((quoting mark).run before).step ':')
      (shape ▸ mem_trace_append (quoting mark) before ':' behind)
    rw [inString, inside.2]
    rfl
  have returns : ((fresh.run [mark]).run body).run [mark] = fresh := by
    have whole := (plain.isClean quote).closed
    rwa [show mark :: body ++ [mark] = [mark] ++ body ++ [mark] from rfl, run_append, run_append] at whole
  have opens : fresh.run [mark] = quoting mark := step_fresh_quote quote
  calc
    fresh.splitKey (mark :: body ++ [mark] ++ rest)
        = fresh.splitKey ([mark] ++ (body ++ ([mark] ++ rest))) := by
          simp only [List.cons_append, List.nil_append, List.append_assoc]
    _ = (fresh.splitKey rest).map fun found => (mark :: body ++ [mark] ++ found.1, found.2) := by
      rw [splitKey_append_of_notMem notColon, splitKey_append (opens ▸ quoted),
        splitKey_append_of_notMem notColon, returns]
      simp only [Option.map_map, Function.comp_def, List.cons_append, List.nil_append,
        List.append_assoc]

theorem Scan.splitKey_fresh_colon (rest : Text) : fresh.splitKey (':' :: rest) = some ([], rest) := rfl

theorem EntryKey.splitKey_text (key : EntryKey) (rest : Text) :
    splitKey (key.text ++ ':' :: rest) = some (key.text, rest) := by
  rw [splitKey]
  cases key with
  | name text ascii =>
    rw [EntryKey.text, Scan.splitKey_append_of_notMem (notMem_asciiName ascii (by decide)),
      (phrase_of_isAsciiName ascii).clean.closed, Scan.splitKey_fresh_colon, Option.map_some,
      List.append_nil]
  | quoted mark body is plain filled =>
    rw [EntryKey.text, Scan.splitKey_literal (isQuote_mark is) plain, Scan.splitKey_fresh_colon,
      Option.map_some, List.append_nil]

theorem isQuote_of_isNameStart {c : Char} (start : isNameStart c = true) : isQuote c = false :=
  (isOrdinary_of_isAsciiNamePart (isAsciiNamePart_of_isNameStart start)).1

/-- A key stands for its class names, and begins neither a spread nor a computed key. -/
theorem EntryKey.keyClasses_text (key : EntryKey) : keyClasses key.text = some key.classes := by
  cases key with
  | name text ascii =>
    obtain ⟨c, rest, rfl, start, -⟩ := exists_cons_of_isAsciiName ascii
    have notBracket : c ≠ '[' := by
      rintro rfl
      cases start
    rw [EntryKey.text, keyClasses, if_neg notBracket, isQuote_of_isNameStart start]
    rfl
  | quoted mark body is plain filled =>
    have quote := isQuote_mark is
    have notBracket : mark ≠ '[' := by rcases is with rfl | rfl <;> decide
    have notTemplate : mark ≠ '\x60' := by rcases is with rfl | rfl <;> decide
    have read := literalBody_quoted quote notTemplate plain filled
    rw [List.cons_append] at read
    rw [EntryKey.text, List.cons_append, keyClasses, if_neg notBracket, if_pos quote, read]
    rfl

theorem EntryKey.head?_text (key : EntryKey) : key.text.head? ≠ some '.' := by
  cases key with
  | name text ascii =>
    obtain ⟨c, rest, rfl, start, -⟩ := exists_cons_of_isAsciiName ascii
    rintro ⟨⟩
    cases start
  | quoted mark body is plain filled => rcases is with rfl | rfl <;> exact fun head => by cases head

/-- A text that does not begin with a point is no spread. -/
theorem not_isPrefixOf_spread {text : Text} (head : text.head? ≠ some '.') :
    ("...".toList.isPrefixOf text) = false := by
  cases text with
  | nil => rfl
  | cons c rest =>
    have different : ('.' == c) = false :=
      beq_eq_false_iff_ne.mpr fun same => head (congrArg some same.symm)
    rw [show "...".toList = ['.', '.', '.'] from rfl, List.isPrefixOf, different, Bool.false_and]

theorem useOfPair_entryText {key classes : Text} (read : keyClasses key = some classes)
    (value : EntryText) :
    useOfPair key value.text =
      if value.text = "true".toList then some ⟨classes, none⟩
      else if value.text = "false".toList ∨ value.text.head? = some '{' ∨ value.text.head? = some '['
      then none
      else some ⟨classes, some (stripParens value.text)⟩ := by
  have filled := value.tidy.filled
  generalize value.text = text at filled
  cases text with
  | nil => exact absurd rfl filled
  | cons c rest =>
    rw [useOfPair, read]
    simp only [List.head?_cons, Option.some.injEq]

theorem useOfEntry_shorthand {name : Text} (ascii : name.isAsciiName = true) :
    useOfEntry name = some ⟨name, some name⟩ := by
  have noColon : splitKey name = none := by
    have passed : Scan.fresh.splitKey (name ++ []) = _ :=
      Scan.splitKey_append_of_notMem (notMem_asciiName ascii (by decide)) []
    rwa [List.append_nil] at passed
  have noNewline : name.getLast? ≠ some '\n' := fun last =>
    notMem_asciiName ascii (by decide) (List.mem_of_getLast? last)
  obtain ⟨c, rest, rfl, start, parts⟩ := exists_cons_of_isAsciiName ascii
  have notSpread : "...".toList.isPrefixOf (c :: rest) = false := by
    apply not_isPrefixOf_spread
    rintro ⟨⟩
    cases start
  have identifier : Text.isIdentifier (c :: rest) = true := by
    rw [Text.isIdentifier, Text.dropFinalNewline, if_neg noNewline]
    simp only [start, Bool.true_and, List.all_eq_true]
    exact fun d member => isNamePart_of_isAsciiNamePart (parts d member)
  rw [useOfEntry, notSpread, noColon, identifier]
  rfl

theorem isIdentifier_cons {c : Char} (foreign : isNameStart c = false) (notNewline : c ≠ '\n')
    (rest : Text) : Text.isIdentifier (c :: rest) = false := by
  have kept : ∃ others, Text.dropFinalNewline (c :: rest) = c :: others := by
    unfold Text.dropFinalNewline
    split
    · rename_i last
      cases rest with
      | nil => exact absurd (Option.some.inj last) notNewline
      | cons d others => exact ⟨(d :: others).dropLast, rfl⟩
    · exact ⟨rest, rfl⟩
  obtain ⟨others, kept⟩ := kept
  unfold Text.isIdentifier
  rw [kept]
  dsimp only
  rw [foreign, Bool.false_and]

/-- An entry that begins with a bracket has no uses, wherever its key may end. -/
theorem useOfEntry_bracket (rest : Text) : useOfEntry ('[' :: rest) = none := by
  have notSpread : "...".toList.isPrefixOf ('[' :: rest) = false :=
    not_isPrefixOf_spread (by simp)
  rw [useOfEntry, notSpread]
  cases found : splitKey ('[' :: rest) with
  | none =>
    rw [isIdentifier_cons (by decide) (by decide)]
    rfl
  | some parts =>
    obtain ⟨key, value⟩ := parts
    have shape := Scan.eq_of_splitKey found
    have head : key.trim.head? = some '[' := by
      cases key with
      | nil => exact absurd (List.cons.inj shape).1 (by decide)
      | cons c key =>
        obtain ⟨rfl, -⟩ := List.cons.inj shape
        exact Text.head?_trim_cons (by decide) key
    have noClasses : keyClasses key.trim = none := by
      generalize key.trim = trimmed at head
      cases trimmed with
      | nil => rfl
      | cons c others =>
        cases head
        rfl
    show useOfPair key.trim value.trim = none
    unfold useOfPair
    rw [noClasses]
    split
    · rfl
    · rfl

theorem useOfEntry_text (entry : ObjectEntry) : useOfEntry entry.text = entry.use? := by
  cases entry with
  | pair key value =>
    obtain ⟨phrase, -⟩ := key.isPhrase_isItem
    have shape : key.text ++ ": ".toList ++ value.text = key.text ++ ':' :: ' ' :: value.text := by
      rw [List.append_assoc]
      rfl
    have notSpread : "...".toList.isPrefixOf (key.text ++ ':' :: ' ' :: value.text) = false := by
      apply not_isPrefixOf_spread
      rw [Text.head?_append_of_filled phrase.tidy.filled]
      exact key.head?_text
    rw [ObjectEntry.text, shape, useOfEntry, notSpread, key.splitKey_text]
    dsimp only
    rw [phrase.tidy.trimmed, trim_blank_left, value.tidy.trimmed,
      useOfPair_entryText key.keyClasses_text]
    rfl
  | name text ascii => exact useOfEntry_shorthand ascii
  | spread source => rfl
  | computed key value => exact useOfEntry_bracket _

theorem objectUses_objectText (entries : List ObjectEntry) :
    objectUses (objectText entries) = entries.filterMap ObjectEntry.use? := by
  have items : ∀ text ∈ entries.map ObjectEntry.text, text.IsItem := by
    intro text member
    obtain ⟨entry, -, rfl⟩ := List.mem_map.mp member
    exact entry.isItem
  rw [objectUses, objectText, unwrap_enclose .curly (isSelfContained_join items)]
  dsimp only
  rw [splitCommas_join items, List.filterMap_map]
  apply List.filterMap_congr
  intro entry _
  exact useOfEntry_text entry

/-- An object literal has the uses that its entries stand for, in their order, and is no match if they
stand for none. -/
theorem parseForm_objectText (entries : List ObjectEntry) (limit : Int) :
    parseForm .object limit (objectText entries) =
      if entries.filterMap ObjectEntry.use? = [] then none
      else some (entries.filterMap ObjectEntry.use?) := by
  rw [← objectUses_objectText entries, ← matchOf_ok, parseForm, ExpressionForm.usesOf, objectText,
    trim_enclose]
  rfl

/-- A key full of colons, commas and brackets, with a value that holds an object. -/
def variantEntry : ObjectEntry :=
  .pair (.quoted '\x27' " hover:[a,b) \x22".toList (Or.inr rfl) (Text.forall_mem_of_all (by decide))
    (by decide)) ⟨"(x ? \x7bc: 1, d\x7d : ',:')".toList, ⟨by decide, by decide⟩,
      ⟨by decide, by decide⟩, by decide⟩

def spreadEntry : ObjectEntry :=
  .spread ⟨"f(a, 'b: c')".toList, ⟨by decide, by decide⟩, ⟨by decide, by decide⟩, by decide⟩

def computedEntry : ObjectEntry :=
  .computed ⟨"x ? y : 'z'".toList, ⟨by decide, by decide⟩, ⟨by decide, by decide⟩, by decide⟩
    ⟨"true".toList, ⟨by decide, by decide⟩, ⟨by decide, by decide⟩, by decide⟩

theorem parseForm_objectText_variants :
    objectText [variantEntry, spreadEntry, .name "$e".toList rfl, computedEntry] =
        ("\x7b' hover:[a,b) \x22': (x ? \x7bc: 1, d\x7d : ',:'), ...f(a, 'b: c'), $e, " ++
          "[x ? y : 'z']: true\x7d").toList ∧
      parseForm .object 200 (objectText [variantEntry, spreadEntry, .name "$e".toList rfl,
          computedEntry]) =
        some [⟨"hover:[a,b) \x22".toList, some "x ? \x7bc: 1, d\x7d : ',:'".toList⟩,
          ⟨"$e".toList, some "$e".toList⟩] ∧
      parseForm .object 200 (objectText [spreadEntry, computedEntry]) = none := by
  refine ⟨by decide, ?_, ?_⟩
  · exact (parseForm_objectText _ 200).trans (by decide +kernel)
  · exact (parseForm_objectText _ 200).trans (by decide +kernel)

end ClassUsage
