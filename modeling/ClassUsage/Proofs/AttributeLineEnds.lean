import ClassUsage.Proofs.DocumentPrefix
import ClassUsage.Proofs.ExpressionLineEnds

set_option autoImplicit false

/-!
Class attributes with line feeds for all line ends. Whatever opens an attribute ends in a character that
is not blank, so no line end is cut in two, and the same attributes open at the same places.
-/
namespace ClassUsage

namespace Text

/-- The offset in the text with line feeds that stands for an offset in the text. -/
def placeOf (text : Text) (offset : Nat) : Nat := (withLineFeeds (text.take offset)).length

/-- The rest of the text stands right behind a character that is not blank. -/
def SplitsSolid (text rest : Text) : Prop :=
  ∃ front c, isBlank c = false ∧ text = front ++ c :: rest

theorem SplitsSolid.append {text rest : Text} (splits : SplitsSolid text rest) (front : Text) :
    SplitsSolid (front ++ text) rest := by
  obtain ⟨before, c, solid, rfl⟩ := splits
  exact ⟨front ++ before, c, solid, by rw [List.append_assoc]⟩

theorem SplitsSolid.exists_taken {text rest : Text} (splits : SplitsSolid text rest) :
    ∃ taken, text = taken ++ rest ∧ taken.withLineFeeds ++ rest.withLineFeeds = text.withLineFeeds ∧
      ∃ c, taken.getLast? = some c ∧ isBlank c = false := by
  obtain ⟨front, c, solid, rfl⟩ := splits
  have last : (front ++ [c]).getLast? = some c := List.getLast?_concat
  have apart : (front ++ [c]).getLast? ≠ some '\r' := by
    rw [last]
    intro same
    rw [Option.some_inj.mp same] at solid
    exact absurd solid (by decide)
  have whole : front ++ c :: rest = front ++ [c] ++ rest := by
    rw [List.append_assoc, List.singleton_append]
  exact ⟨front ++ [c], whole, by rw [whole, withLineFeeds_append (Or.inl apart)], c, last, solid⟩

theorem SplitsSolid.trans {text inside rest : Text} (first : text.SplitsSolid inside)
    (second : inside.SplitsSolid rest) : text.SplitsSolid rest := by
  obtain ⟨taken, rfl, -⟩ := first.exists_taken
  exact second.append taken

theorem SplitsSolid.placeOf_eq {text rest : Text} (splits : SplitsSolid text rest) :
    text.placeOf (text.length - rest.length) =
      text.withLineFeeds.length - rest.withLineFeeds.length := by
  obtain ⟨taken, rfl, fed, -⟩ := splits.exists_taken
  rw [← fed, placeOf, List.length_append, List.length_append, Nat.add_sub_cancel, Nat.add_sub_cancel,
    List.take_left]

theorem splitsSolid_append {front : Text} (filled : front ≠ []) (solid : ∀ c ∈ front, isBlank c = false)
    (rest : Text) : SplitsSolid (front ++ rest) rest := by
  refine ⟨front.dropLast, front.getLast filled, solid _ (List.getLast_mem filled), ?_⟩
  rw [← List.singleton_append, ← List.append_assoc, List.dropLast_append_getLast]

theorem splitsSolid_of_balanced {closing : Bracket} {scan : Scan} {text inner rest : Text}
    (found : scan.balanced closing text = some (inner, rest)) : SplitsSolid text rest :=
  ⟨inner, closing.closer, by cases closing <;> decide, Scan.eq_of_balanced found⟩

theorem splitsSolid_of_afterBlanksAnd? {c : Char} (solid : isBlank c = false) {text rest : Text}
    (found : text.afterBlanksAnd? c = some rest) : SplitsSolid text rest := by
  obtain ⟨blanks, -, rfl⟩ := (afterBlanksAnd?_eq_some_iff solid).mp found
  exact ⟨blanks, c, solid, rfl⟩

theorem splitsSolid_of_afterMark? {text rest : Text} {mark : Char}
    (found : text.afterMark? = some (mark, rest)) : SplitsSolid text rest := by
  obtain ⟨isMark, rfl⟩ := afterMark?_eq_some_iff.mp found
  exact ⟨[], mark, isMark.isBlank, rfl⟩

end Text

/-- The attribute with line feeds, at the start of the given text with line feeds. -/
def Attribute.withLineFeeds (text : Text) (found : Attribute) : Attribute :=
  { found with
    uses := found.uses.map ClassUse.withLineFeeds
    length := text.placeOf found.length }

theorem attributeUpTo_withLineFeeds {text rest : Text} (splits : text.SplitsSolid rest) (kind : Kind)
    (name : Text) (uses : List ClassUse) :
    attributeUpTo text.withLineFeeds rest.withLineFeeds kind name (uses.map ClassUse.withLineFeeds) =
      (attributeUpTo text rest kind name uses).map (·.withLineFeeds text) := by
  unfold attributeUpTo
  rw [List.isEmpty_map]
  split
  · rfl
  · rw [Option.map_some, Attribute.withLineFeeds, splits.placeOf_eq]

/-- Nothing opens, or an attribute opens up to the same place. -/
def OpensAlike (text : Text) (plain fed : Option Opening) : Prop :=
  (plain = none ∧ fed = none) ∨ ∃ rest found, text.SplitsSolid rest ∧
    plain = openingUpTo text rest found ∧
    fed = openingUpTo text.withLineFeeds rest.withLineFeeds (found.map (·.withLineFeeds text))

namespace OpensAlike

variable {α β : Type} {text : Text}

theorem bind {read : Option α} {feed : α → β} {plain : α → Option Opening} {fed : β → Option Opening}
    (each : ∀ step, read = some step → OpensAlike text (plain step) (fed (feed step))) :
    OpensAlike text (read.bind plain) ((read.map feed).bind fed) := by
  cases read with
  | none => exact Or.inl ⟨rfl, rfl⟩
  | some step => exact each step rfl

theorem bind_same {read : Option α} {plain fed : α → Option Opening}
    (each : ∀ step, read = some step → OpensAlike text (plain step) (fed step)) :
    OpensAlike text (read.bind plain) (read.bind fed) := by
  have alike : OpensAlike text (read.bind plain) ((read.map id).bind fed) := bind each
  rwa [Option.map_id, id_eq] at alike

end OpensAlike

theorem bind_map_alike {α β γ δ : Type} {read : Option α} {feed : α → β} {after : γ → δ}
    {plain : α → Option γ} {fed : β → Option δ}
    (each : ∀ step, read = some step → fed (feed step) = (plain step).map after) :
    (read.map feed).bind fed = (read.bind plain).map after := by
  cases read with
  | none => rfl
  | some step => exact each step rfl

theorem bind_alike {α γ δ : Type} {read : Option α} {after : γ → δ} {plain : α → Option γ}
    {fed : α → Option δ} (each : ∀ step, read = some step → fed step = (plain step).map after) :
    read.bind fed = (read.bind plain).map after := by
  cases read with
  | none => rfl
  | some step => exact each step rfl

theorem findSome?_alike {ι γ δ : Type} {items : List ι} {after : γ → δ} {plain : ι → Option γ}
    {fed : ι → Option δ} (each : ∀ item ∈ items, fed item = (plain item).map after) :
    items.findSome? fed = (items.findSome? plain).map after := by
  induction items with
  | nil => rfl
  | cons item items ih =>
    obtain ⟨first, others⟩ := List.forall_mem_cons.mp each
    rw [List.findSome?_cons, List.findSome?_cons, first, ih others]
    cases plain item <;> rfl

theorem all_map_lineFeed {holds : Char → Bool} (same : holds '\r' = holds '\n')
    (previous : Option Char) : (previous.map Text.lineFeed).all holds = previous.all holds := by
  cases previous with
  | none => rfl
  | some c => exact Text.apply_lineFeed holds same c

theorem mayBeginAttribute_lineFeed (previous : Option Char) :
    mayBeginAttribute (previous.map Text.lineFeed) = mayBeginAttribute previous :=
  all_map_lineFeed (by decide) previous

theorem mayBeginKeyword_lineFeed (previous : Option Char) :
    mayBeginKeyword (previous.map Text.lineFeed) = mayBeginKeyword previous :=
  all_map_lineFeed (by decide) previous

theorem mayBeginDirective_lineFeed (previous : Option Char) :
    mayBeginDirective (previous.map Text.lineFeed) = mayBeginDirective previous :=
  all_map_lineFeed (by decide) previous

theorem plainUses_withLineFeeds (value : Text) :
    plainUses value.withLineFeeds = (plainUses value).map ClassUse.withLineFeeds := by
  unfold plainUses
  rw [Text.trim_withLineFeeds, Text.isEmpty_withLineFeeds]
  split
  · rfl
  · rfl

theorem directiveUses_withLineFeeds {name : Text} (solid : ∀ c ∈ name, isBlank c = false)
    (condition : Text) : directiveUses name condition.withLineFeeds =
      (directiveUses name condition).map ClassUse.withLineFeeds := by
  have sameName := Text.withLineFeeds_of_solid solid
  have sameTrue : condition.trim.withLineFeeds = "true".toList ↔ condition.trim = "true".toList :=
    Text.withLineFeeds_eq_iff (Text.forall_mem_of_all (by decide))
  unfold directiveUses
  rw [Text.trim_withLineFeeds, Text.isEmpty_withLineFeeds]
  simp only [sameTrue]
  split
  · rfl
  · split
    · simp only [List.map_cons, List.map_nil, ClassUse.withLineFeeds, sameName, Option.map_none]
    · simp only [List.map_cons, List.map_nil, ClassUse.withLineFeeds, sameName, Option.map_some]

theorem argumentElements_withLineFeeds (argument : Text) :
    argumentElements argument.withLineFeeds = (argumentElements argument).map Text.withLineFeeds := by
  unfold argumentElements
  rw [unwrap_withLineFeeds]
  cases unwrap .square .square argument with
  | none => rfl
  | some inner => exact splitCommas_withLineFeeds inner

theorem getD_parseForm_withLineFeeds (form : ExpressionForm) (limit : Int) (text : Text)
    (others : List ClassUse) :
    (parseForm form limit text.withLineFeeds).getD (others.map ClassUse.withLineFeeds) =
      ((parseForm form limit text).getD others).map ClassUse.withLineFeeds := by
  rw [parseForm_withLineFeeds]
  cases parseForm form limit text with
  | none => rfl
  | some uses => rfl

theorem argumentUses_withLineFeeds (arguments : List Text) :
    argumentUses (arguments.map Text.withLineFeeds) =
      (argumentUses arguments).map ClassUse.withLineFeeds := by
  have same : ∀ element : Text, (parseExpression element.withLineFeeds).getD [] =
      ((parseExpression element).getD []).map ClassUse.withLineFeeds :=
    fun element => getD_parseForm_withLineFeeds .any defaultDepthLimit element []
  simp only [argumentUses, List.flatMap_map, argumentElements_withLineFeeds, List.map_flatMap,
    List.flatMap_assoc, same]

theorem helperArguments_withLineFeeds (content : Text) :
    helperArguments content.withLineFeeds = (helperArguments content).map Text.withLineFeeds := by
  unfold helperArguments
  rw [unwrap_withLineFeeds]
  cases unwrap .square .square content with
  | none => exact splitCommas_withLineFeeds content
  | some inner => exact splitCommas_withLineFeeds inner

theorem bindingUses_of_head {value rest : Text} {c : Char} (trimmed : value.trim = c :: rest)
    (noObject : c ≠ '{') (noArray : c ≠ '[') :
    bindingUses value = (parseExpression value.trim).getD [⟨value.trim, none⟩] := by
  unfold bindingUses
  rw [trimmed]
  dsimp only
  split
  · rename_i empty
    cases empty
  · rename_i object
    exact absurd (List.cons.inj object).1 noObject
  · rename_i array
    exact absurd (List.cons.inj array).1 noArray
  · rfl

theorem bindingUses_withLineFeeds (value : Text) :
    bindingUses value.withLineFeeds = (bindingUses value).map ClassUse.withLineFeeds := by
  have same := Text.trim_withLineFeeds value
  cases trimmed : value.trim with
  | nil =>
    rw [trimmed] at same
    unfold bindingUses
    rw [same, trimmed]
    rfl
  | cons c rest =>
    rw [trimmed] at same
    by_cases object : c = '{'
    · have read := getD_parseForm_withLineFeeds .object defaultDepthLimit (c :: rest) []
      subst object
      rw [Text.withLineFeeds_cons (by decide)] at same read
      unfold bindingUses
      rw [same, trimmed]
      exact read
    · by_cases array : c = '['
      · have read := unwrap_withLineFeeds .square .square (c :: rest)
        subst array
        rw [Text.withLineFeeds_cons (by decide)] at same read
        unfold bindingUses
        rw [same, trimmed]
        dsimp only
        rw [read]
        cases unwrap .square .square ('[' :: rest) with
        | none => rfl
        | some inner =>
          simp only [Option.map_some, splitCommas_withLineFeeds, argumentUses_withLineFeeds]
      · obtain ⟨others, shape⟩ := Text.exists_withLineFeeds_cons c rest
        have noObject : Text.lineFeed c ≠ '{' := fun isBrace =>
          object ((Text.lineFeed_eq_iff (by decide)).mp isBrace)
        have noArray : Text.lineFeed c ≠ '[' := fun isBracket =>
          array ((Text.lineFeed_eq_iff (by decide)).mp isBracket)
        rw [bindingUses_of_head trimmed object array,
          bindingUses_of_head (same.trans shape) noObject noArray, Text.trim_withLineFeeds]
        exact getD_parseForm_withLineFeeds .any defaultDepthLimit value.trim [⟨value.trim, none⟩]

theorem plainValue?_withLineFeeds (text : Text) :
    plainValue? text.withLineFeeds =
      (plainValue? text).map fun found => (found.1.withLineFeeds, found.2.withLineFeeds) := by
  unfold plainValue?
  rw [Text.afterMark?_withLineFeeds]
  cases opened : text.afterMark? with
  | none => rfl
  | some found =>
    obtain ⟨mark, body⟩ := found
    have solid := (Text.afterMark?_eq_some_iff.mp opened).1.isBlank
    have value : body.withLineFeeds.takeWhile (fun c => !(c == '\x22' || c == '\x27')) =
        Text.withLineFeeds (body.takeWhile fun c => !(c == '\x22' || c == '\x27')) := by
      rw [← Text.lineFeedsAfter_false, Text.takeWhile_lineFeedsAfter (by decide) (by simp),
        Text.lineFeedsAfter_false]
    have behind : body.withLineFeeds.dropWhile (fun c => !(c == '\x22' || c == '\x27')) =
        Text.withLineFeeds (body.dropWhile fun c => !(c == '\x22' || c == '\x27')) := by
      rw [← Text.lineFeedsAfter_false, Text.dropWhile_lineFeedsAfter (by decide) (by simp)]
    simp only [Option.map_some, value, behind]
    cases body.dropWhile fun c => !(c == '\x22' || c == '\x27') with
    | nil => rfl
    | cons c rest =>
      by_cases closes : c = mark
      · subst closes
        rw [Text.withLineFeeds_cons solid]
        simp only [↓reduceIte, Option.map_some]
      · obtain ⟨e, others, first, differs⟩ := Text.withLineFeeds_cons_ne solid closes rest
        rw [first]
        simp only [closes, differs, ↓reduceIte, Option.map_none]

theorem splitsSolid_of_plainValue? {text value rest : Text}
    (read : plainValue? text = some (value, rest)) : text.SplitsSolid rest := by
  obtain ⟨mark, isMark, -, rfl⟩ := plainValue?_eq_some_iff.mp read
  exact ⟨mark :: value, mark, isMark.isBlank, rfl⟩

theorem plainAttribute_opensAlike (previous : Option Char) (text : Text) :
    OpensAlike text (plainAttribute previous text)
      (plainAttribute (previous.map Text.lineFeed) text.withLineFeeds) := by
  unfold plainAttribute
  rw [Text.className?_withLineFeeds, mayBeginAttribute_lineFeed]
  refine .bind fun ⟨name, behind⟩ named => .bind_same fun _ _ => ?_
  rw [Text.afterEquals?_withLineFeeds]
  refine .bind fun inside equals => ?_
  rw [plainValue?_withLineFeeds]
  refine .bind fun ⟨value, rest⟩ read => ?_
  have splits : text.SplitsSolid rest := by
    obtain ⟨-, rfl⟩ := Text.className?_eq_some named
    obtain ⟨gap, -, rfl, -⟩ := Text.afterEquals?_eq_some_iff.mp equals
    exact ((splitsSolid_of_plainValue? read).append gap).append name
  refine Or.inr ⟨rest, _, splits, rfl, ?_⟩
  dsimp only
  rw [← attributeUpTo_withLineFeeds splits, plainUses_withLineFeeds]

theorem braceOpening?_withLineFeeds (previous : Option Char) (text : Text) :
    braceOpening? (previous.map Text.lineFeed) text.withLineFeeds =
      (braceOpening? previous text).map fun opened => (opened.1, opened.2.withLineFeeds) := by
  unfold braceOpening?
  rw [Text.className?_withLineFeeds, mayBeginAttribute_lineFeed]
  refine bind_map_alike fun ⟨name, behind⟩ _ => bind_alike fun _ _ => ?_
  rw [Text.afterEquals?_withLineFeeds]
  refine bind_map_alike fun rest _ => ?_
  rw [Text.after?_withLineFeeds (Text.forall_mem_of_all (by decide))]
  exact bind_map_alike fun inside _ => rfl

theorem splitsSolid_of_braceOpening? {previous : Option Char} {text name inside : Text}
    (opened : braceOpening? previous text = some (name, inside)) : text.SplitsSolid inside := by
  obtain ⟨-, -, gap, -, rfl⟩ := braceOpening?_eq_some_iff.mp opened
  exact ⟨name ++ gap, '{', by decide, by rw [List.append_assoc]⟩

theorem helperCall?_withLineFeeds (inside : Text) :
    helperCall? inside.withLineFeeds = (helperCall? inside).map Text.withLineFeeds := by
  unfold helperCall?
  apply findSome?_alike
  intro helper listed
  have solid : ∀ c ∈ helper, isBlank c = false := fun c member =>
    ((helperNames_solid helper listed).2 c member).2.2.2
  rw [Text.trimStart_withLineFeeds, Text.after?_withLineFeeds solid]
  exact bind_map_alike fun rest _ => Text.afterBlanksAnd?_withLineFeeds (by decide) rest

theorem helperOpening?_withLineFeeds (previous : Option Char) (text : Text) :
    helperOpening? (previous.map Text.lineFeed) text.withLineFeeds =
      (helperOpening? previous text).map fun opened => (opened.1, opened.2.withLineFeeds) := by
  rw [helperOpening?_eq, helperOpening?_eq, braceOpening?_withLineFeeds]
  refine bind_map_alike fun opened _ => ?_
  rw [helperCall?_withLineFeeds, Option.map_map, Option.map_map]
  rfl

theorem splitsSolid_of_helperOpening? {previous : Option Char} {text name inside : Text}
    (opened : helperOpening? previous text = some (name, inside)) : text.SplitsSolid inside := by
  rw [helperOpening?_eq] at opened
  obtain ⟨⟨first, expression⟩, brace, called⟩ := Option.bind_eq_some_iff.mp opened
  obtain ⟨behind, call, equal⟩ := Option.map_eq_some_iff.mp called
  cases equal
  obtain ⟨-, -, gap, -, rfl⟩ := braceOpening?_eq_some_iff.mp brace
  obtain ⟨callee, -, rfl⟩ := helperCall?_sound call
  refine ⟨first ++ (gap ++ '{' :: callee), '(', by decide, ?_⟩
  simp only [List.append_assoc, List.cons_append]

theorem jsxTemplate_opensAlike (previous : Option Char) (text : Text) :
    OpensAlike text (jsxTemplate previous text)
      (jsxTemplate (previous.map Text.lineFeed) text.withLineFeeds) := by
  unfold jsxTemplate
  rw [braceOpening?_withLineFeeds]
  refine .bind fun ⟨name, inside⟩ opened => ?_
  have splits := splitsSolid_of_braceOpening? opened
  refine Or.inr ⟨inside, _, splits, rfl, ?_⟩
  dsimp only
  congr 1
  rw [Scan.balanced_withLineFeeds]
  refine bind_map_alike fun ⟨inner, rest⟩ closed => ?_
  simp only [Text.trim_withLineFeeds,
    Text.head?_withLineFeeds_eq_some_iff (by decide : isBlank '\x60' = false)]
  refine bind_alike fun _ _ => ?_
  rw [← attributeUpTo_withLineFeeds (splits.trans (Text.splitsSolid_of_balanced closed))]
  exact congrArg _ (getD_parseForm_withLineFeeds .template defaultDepthLimit inner.trim [])

theorem helperCall_opensAlike (previous : Option Char) (text : Text) :
    OpensAlike text (helperCall previous text)
      (helperCall (previous.map Text.lineFeed) text.withLineFeeds) := by
  unfold helperCall
  rw [helperOpening?_withLineFeeds]
  refine .bind fun ⟨name, inside⟩ opened => ?_
  have splits := splitsSolid_of_helperOpening? opened
  refine Or.inr ⟨inside, _, splits, rfl, ?_⟩
  dsimp only
  congr 1
  rw [Scan.balanced_withLineFeeds]
  refine bind_map_alike fun ⟨inner, behind⟩ closed => ?_
  dsimp only
  rw [Text.afterBlanksAnd?_withLineFeeds (by decide)]
  refine bind_map_alike fun rest ended => ?_
  have splitsAll := (splits.trans (Text.splitsSolid_of_balanced closed)).trans
    (Text.splitsSolid_of_afterBlanksAnd? (by decide) ended)
  rw [← attributeUpTo_withLineFeeds splitsAll, helperArguments_withLineFeeds,
    argumentUses_withLineFeeds]

theorem jsxExpression_opensAlike (previous : Option Char) (text : Text) :
    OpensAlike text (jsxExpression previous text)
      (jsxExpression (previous.map Text.lineFeed) text.withLineFeeds) := by
  unfold jsxExpression
  rw [braceOpening?_withLineFeeds]
  refine .bind fun ⟨name, inside⟩ opened => ?_
  have splits := splitsSolid_of_braceOpening? opened
  refine Or.inr ⟨inside, _, splits, rfl, ?_⟩
  dsimp only
  congr 1
  rw [Scan.balanced_withLineFeeds]
  refine bind_map_alike fun ⟨inner, rest⟩ closed => ?_
  simp only [Text.trim_withLineFeeds, ne_eq, helperOpening?_withLineFeeds, Option.isNone_map,
    Text.head?_withLineFeeds_eq_some_iff (by decide : isBlank '\x60' = false)]
  refine bind_alike fun _ _ => ?_
  rw [← attributeUpTo_withLineFeeds (splits.trans (Text.splitsSolid_of_balanced closed))]
  exact congrArg _ (getD_parseForm_withLineFeeds .any defaultDepthLimit inner.trim [])

theorem solidClassList_opensAlike (previous : Option Char) (text : Text) :
    OpensAlike text (solidClassList previous text)
      (solidClassList (previous.map Text.lineFeed) text.withLineFeeds) := by
  unfold solidClassList
  rw [Text.after?_withLineFeeds (Text.forall_mem_of_all (by decide)), mayBeginKeyword_lineFeed]
  refine .bind fun behind named => .bind_same fun _ _ => ?_
  rw [Text.afterEquals?_withLineFeeds]
  refine .bind fun braces equals => ?_
  rw [Text.after?_withLineFeeds (Text.forall_mem_of_all (by decide))]
  refine .bind fun brace opened => ?_
  rw [Text.afterBlanksAnd?_withLineFeeds (by decide)]
  refine .bind fun inside openedAgain => ?_
  have splits : text.SplitsSolid inside := by
    obtain ⟨gap, -, split, -⟩ := Text.afterEquals?_eq_some_iff.mp equals
    rw [Text.eq_of_after named, split, Text.eq_of_after opened]
    exact (((Text.splitsSolid_of_afterBlanksAnd? (by decide) openedAgain).append _).append _).append _
  refine Or.inr ⟨inside, _, splits, rfl, ?_⟩
  congr 1
  rw [Scan.balanced_withLineFeeds]
  refine bind_map_alike fun ⟨inner, behind⟩ closed => ?_
  dsimp only
  rw [Text.afterBlanksAnd?_withLineFeeds (by decide)]
  refine bind_map_alike fun rest ended => ?_
  have splitsAll := (splits.trans (Text.splitsSolid_of_balanced closed)).trans
    (Text.splitsSolid_of_afterBlanksAnd? (by decide) ended)
  have object : '{' :: inner.withLineFeeds ++ ['}'] = Text.withLineFeeds ('{' :: inner ++ ['}']) := by
    rw [Text.withLineFeeds_concat (by decide), Text.withLineFeeds_cons (by decide)]
  rw [← attributeUpTo_withLineFeeds splitsAll, object]
  exact congrArg _ (getD_parseForm_withLineFeeds .object defaultDepthLimit _ [])

theorem markedValue?_withLineFeeds {mark : Char} (isMark : Text.IsMark mark) (inside : Text) :
    markedValue? mark inside.withLineFeeds =
      (markedValue? mark inside).map fun found => (found.1.withLineFeeds, found.2.withLineFeeds) := by
  have split := splitAtMark_lineFeedsAfter isMark.isBlank
    (by simp : false = true → false = false) inside
  rwa [Text.lineFeedsAfter_false, funext Scan.partsWithLineFeeds_false] at split

theorem markedOpening_opensAlike (front rest name : Text) {uses : Text → List ClassUse}
    (alike : ∀ value : Text, uses value.withLineFeeds = (uses value).map ClassUse.withLineFeeds) :
    OpensAlike (front ++ rest) (markedOpening (front ++ rest) rest name uses)
      (markedOpening (Text.withLineFeeds (front ++ rest)) rest.withLineFeeds name uses) := by
  unfold markedOpening
  rw [Text.afterEquals?_withLineFeeds]
  refine .bind fun marked equals => ?_
  rw [Text.afterMark?_withLineFeeds]
  refine .bind fun ⟨mark, inside⟩ opened => ?_
  have splits : Text.SplitsSolid (front ++ rest) inside := by
    obtain ⟨gap, -, split, -⟩ := Text.afterEquals?_eq_some_iff.mp equals
    rw [split]
    exact ((Text.splitsSolid_of_afterMark? opened).append gap).append front
  refine Or.inr ⟨inside, _, splits, rfl, ?_⟩
  dsimp only
  congr 1
  have isMark := (Text.afterMark?_eq_some_iff.mp opened).1
  rw [markedValue?_withLineFeeds isMark]
  refine bind_map_alike fun ⟨value, behind⟩ read => ?_
  have closes : Text.SplitsSolid inside behind :=
    ⟨value, mark, isMark.isBlank, (splitAtMark_eq_some_iff.mp read).2⟩
  rw [← attributeUpTo_withLineFeeds (splits.trans closes), alike]

theorem vueName?_withLineFeeds (text : Text) :
    vueName? text.withLineFeeds =
      (vueName? text).map fun found => (found.1, found.2.withLineFeeds) := by
  have solid : (["v-bind:class".toList, ":class".toList].all fun name => name.all (!isBlank ·)) =
      true := by decide
  unfold vueName?
  apply findSome?_alike
  intro name listed
  have inName : ∀ c ∈ name, isBlank c = false := by
    intro c member
    have inside := List.all_eq_true.mp (List.all_eq_true.mp solid name listed) c member
    simpa only [Bool.not_eq_true'] using inside
  rw [Text.after?_withLineFeeds inName, Option.map_map, Option.map_map]
  rfl

theorem vueBinding_opensAlike (previous : Option Char) (text : Text) :
    OpensAlike text (vueBinding previous text)
      (vueBinding (previous.map Text.lineFeed) text.withLineFeeds) := by
  unfold vueBinding
  rw [vueName?_withLineFeeds, mayBeginKeyword_lineFeed]
  refine .bind fun ⟨name, rest⟩ named => .bind_same fun _ _ => ?_
  obtain ⟨-, rfl⟩ := vueName?_eq_some_iff.mp named
  exact markedOpening_opensAlike name rest name bindingUses_withLineFeeds

theorem angularNgClass_opensAlike (previous : Option Char) (text : Text) :
    OpensAlike text (angularNgClass previous text)
      (angularNgClass (previous.map Text.lineFeed) text.withLineFeeds) := by
  unfold angularNgClass
  dsimp only
  rw [Text.after?_withLineFeeds (Text.forall_mem_of_all (by decide))]
  refine .bind fun rest named => ?_
  rw [Text.eq_of_after named]
  exact markedOpening_opensAlike _ rest _ bindingUses_withLineFeeds

theorem angularClass_opensAlike (previous : Option Char) (text : Text) :
    OpensAlike text (angularClass previous text)
      (angularClass (previous.map Text.lineFeed) text.withLineFeeds) := by
  unfold angularClass
  rw [Text.after?_withLineFeeds (Text.forall_mem_of_all (by decide))]
  refine .bind fun behind named => ?_
  have solid : ∀ c ∈ behind.takeWhile fun c => !(c == ']' || isBlank c), isBlank c = false := by
    intro c member
    have inside := List.all_eq_true.mp List.all_takeWhile c member
    simp only [Bool.not_or, Bool.and_eq_true, Bool.not_eq_true'] at inside
    exact inside.2
  have sameName : behind.withLineFeeds.takeWhile (fun c => !(c == ']' || isBlank c)) =
      behind.takeWhile fun c => !(c == ']' || isBlank c) := by
    rw [← Text.lineFeedsAfter_false, Text.takeWhile_lineFeedsAfter (by decide) (by simp),
      Text.lineFeedsAfter_false, Text.withLineFeeds_of_solid solid]
  have sameBehind : behind.withLineFeeds.dropWhile (fun c => !(c == ']' || isBlank c)) =
      Text.withLineFeeds (behind.dropWhile fun c => !(c == ']' || isBlank c)) := by
    rw [← Text.lineFeedsAfter_false, Text.dropWhile_lineFeedsAfter (by decide) (by simp)]
  dsimp only
  rw [sameName, sameBehind]
  refine .bind_same fun _ _ => ?_
  rw [Text.after?_withLineFeeds (Text.forall_mem_of_all (by decide))]
  refine .bind fun rest closed => ?_
  have whole : text = "[class.".toList ++ behind.takeWhile (fun c => !(c == ']' || isBlank c)) ++
      [']'] ++ rest := by
    have decomposed := List.takeWhile_append_dropWhile (p := fun c => !(c == ']' || isBlank c))
      (l := behind)
    rw [Text.eq_of_after closed] at decomposed
    rw [Text.eq_of_after named, List.append_assoc, List.append_assoc, decomposed]
  rw [whole]
  exact markedOpening_opensAlike _ rest _ (directiveUses_withLineFeeds solid)

def DirectiveEnd.withLineFeeds : DirectiveEnd → DirectiveEnd
  | condition inside => .condition inside.withLineFeeds
  | bare => .bare

/-- A directive without a condition ends before a blank and before the end of a tag. -/
theorem directiveEnd?_of_not_opened {text : Text}
    (notOpened : ∀ inside, text.afterEquals? ≠ some ('{' :: inside)) :
    directiveEnd? text =
      if "/>".toList.isPrefixOf text || text.head?.any (fun c => isBlank c || c == '>') then some .bare
      else none := by
  unfold directiveEnd?
  split
  · rename_i inside opened
    exact absurd opened (notOpened inside)
  · split
    · rfl
    · rename_i c rest noTagEnd _
      have notPrefix : "/>".toList.isPrefixOf (c :: rest) = false := by
        apply Bool.eq_false_iff.mpr
        intro isTagEnd
        obtain ⟨behind, whole⟩ := List.isPrefixOf_iff_prefix.mp isTagEnd
        obtain ⟨rfl, others⟩ := List.cons.inj whole
        exact noTagEnd behind rfl others.symm
      rw [notPrefix]
      rfl
    · rfl

theorem directiveEnd?_withLineFeeds (text : Text) :
    directiveEnd? text.withLineFeeds = (directiveEnd? text).map DirectiveEnd.withLineFeeds := by
  have same := Text.afterEquals?_withLineFeeds text
  by_cases opened : ∃ inside, text.afterEquals? = some ('{' :: inside)
  · obtain ⟨inside, read⟩ := opened
    rw [read, Option.map_some, Text.withLineFeeds_cons (by decide)] at same
    unfold directiveEnd?
    rw [same, read]
    rfl
  · have notOpened : ∀ inside, text.afterEquals? ≠ some ('{' :: inside) :=
      fun inside read => opened ⟨inside, read⟩
    have stillNotOpened : ∀ inside, text.withLineFeeds.afterEquals? ≠ some ('{' :: inside) := by
      intro inside read
      rw [same] at read
      obtain ⟨behind, here, shape⟩ := Option.map_eq_some_iff.mp read
      have first : behind.head? = some '{' := by
        rw [← Text.head?_withLineFeeds_eq_some_iff (by decide), shape]
        rfl
      obtain ⟨others, rfl⟩ := List.head?_eq_some_iff.mp first
      exact notOpened others here
    rw [directiveEnd?_of_not_opened notOpened, directiveEnd?_of_not_opened stillNotOpened,
      Text.isPrefixOf_withLineFeeds (Text.forall_mem_of_all (by decide)), Text.head?_withLineFeeds,
      Option.any_map]
    have sameEnd : ∀ c, (isBlank (Text.lineFeed c) || Text.lineFeed c == '>') =
        (isBlank c || c == '>') :=
      Text.apply_lineFeed (fun c => isBlank c || c == '>') (by decide)
    simp only [sameEnd]
    split
    · rfl
    · rfl

theorem directiveName?_withLineFeeds (text : Text) :
    directiveName? text.withLineFeeds =
      (directiveName? text).map fun found =>
        (found.1, found.2.1.withLineFeeds, found.2.2.withLineFeeds) := by
  induction text with
  | nil => rfl
  | cons c rest ih =>
    cases inName : isDirectiveNameChar c with
    | true =>
      rw [Text.withLineFeeds_cons (solid_of_isDirectiveNameChar inName).1]
      simp only [directiveName?, inName, ↓reduceIte, directiveEnd?_withLineFeeds]
      cases directiveEnd? rest with
      | some ending => rfl
      | none =>
        simp only [Option.map_none, ih, Option.map_map]
        rfl
    | false =>
      obtain ⟨others, shape⟩ := Text.exists_withLineFeeds_cons c rest
      have stillNot : isDirectiveNameChar (Text.lineFeed c) = false :=
        (Text.apply_lineFeed isDirectiveNameChar (by decide) c).trans inName
      rw [shape]
      simp only [directiveName?, inName, stillNot, Bool.false_eq_true, ↓reduceIte, Option.map_none]

theorem svelteDirective_opensAlike (previous : Option Char) (text : Text) :
    OpensAlike text (svelteDirective previous text)
      (svelteDirective (previous.map Text.lineFeed) text.withLineFeeds) := by
  unfold svelteDirective
  rw [Text.after?_withLineFeeds (Text.forall_mem_of_all (by decide)), mayBeginDirective_lineFeed]
  refine .bind fun behind named => .bind_same fun _ _ => ?_
  rw [directiveName?_withLineFeeds]
  refine .bind fun ⟨name, rest, ending⟩ read => ?_
  obtain ⟨is, split, ends⟩ := directiveName?_sound read
  have solid : ∀ c ∈ name, isBlank c = false := fun c member =>
    (solid_of_isDirectiveNameChar (is.inside c member)).1
  have splits : text.SplitsSolid rest := by
    rw [Text.eq_of_after named, split]
    exact (Text.splitsSolid_append is.filled solid rest).append _
  cases ending with
  | bare =>
    refine Or.inr ⟨rest, _, splits, rfl, ?_⟩
    have uses := directiveUses_withLineFeeds solid name
    rw [Text.withLineFeeds_of_solid solid] at uses
    dsimp only [DirectiveEnd.withLineFeeds]
    rw [← attributeUpTo_withLineFeeds splits, ← uses]
  | condition inside =>
    have splitsAll : text.SplitsSolid inside := by
      obtain ⟨gap, -, rfl⟩ := directiveEnd?_eq_condition_iff.mp ends
      obtain ⟨taken, whole, -⟩ := splits.exists_taken
      have behindBrace : Text.SplitsSolid (gap ++ '{' :: inside) inside := ⟨gap, '{', by decide, rfl⟩
      rw [whole]
      exact behindBrace.append taken
    refine Or.inr ⟨inside, _, splitsAll, rfl, ?_⟩
    dsimp only [DirectiveEnd.withLineFeeds]
    congr 1
    rw [Scan.balanced_withLineFeeds]
    refine bind_map_alike fun ⟨condition, beyond⟩ closed => ?_
    rw [← attributeUpTo_withLineFeeds (splitsAll.trans (Text.splitsSolid_of_balanced closed)),
      directiveUses_withLineFeeds solid]

/-- An attribute opens alike with line feeds for all line ends. -/
theorem AttributeForm.opensAlike (form : AttributeForm) (previous : Option Char) (text : Text) :
    OpensAlike text (form.locator previous text)
      (form.locator (previous.map Text.lineFeed) text.withLineFeeds) := by
  cases form with
  | plain => exact plainAttribute_opensAlike previous text
  | template => exact jsxTemplate_opensAlike previous text
  | call => exact helperCall_opensAlike previous text
  | expression => exact jsxExpression_opensAlike previous text
  | binding => exact vueBinding_opensAlike previous text
  | directive => exact svelteDirective_opensAlike previous text
  | ngClass => exact angularNgClass_opensAlike previous text
  | oneClass => exact angularClass_opensAlike previous text
  | classList => exact solidClassList_opensAlike previous text

/-- Nothing opens at a blank. -/
theorem AttributeForm.locator_blank (form : AttributeForm) {c : Char} (blank : isBlank c = true)
    (previous : Option Char) (rest : Text) : form.locator previous (c :: rest) = none := by
  cases opens : form.locator previous (c :: rest) with
  | none => rfl
  | some opening =>
    obtain ⟨keyword, listed, behind, whole⟩ := form.keyword_of_opens opens
    obtain ⟨solid, holds⟩ := form.keyword_solid keyword listed
    cases keyword with
    | nil =>
      rcases holds with isClass | isNgClass
      · exact absurd (List.infix_nil.mp isClass) (by decide)
      · exact absurd (List.infix_nil.mp isNgClass) (by decide)
    | cons d keyword =>
      obtain ⟨rfl, -⟩ := List.cons.inj whole
      have first := List.all_eq_true.mp solid c List.mem_cons_self
      rw [blank] at first
      cases first

end ClassUsage
