import ClassUsage.Expression.Parser
import ClassUsage.Proofs.LiteralProvenance

set_option autoImplicit false

/-!
Where the class lists of expressions come from. A shape keeps parts of the text it is read off, in
their order, and resolving it draws its uses from these parts; the limit on depth only decides
whether there is a result.
-/
namespace ClassUsage

theorem bind_eq_ok {ε α β : Type} (first : Except ε α) (next : α → Except ε β) (result : β) :
    (first >>= next) = .ok result ↔ ∃ value, first = .ok value ∧ next value = .ok result := by
  cases first with
  | error reason => simp only [bind, Except.bind, reduceCtorEq, false_and, exists_false]
  | ok value => simp only [bind, Except.bind, Except.ok.injEq, exists_eq_left']

theorem pure_eq_ok {ε α : Type} (value result : α) :
    (pure value : Except ε α) = .ok result ↔ value = result := by
  simp only [pure, Except.pure, Except.ok.injEq]

namespace Piece

def content : Piece → Text
  | static text => text
  | interpolation text => text

def written : Piece → Text
  | static text => text
  | interpolation text => ['$', '{'] ++ text ++ ['}']

theorem content_inOrder (piece : Piece) : Text.InOrder [piece.content] piece.written := by
  cases piece with
  | static text =>
    change Text.InOrder [text] text
    simpa using Text.inOrder_singleton [] text []
  | interpolation text => exact Text.inOrder_singleton ['$', '{'] text ['}']

theorem contents_inOrder (pieces : List Piece) :
    Text.InOrder (pieces.map content) (pieces.flatMap written) := by
  induction pieces with
  | nil => trivial
  | cons piece pieces ih => exact (content_inOrder piece).append ih

end Piece

namespace Template

theorem consStatic_written (c : Char) (template : Template) :
    (consStatic c template).pieces.flatMap Piece.written =
      c :: template.pieces.flatMap Piece.written := by
  unfold consStatic
  split <;> rename_i shape
  · simp only [shape, List.flatMap_cons, Piece.written, List.cons_append]
  · simp only [List.flatMap_cons, Piece.written, List.cons_append, List.nil_append]

/-- What is read of a literal is written in it from its start on. -/
theorem ofBody_written (body : Text) :
    ∃ rest, body = (ofBody body).pieces.flatMap Piece.written ++ rest := by
  fun_induction ofBody body with
  | case1 => exact ⟨[], rfl⟩
  | case2 => exact ⟨[], by rw [consStatic_written]; rfl⟩
  | case3 c rest ih =>
    obtain ⟨more, decomposed⟩ := ih
    refine ⟨more, ?_⟩
    simp only [consStatic_written, List.cons_append, ← decomposed]
  | case4 rest notEscape => exact ⟨'\x60' :: rest, rfl⟩
  | case5 inside unclosed notEscape notMark => exact ⟨'$' :: '{' :: inside, rfl⟩
  | case6 inside inner after closed notEscape notMark ih =>
    obtain ⟨more, decomposed⟩ := ih
    refine ⟨more, ?_⟩
    rw [Scan.eq_of_balanced closed]
    simp only [consInterpolation, List.flatMap_cons, Piece.written, List.append_assoc, ← decomposed]
    rfl
  | case7 rest notOpened notEscape notMark ih =>
    obtain ⟨more, decomposed⟩ := ih
    refine ⟨more, ?_⟩
    rw [consStatic_written, List.cons_append, ← decomposed]
  | case8 c rest notEscape notMark notDollar ih =>
    obtain ⟨more, decomposed⟩ := ih
    refine ⟨more, ?_⟩
    rw [consStatic_written, List.cons_append, ← decomposed]

theorem read_inOrder {text : Text} {template : Template} (found : read text = some template) :
    Text.InOrder (template.pieces.map Piece.content) text := by
  unfold read at found
  split at found
  · rename_i body
    split at found
    · rename_i last
      cases found
      obtain ⟨inner, rfl⟩ := List.getLast?_eq_some_iff.mp last
      obtain ⟨rest, decomposed⟩ := ofBody_written (inner ++ ['\x60']).dropLast
      rw [List.dropLast_concat] at decomposed ⊢
      have placed := (Piece.contents_inOrder (ofBody inner).pieces).append_right rest
      rw [← decomposed] at placed
      exact placed.within ['\x60'] ['\x60']
    · cases found
  · cases found

end Template

/-- What a search finds is wanted and stands at the top level. -/
theorem Scan.findNeutral_sound {wanted : Nat → Option Char → Text → Bool} {offset : Nat}
    {previous : Option Char} {scan : Scan} {text before found : Text}
    (read : scan.findNeutral wanted offset previous text = some (before, found)) :
    text = before ++ found ∧ ∃ c rest, found = c :: rest ∧
      ((scan.run before).step c).isNeutral = true ∧
      ∃ place preceding, wanted place preceding found = true := by
  induction text generalizing offset previous scan before with
  | nil => cases read
  | cons c rest ih =>
    simp only [Scan.findNeutral] at read
    split at read
    · rename_i here
      obtain ⟨neutral, isWanted⟩ := Bool.and_eq_true_iff.mp here
      cases read
      exact ⟨rfl, c, rest, rfl, neutral, offset, previous, isWanted⟩
    · obtain ⟨⟨inner, after⟩, later, equal⟩ := Option.map_eq_some_iff.mp read
      cases equal
      obtain ⟨decomposed, d, behind, shape, neutral, isWanted⟩ := ih later
      exact ⟨by rw [decomposed]; rfl, d, behind, shape, neutral, isWanted⟩

/-- The question mark of a conditional expression stands at the top level. -/
theorem splitQuestion_sound {text before after : Text}
    (found : splitQuestion text = some (before, after)) :
    text = before ++ '?' :: after ∧ ((Scan.fresh.run before).step '?').isNeutral = true := by
  obtain ⟨⟨front, rest⟩, scanned, equal⟩ := Option.map_eq_some_iff.mp found
  cases equal
  obtain ⟨rfl, c, behind, rfl, neutral, _, _, asks⟩ := Scan.findNeutral_sound scanned
  obtain rfl : c = '?' := beq_iff_eq.mp (Bool.and_eq_true_iff.mp asks).1
  exact ⟨rfl, neutral⟩

/-- The colon between the branches of a conditional expression stands at the top level. -/
theorem Scan.splitColon_sound {pending : Nat} {previous : Option Char} {scan : Scan}
    {text yes no : Text} (found : scan.splitColon pending previous text = some (yes, no)) :
    text = yes ++ ':' :: no ∧ ((scan.run yes).step ':').isNeutral = true := by
  induction text generalizing pending previous scan yes with
  | nil => cases found
  | cons c rest ih =>
    have later : ∀ {pending : Nat},
        ((scan.step c).splitColon pending (some c) rest).map (fun read => (c :: read.1, read.2)) =
          some (yes, no) →
        c :: rest = yes ++ ':' :: no ∧ ((scan.run yes).step ':').isNeutral = true := by
      intro pending mapped
      obtain ⟨⟨inner, after⟩, read, equal⟩ := Option.map_eq_some_iff.mp mapped
      cases equal
      obtain ⟨decomposed, neutral⟩ := ih read
      exact ⟨by rw [decomposed]; rfl, neutral⟩
    simp only [Scan.splitColon] at found
    split at found
    · exact later found
    · split at found
      · rename_i colon
        simp only [Bool.and_eq_true, beq_iff_eq] at colon
        split at found
        · cases found
          obtain ⟨neutral, rfl⟩ := colon
          exact ⟨rfl, neutral⟩
        · exact later found
      · exact later found

namespace Shape

/-- What a shape holds and what it asks for stand in the text in the order in which the uses are put
together. -/
def Within : Shape → Text → Prop
  | .literal uses, text => Drawn uses text
  | .guarded _ operand, text => Text.InOrder [operand] text
  | .branches _ yes no, text => Text.InOrder [yes, no] text
  | .template parts, text => Text.InOrder (parts.pieces.map Piece.content) text

/-- The sides of an operator are what stands around it at the top level, trimmed, and the left one has
no enclosing brackets. -/
theorem exists_of_sides {token text : Text} {looser : List Text} {pair : Text × Text}
    (found : sides token looser text = some pair) :
    ∃ before behind, text = before ++ (token ++ behind) ∧
      (∀ c rest, token = c :: rest → ((Scan.fresh.run before).step c).isNeutral = true) ∧
      pair = (stripParens before.trim, behind.trim) := by
  unfold sides at found
  split at found
  · cases found
  · split at found
    · cases found
    · rename_i place read
      split at found
      · cases found
      · cases found
        obtain ⟨⟨before, rest⟩, scanned, rfl⟩ := Option.map_eq_some_iff.mp read
        obtain ⟨whole, c, others, shape, neutral, _, _, isWanted⟩ := Scan.findNeutral_sound scanned
        obtain ⟨behind, rfl⟩ := List.isPrefixOf_iff_prefix.mp (Bool.and_eq_true_iff.mp isWanted).2
        refine ⟨before, behind, whole, ?_, by rw [List.drop_left]⟩
        rintro first tail rfl
        rw [(List.cons.inj shape).1]
        exact neutral

/-- The parts of a conditional expression stand around two marks at the top level, and the condition has
no enclosing brackets. -/
theorem exists_of_conditional? {text : Text} {shape : Shape} (found : conditional? text = some shape) :
    ∃ before yes no, text = before ++ '?' :: (yes ++ ':' :: no) ∧
      ((Scan.fresh.run before).step '?').isNeutral = true ∧
      ((Scan.fresh.run yes).step ':').isNeutral = true ∧
      stripParens before ≠ [] ∧ shape = .branches (stripParens before) yes no := by
  unfold conditional? at found
  split at found
  · cases found
  · rename_i before after question
    obtain ⟨rfl, neutral⟩ := splitQuestion_sound question
    split at found
    · cases found
    · rename_i yes no branches
      obtain ⟨rfl, colon⟩ := Scan.splitColon_sound branches
      dsimp only at found
      split at found
      · cases found
      · rename_i filled
        cases found
        exact ⟨before, yes, no, rfl, neutral, colon, by simpa using filled, rfl⟩

theorem template?_mem_readings : template? ∈ readings := by
  simp only [readings, List.mem_cons, true_or, or_true]

theorem sides_within {token text condition operand : Text} {looser : List Text}
    (found : sides token looser text = some (condition, operand)) :
    Text.InOrder [operand] text := by
  obtain ⟨before, behind, rfl, -, equal⟩ := exists_of_sides found
  cases equal
  have whole : Text.InOrder [behind.trim] behind := by
    apply Text.InOrder.of_trim
    simpa using Text.inOrder_singleton [] behind.trim []
  exact (whole.append_left token).append_left before

theorem conditional_within {text : Text} {shape : Shape} (found : conditional? text = some shape) :
    shape.Within text := by
  obtain ⟨before, yes, no, rfl, -, -, -, rfl⟩ := exists_of_conditional? found
  have branches : Text.InOrder [yes, no] (yes ++ ':' :: no) :=
    ⟨[], ':' :: no, rfl, [':'], [], by rw [List.append_nil]; rfl, trivial⟩
  exact (branches.append_left ['?']).append_left before

/-- Every reading of a text keeps to that text. -/
theorem within_of_mem_readings {reading : Text → Option Shape} (listed : reading ∈ readings)
    {text : Text} {shape : Shape} (found : reading text = some shape) : shape.Within text := by
  simp only [readings, List.mem_cons, List.not_mem_nil, or_false] at listed
  rcases listed with rfl | rfl | rfl | rfl | rfl | rfl | rfl
  · cases found
    exact drawn_objectUses text
  · obtain ⟨classes, read, rfl⟩ := Option.map_eq_some_iff.mp found
    exact drawn_literalBody read none
  · obtain ⟨pair, read, rfl⟩ := Option.map_eq_some_iff.mp found
    exact sides_within read
  · obtain ⟨pair, read, rfl⟩ := Option.map_eq_some_iff.mp found
    exact sides_within read
  · obtain ⟨pair, read, rfl⟩ := Option.map_eq_some_iff.mp found
    exact sides_within read
  · exact conditional_within found
  · obtain ⟨parts, read, rfl⟩ := Option.map_eq_some_iff.mp found
    exact Template.read_inOrder read

end Shape

theorem guardAll_classes (condition : Text) (uses : List ClassUse) :
    (guardAll condition uses).map (·.classes) = uses.map (·.classes) := by
  simp only [guardAll, List.map_map]
  rfl

theorem Drawn.guardAll {uses : List ClassUse} {text : Text} (drawn : Drawn uses text)
    (condition : Text) : Drawn (guardAll condition uses) text :=
  drawn.congr (guardAll_classes condition uses)

section Resolve

variable {uses : Text → Except TooDeep (List ClassUse)}

/-- Answers about expressions that are drawn from them. -/
def Sound (uses : Text → Except TooDeep (List ClassUse)) : Prop :=
  ∀ text found, uses text = .ok found → Drawn found text

theorem drawn_resolvePiece (sound : Sound uses) {piece : Piece} {found : List ClassUse}
    (resolved : Shape.resolvePiece uses piece = .ok found) : Drawn found piece.content := by
  cases piece with
  | interpolation text => exact sound text found resolved
  | static text =>
    have equal := (pure_eq_ok _ _).mp resolved
    subst equal
    split
    · exact Drawn.nil _
    · rename_i filled
      exact (Drawn.whole (Text.isTidy_trim (by simpa using filled)) none).of_trim

theorem drawn_pieces (sound : Sound uses) {pieces : List Piece} {found : List (List ClassUse)}
    (resolved : pieces.mapM (Shape.resolvePiece uses) = .ok found) {text : Text}
    (placed : Text.InOrder (pieces.map Piece.content) text) : Drawn found.flatten text := by
  induction pieces generalizing found text with
  | nil =>
    cases (pure_eq_ok _ _).mp (by simpa only [List.mapM_nil] using resolved)
    exact Drawn.nil text
  | cons piece pieces ih =>
    simp only [List.mapM_cons, bind_eq_ok, pure_eq_ok] at resolved
    obtain ⟨first, read, others, readOthers, rfl⟩ := resolved
    obtain ⟨before, after, rfl, rest⟩ := placed
    have front := (drawn_resolvePiece sound read).within before []
    rw [List.append_nil] at front
    exact front.append (ih readOthers rest)

/-- Resolving a shape draws from its text what the expressions inside it draw from theirs. -/
theorem drawn_resolve (sound : Sound uses) {shape : Shape} {text : Text} {found : List ClassUse}
    (within : shape.Within text) (resolved : shape.resolve uses = .ok found) : Drawn found text := by
  cases shape with
  | literal known =>
    cases (pure_eq_ok _ _).mp resolved
    exact within
  | guarded condition operand =>
    obtain ⟨before, after, rfl, -⟩ := within
    refine Drawn.within ?_ before after
    simp only [Shape.resolve] at resolved
    split at resolved
    · rename_i classes body
      cases (pure_eq_ok _ _).mp resolved
      exact (drawn_literalBody body none).guardAll condition
    · obtain ⟨inner, read, equal⟩ := (bind_eq_ok _ _ _).mp resolved
      cases (pure_eq_ok _ _).mp equal
      obtain ⟨left, right, decomposed, -⟩ := stripParens_inOrder operand
      have drawn := ((sound _ inner read).within left right).guardAll condition
      rwa [← decomposed] at drawn
  | branches condition yes no =>
    obtain ⟨before, after, rfl, between, rest, rfl, -⟩ := within
    simp only [Shape.resolve, bind_eq_ok, pure_eq_ok] at resolved
    obtain ⟨whenTrue, readYes, whenFalse, readNo, rfl⟩ := resolved
    have first := ((sound yes whenTrue readYes).guardAll condition).within before []
    have second := ((sound no whenFalse readNo).guardAll (Condition.negate condition)).within
      between rest
    rw [List.append_nil] at first
    exact first.append second
  | template parts =>
    simp only [Shape.resolve, bind_eq_ok, pure_eq_ok] at resolved
    obtain ⟨inner, read, rfl⟩ := resolved
    split
    · exact drawn_pieces sound read within
    · exact Drawn.nil text

theorem exists_of_firstUses {text : Text} {found : List ClassUse}
    {tried : List (Text → Option Shape)} (resolved : Shape.firstUses uses text tried = .ok found) :
    found = [] ∨
      ∃ reading ∈ tried, ∃ shape, reading text = some shape ∧ shape.resolve uses = .ok found := by
  induction tried with
  | nil => exact .inl ((pure_eq_ok _ _).mp resolved).symm
  | cons reading others ih =>
    have later : Shape.firstUses uses text others = .ok found → found = [] ∨
        ∃ other ∈ reading :: others, ∃ shape, other text = some shape ∧
          shape.resolve uses = .ok found := by
      intro remaining
      exact (ih remaining).imp_right fun ⟨other, listed, rest⟩ =>
        ⟨other, List.mem_cons_of_mem _ listed, rest⟩
    simp only [Shape.firstUses] at resolved
    split at resolved
    · exact later resolved
    · rename_i shape read
      obtain ⟨inner, answered, rest⟩ := (bind_eq_ok _ _ _).mp resolved
      split at rest
      · exact later rest
      · cases (pure_eq_ok _ _).mp rest
        exact .inr ⟨reading, List.mem_cons_self, shape, read, answered⟩

/-- The uses of an expression are those of one of its readings, if it has any. -/
theorem exists_of_usesOf {text : Text} {found : List ClassUse}
    (resolved : Shape.usesOf uses text = .ok found) :
    found = [] ∨
      ∃ reading ∈ Shape.readings, ∃ shape, reading text = some shape ∧
        shape.resolve uses = .ok found := by
  unfold Shape.usesOf at resolved
  split at resolved
  · exact .inl ((pure_eq_ok _ _).mp resolved).symm
  · exact exists_of_firstUses resolved

theorem drawn_usesOf (sound : Sound uses) {text : Text} {found : List ClassUse}
    (resolved : Shape.usesOf uses text = .ok found) : Drawn found text := by
  rcases exists_of_usesOf resolved with rfl | ⟨reading, listed, shape, read, answered⟩
  · exact Drawn.nil text
  · exact drawn_resolve sound (Shape.within_of_mem_readings listed read) answered

end Resolve

theorem usesWithin_trim (levels : Nat) (text : Text) :
    usesWithin levels text.trim = usesWithin levels text := by
  cases levels with
  | zero => rfl
  | succ levels => rw [usesWithin, usesWithin, Text.trim_trim]

/-- Whatever the limit, an expression that has a result has its uses drawn from its text. -/
theorem sound_usesWithin (levels : Nat) : Sound (usesWithin levels) := by
  induction levels with
  | zero =>
    intro text found read
    cases read
  | succ levels ih =>
    intro text found read
    exact (drawn_usesOf ih read).of_trim

theorem drawn_form {form : ExpressionForm} {outer inner : Text → Except TooDeep (List ClassUse)}
    (soundOuter : Sound outer) (soundInner : Sound inner) {text : Text} {found : List ClassUse}
    (read : form.usesOf outer inner text = .ok found) : Drawn found text := by
  apply Drawn.of_trim
  cases form with
  | any => exact soundOuter _ found read
  | object =>
    cases (pure_eq_ok _ _).mp read
    exact drawn_objectUses _
  | template =>
    simp only [ExpressionForm.usesOf] at read
    split at read
    · cases (pure_eq_ok _ _).mp read
      exact Drawn.nil _
    · rename_i shape shaped
      have within := Shape.within_of_mem_readings Shape.template?_mem_readings shaped
      exact drawn_resolve soundInner within read

theorem matchOf_eq_some {read : Except TooDeep (List ClassUse)} {uses : List ClassUse}
    (found : matchOf read = some uses) : read = .ok uses ∧ uses ≠ [] := by
  unfold matchOf at found
  split at found
  · rename_i use others
    cases found
    exact ⟨rfl, List.cons_ne_nil use others⟩
  · cases found

theorem drawn_parseForm {form : ExpressionForm} {limit : Int} {text : Text} {uses : List ClassUse}
    (parsed : parseForm form limit text = some uses) : Drawn uses text :=
  drawn_form (sound_usesWithin _) (sound_usesWithin _) (matchOf_eq_some parsed).1

end ClassUsage
