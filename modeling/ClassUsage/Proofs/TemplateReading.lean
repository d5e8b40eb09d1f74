import ClassUsage.Proofs.CleanScan
import ClassUsage.Proofs.NestingDepth

set_option autoImplicit false

/-!
Template literals put together from static text and interpolations. They are read as the parts they are
written from, whatever the interpolations hold, and have the uses of these parts in their order.
-/
namespace ClassUsage

def staticUses (text : Text) : List ClassUse :=
  if text.trim.isEmpty then [] else [⟨text.trim, none⟩]

/-- Text that is static wherever it stands between the backticks of a template literal. -/
structure StaticText where
  text : Text
  plain : text.IsQuotable '\x60'
  closed : holdsInterpolation text = false

/-- An expression in a template literal, with the static text behind it. -/
structure Interpolation where
  expression : Text
  contained : expression.IsSelfContained
  behind : StaticText

def Interpolation.text (part : Interpolation) : Text :=
  "$\x7b".toList ++ (part.expression ++ '\x7d' :: part.behind.text)

def templateBody (first : StaticText) (parts : List Interpolation) : Text :=
  first.text ++ parts.flatMap Interpolation.text

def backticked (body : Text) : Text := '\x60' :: body ++ ['\x60']

def templateText (first : StaticText) (parts : List Interpolation) : Text :=
  backticked (templateBody first parts)

theorem isTidy_backticked (body : Text) : (backticked body).IsTidy :=
  Text.isTidy_between (by decide) (by decide) body

theorem template?_backticked (body : Text) :
    Shape.template? (backticked body) = some (.template (Template.ofBody body)) := by
  have last : (body ++ ['\x60']).getLast? = some '\x60' := List.getLast?_concat
  rw [Shape.template?, backticked, List.cons_append, Template.read, if_pos last, List.dropLast_concat]
  rfl

namespace Template

theorem ofBody_escape (c : Char) (rest : Text) :
    ofBody ('\\' :: c :: rest) = consStatic '\\' (consStatic c (ofBody rest)) := by
  rw [ofBody.eq_def]
  rfl

theorem ofBody_mark (rest : Text) : ofBody ('\x60' :: rest) = ⟨[], false⟩ := by
  rw [ofBody.eq_def]
  rfl

theorem ofBody_unclosed {inside : Text} (unclosed : Scan.opened.balanced .curly inside = none) :
    ofBody ('$' :: '{' :: inside) = ⟨[], false⟩ := by
  rw [ofBody.eq_def]
  simp only [Char.reduceEq, ↓reduceIte]
  split
  · rfl
  · rename_i found
    rw [unclosed] at found
    cases found

theorem ofBody_interpolation {inside inner after : Text}
    (closes : Scan.opened.balanced .curly inside = some (inner, after)) :
    ofBody ('$' :: '{' :: inside) = consInterpolation inner (ofBody after) := by
  rw [ofBody.eq_def]
  simp only [Char.reduceEq, ↓reduceIte]
  split
  · rename_i unclosed
    rw [closes] at unclosed
    cases unclosed
  · rename_i found
    rw [closes] at found
    cases found
    rfl

theorem ofBody_static {c : Char} {rest : Text} (notEscape : c ≠ '\\') (notMark : c ≠ '\x60')
    (closed : c = '$' → rest.head? ≠ some '{') :
    ofBody (c :: rest) = consStatic c (ofBody rest) := by
  rw [ofBody.eq_def]
  simp only [notEscape, notMark, ↓reduceIte]
  by_cases dollar : c = '$'
  · rw [if_pos dollar]
    split
    · exact absurd rfl (closed dollar)
    · rfl
  · rw [if_neg dollar]

def staticPieces (text : Text) : List Piece := if text.isEmpty then [] else [.static text]

/-- Static text in front of a literal that begins with none is a part of its own. -/
theorem foldr_consStatic {template : Template}
    (dynamic : ∀ text, template.pieces.head? ≠ some (.static text)) (text : Text) :
    text.foldr consStatic template =
      { template with pieces := staticPieces text ++ template.pieces } := by
  induction text with
  | nil => rfl
  | cons c rest ih =>
    rw [List.foldr_cons, ih]
    cases rest with
    | cons d rest => rfl
    | nil =>
      obtain ⟨pieces, complete⟩ := template
      cases pieces with
      | nil => rfl
      | cons piece pieces =>
        cases piece with
        | static text => exact absurd rfl (dynamic text)
        | interpolation text => rfl

/-- Static text is read up to what does not complete the start of an interpolation at its end. -/
theorem ofBody_append (static : StaticText) {rest : Text} (boundary : rest.head? ≠ some '{') :
    ofBody (static.text ++ rest) = static.text.foldr consStatic (ofBody rest) := by
  obtain ⟨text, plain, closed⟩ := static
  dsimp only
  induction text with
  | nil => rfl
  | cons c behind ih =>
    obtain ⟨⟨notMark, notEscape⟩, others⟩ := List.forall_mem_cons.mp plain
    simp only [holdsInterpolation, Bool.or_eq_false_iff, Bool.and_eq_false_iff,
      beq_eq_false_iff_ne] at closed
    obtain ⟨notOpened, closedBehind⟩ := closed
    have noBrace : c = '$' → (behind ++ rest).head? ≠ some '{' := by
      intro dollar
      cases behind with
      | nil => exact boundary
      | cons d behind => exact notOpened.resolve_left fun notDollar => notDollar dollar
    rw [List.cons_append, ofBody_static notEscape notMark noBrace, ih others closedBehind,
      List.foldr_cons]

theorem complete_consStatic (c : Char) (template : Template) :
    (consStatic c template).complete = template.complete := by
  unfold consStatic
  split
  · rfl
  · rfl

/-- A literal without interpolations that is read to its end is one static text. -/
theorem ofBody_of_closed {body : Text} (closed : holdsInterpolation body = false)
    (complete : (ofBody body).complete = true) : ofBody body = ⟨staticPieces body, true⟩ := by
  have whole : ofBody body = body.foldr consStatic ⟨[], true⟩ := by
    fun_induction ofBody body with
    | case1 => rfl
    | case2 => rfl
    | case3 c rest ih =>
      simp only [holdsInterpolation, Bool.or_eq_false_iff] at closed
      simp only [complete_consStatic] at complete
      rw [ih closed.2.2 complete]
      rfl
    | case4 rest notEscape => cases complete
    | case5 inside unclosed notEscape notMark => cases complete
    | case6 inside inner after found notEscape notMark ih => cases closed
    | case7 rest notOpened notEscape notMark ih =>
      simp only [holdsInterpolation, Bool.or_eq_false_iff] at closed
      rw [complete_consStatic] at complete
      rw [ih closed.2 complete]
      rfl
    | case8 c rest notEscape notMark notDollar ih =>
      simp only [holdsInterpolation, Bool.or_eq_false_iff] at closed
      rw [complete_consStatic] at complete
      rw [ih closed.2 complete]
      rfl
  rw [whole, foldr_consStatic (by simp), List.append_nil]

/-- The parts of a literal are read as they are written. -/
theorem ofBody_templateBody (first : StaticText) (parts : List Interpolation) :
    ofBody (templateBody first parts) =
      ⟨staticPieces first.text ++ parts.flatMap fun part =>
        .interpolation part.expression :: staticPieces part.behind.text, true⟩ := by
  induction parts generalizing first with
  | nil =>
    rw [templateBody, List.flatMap_nil, ofBody_append first (by simp), ofBody,
      foldr_consStatic (by simp)]
    rfl
  | cons part parts ih =>
    have closes : Scan.opened.balanced .curly
        (part.expression ++ '}' :: templateBody part.behind parts) =
          some (part.expression, templateBody part.behind parts) :=
      Scan.closesAfter_of_isSelfContained part.contained .curly _
    have shape : (part :: parts).flatMap Interpolation.text =
        '$' :: '{' :: (part.expression ++ '}' :: templateBody part.behind parts) := by
      simp only [List.flatMap_cons, Interpolation.text, templateBody, List.append_assoc,
        List.cons_append]
      rfl
    have boundary : ((part :: parts).flatMap Interpolation.text).head? ≠ some '{' := by
      rw [shape, List.head?_cons]
      decide
    rw [templateBody, ofBody_append first boundary, shape, ofBody_interpolation closes,
      ih part.behind, foldr_consStatic (by simp [consInterpolation])]
    rfl

def pieceUses : Piece → List ClassUse
  | .static text => staticUses text
  | .interpolation text => (expressionUses text).run

theorem mapM_resolvePiece (pieces : List Piece) :
    (pieces.mapM (Shape.resolvePiece expressionUses)).run = pieces.map pieceUses := by
  induction pieces with
  | nil => rfl
  | cons piece pieces ih =>
    have here : (Shape.resolvePiece expressionUses piece).run = pieceUses piece := by
      cases piece with
      | static text => rfl
      | interpolation text => rfl
    rw [List.mapM_cons, List.map_cons, ← ih, ← here]
    rfl

theorem resolve_complete (pieces : List Piece) :
    ((Shape.template ⟨pieces, true⟩).resolve expressionUses).run = pieces.flatMap pieceUses := by
  rw [List.flatMap_def, ← mapM_resolvePiece]
  rfl

theorem resolve_staticPieces {m : Type → Type} [Monad m] [LawfulMonad m]
    (uses : Text → m (List ClassUse)) (text : Text) :
    (Shape.template ⟨staticPieces text, true⟩).resolve uses = pure (staticUses text) := by
  cases text with
  | nil =>
    simp only [Shape.resolve, staticPieces, List.isEmpty_nil, ↓reduceIte, List.mapM_nil, pure_bind]
    rfl
  | cons c rest =>
    simp only [Shape.resolve, staticPieces, List.isEmpty_cons, Bool.false_eq_true, ↓reduceIte,
      List.mapM_cons, List.mapM_nil, Shape.resolvePiece, pure_bind, List.flatten_singleton]
    rfl

/-- A literal that is not read to its end has no uses. -/
theorem complete_of_resolve {template : Template} {uses : Text → Except TooDeep (List ClassUse)}
    {found : List ClassUse} (resolved : (Shape.template template).resolve uses = .ok found)
    (filled : found ≠ []) : template.complete = true := by
  obtain ⟨pieces, -, kept⟩ := (bind_eq_ok _ _ _).mp resolved
  cases complete : template.complete with
  | true => rfl
  | false =>
    rw [complete] at kept
    exact absurd ((pure_eq_ok _ _).mp kept).symm filled

theorem flatMap_staticPieces (text : Text) : (staticPieces text).flatMap pieceUses = staticUses text := by
  cases text with
  | nil => rfl
  | cons c rest => exact List.append_nil _

end Template

theorem formUses_templateText (first : StaticText) (parts : List Interpolation) :
    (formUses .template (templateText first parts)).run =
      staticUses first.text ++ parts.flatMap fun part =>
        (expressionUses part.expression).run ++ staticUses part.behind.text := by
  have part_uses : ∀ part : Interpolation,
      (Piece.interpolation part.expression :: Template.staticPieces part.behind.text).flatMap
          Template.pieceUses =
        (expressionUses part.expression).run ++ staticUses part.behind.text := by
    intro part
    rw [List.flatMap_cons, Template.flatMap_staticPieces]
    rfl
  rw [formUses, ExpressionForm.usesOf, templateText, (isTidy_backticked _).trimmed,
    template?_backticked]
  dsimp only
  rw [Template.ofBody_templateBody, Template.resolve_complete, List.flatMap_append,
    Template.flatMap_staticPieces, List.flatMap_assoc]
  simp only [part_uses]

theorem matchOf_ok (uses : List ClassUse) :
    matchOf (.ok uses) = if uses = [] then none else some uses := by
  cases uses with
  | nil => rfl
  | cons use others => rfl

theorem getD_matchOf (uses : List ClassUse) : (matchOf (.ok uses)).getD [] = uses := by
  cases uses with
  | nil => rfl
  | cons use others => rfl

theorem length_expression_le {part : Interpolation} {parts : List Interpolation}
    (listed : part ∈ parts) (first : StaticText) :
    part.expression.length ≤ (templateText first parts).length := by
  obtain ⟨before, after, rfl⟩ := List.append_of_mem listed
  simp only [templateText, backticked, templateBody, List.flatMap_append, List.flatMap_cons, Interpolation.text,
    List.length_append, List.length_cons]
  omega

/-- The uses of the static texts and, as far as they are matches, of the interpolations. -/
def templateUses (limit : Int) (first : StaticText) (parts : List Interpolation) : List ClassUse :=
  staticUses first.text ++ parts.flatMap fun part =>
    (parseForm .any limit part.expression).getD [] ++ staticUses part.behind.text

/-- A template literal has the uses of its parts in their order, and is no match if they have none. -/
theorem parseForm_templateText (first : StaticText) (parts : List Interpolation) {limit : Int}
    (enough : ((templateText first parts).length : Int) ≤ limit) :
    parseForm .template limit (templateText first parts) =
      if templateUses limit first parts = [] then none else some (templateUses limit first parts) := by
  have part_uses : ∀ part ∈ parts,
      (expressionUses part.expression).run ++ staticUses part.behind.text =
        (parseForm .any limit part.expression).getD [] ++ staticUses part.behind.text := by
    intro part listed
    have shorter := length_expression_le listed first
    rw [parseForm_eq (by omega), getD_matchOf]
  rw [← matchOf_ok, parseForm_eq_matchOf .template enough, formUses_templateText,
    List.flatMap_congr part_uses, templateUses]

def staticPrice : StaticText := ⟨"a $".toList, Text.forall_mem_of_all (by decide), by decide⟩

def staticBrace : StaticText := ⟨"\x7b b".toList, Text.forall_mem_of_all (by decide), by decide⟩

def nestedTemplate : Interpolation :=
  ⟨"x && `c $\x7by ? 'd' : '\x7d'\x7d`".toList, ⟨by decide, by decide⟩, staticBrace⟩

theorem parseForm_templateText_nested :
    templateText staticPrice [nestedTemplate, nestedTemplate] =
        ("`a $$\x7bx && `c $\x7by ? 'd' : '\x7d'\x7d`\x7d\x7b b" ++
          "$\x7bx && `c $\x7by ? 'd' : '\x7d'\x7d`\x7d\x7b b`").toList ∧
      ((templateText staticPrice [nestedTemplate]).length : Int) ≤ 200 ∧
      parseForm .template 200 (templateText staticPrice [nestedTemplate]) =
        some [⟨"a $".toList, none⟩, ⟨"c".toList, some "x".toList⟩,
          ⟨"d".toList, some "x && y".toList⟩, ⟨"\x7d".toList, some "x && !y".toList⟩,
          ⟨"\x7b b".toList, none⟩] := by
  have short : ((templateText staticPrice [nestedTemplate]).length : Int) ≤ 200 := by decide
  refine ⟨by decide, short, ?_⟩
  exact (parseForm_templateText staticPrice [nestedTemplate] short).trans (by decide +kernel)

end ClassUsage
