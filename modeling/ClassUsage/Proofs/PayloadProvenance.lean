import ClassUsage.Attribute.Jsx
import ClassUsage.Attribute.Plain
import ClassUsage.Proofs.ExpressionProvenance

set_option autoImplicit false

/-! Where the class lists of attribute values come from. -/
namespace ClassUsage

theorem drawn_plainUses (value : Text) : Drawn (plainUses value) value := by
  unfold plainUses
  split
  · exact Drawn.nil value
  · rename_i filled
    exact (Drawn.whole (Text.isTidy_trim (by simpa using filled)) none).of_trim

theorem drawn_directiveUses {name : Text} (tidy : name.IsTidy) (condition : Text) :
    Drawn (directiveUses name condition) name := by
  unfold directiveUses
  split
  · exact Drawn.nil name
  · split
    · exact Drawn.whole tidy none
    · exact Drawn.whole tidy _

theorem drawn_getD_parseForm (form : ExpressionForm) (limit : Int) (text : Text) :
    Drawn ((parseForm form limit text).getD []) text := by
  cases parsed : parseForm form limit text with
  | none => exact Drawn.nil text
  | some uses => exact drawn_parseForm parsed

theorem argumentElements_inOrder (argument : Text) :
    Text.InOrder (argumentElements argument) argument := by
  unfold argumentElements
  split
  · rename_i inner found
    obtain ⟨before, after, decomposed, -⟩ := unwrap_inOrder found
    rw [decomposed]
    exact (splitTopLevel_inOrder _ inner).within before after
  · simpa using Text.inOrder_singleton [] argument []

theorem drawn_argumentUses {arguments : List Text} {text : Text}
    (placed : Text.InOrder arguments text) : Drawn (argumentUses arguments) text := by
  have elements := placed.flatMap fun argument _ => argumentElements_inOrder argument
  rw [← List.map_id (arguments.flatMap argumentElements)] at elements
  exact Drawn.flatMap elements fun element _ => drawn_getD_parseForm .any defaultDepthLimit element

theorem drawn_bindingUses (value : Text) : Drawn (bindingUses value) value := by
  apply Drawn.of_trim
  unfold bindingUses
  dsimp only
  split
  · exact Drawn.nil _
  · exact drawn_getD_parseForm .object defaultDepthLimit _
  · split
    · rename_i inner found
      obtain ⟨before, after, decomposed, -⟩ := unwrap_inOrder found
      rw [decomposed]
      exact (drawn_argumentUses (splitTopLevel_inOrder _ inner)).within before after
    · exact Drawn.nil _
  · rename_i filled notObject notArray
    cases parsed : parseExpression value.trim with
    | none => exact Drawn.whole (Text.isTidy_trim fun empty => filled empty) none
    | some uses => exact drawn_parseForm parsed

theorem helperArguments_inOrder (content : Text) :
    Text.InOrder (helperArguments content) content := by
  unfold helperArguments
  cases found : unwrap .square .square content with
  | none => exact splitTopLevel_inOrder _ content
  | some inner =>
    obtain ⟨before, after, decomposed, -⟩ := unwrap_inOrder found
    rw [decomposed]
    exact (splitTopLevel_inOrder _ inner).within before after

end ClassUsage
