import ClassUsage.Text.Basic

set_option autoImplicit false

/-!
Trimming shortens a text and leaves nothing blank at its ends.
-/
namespace ClassUsage.Text

theorem length_trimStart_le (text : Text) : text.trimStart.length ≤ text.length :=
  (List.dropWhile_sublist _).length_le

theorem length_trimEnd_le (text : Text) : text.trimEnd.length ≤ text.length := by
  have := length_trimStart_le text.reverse
  simpa [trimEnd] using this

theorem length_trim_le (text : Text) : text.trim.length ≤ text.length :=
  Nat.le_trans (length_trimEnd_le _) (length_trimStart_le _)

theorem eq_of_after {start text rest : Text} (found : text.after? start = some rest) :
    text = start ++ rest := by
  induction start generalizing text with
  | nil => simpa [after?] using found
  | cons c start ih =>
    cases text with
    | nil => simp [after?] at found
    | cons d others =>
      simp only [after?] at found
      split at found
      · rename_i equal
        rw [equal, ih found]
        rfl
      · contradiction

end ClassUsage.Text
