import ClassUsage.Text.Basic

set_option autoImplicit false

/-! Line ends. -/
namespace ClassUsage.Text

/-- The text in which each line ends in a line feed alone, where it was a carriage return or both. -/
def withLineFeeds : Text → Text
  | [] => []
  | '\r' :: '\n' :: rest => '\n' :: withLineFeeds rest
  | c :: rest => (if c = '\r' then '\n' else c) :: withLineFeeds rest

end ClassUsage.Text
