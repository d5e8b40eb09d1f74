import ClassUsage.Text.Basic

set_option autoImplicit false

/-!
Words in the capital letters of ASCII. Besides the small letters of ASCII, a few letters and
ligatures have capital forms that are made of such letters alone.
-/
namespace ClassUsage

/-- The characters outside ASCII whose capital form is in ASCII, with that form. -/
def foreignCapitals : List (Char × Text) :=
  [('\u00df', "SS".toList), ('\u0131', "I".toList), ('\u017f', "S".toList),
    ('\ufb00', "FF".toList), ('\ufb01', "FI".toList), ('\ufb02', "FL".toList),
    ('\ufb03', "FFI".toList), ('\ufb04', "FFL".toList), ('\ufb05', "ST".toList),
    ('\ufb06', "ST".toList)]

/-- The capital form of a character if it is in ASCII, and else the character itself. -/
def capitalForm (c : Char) : Text := (foreignCapitals.lookup c).getD [c.toUpper]

/-- The text with capital forms in place of all characters that have one in ASCII. -/
def Text.inCapitals (text : Text) : Text := text.flatMap capitalForm

end ClassUsage
