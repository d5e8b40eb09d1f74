import ClassUsage.Source.Volume
import ClassUsage.Text.Lines
import ClassUsage.Text.Utf8

set_option autoImplicit false

/-! Reading the text of source files. -/
namespace ClassUsage

/-- The text of a file with the given bytes, with line feeds for all line ends. -/
def sourceText? (bytes : List UInt8) : Option Text :=
  (Text.ofUtf8? bytes).map Text.withLineFeeds

inductive ReadError where
  /-- The file cannot be opened. -/
  | system (error : SystemError)
  /-- The bytes are no text. -/
  | encoding
deriving DecidableEq, Repr

def Volume.read (volume : Volume) (path : Path) : Except ReadError Text :=
  match volume.lookUp path, volume.openFault path with
  | .error error, _ => .error (.system error)
  | .ok _, some error => .error (.system error)
  | .ok (.file bytes), none =>
    match sourceText? bytes with
    | some text => .ok text
    | none => .error .encoding
  | .ok _, none => .error (.system PathError.isDirectory.system)

end ClassUsage
