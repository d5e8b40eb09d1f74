import ClassUsage.Text.Capitals
import ClassUsage.Text.Quoted

set_option autoImplicit false

/-!
How important a log record is, and the level from which records are written. The level is chosen
once, by a word given for a single run or for all runs. Two words name something else than a level and
are refused.
-/
namespace ClassUsage

/-- The levels of importance, from the highest to the lowest. -/
inductive LogLevel where
  | critical
  | error
  | warning
  | info
  | debug
  /-- Below all records. -/
  | everything
deriving DecidableEq, Repr

namespace LogLevel

/-- The number of a level; a higher one is more important. -/
def number : LogLevel → Nat
  | critical => 50
  | error => 40
  | warning => 30
  | info => 20
  | debug => 10
  | everything => 0

/-- The words for the levels in settings. -/
def words : List (Text × LogLevel) :=
  [("CRITICAL".toList, critical), ("FATAL".toList, critical), ("ERROR".toList, error),
    ("WARNING".toList, warning), ("WARN".toList, warning), ("INFO".toList, info),
    ("DEBUG".toList, debug), ("NOTSET".toList, everything)]

def name (level : LogLevel) : Text :=
  ((words.find? (·.2 == level)).map (·.1)).getD []

inductive WordError where
  /-- The word names a text, which is the name of no level. -/
  | unknownName (name : Text)
  /-- The word names something that is neither a number nor a text, shown as it is here. -/
  | notALevel (shown : Text)
deriving DecidableEq, Repr

def WordError.message : WordError → Text
  | unknownName name => "Unknown level: ".toList ++ name.quoted
  | notALevel shown => "Level not an integer or a valid string: ".toList ++ shown

/-- The ways to write a record, by the sign that marks its fields: what writes them, and how. -/
def styles : List (Text × Text × Text) :=
  [("%".toList, "PercentStyle".toList, "%(levelname)s:%(name)s:%(message)s".toList),
    ("\x7b".toList, "StrFormatStyle".toList,
      "\x7blevelname\x7d:\x7bname\x7d:\x7bmessage\x7d".toList),
    ("$".toList, "StringTemplateStyle".toList,
      "$\x7blevelname\x7d:$\x7bname\x7d:$\x7bmessage\x7d".toList)]

def stylesText : Text :=
  let entry (style : Text × Text × Text) : Text :=
    style.1.quoted ++ ": (<class \x27logging.".toList ++ style.2.1 ++ "\x27>, ".toList ++
      style.2.2.quoted ++ [')']
  ['\x7b'] ++ Text.join ", ".toList (styles.map entry) ++ ['\x7d']

/-- The words that name something else than a level. -/
def otherWords : List (Text × WordError) :=
  [("BASIC_FORMAT".toList, .unknownName "%(levelname)s:%(name)s:%(message)s".toList),
    ("_STYLES".toList, .notALevel stylesText)]

/-- The level that a word stands for; a word that names nothing means warnings. -/
def ofWord (word : Text) : Except WordError LogLevel :=
  match otherWords.lookup word.inCapitals with
  | some refused => .error refused
  | none => .ok ((words.lookup word.inCapitals).getD warning)

/-- The level for the word given for a run and the word given for all runs; an empty word counts as
not given. -/
def chosen (forRun forAll : Option Text) : Except WordError LogLevel :=
  ofWord (((forRun.filter (!·.isEmpty)).or (forAll.filter (!·.isEmpty))).getD "WARNING".toList)

/-- Whether records of a level are written when the level is set to `threshold`. -/
def isWritten (level threshold : LogLevel) : Bool := threshold.number ≤ level.number

end LogLevel

abbrev LogSetting := Option LogLevel

namespace LogSetting

/-- The level in force; as long as none is set, it is that of warnings. -/
def level (setting : LogSetting) : LogLevel := setting.getD .warning

/-- Sets the level, unless one has been set before. Where the word is refused, warnings stay in force and
no later word has an effect. -/
def configure (forRun forAll : Option Text) (setting : LogSetting) :
    LogSetting × Option LogLevel.WordError :=
  match setting with
  | some level => (some level, none)
  | none =>
    match LogLevel.chosen forRun forAll with
    | .ok level => (some level, none)
    | .error error => (some .warning, some error)

end LogSetting

/-- The settings after each of several requests to set the level, with the errors that they end on. -/
def configureAll :
    LogSetting → List (Option Text × Option Text) → List (LogSetting × Option LogLevel.WordError)
  | _, [] => []
  | setting, (forRun, forAll) :: requests =>
    let outcome := setting.configure forRun forAll
    outcome :: configureAll outcome.1 requests

end ClassUsage
