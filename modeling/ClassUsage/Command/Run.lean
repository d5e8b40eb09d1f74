import ClassUsage.Command.Request
import ClassUsage.Command.Usage
import ClassUsage.Document.Encoding
import ClassUsage.Json.Printer
import ClassUsage.Log.Level
import ClassUsage.Source.Content
import ClassUsage.Source.Listing

set_option autoImplicit false

/-!
A run of the command: reports on source files or on a single expression. A file that cannot be
opened is reported in the log, and the others are still read. A file that is no text ends the run, and so
does a path that the system refuses to look up.
-/
namespace ClassUsage

structure LogRecord where
  level : LogLevel
  message : Text
deriving DecidableEq, Repr

structure Outcome where
  exitCode : Nat
  output : Text
  usage : Option Text
  records : List LogRecord
deriving DecidableEq, Repr

inductive Interrupted where
  | undecodable (path : Path)
  /-- The flag for an expression has been given without one. -/
  | noExpression
  | refused (path : Path) (error : SystemError)
  /-- The word for the log level names something else. -/
  | noLevel (error : LogLevel.WordError)
deriving DecidableEq, Repr

def Interrupted.message : Interrupted → Text
  | undecodable path => "Not a text in UTF-8: ".toList ++ path.text
  | noExpression => "No expression is given".toList
  | refused path error => error.report path.text
  | noLevel error => error.message

inductive Unexpanded where
  /-- The path, as it is given, leads to neither a file nor a directory. -/
  | nowhere (given : Text)
  | refused (path : Path) (error : SystemError)
deriving DecidableEq, Repr

def nowhereRecord (given : Text) : LogRecord :=
  ⟨.error, "No such file or directory: ".toList ++ given⟩

def expandPath (volume : Volume) (text : Text) : Except Unexpanded (List Path) :=
  let path := Path.ofText text
  match volume.lookUp path with
  | .ok (.directory _) => .ok ((volume.sourcesBelow path).map Place.path)
  | .ok (.file _) => .ok [path]
  | .ok (.link _) => .error (.nowhere text)
  | .error error => .error (if error.isAbsence then .nowhere text else .refused path error)

def expandPaths (volume : Volume) (texts : List Text) : Except Unexpanded (List Path) :=
  (texts.mapM (expandPath volume)).map List.flatten

def fileReport (summary : Bool) (path : Path) (document : Text) : Json :=
  .ofFields
    ([("file", .string path.text),
      ("dialect", (path.dialect?.map fun dialect => Json.string dialect.name).getD .null)] ++
      if summary then (summarize document).fields
      else [("extractions", Extraction.listToJson (extractAll document))])

/-- Reports on source files, and records on those that cannot be opened. -/
structure Scanned where
  reports : List Json
  records : List LogRecord

def unreadableRecord (path : Path) (error : SystemError) : LogRecord :=
  ⟨.error, "Error reading ".toList ++ path.text ++ ": ".toList ++ error.report path.text⟩

def scanFiles (volume : Volume) (summary : Bool) : List Path → Except Interrupted Scanned
  | [] => .ok ⟨[], []⟩
  | path :: paths =>
    match volume.read path with
    | .error .encoding => .error (.undecodable path)
    | .error (.system error) =>
      (scanFiles volume summary paths).map fun scanned =>
        { scanned with records := unreadableRecord path error :: scanned.records }
    | .ok document =>
      (scanFiles volume summary paths).map fun scanned =>
        { scanned with reports := fileReport summary path document :: scanned.reports }

def expressionReport (expression : Text) : Json :=
  let uses := parseExpression expression
  .ofFields
    [("expression", .string expression), ("matched", .bool uses.isSome),
      ("conditional_classes", ClassUse.listToJson (uses.getD []))]

/-- A value as a line of output of its own. -/
def outputLine (json : Json) : Text := json.print ++ ['\n']

def runOnPaths (volume : Volume) (settings : Settings) : Except Interrupted Outcome :=
  match expandPaths volume settings.paths with
  | .error (.nowhere given) => .ok ⟨1, [], none, [nowhereRecord given]⟩
  | .error (.refused path error) => .error (.refused path error)
  | .ok paths =>
    (scanFiles volume settings.summary paths).map fun scanned =>
      ⟨if scanned.records.isEmpty then 0 else 1, outputLine (.array scanned.reports), none,
        scanned.records⟩

def runWith (volume : Volume) (settings : Settings) : Except Interrupted Outcome :=
  match settings.expression with
  | some (.text expression) => .ok ⟨0, outputLine (expressionReport expression), none, []⟩
  | some .nothing => .error .noExpression
  | none =>
    if settings.paths.isEmpty then .ok ⟨2, [], some usageText, []⟩
    else runOnPaths volume settings

/-- The outcome with only the records that are written at a level. -/
def Outcome.atLevel (level : LogLevel) (outcome : Outcome) : Outcome :=
  { outcome with records := outcome.records.filter (·.level.isWritten level) }

/-- The level at which a run writes records, where the given word holds for all runs. -/
def Settings.level (settings : Settings) (levelForAll : Option Text) :
    Except LogLevel.WordError LogLevel :=
  LogLevel.chosen (settings.logLevel.bind FlagValue.text?) levelForAll

/-- A run of the command. The level is set before anything else is done. -/
def runCommand (volume : Volume) (levelForAll : Option Text) (arguments : List Text) :
    Except Interrupted Outcome :=
  match readCommandLine arguments with
  | .error error => .ok ⟨2, [], some (usageErrorText error), []⟩
  | .ok .help => .ok ⟨0, helpText, none, []⟩
  | .ok (.run settings) =>
    match settings.level levelForAll with
    | .error error => .error (.noLevel error)
    | .ok level => (runWith volume settings).map (·.atLevel level)

end ClassUsage
