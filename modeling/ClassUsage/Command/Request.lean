import ClassUsage.Command.Argument

set_option autoImplicit false

/-!
What a command line asks for. The paths have to stand side by side: what stands apart from the first
of them is left over, and nothing may be left over.
-/
namespace ClassUsage

inductive FlagValue where
  | text (value : Text)
  /-- Two dashes, which mark the end of the flags even as a value, so that no value is left. -/
  | nothing
deriving DecidableEq, Repr

namespace FlagValue

def ofText (written : Text) : FlagValue :=
  if written = "--".toList then nothing else text written

def text? : FlagValue → Option Text
  | text value => some value
  | nothing => none

end FlagValue

structure Settings where
  paths : List Text := []
  expression : Option FlagValue := none
  summary : Bool := false
  logLevel : Option FlagValue := none
deriving DecidableEq, Repr

inductive Request where
  | help
  | run (settings : Settings)
deriving DecidableEq, Repr

inductive PathStage where
  | ahead
  | current
  | past
deriving DecidableEq, Repr

structure Reading where
  settings : Settings := {}
  stage : PathStage := .ahead
  leftOver : List Text := []
deriving DecidableEq, Repr

namespace Reading

/-- Reads a path, or leaves it over if it stands apart from the others. -/
def addPath (reading : Reading) (text : Text) : Reading :=
  if reading.stage = .past then { reading with leftOver := reading.leftOver ++ [text] }
  else
    { reading with
      settings := { reading.settings with paths := reading.settings.paths ++ [text] }
      stage := .current }

/-- Reads two dashes, which belong to the paths behind them. -/
def addSeparator (reading : Reading) : Reading :=
  if reading.stage = .past then { reading with leftOver := reading.leftOver ++ ["--".toList] }
  else { reading with stage := .current }

def endPaths (reading : Reading) : Reading :=
  if reading.stage = .current then { reading with stage := .past } else reading

def leave (reading : Reading) (text : Text) : Reading :=
  { reading with leftOver := reading.leftOver ++ [text] }

/-- Reads a flag with its value. Help is not a setting. -/
def set (reading : Reading) (value : Option FlagValue) : Flag → Reading
  | .help => reading
  | .expression => { reading with settings := { reading.settings with expression := value } }
  | .summary => { reading with settings := { reading.settings with summary := true } }
  | .logLevel => { reading with settings := { reading.settings with logLevel := value } }

def finish (reading : Reading) : Except UsageError Request :=
  if reading.leftOver.isEmpty then .ok (.run reading.settings)
  else .error (.unrecognized reading.leftOver)

end Reading

/-- Flags written together, and the value attached to the last of them. -/
structure FlagGroup where
  before : List Flag
  last : Flag
  value : Option Text
deriving DecidableEq, Repr

namespace FlagGroup

def cons (flag : Flag) (group : FlagGroup) : FlagGroup :=
  { group with before := flag :: group.before }

def ofFlag (flag : Flag) (value : Option Text) : Except UsageError FlagGroup :=
  match value with
  | none => .ok ⟨[], flag, none⟩
  | some value =>
    if flag.takesValue then .ok ⟨[], flag, some value⟩ else .error (.unwantedValue flag value)

/-- The flags behind one dash. What is attached to a flag is its value if it has one, and else the
letters of further flags. -/
def ofLetters (flag : Flag) (attached : Text) : Except UsageError FlagGroup :=
  if flag.takesValue then ofFlag flag (some attached)
  else
    match attached with
    | [] => ofFlag flag (some [])
    | c :: rest =>
      match Flag.ofSpelling? ['-', c] with
      | none => ofFlag flag (some (c :: rest))
      | some next =>
        (if rest.isEmpty then ofFlag next none else ofLetters next rest).map (cons flag)

/-- Whether the value has to come from the next argument. -/
def awaitsValue (group : FlagGroup) : Bool := group.last.takesValue && group.value.isNone

def asksForHelp (group : FlagGroup) : Bool := (group.before ++ [group.last]).contains .help

end FlagGroup

/-- What an argument says: nothing but text, a group of flags, or that it is at fault. -/
def Argument.flags? : Argument → Except UsageError (Option FlagGroup)
  | .flag found value => (FlagGroup.ofFlag found value).map some
  | .letters found behind => (FlagGroup.ofLetters found behind).map some
  | _ => .ok none

def Reading.addText (reading : Reading) : Argument → Reading
  | .plain text => reading.addPath text
  | .separator => reading.addSeparator
  | .unknown text => reading.endPaths.leave text
  | _ => reading

/-- Reads arguments from left to right. Help is given at once, whatever follows. -/
def readArguments (reading : Reading) : List Argument → Except UsageError Request
  | [] => reading.finish
  | argument :: others =>
    match argument.flags? with
    | .error error => .error error
    | .ok none => readArguments (reading.addText argument) others
    | .ok (some group) =>
      if group.awaitsValue then
        match others with
        | .plain value :: others =>
          if group.asksForHelp then .ok .help
          else readArguments (reading.endPaths.set (some (.ofText value)) group.last) others
        | _ => .error (.missingValue group.last)
      else if group.asksForHelp then .ok .help
      else readArguments (reading.endPaths.set (group.value.map .ofText) group.last) others

def readCommandLine (arguments : List Text) : Except UsageError Request := do
  readArguments {} (← Argument.classifyAll arguments)

end ClassUsage
