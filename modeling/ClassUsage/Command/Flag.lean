import ClassUsage.Text.Quoted

set_option autoImplicit false

/-! The flags of the command line, and what can be wrong with its arguments. -/
namespace ClassUsage

inductive Flag where
  | help
  | expression
  | summary
  | logLevel
deriving DecidableEq, Repr

def commandName : Text := "template-class-extractor".toList

namespace Flag

/-- All spellings of flags, in the order in which messages list them. -/
def spellings : List (Text × Flag) :=
  [("-h".toList, help), ("--help".toList, help), ("-e".toList, expression),
    ("--expression".toList, expression), ("--summary".toList, summary),
    ("--log-level".toList, logLevel)]

def ofSpelling? (spelling : Text) : Option Flag := spellings.lookup spelling

/-- All spellings of one flag, with slashes between them. -/
def title (flag : Flag) : Text :=
  Text.join ['/'] ((spellings.filter (·.2 == flag)).map (·.1))

def takesValue : Flag → Bool
  | expression | logLevel => true
  | help | summary => false

end Flag

inductive UsageError where
  | missingValue (flag : Flag)
  | unwantedValue (flag : Flag) (value : Text)
  | ambiguous (given : Text) (candidates : List Text)
  | unrecognized (arguments : List Text)
deriving DecidableEq, Repr

def UsageError.message : UsageError → Text
  | missingValue flag => "argument ".toList ++ flag.title ++ ": expected one argument".toList
  | unwantedValue flag value =>
    "argument ".toList ++ flag.title ++ ": ignored explicit argument ".toList ++ value.quoted
  | ambiguous given candidates =>
    "ambiguous option: ".toList ++ given ++ " could match ".toList ++
      Text.join ", ".toList candidates
  | unrecognized arguments => "unrecognized arguments: ".toList ++ Text.join [' '] arguments

end ClassUsage
