import ClassUsage.Command.Flag

set_option autoImplicit false

/-! How the command is used, in brief and in full. -/
namespace ClassUsage

/-- Lines put together, each with a line feed at its end. -/
def textOfLines (lines : List String) : Text :=
  lines.flatMap fun line => line.toList ++ ['\n']

def usageText : Text :=
  textOfLines
    ["usage: template-class-extractor [-h] [-e EXPRESSION] [--summary]",
      "                                [--log-level LOG_LEVEL]",
      "                                [paths ...]"]

def helpText : Text :=
  usageText ++ textOfLines
    ["",
      "Extract conditional utility classes from JSX, Vue, Svelte, Angular, Solid and",
      "HTML templates.",
      "",
      "positional arguments:",
      "  paths                 Files or directories to scan",
      "",
      "options:",
      "  -h, --help            show this help message and exit",
      "  -e EXPRESSION, --expression EXPRESSION",
      "                        Parse a single class expression instead of files",
      "  --summary             Print class usage summaries instead of raw extractions",
      "  --log-level LOG_LEVEL",
      "                        Logging level (default: $CLASS_EXTRACTOR_LOG_LEVEL or",
      "                        WARNING)"]

def usageErrorText (error : UsageError) : Text :=
  usageText ++ commandName ++ ": error: ".toList ++ error.message ++ ['\n']

end ClassUsage
