import CiteForm.CommandLine.Parse
/-!
# The citation tool's command line

`citation` has five commands: `format` renders a template, `lint` checks its structure,
`labels` lists the argument labels of a bracket shorthand, `combos` renders every non-empty
subset of arguments, and `check` runs a style suite. Every command takes the logging switches
and `-h`.

* `program` — the whole command line.
-/

namespace CiteForm.Tool

open CommandLine

/-- `-h` and `--help`. -/
def helpOption : Argument :=
  { names := ["-h", "--help"], dest := "help", effect := .help,
    help := "show this help message and exit" }

/-- The logging switches every command shares. Logging never changes what a command prints or
returns. -/
def loggingOptions : List Argument :=
  [{ names := ["--debug"], dest := "debug", effect := .raise, help := "Enable debug logging",
     initial := .flag false },
   { names := ["--quiet"], dest := "quiet", effect := .raise,
     help := "Suppress non-error log output", initial := .flag false },
   { names := ["--log-level"], dest := "log_level", effect := .store .text,
     help := "Set log level", choices := ["debug", "info", "warn", "error"],
     initial := .text "warn" }]

/-- A command's grammar: help, the logging switches, then its own arguments. -/
def commandGrammar (name : String) (own : List Argument) : Grammar :=
  { prog := "citation " ++ name, arguments := helpOption :: loggingOptions ++ own }

/-- The template operand. -/
def templateOperand : Argument :=
  { names := [], dest := "template", effect := .store .text, help := "Template text" }

/-- `--fold`: the pieces for the `[*]` fold marks, in order. -/
def foldOption : Argument :=
  { names := ["--fold"], dest := "fold", effect := .append .text, metavar := some "PIECE",
    help := "Piece for the next [*] fold token (can be specified multiple times)",
    initial := .list [] }

/-- The options that give field values: by position, as null by index, and from a file. -/
def valueOptions : List Argument :=
  [{ names := ["--value"], dest := "value", effect := .append .text, metavar := some "VALUE",
     help := "Positional field value (can be specified multiple times)", initial := .list [] },
   { names := ["--null"], dest := "null", effect := .append .integer, metavar := some "INDEX",
     help := "Treat the value at INDEX as null", initial := .list [] },
   { names := ["--values-file"], dest := "values_file", effect := .store .text,
     help := "Path to JSON/YAML list of field values" }]

/-- `format TEMPLATE`: render a template. -/
def formatCommand : Command :=
  ⟨"format", "Render a template",
    commandGrammar "format" (templateOperand :: valueOptions ++ [foldOption])⟩

/-- `lint TEMPLATE`: check a template's structure. -/
def lintCommand : Command :=
  ⟨"lint", "Check template structure",
    commandGrammar "lint"
      [templateOperand, foldOption,
       { names := ["--markers"], dest := "markers", effect := .raise,
         help := "Print positional markers instead of messages", initial := .flag false },
       { names := ["--args"], dest := "args", effect := .store .integer, metavar := some "N",
         help := "Declared argument count; warns when %s count differs (implies --markers)" }]⟩

/-- `labels SPEC`: list the labels of a bracket shorthand. -/
def labelsCommand : Command :=
  ⟨"labels", "Extract argument labels",
    commandGrammar "labels"
      [{ names := [], dest := "spec", effect := .store .text,
         help := "Bracket shorthand, e.g. \"[Author]. [Title].\"" }]⟩

/-- `combos TEMPLATE`: render every non-empty subset of arguments. -/
def combosCommand : Command :=
  ⟨"combos", "Render every non-empty subset of arguments",
    commandGrammar "combos"
      ([templateOperand,
        { names := ["--label"], dest := "label", effect := .append .text, metavar := some "NAME",
          help := "Argument label (can be specified multiple times)", initial := .list [] },
        { names := ["--spec"], dest := "spec", effect := .store .text,
          help := "Bracket shorthand to take labels from" }] ++ valueOptions ++
       [{ names := ["--select"], dest := "select", effect := .append .integer,
          metavar := some "INDEX", help := "Argument index to vary (default: all)" },
        { names := ["--max-combinations"], dest := "max_combinations",
          effect := .store .integer, help := "Maximum number of rows to render",
          initial := .int 4096 }])⟩

/-- `check SUITE`: run a style suite. -/
def checkCommand : Command :=
  ⟨"check", "Run a style suite",
    commandGrammar "check"
      [{ names := [], dest := "suite", effect := .store .text,
         help := "Path to style suite YAML file" },
       { names := ["--template"], dest := "only", effect := .store .text,
         help := "Only run cases of this template" },
       { names := ["--verbose"], dest := "verbose", effect := .raise,
         help := "Print got/want for passing cases too", initial := .flag false }]⟩

/-- The commands, in the order help lists them. -/
def commands : List Command :=
  [formatCommand, lintCommand, labelsCommand, combosCommand, checkCommand]

/-- The whole command line: `-h`, and a command with its own arguments. -/
def program : Program :=
  { grammar :=
      { prog := "citation", description := some "Citation template engine",
        arguments :=
          [helpOption,
           { names := [], dest := "command", effect := .dispatch, help := "Commands",
             choices := commands.map (·.name) }] },
    commands := commands }

end CiteForm.Tool
