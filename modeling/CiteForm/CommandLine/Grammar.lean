import CiteForm.Text.Quoted
/-!
# Command-line grammars

What a command accepts on its command line: options, written with a leading `-` or `--`, and
operands, taken by position. Each argument says what it does when met (a switch, a value kept
or collected, the help text, or a choice of subcommand), how its word is read, and under which
name its value is bound.

* `Argument.label` — how messages name an argument.
* `Argument.placeholder` — the word that stands for an argument's value in usage and help.
-/

namespace CiteForm.CommandLine

/-- How the word given to an argument is read. -/
inductive Reading where
  /-- The word itself. -/
  | text
  /-- A decimal integer. -/
  | integer
  deriving DecidableEq, Repr

/-- What an argument does when it is met. -/
inductive Effect where
  /-- Print the command's help and stop. -/
  | help
  /-- A switch: being present sets it. -/
  | raise
  /-- Take one word and keep the last one given. -/
  | store (r : Reading)
  /-- Take one word and collect every one given, in order. -/
  | append (r : Reading)
  /-- A subcommand's name; every word after it belongs to that subcommand. -/
  | dispatch
  deriving DecidableEq, Repr

/-- How many words an argument takes after it. -/
inductive Arity where
  /-- None. -/
  | zero
  /-- Exactly one. -/
  | one
  /-- A subcommand name and all that follows. -/
  | all
  deriving DecidableEq, Repr

/-- A value left by parsing under an argument's name. -/
inductive Given where
  /-- Nothing given and no default. -/
  | absent
  | flag (b : Bool)
  | text (s : String)
  | int (n : Int)
  | list (xs : List Given)
  deriving Inhabited

/-- One argument of a command line. -/
structure Argument where
  /-- The option names, such as `-h` and `--help`; empty for an operand. -/
  names : List String
  /-- The name its value is bound to. -/
  dest : String
  effect : Effect
  help : String
  /-- The word shown for its value, when not derived from its name. -/
  metavar : Option String := none
  /-- The only words it accepts, when limited. -/
  choices : List String := []
  /-- Its value before anything is parsed. -/
  initial : Given := .absent

namespace Argument

/-- An operand is an argument taken by position, without an option name. -/
def isOperand (a : Argument) : Bool := a.names.isEmpty

/-- The number of words an argument takes. -/
def arity (a : Argument) : Arity :=
  match a.effect with
  | .help | .raise => .zero
  | .store _ | .append _ => .one
  | .dispatch => .all

/-- An operand that takes one word must be given; options and subcommands need not be. -/
def required (a : Argument) : Bool := a.isOperand && a.arity == .one

/-- How messages name an argument: its option names joined by `/`, else the word shown for
it, else its bound name. -/
def label (a : Argument) : String :=
  if a.names.isEmpty then a.metavar.getD a.dest else "/".intercalate a.names

/-- The choices written as a set: `\x7ba,b\x7d`. -/
def choiceSet (a : Argument) : String := "\x7b" ++ ",".intercalate a.choices ++ "\x7d"

/-- The word that stands for an argument's value: the one it names, else its set of choices,
else its bound name, in capitals for an option. -/
def placeholder (a : Argument) : String :=
  match a.metavar with
  | some m => m
  | none =>
    if !a.choices.isEmpty then a.choiceSet
    else if a.isOperand then a.dest
    else a.dest.map Char.toUpper

/-- The words accepted by a limited argument, quoted, for an error message. -/
def choiceList (a : Argument) : String := ", ".intercalate (a.choices.map Text.quote)

end Argument

/-- A command's grammar: its name as shown, a description for its help, and its arguments in
the order they were declared. -/
structure Grammar where
  prog : String
  description : Option String := none
  arguments : List Argument

/-- A subcommand: its name, the line that sums it up, and its own grammar. -/
structure Command where
  name : String
  summary : String
  grammar : Grammar

namespace Grammar

/-- Every option name with its argument, in order of declaration. -/
def optionNames (g : Grammar) : List (String × Argument) :=
  g.arguments.flatMap fun a => a.names.map fun n => (n, a)

/-- The argument with this exact option name. -/
def option? (g : Grammar) (name : String) : Option Argument :=
  (g.optionNames.find? fun p => p.1 == name).map Prod.snd

/-- The options, in order. -/
def options (g : Grammar) : List Argument := g.arguments.filter fun a => !a.isOperand

/-- The operands, in order. -/
def operands (g : Grammar) : List Argument := g.arguments.filter Argument.isOperand

end Grammar

end CiteForm.CommandLine
