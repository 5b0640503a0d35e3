import CiteForm.CommandLine.Help
import CiteForm.Decimal.Read
/-!
# Parsing a command line

A command line is read in two passes. The first takes each word as an operand, as the marker
`--` after which every word is an operand, or as an option: an exact option name, a name with
`=value` attached, a unique prefix of a long name, or a short name with its value run on. The
second walks the words, alternately filling operands by position and taking options with the
words they need, and binds the values read.

A word that looks like an option but names none is left over, as is every word that nothing
takes; the caller decides what to do with leftovers. An operand that must be given and was not
is an error. Asking for help stops parsing with the help text.

* `Grammar.scan` — parses words against one grammar, keeping the leftovers.
* `Program.parse` — parses a whole command line, a subcommand taking the words after its name.
-/

namespace CiteForm.CommandLine

/-- What an option that takes one word holds: the value read from that word, or nothing at all
when the word attached to it is the marker `--` (as in `--value=--`). The marker is dropped
from the words an option takes, and the option is left holding an empty list of words. -/
inductive Held (α : Type) where
  | value (a : α)
  | empty
  deriving DecidableEq, Repr

/-- The value held, or `d` when nothing is. -/
def Held.getD {α : Type} (h : Held α) (d : α) : α :=
  match h with
  | .value a => a
  | .empty => d

/-- A value as an option holds it: the empty list of words is an empty hold, and `read` says
which other values are of the kind wanted. -/
def Given.held? {α : Type} (read : Given → Option α) : Given → Option (Held α)
  | .list [] => some .empty
  | g => (read g).map .value

/-- The text of a value, if it is one. -/
def Given.text? : Given → Option String
  | .text s => some s
  | _ => none

/-- The integer of a value, if it is one. -/
def Given.int? : Given → Option Int
  | .int n => some n
  | _ => none

/-- Values bound by parsing, by name, in the order first bound. -/
abbrev Bindings := List (String × Given)

namespace Bindings

/-- The value bound to a name, absent when none is. -/
def get (b : Bindings) (name : String) : Given :=
  ((b.find? fun p => p.1 == name).map Prod.snd).getD .absent

/-- Binds a name, replacing its value if it has one. -/
def set (b : Bindings) (name : String) (v : Given) : Bindings :=
  if b.any (fun p => p.1 == name) then b.map fun p => if p.1 == name then (name, v) else p
  else b ++ [(name, v)]

/-- The text bound to a name. -/
def text? (b : Bindings) (name : String) : Option String :=
  (b.get name).text?

/-- Whether a switch is set. -/
def flag (b : Bindings) (name : String) : Bool :=
  match b.get name with
  | .flag v => v
  | _ => false

/-- The text an option holds, if it was given one or given `--`. -/
def heldText? (b : Bindings) (name : String) : Option (Held String) :=
  (b.get name).held? Given.text?

/-- The integer an option holds, if it was given one or given `--`, or has one by default. -/
def heldInt? (b : Bindings) (name : String) : Option (Held Int) :=
  (b.get name).held? Given.int?

/-- The texts collected under a name, each as held. -/
def heldTexts (b : Bindings) (name : String) : List (Held String) :=
  match b.get name with
  | .list xs => xs.filterMap (Given.held? Given.text?)
  | _ => []

/-- The integers collected under a name, each as held, or none if nothing was collected and
there is no default. -/
def heldInts? (b : Bindings) (name : String) : Option (List (Held Int)) :=
  match b.get name with
  | .list xs => some (xs.filterMap (Given.held? Given.int?))
  | _ => none

end Bindings

/-- Why parsing ended early. -/
inductive Stop where
  /-- Help was asked for; the text to print. -/
  | help (text : String)
  /-- The command line is wrong: the usage of the command at fault, its name, and what is
  wrong. -/
  | misuse (usage prog message : String)

namespace Stop

/-- The exit status: success after help, 2 for a wrong command line. -/
def exitCode : Stop → Nat
  | .help _ => 0
  | .misuse .. => 2

/-- What goes to standard output: the help text. -/
def out : Stop → String
  | .help t => t
  | .misuse .. => ""

/-- What goes to standard error: the usage, then `prog: error: message`. -/
def err : Stop → String
  | .help _ => ""
  | .misuse u p m => u ++ p ++ ": error: " ++ m ++ "\n"

end Stop

/-- An option as written: the argument it names (none when it names none of this grammar),
the option name matched, and the word attached to it. -/
structure OptionWord where
  argument : Option Argument
  name : String
  attached : Option String

/-- How a word of the command line is taken before any value is read. -/
inductive Word where
  | operand
  /-- The `--` after which every word is an operand. -/
  | marker
  | option (o : OptionWord)

/-- Whether a word is taken as an option. -/
def Word.isOption : Word → Bool
  | .option _ => true
  | _ => false

/-- Whether a word is the marker `--`. -/
def Word.isMarker : Word → Bool
  | .marker => true
  | _ => false

/-- Splits a text at its first `=`: what stands before it and, if there is one, what follows. -/
def splitEquals (s : String) : String × Option String :=
  match s.toList.span (· != '=') with
  | (_, []) => (s, none)
  | (a, _ :: r) => (String.ofList a, some (String.ofList r))

/-- A word that reads as a negative number: `-` and decimal digits, or `-`, digits, a point
and at least one digit; one final line break is allowed. -/
def looksNegative (s : String) : Bool :=
  let cs := s.toList
  let cs := if cs.getLast? == some '\n' then cs.dropLast else cs
  match cs with
  | '-' :: r =>
    match r.span Text.isDecimalDigit with
    | (whole, []) => !whole.isEmpty
    | (_, '.' :: frac) => !frac.isEmpty && frac.all Text.isDecimalDigit
    | _ => false
  | _ => false

namespace Grammar

/-- Whether some option name of the grammar reads as a negative number; then words that do
are options, not operands. -/
def hasNumericOption (g : Grammar) : Bool := g.optionNames.any fun p => looksNegative p.1

/-- The options a word may stand for, in order of declaration: for `--name`, every long name
it begins, the text after an `=` attached; for `-x...`, the short name `-x` with the rest
attached, and every name the whole word begins. -/
def candidates (g : Grammar) (w : String) : List OptionWord :=
  match w.toList with
  | '-' :: '-' :: _ =>
    let (pre, after) := splitEquals w
    g.optionNames.filterMap fun (n, a) =>
      if n.startsWith pre then some ⟨some a, n, after⟩ else none
  | '-' :: c :: more =>
    g.optionNames.filterMap fun (n, a) =>
      if n == String.ofList ['-', c] then some ⟨some a, n, some (String.ofList more)⟩
      else if n.startsWith w then some ⟨some a, n, none⟩
      else none
  | _ => []

/-- How a word is taken. Not starting with `-`, or `-` alone, it is an operand; an exact
option name is that option, as is a name with `=value`; else the options it may abbreviate
decide, and more than one is an error. A word that names nothing is an unknown option, unless
it reads as a negative number or holds a space. -/
def classify (g : Grammar) (w : String) : Except String (Option OptionWord) :=
  match w.toList with
  | [] => .ok none
  | c :: rest =>
    if c != '-' then .ok none
    else match g.option? w with
    | some a => .ok (some ⟨some a, w, none⟩)
    | none =>
      if rest.isEmpty then .ok none
      else
        let direct : Option OptionWord := match splitEquals w with
          | (head, some after) => (g.option? head).map fun a => ⟨some a, head, some after⟩
          | _ => none
        match direct with
        | some o => .ok (some o)
        | none =>
          match g.candidates w with
          | [o] => .ok (some o)
          | [] =>
            if (looksNegative w && !g.hasNumericOption) || w.contains ' ' then .ok none
            else .ok (some ⟨none, w, none⟩)
          | os => .error ("ambiguous option: " ++ w ++ " could match " ++
              ", ".intercalate (os.map (·.name)))

/-- How each word is taken; every word after the first `--` is an operand. -/
def classifyAll (g : Grammar) : List String → Except String (List Word)
  | [] => .ok []
  | w :: rest =>
    if w == "--" then .ok (.marker :: rest.map fun _ => .operand)
    else do
      let o ← g.classify w
      let tail ← g.classifyAll rest
      pure ((match o with
        | some o => Word.option o
        | none => Word.operand) :: tail)

end Grammar

/-- How many `--` markers lead a list of words. -/
def markersAhead (ws : List Word) : Nat := (ws.takeWhile Word.isMarker).length

/-- How many of the next words an operand of this arity takes: markers, then its operand
word and the markers after it, or for a subcommand every word left; none when the words do
not start with an operand. -/
def Arity.span : Arity → List Word → Option Nat
  | .zero, ws => some (markersAhead ws)
  | .one, ws =>
    let m := markersAhead ws
    match ws.drop m with
    | .operand :: more => some (m + 1 + markersAhead more)
    | _ => none
  | .all, ws =>
    let m := markersAhead ws
    match ws.drop m with
    | .operand :: more => some (m + 1 + more.length)
    | _ => none

/-- How many of the next words an option of this arity takes. A marker is never the value of
an option: a value must be the very next word, and an operand. -/
def Arity.optionSpan : Arity → List Word → Option Nat
  | .zero, _ => some 0
  | _, .operand :: _ => some 1
  | _, _ => none

/-- How many words each of the leading operands takes, for as many operands as the words
fill. -/
def spans : List Argument → List Word → List Nat
  | [], _ => []
  | a :: as, ws =>
    match a.arity.span ws with
    | some n => n :: spans as (ws.drop n)
    | none => []

/-- The state of a parse: the values bound, the arguments met, the words left over, those a
subcommand left over, and the operands still to fill. -/
structure Progress where
  bindings : Bindings
  seen : List String
  extras : List String
  later : List String
  operands : List Argument

/-- Parsing, which may stop early. -/
abbrev ScanM := StateT Progress (Except Stop)

/-- A subcommand's parse of the words after its name. -/
abbrev Enter := String → List String → Except Stop (Bindings × List String)

/-- One parse: the grammar, its page, the summaries of its subcommands, how to parse a
subcommand, and the words with how each is taken. -/
structure Scan where
  grammar : Grammar
  page : Page
  summaries : List (String × String)
  enter : Enter
  args : List String
  words : List Word

namespace Scan

/-- Stops with a message about the command line. -/
def fail {α : Type} (s : Scan) (msg : String) : ScanM α :=
  throw (.misuse (s.grammar.usage s.page) s.grammar.prog msg)

/-- Stops with a message about one argument. -/
def failAt {α : Type} (s : Scan) (a : Argument) (msg : String) : ScanM α :=
  s.fail ("argument " ++ a.label ++ ": " ++ msg)

/-- The value of one word: read as the argument reads it, and one of its choices if it has
any. -/
def read (s : Scan) (a : Argument) (r : Reading) (w : String) : ScanM Given := do
  let v ← match r with
    | .text => pure (Given.text w)
    | .integer =>
      match Decimal.readInteger? w.toList with
      | some n => pure (Given.int n)
      | none => s.failAt a ("invalid int value: " ++ Text.quote w)
  if !a.choices.isEmpty && !a.choices.contains w then
    s.failAt a ("invalid choice: " ++ Text.quote w ++ " (choose from " ++ a.choiceList ++ ")")
  pure v

/-- The value of the words an argument took, less the first `--` marker among them: a single
word gives its value, any other number a list. -/
def values (s : Scan) (a : Argument) (r : Reading) (ws : List String) : ScanM Given := do
  match ws.erase "--" with
  | [w] => s.read a r w
  | ws => return .list (← ws.mapM (s.read a r))

/-- Binds a name. -/
def bind (name : String) (v : Given) : ScanM Unit :=
  modify fun p => { p with bindings := p.bindings.set name v }

/-- A value added to what was collected. -/
def collect : Given → Given → Given
  | .list xs, v => .list (xs ++ [v])
  | _, v => .list [v]

/-- Does what an argument does with the words it took. -/
def apply (s : Scan) (a : Argument) (ws : List String) : ScanM Unit := do
  modify fun p => { p with seen := a.dest :: p.seen }
  match a.effect with
  | .help => throw (.help (s.grammar.helpText s.page s.summaries))
  | .raise => bind a.dest (.flag true)
  | .store r => bind a.dest (← s.values a r ws)
  | .append r =>
    let v ← s.values a r ws
    modify fun p => { p with bindings := p.bindings.set a.dest (collect (p.bindings.get a.dest) v) }
  | .dispatch =>
    match ws with
    | [] => pure ()
    | name :: rest =>
      if !a.choices.isEmpty && !a.choices.contains name then
        s.failAt a ("invalid choice: " ++ Text.quote name ++ " (choose from " ++
          a.choiceList ++ ")")
      bind a.dest (.text name)
      match s.enter name rest with
      | .error e => throw e
      | .ok (b, extra) =>
        let merge (p : Progress) : Progress :=
          { p with bindings := b.foldl (fun acc kv => acc.set kv.1 kv.2) p.bindings }
        modify fun p => { merge p with later := p.later ++ extra }

/-- Sets a word aside as left over. -/
def leave (ws : List String) : ScanM Unit :=
  modify fun p => { p with extras := p.extras ++ ws }

/-- The arguments an option word at `i` stands for, each with its words, and the index after
them. A short switch with more letters run on is followed by the switch its next letter
names, with the letters after that run on; a letter naming none is an error, as is an attached
word that the option cannot take. -/
def gather (s : Scan) (i : Nat) :
    Nat → Argument → String → Option String → List (Argument × List String) →
      ScanM (List (Argument × List String) × Nat)
  | 0, _, _, _, acc => pure (acc, i + 1)
  | fuel + 1, a, name, attached, acc =>
    match attached with
    | some x =>
      match a.arity, name.toList[1]?, x.toList with
      | .zero, some second, c :: tail =>
        if second == '-' then s.failAt a ("ignored explicit argument " ++ Text.quote x)
        else
          let next := String.ofList ['-', c]
          match s.grammar.option? next with
          | some b =>
            s.gather i fuel b next (if tail.isEmpty then none else some (String.ofList tail))
              (acc ++ [(a, [])])
          | none => s.failAt a ("ignored explicit argument " ++ Text.quote x)
      | .zero, _, _ => s.failAt a ("ignored explicit argument " ++ Text.quote x)
      | _, _, _ => pure (acc ++ [(a, [x])], i + 1)
    | none =>
      match a.arity.optionSpan (s.words.drop (i + 1)) with
      | some n => pure (acc ++ [(a, (s.args.drop (i + 1)).take n)], i + 1 + n)
      | none => s.failAt a "expected one argument"

/-- Takes the option word at `i` with the words it needs; the index after them. -/
def takeOption (s : Scan) (i : Nat) (o : OptionWord) : ScanM Nat := do
  match o.argument with
  | none =>
    leave ((s.args.drop i).take 1)
    pure (i + 1)
  | some a =>
    let fuel := (o.attached.map String.length).getD 0 + 1
    let (acts, stop) ← s.gather i fuel a o.name o.attached []
    for (b, ws) in acts do
      s.apply b ws
    pure stop

/-- Fills as many of the remaining operands as the words from `i` allow; the index after
the words they took. -/
def takeOperands (s : Scan) (i : Nat) : ScanM Nat := do
  let p ← get
  let counts := spans p.operands (s.words.drop i)
  let mut j := i
  for (a, n) in p.operands.zip counts do
    s.apply a ((s.args.drop j).take n)
    j := j + n
  modify fun q => { q with operands := q.operands.drop counts.length }
  pure j

/-- The index of the first option word at or after `i`. -/
def nextOption (s : Scan) (i : Nat) : Option Nat :=
  ((s.words.drop i).findIdx? Word.isOption).map (· + i)

/-- Alternates operands and options while an option word lies ahead: operands before the
next option are filled first, and words that none takes are left over. -/
def loop (s : Scan) : Nat → Nat → ScanM Nat
  | 0, i => pure i
  | fuel + 1, i =>
    match s.nextOption i with
    | none => pure i
    | some k => do
      let e ← if i != k then s.takeOperands i else pure i
      if e > i then s.loop fuel e
      else
        if e < k then leave ((s.args.drop e).take (k - e))
        match s.words[k]? with
        | some (.option o) => s.loop fuel (← s.takeOption k o)
        | _ => pure k

end Scan

/-- Parses words against a grammar: the values bound and the words left over, a
subcommand's leftovers last. An operand that must be given and was not is an error. -/
def Grammar.scan (g : Grammar) (page : Page) (summaries : List (String × String))
    (enter : Enter) (args : List String) : Except Stop (Bindings × List String) := do
  let words ← match g.classifyAll args with
    | .ok ws => pure ws
    | .error m => throw (.misuse (g.usage page) g.prog m)
  let s : Scan := ⟨g, page, summaries, enter, args, words⟩
  let start : Progress :=
    { bindings := g.arguments.filterMap fun a =>
        if a.effect == .help then none else some (a.dest, a.initial)
      seen := [], extras := [], later := [], operands := g.operands }
  let body : ScanM Unit := do
    let i ← s.loop (args.length + 1) 0
    let stop ← s.takeOperands i
    Scan.leave (args.drop stop)
    let p ← get
    let missing := g.arguments.filter fun a => a.required && !p.seen.contains a.dest
    if !missing.isEmpty then
      s.fail ("the following arguments are required: " ++
        ", ".intercalate (missing.map Argument.label))
  let ((), p) ← body.run start
  pure (p.bindings, p.extras ++ p.later)

/-- A program's command line: a top-level grammar whose subcommand argument chooses among
the commands. -/
structure Program where
  grammar : Grammar
  commands : List Command

namespace Program

/-- The commands' names with their summaries. -/
def summaries (p : Program) : List (String × String) :=
  p.commands.map fun c => (c.name, c.summary)

/-- The top-level usage error for a message. -/
def misuse (p : Program) (page : Page) (msg : String) : Stop :=
  .misuse (p.grammar.usage page) p.grammar.prog msg

/-- Parses a command line: the words after a command's name go to that command's grammar,
and words left over anywhere are an error of the whole program. -/
def parse (p : Program) (page : Page) (args : List String) : Except Stop Bindings := do
  let enter : Enter := fun name rest =>
    match p.commands.find? (·.name == name) with
    | some c => c.grammar.scan page [] (fun _ _ => .ok ([], [])) rest
    | none => .error (p.misuse page ("argument command: unknown parser " ++ Text.quote name ++
        " (choices: " ++ ", ".intercalate (p.commands.map (·.name)) ++ ")"))
  let (b, extras) ← p.grammar.scan page p.summaries enter args
  if !extras.isEmpty then
    throw (p.misuse page ("unrecognized arguments: " ++ " ".intercalate extras))
  pure b

end Program

end CiteForm.CommandLine
