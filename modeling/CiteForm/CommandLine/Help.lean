import CiteForm.CommandLine.Grammar
/-!
# Usage and help texts

The usage line sums a grammar up: the command's name, each option in brackets, then the
operands. When it is wider than the page it is filled greedily, continuation lines aligned
under the first option. The help text adds the description and two sections, operands and
options, each argument's help in a column that starts at most `Page.helpColumn` characters in.

* `Grammar.usage` — the usage text, ending in a newline.
* `Grammar.helpText` — the full help text, ending in a newline.
-/

namespace CiteForm.CommandLine

/-- The page that usage and help are laid out on: its width, and the furthest column at which
help text may start. -/
structure Page where
  width : Nat
  helpColumn : Nat

/-- An eighty-column terminal, less a margin of two. -/
def Page.terminal : Page := ⟨78, 24⟩

/-- `n` spaces. -/
def spaces (n : Nat) : String := String.ofList (List.replicate n ' ')

/-- Pads a text with spaces to width `n`. -/
def padRight (s : String) (n : Nat) : String := s ++ spaces (n - s.length)

/-- Fills pieces into lines greedily: a piece goes on the current line when the line, with a
space and the piece, keeps within `width`; `used` counts what the current line holds, and a
new line starts with `fresh` counted. A piece wider than the page gets a line of its own. -/
def fillLines (width fresh : Nat) : Nat → List String → List String → List (List String)
  | _, cur, [] => if cur.isEmpty then [] else [cur.reverse]
  | used, cur, p :: ps =>
    if used + 1 + p.length > width && !cur.isEmpty then
      cur.reverse :: fillLines width fresh (fresh + p.length + 1) [p] ps
    else fillLines width fresh (used + p.length + 1) (p :: cur) ps

/-- The blanks that separate words in help text: space, tab, and the ASCII line and page
breaks. -/
def isSeparator (c : Char) : Bool :=
  c == ' ' || c == '\t' || c == '\n' || c == '\r' || c == '\x0b' || c == '\x0c'

/-- The words of a text: the runs between separators. -/
def words (s : String) : List String :=
  let step (acc : List String × List Char) (c : Char) : List String × List Char :=
    if isSeparator c then
      if acc.2.isEmpty then acc else (String.ofList acc.2.reverse :: acc.1, [])
    else (acc.1, c :: acc.2)
  let (done, cur) := s.toList.foldl step ([], [])
  (if cur.isEmpty then done else String.ofList cur.reverse :: done).reverse

/-- A text's words filled into lines of at most `width` characters. -/
def wrap (width : Nat) (s : String) : List String :=
  (fillLines width 0 0 [] (words s)).map (" ".intercalate ·)

namespace Argument

/-- The pieces an argument adds to the usage line: an option in brackets with the word for
its value, an operand as its word, a subcommand as its set of choices and `...`. -/
def usageParts (a : Argument) : List String :=
  if a.isOperand then
    match a.arity with
    | .all => [a.placeholder, "..."]
    | _ => [a.placeholder]
  else
    let head := a.names.headD ""
    match a.arity with
    | .zero => ["[" ++ head ++ "]"]
    | _ => ["[" ++ head ++ " " ++ a.placeholder ++ "]"]

/-- How an argument is written at the head of its help entry: an operand by its word, an
option by each of its names, with the word for its value when it takes one. -/
def invocation (a : Argument) : String :=
  if a.isOperand then a.placeholder
  else match a.arity with
    | .zero => ", ".intercalate a.names
    | _ => ", ".intercalate (a.names.map fun n => n ++ " " ++ a.placeholder)

end Argument

namespace Grammar

/-- The usage lines: `usage: `, the command's name and the pieces of its options and operands;
filled into lines under the first option when wider than the page. -/
def usageLines (g : Grammar) (page : Page) : String :=
  let lead := "usage: "
  let opts := g.options.flatMap Argument.usageParts
  let ops := g.operands.flatMap Argument.usageParts
  let whole := " ".intercalate (g.prog :: opts ++ ops)
  let body :=
    if lead.length + whole.length ≤ page.width then whole
    else if 4 * (lead.length + g.prog.length) ≤ 3 * page.width then
      let indent := lead.length + g.prog.length + 1
      let fill (first : Bool) (parts : List String) : List String :=
        let ls := (fillLines page.width (indent - 1)
          (if first then lead.length - 1 else indent - 1) [] parts).map (" ".intercalate ·)
        ls.zipIdx.map fun (l, i) => if first && i == 0 then l else spaces indent ++ l
      let ls :=
        if !opts.isEmpty then fill true (g.prog :: opts) ++ fill false ops
        else if !ops.isEmpty then fill true (g.prog :: ops)
        else [g.prog]
      "\n".intercalate ls
    else
      let indent := lead.length
      let fill (parts : List String) : List String :=
        (fillLines page.width (indent - 1) (indent - 1) [] parts).map
          fun l => spaces indent ++ " ".intercalate l
      let together := fill (opts ++ ops)
      let ls := if together.length > 1 then fill opts ++ fill ops else together
      "\n".intercalate (g.prog :: ls)
  lead ++ body

/-- The usage text, ending in a newline. -/
def usage (g : Grammar) (page : Page) : String := g.usageLines page ++ "\n"

/-- The column at which help text starts: two past the widest entry head, at most the page's
help column. The summaries of subcommands count with their own heads. -/
def helpColumn (g : Grammar) (page : Page) (summaries : List (String × String)) : Nat :=
  let heads := g.arguments.map (fun a => a.invocation.length) ++ summaries.map (·.1.length)
  min (heads.foldl max 0 + 2 + 2) page.helpColumn

/-- One help entry: the head at `indent`, then the help text wrapped to the right of the help
column; on the same line when the head leaves room, else from the next line. -/
def entry (page : Page) (column indent : Nat) (head help : String) : List String :=
  let lines := wrap (max (page.width - column) 11) help
  let room := column - indent - 2
  if lines.isEmpty then [spaces indent ++ head]
  else if head.length ≤ room then
    (spaces indent ++ padRight head room ++ "  " ++ lines.headD "") ::
      lines.tail.map (spaces column ++ ·)
  else (spaces indent ++ head) :: lines.map (spaces column ++ ·)

/-- The help text: usage, description, then the operands and the options, each with its
help; a subcommand argument lists every subcommand under it with its summary. -/
def helpText (g : Grammar) (page : Page) (summaries : List (String × String)) : String :=
  let column := g.helpColumn page summaries
  let entries (a : Argument) : List String :=
    entry page column 2 a.invocation a.help ++
      (if a.arity == .all then summaries.flatMap fun (n, s) => entry page column 4 n s
       else [])
  let part (title : String) (args : List Argument) : List String :=
    if args.isEmpty then [] else [title ++ ":\n" ++ "\n".intercalate (args.flatMap entries)]
  let description := match g.description with
    | some d => ["\n".intercalate (wrap page.width d)]
    | none => []
  let blocks := [g.usageLines page] ++ description ++
    part "positional arguments" g.operands ++ part "options" g.options
  "\n\n".intercalate blocks ++ "\n"

end Grammar

end CiteForm.CommandLine
