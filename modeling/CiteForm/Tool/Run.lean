import CiteForm.Tool.Options
import CiteForm.Tool.Fields
import CiteForm.Tool.Holds
import CiteForm.Analysis.Lint
import CiteForm.Analysis.Markers
import CiteForm.Analysis.Labels
import CiteForm.Variants
import CiteForm.Suite.Run
/-!
# Running the citation tool

A run parses the command line and carries out the command it names. Each command prints its
results a line each and ends with a status: 0 when all is well, 1 when it found something
(lint issues, failed cases, no labels, a missing file, a template that does not render), 2
for input it refuses (a bad command line, an unusable values file or suite, a negative null
index). A file is read only through `look`, which says what an absolute path leads to.

A values file is opened as the system opens a path, step by step, so a step through a missing
folder or a file fails; a suite is found by its path made absolute first, as written.

* `resolvePath` — a path made absolute against the working folder.
* `locate` — what a path leads to, walked step by step.
* `run` — how a run ends.
* `wantedPaths` — the files a run may read.
-/

namespace CiteForm.Tool

open CommandLine

/-- How a run ends: with an exit status and what it wrote to standard output and standard
error, or with an error no command handles (its kind and message). -/
inductive Ending where
  | exit (code : Nat) (out err : String)
  | fault (kind message : String)
  deriving DecidableEq, Repr

/-- The page help is laid out on. -/
def page : Page := Page.terminal

/-- A path made absolute against the working folder `cwd`, itself absolute, with empty and
`.` steps dropped and each `..` step taking back the step before it. -/
def resolvePath (cwd path : String) : String :=
  let whole := if path.startsWith "/" then path else cwd ++ "/" ++ path
  let steps := (whole.splitOn "/").foldl (fun acc s =>
    if s == "" || s == "." then acc
    else if s == ".." then acc.dropLast
    else acc ++ [s]) []
  "/" ++ "/".intercalate steps

/-- The steps of a path: its parts between separators, other than empty ones and `.`. -/
def pathSteps (path : String) : List String :=
  (path.splitOn "/").filter fun s => s != "" && s != "."

/-- The absolute path of the place reached by a list of steps down from the root. -/
def stepsPath (steps : List String) : String := "/" ++ "/".intercalate steps

/-- What the place at the end of some steps is, walked as the system walks a path from the
folder `here`: every step but the last must lead to a folder, and `..` leads to the folder
above (the root is its own). -/
def walk (look : String → Found) (here : List String) : List String → Found
  | [] => .folder
  | [s] => if s == ".." then .folder else look (stepsPath (here ++ [s]))
  | s :: rest =>
    if s == ".." then walk look here.dropLast rest
    else match look (stepsPath (here ++ [s])) with
      | .folder => walk look (here ++ [s]) rest
      | _ => .nothing

/-- The absolute paths a walk from `here` looks at. -/
def walkedPaths (here : List String) : List String → List String
  | [] => []
  | s :: rest =>
    if s == ".." then walkedPaths here.dropLast rest
    else stepsPath (here ++ [s]) :: walkedPaths (here ++ [s]) rest

/-- The folder a path is walked from: the root for an absolute path, else `cwd`. -/
def walkStart (cwd path : String) : List String :=
  if path.startsWith "/" then [] else pathSteps cwd

/-- What a path leads to from the working folder `cwd`, as opening it finds. -/
def locate (cwd : String) (look : String → Found) (path : String) : Found :=
  walk look (walkStart cwd path) (pathSteps path)

/-- A path as written in messages: separators not repeated, `.` steps and a final separator
dropped, `.` for an empty path; a path may begin with exactly two separators. -/
def pathText (path : String) : String :=
  let steps := pathSteps path
  let root :=
    if path.startsWith "//" && !path.startsWith "///" then "//"
    else if path.startsWith "/" then "/"
    else ""
  let body := "/".intercalate steps
  if root.isEmpty && body.isEmpty then "." else root ++ body

/-- Lines, each ended by a line break. -/
def lines (ls : List String) : String := String.join (ls.map (· ++ "\n"))

/-- The values file a command names, if it names one with a non-empty path. -/
def valuesPath (b : Bindings) : Option String :=
  match b.text? "values_file" with
  | some p => if p.isEmpty then none else some p
  | none => none

/-- The field values of a command, gathered with `depth` calls in progress: its values file,
its `--value` texts and its `--null` indices. -/
def fieldsOf (keep : Text.Keep) (depth : Nat) (cwd : String) (look : String → Found)
    (b : Bindings) : Except FieldError (List Slot) :=
  let file := (valuesPath b).map fun p =>
    loadFieldValues keep (depth + 1) (pathText p) (locate cwd look p)
  gatherFields file (b.heldTexts "value") ((b.heldInts? "null").getD [])

/-- A template with its fold tokens replaced by the pieces, or the failure of a piece held
empty. -/
def foldPieces (template : String) (pieces : List (Held String)) : Except Ending String :=
  match firstEmptyPiece (foldGaps template.toList false) pieces 0 with
  | some i => .error (.fault "TypeError" (joinFault i))
  | none => .ok (Template.expandFolds template (pieces.map (·.getD "")))

/-- The field values a template's `%s` marks take, or the failure of a value held empty that
a mark takes. -/
def placeholderValues (template : String) (slots : List Slot) :
    Except Ending (List (Option String)) :=
  match firstEmptyPiece (placeholderGaps template.toList false) slots 0 with
  | some i => .error (.fault "TypeError" (joinFault i))
  | none => .ok (slots.map (·.getD none))

/-- How a run ends when its field values cannot be gathered: a missing file is 1, unusable
values 2; a folder in its place is not handled. -/
def fieldFailure (e : FieldError) : Ending :=
  match e.kind with
  | "FileNotFoundError" => .exit 1 "" ""
  | "ValueError" => .exit 2 "" ""
  | k => .fault k e.message

/-- `format`: the template, its folds filled, rendered with the field values; a template that
does not render prints the engine's report and ends with 1. -/
def runFormat (keep : Text.Keep) (depth : Nat) (cwd : String) (look : String → Found)
    (b : Bindings) : Ending :=
  match fieldsOf keep (depth + 1) cwd look b with
  | .error e => fieldFailure e
  | .ok slots =>
    let rendered : Except Ending Ending := do
      let template ← foldPieces ((b.text? "template").getD "") (b.heldTexts "fold")
      let values ← placeholderValues template slots
      pure <| match Template.format template values with
        | .ok r => .exit 0 (r ++ "\n") ""
        | .error e => .exit 1 (e.report keep ++ "\n") ""
    match rendered with
    | .ok r | .error r => r

/-- The drift warning when the declared number of arguments is held empty: it differs from
every count. -/
def emptyDrift (text : String) : Analysis.Marker :=
  ⟨"%s count (" ++ toString (Template.countPlaceholders text) ++
    ") differs from Arguments count ([])", .warning, 0⟩

/-- `lint`: with `--markers` or `--args`, each marker with its severity and index; else each
issue of the template with its folds filled. Ends with 1 when anything was printed. -/
def runLint (b : Bindings) : Ending :=
  let template := (b.text? "template").getD ""
  let folds := b.heldTexts "fold"
  match foldPieces template folds with
  | .error r => r
  | .ok expanded =>
    let pieces := folds.map (·.getD "")
    let declared := b.heldInt? "args"
    let found :=
      if b.flag "markers" || declared.isSome then
        let count := match declared with
          | some (.value n) => some n
          | _ => none
        let drift := match declared with
          | some .empty => [emptyDrift expanded]
          | _ => []
        (Analysis.markers template pieces count ++ drift).map fun m =>
          m.severity.name ++ ": " ++ m.message ++ " (at " ++ toString m.index ++ ")"
      else (Analysis.lint expanded.toList).map Analysis.Issue.message
    .exit (if found.isEmpty then 0 else 1) (lines found) ""

/-- `labels`: each label of the shorthand; none is an error. -/
def runLabels (b : Bindings) : Ending :=
  match Analysis.extractLabels ((b.text? "spec").getD "") with
  | [] => .exit 1 "" "No labels found\n"
  | labels => .exit 0 (lines labels) ""

/-- The first failure the rows of a selection meet, if any: for each subset in order, a
label held empty among its labels, then a value held empty that a `%s` takes. -/
def rowsFault (template : String) (labels : List (Held String)) (slots : List Slot)
    (sel : List Nat) : Option Ending :=
  (subsets sel).findSome? fun subset =>
    match firstEmptyItem (subset.map fun i => labels.getD i (.value "")) with
    | some i => some (.fault "TypeError" (joinFault i))
    | none =>
      let inputs : List Slot := (List.range labels.length).map fun i =>
        if subset.contains i then slots.getD i (.value (some "")) else .value none
      match placeholderValues template inputs with
      | .error r => some r
      | .ok _ => none

/-- `combos`: a row `labels<TAB>output` for every subset of the arguments. The labels are
those given, else those of `--spec`, else `Arg1`, `Arg2`, ... one per field value; with none
at all the run ends with 2. -/
def runCombos (keep : Text.Keep) (depth : Nat) (cwd : String) (look : String → Found)
    (b : Bindings) : Ending :=
  let given := b.heldTexts "label"
  let spec := (b.text? "spec").getD ""
  let labels := if given.isEmpty && !spec.isEmpty then
      (Analysis.extractLabels spec).map .value
    else given
  match fieldsOf keep (depth + 1) cwd look b with
  | .error e => fieldFailure e
  | .ok slots =>
    let labels :=
      if labels.isEmpty then
        (List.range slots.length).map fun i => .value ("Arg" ++ toString (i + 1))
      else labels
    let selected := b.heldInts? "select"
    let limit := b.heldInt? "max_combinations"
    let request : VariantRequest :=
      { template := (b.text? "template").getD "", labels := labels.map (·.getD ""),
        values := slots.map (·.getD none), nullMask := slots.map fun v => v == .value none,
        selected := selected.map (·.map (·.getD 0)),
        limit := match limit with
          | some (.value n) => n
          | _ => 4096 }
    if labels.isEmpty then .exit 2 "" ""
    else if (selected.getD []).contains .empty then
      .fault "TypeError" (compareFault "<=" true)
    else if request.selection.isEmpty then .exit 0 "" ""
    else if limit == some .empty then .fault "TypeError" (compareFault ">" true)
    else
      match request.rows keep with
      | .error f => .fault f.kind f.message
      | .ok rows =>
        -- labels and values are only read where the subsets are rendered
        let fault := if request.limit < subsetCount request.selection.length then none
          else rowsFault request.template labels slots request.selection
        match fault with
        | some r => r
        | none => .exit 0 (lines (rows.map fun r => r.label ++ "\t" ++ r.output)) ""

/-- The report of one case: `PASS` or `FAIL` with its name; what it gave and what it must
give, quoted with the keep of the run, for a failure, and what it gave for a pass when
`verbose`. -/
def caseLines (keep : Text.Keep) (verbose : Bool) (o : Outcome) : List String :=
  if o.passed then
    ("PASS " ++ o.name) :: (if verbose then ["  got:  " ++ keep.quote o.got] else [])
  else ["FAIL " ++ o.name, "  got:  " ++ keep.quote o.got, "  want: " ++ keep.quote o.want]

/-- `check`: runs the suite at the path, or one template of it, and reports every case and
the count that passed. A path holding a NUL character cannot be resolved; a missing file ends
with 1; a suite that does not validate prints its problems to standard error and ends with 2,
as does a template it lacks. -/
def runCheck (keep : Text.Keep) (depth : Nat) (cwd : String) (look : String → Found)
    (b : Bindings) : Ending :=
  let given := (b.text? "suite").getD ""
  let path := resolvePath cwd given
  if given.contains '\x00' then .fault "ValueError" "embedded null byte"
  else
    match look path with
    | .nothing => .exit 1 "" ""
    | found =>
      match Suite.load keep (depth + 1) path found with
      | .error (.invalid ps) => .exit Problem.exitCode "" (Problem.report ps ++ "\n")
      | .error (.fault f) => .fault f.kind f.message
      | .ok suite =>
        match b.heldText? "only" with
        | some .empty => .exit 2 "" ""
        | only =>
        match suite.run keep (only.map (·.getD "")) with
        | .error _ => .exit 2 "" ""
        | .ok outcomes =>
          let failed := (outcomes.filter fun o => !o.passed).length
          let summary := toString (outcomes.length - failed) ++ "/" ++ toString outcomes.length ++
            " passed"
          .exit (if failed == 0 then 0 else 1)
            (lines (outcomes.flatMap (caseLines keep (b.flag "verbose")) ++ [summary])) ""

/-- Runs the tool on a command line in the working folder `cwd`, keeping the surrogates that
the escapes of its files name by `keep`, called with `depth` calls in progress. Each command
runs one call deeper than the tool, and reads its files one or two calls deeper again. Without
a command it prints the help and ends with 1. -/
def run (keep : Text.Keep) (depth : Nat) (cwd : String) (look : String → Found)
    (args : List String) : Ending :=
  match program.parse page args with
  | .error stop => .exit stop.exitCode stop.out stop.err
  | .ok b =>
    if (b.text? "command").isSome && b.heldText? "log_level" == some .empty then
      .fault "AttributeError" levelFault
    else
    match b.text? "command" with
    | some "format" => runFormat keep (depth + 1) cwd look b
    | some "lint" => runLint b
    | some "labels" => runLabels b
    | some "combos" => runCombos keep (depth + 1) cwd look b
    | some "check" => runCheck keep (depth + 1) cwd look b
    | _ => .exit 1 (program.grammar.helpText page program.summaries) ""

/-- The absolute paths a run may read: the values file of `format` and `combos`, the suite of
`check`. -/
def wantedPaths (cwd : String) (args : List String) : List String :=
  match program.parse page args with
  | .error _ => []
  | .ok b =>
    match b.text? "command" with
    | some "format" | some "combos" =>
      match valuesPath b with
      | some p => walkedPaths (walkStart cwd p) (pathSteps p)
      | none => []
    | some "check" => [resolvePath cwd ((b.text? "suite").getD "")]
    | _ => []

end CiteForm.Tool
