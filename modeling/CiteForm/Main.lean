import CiteForm.Tool.Run
/-!
# The `citation` command

Reads the files a run may need, runs the tool on the command line, one call deep under the
program's entry, writes what the run wrote and exits with its status. An error no command handles is written to standard error as its
kind and message, with status 1.
-/

open CiteForm

/-- What a path leads to on disk. -/
def readFound (path : String) : IO Found := do
  try
    pure (.file (← IO.FS.readFile path))
  catch e =>
    match e with
    | .inappropriateType .. => pure .folder
    | _ => pure .nothing

def main (args : List String) : IO UInt32 := do
  let cwd := (← IO.currentDir).toString
  let mut files : List (String × Found) := []
  for p in Tool.wantedPaths cwd args do
    files := files ++ [(p, ← readFound p)]
  let known := files
  let look (p : String) : Found := ((known.find? (·.1 == p)).map Prod.snd).getD .nothing
  let texts := known.filterMap fun (_, f) => match f with
    | .file t => some t
    | _ => none
  let keep := Text.Keep.avoiding (cwd :: args ++ texts)
  match Tool.run keep 1 cwd look args with
  | .exit code out err =>
    IO.print out
    IO.eprint err
    pure code.toUInt32
  | .fault kind message =>
    IO.eprintln (kind ++ ": " ++ message)
    pure 1
