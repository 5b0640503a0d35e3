import CiteForm.Text.Quoted
import CiteForm.Document.Value
/-!
# Positions and errors of YAML reading

A mark is a position in the text: the index of a character and its line and column, all
counted from zero. An error of the reader states a problem at a mark, and may give the
context it arose in, at a mark of its own. Its report names the file and counts lines and
columns from one.

* `Mark`, `YamlError`, `YamlError.render` — marks, marked errors and their report.
* `LoadError` — every way reading a document can fail: a forbidden character, a marked
  error, or a fault that ends reading at once.
-/

namespace CiteForm.Yaml

/-- A position in the text. -/
structure Mark where
  index : Nat
  line : Nat
  column : Nat
  deriving DecidableEq, Repr, Inhabited

/-- How a mark is reported, under the name of the file. -/
def Mark.render (m : Mark) (name : String) : String :=
  "  in \"" ++ name ++ "\", line " ++ toString (m.line + 1) ++ ", column " ++
    toString (m.column + 1)

/-- A problem found while reading, at a mark, with the context it arose in. -/
structure YamlError where
  context : Option String := none
  contextMark : Option Mark := none
  problem : Option String := none
  problemMark : Option Mark := none
  deriving DecidableEq, Repr

namespace YamlError

/-- A problem at a mark, with no context. -/
def at_ (problem : String) (mark : Mark) : YamlError :=
  { problem := some problem, problemMark := some mark }

/-- A problem at a mark, in a context that began at another. -/
def within (context : String) (contextMark : Mark) (problem : String) (mark : Mark) : YamlError :=
  { context := some context, contextMark := some contextMark, problem := some problem,
    problemMark := some mark }

/-- The report of an error: the context, its mark unless the problem's mark stands on the same
line and column, the problem and its mark, one a line. Marks are compared as they are
reported, so two marks a byte order mark apart count as the same. -/
def render (e : YamlError) (name : String) : String :=
  let ctxMark : List String := match e.contextMark with
    | some cm =>
      let same := match e.problem, e.problemMark with
        | some _, some pm => cm.line == pm.line && cm.column == pm.column
        | _, _ => false
      if same then [] else [cm.render name]
    | none => []
  "\n".intercalate (e.context.toList ++ ctxMark ++ e.problem.toList ++
    (e.problemMark.map (·.render name)).toList)

end YamlError

/-- Why a document cannot be read. -/
inductive LoadError where
  /-- A character that may not appear in a document, at its index. -/
  | badCharacter (index : Nat) (c : Char)
  /-- A marked error of scanning, parsing, composing or constructing. -/
  | marked (e : YamlError)
  /-- A fault outside the rules of the format, such as an escape naming no code point. -/
  | fault (f : Fault)
  deriving DecidableEq, Repr

namespace LoadError

/-- A problem at a mark, with no context. -/
def at_ (problem : String) (mark : Mark) : LoadError :=
  .marked (YamlError.at_ problem mark)

/-- A problem at a mark, in a context that began at another. -/
def within (context : String) (contextMark : Mark) (problem : String) (mark : Mark) :
    LoadError :=
  .marked (YamlError.within context contextMark problem mark)

/-- The report of a load error that reading reports itself: all but a fault, whose message is
given as it is. -/
def render (e : LoadError) (name : String) : String :=
  match e with
  | .badCharacter i c =>
    "unacceptable character #x" ++ String.ofList (Text.hexDigits 4 c.toNat) ++
      ": special characters are not allowed\n  in \"" ++ name ++ "\", position " ++ toString i
  | .marked m => m.render name
  | .fault f => f.message

end LoadError

end CiteForm.Yaml
