import CiteForm.Template.Statement
import CiteForm.Text.Quoted
/-!
# Rendering a template body

A body that begins with `[` or `{` is a run of statements; any other body is plain text and
renders as itself. A statement renders its addends in order and joins them, with one
exception, the collapse rule: when one of its expressions renders empty, only the
expressions are kept and the literals between them vanish. So `[%s]+{, }+[%s]` loses its
comma as soon as either field is empty.

An expression `[B]` renders the body `B` in turn; a literal `{B}` renders as `B` itself. An
addend of any other shape is an error. Nesting is bounded: a body nested deeper than
`nestingLimit` expressions is refused as a whole.

* `render` — a body, given how many more levels of nesting are allowed.
* `evaluate` — a whole text, with the error a caller sees.
-/

namespace CiteForm.Template

/-- What an addend renders to. -/
inductive Value where
  /-- The rendered body of an expression `[...]`. -/
  | expression (text : List Char)
  /-- The body of a literal `{...}`, as written. -/
  | literal (text : List Char)
  deriving DecidableEq, Repr

namespace Value

/-- The text a value contributes. -/
def text : Value → List Char
  | expression t => t
  | literal t => t

/-- Whether the value is an expression that rendered empty. -/
def isEmptyExpression : Value → Bool
  | expression t => t.isEmpty
  | literal _ => false

/-- The text of the value if it is an expression, and nothing for a literal. -/
def expressionText : Value → List Char
  | expression t => t
  | literal _ => []

end Value

/-- The collapse rule: the values joined in order, or only the expressions when one of them
is empty. -/
def collapse (vs : List Value) : List Char :=
  if vs.any Value.isEmptyExpression then vs.flatMap Value.expressionText
  else vs.flatMap Value.text

/-- Why a template cannot be rendered. -/
inductive RenderError where
  /-- An addend that is neither `[...]` nor `{...}`. -/
  | unbalanced (addend : List Char)
  /-- The text nests expressions deeper than `nestingLimit`. -/
  | tooDeep (text : List Char)
  deriving DecidableEq, Repr

namespace RenderError

/-- The message of the error, quoting with the keep of the run. -/
def message (keep : Text.Keep) : RenderError → String
  | unbalanced a => "Unbalanced group: " ++ keep.quote (String.ofList a)
  | tooDeep _ => "Template nesting is too deep to evaluate"

/-- The text the error is about: the addend, or the whole text that nests too deep. -/
def text : RenderError → String
  | unbalanced a => String.ofList a
  | tooDeep t => String.ofList t

end RenderError

/-- Whether a body is a run of statements rather than plain text. -/
def opensGroup : List Char → Bool
  | c :: _ => c == '[' || c == '{'
  | [] => false

/-- The value of one addend, rendering an expression's body with `inner`. -/
def addendValue (inner : List Char → Except RenderError (List Char)) (a : List Char) :
    Except RenderError Value :=
  match a with
  | '[' :: b@(_ :: _) =>
    if b.getLast? = some ']' then .expression <$> inner b.dropLast
    else .error (.unbalanced a)
  | '{' :: b@(_ :: _) =>
    if b.getLast? = some '}' then pure (.literal b.dropLast) else .error (.unbalanced a)
  | _ => .error (.unbalanced a)

/-- Renders a body with `fuel` more levels of nesting allowed; `whole` is the text the
rendering began with, which an error for too deep a nesting reports. -/
def render (whole : List Char) : Nat → List Char → Except RenderError (List Char)
  | 0, _ => .error (.tooDeep whole)
  | n + 1, cs =>
    if opensGroup cs then do
      let parts ← (statements cs).mapM fun st =>
        collapse <$> st.mapM (addendValue (render whole n))
      pure parts.flatten
    else pure cs

/-- How many expressions deep a text may nest. -/
def nestingLimit : Nat := 165

/-- Renders a whole text. -/
def evaluateChars (cs : List Char) : Except RenderError (List Char) :=
  render cs (nestingLimit + 1) cs

/-- `evaluateChars` on a `String`. -/
def evaluate (s : String) : Except RenderError String :=
  String.ofList <$> evaluateChars s.toList

example : (evaluate "[a]+\x7b, \x7d+[b]").toOption = some "a, b" := by decide
example : (evaluate "[a]+\x7b, \x7d+[]").toOption = some "a" := by decide
example : (evaluate "\x7bx\x7d+y").toOption = some "" := by decide

end CiteForm.Template
