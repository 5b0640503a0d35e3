/-!
# Template tokens

A template is read as a sequence of tokens: single characters, and escape pairs. An escape
pair is a backslash followed by one of the four group characters `[`, `]`, `{`, `}`; it
stands for that character and takes no part in grouping. A backslash before any other
character, or at the end of the text, is a character like any other.

* `Token.ofChars` — the tokens of a text, read left to right.
* `Token.toChars_ofChars` — the tokens spell the text back.
-/

namespace CiteForm.Template

/-- The characters that open and close groups. -/
def isGroupChar (c : Char) : Bool :=
  c == '[' || c == ']' || c == '{' || c == '}'

/-- A unit of template text. -/
inductive Token where
  /-- A character standing for itself. -/
  | char (c : Char)
  /-- A backslash followed by the group character `c`. -/
  | escaped (c : Char)
  deriving DecidableEq, Repr

namespace Token

/-- Reads a text into tokens, pairing a backslash with a group character after it. -/
def ofChars : List Char → List Token
  | [] => []
  | '\\' :: d :: rest =>
    if isGroupChar d then escaped d :: ofChars rest else char '\\' :: ofChars (d :: rest)
  | c :: rest => char c :: ofChars rest

/-- The characters a token was read from. -/
def source : Token → List Char
  | char c => [c]
  | escaped c => ['\\', c]

/-- The first character a token was read from. -/
def lead : Token → Char
  | char c => c
  | escaped _ => '\\'

/-- The characters a sequence of tokens was read from. -/
def toChars (ts : List Token) : List Char :=
  ts.flatMap source

@[simp] theorem toChars_nil : toChars [] = [] := rfl

@[simp] theorem toChars_cons (t : Token) (ts : List Token) :
    toChars (t :: ts) = t.source ++ toChars ts := rfl

/-- Reading loses nothing: the tokens spell the text back. -/
theorem toChars_ofChars (cs : List Char) : toChars (ofChars cs) = cs := by
  induction cs using ofChars.induct <;> simp_all [ofChars, source]

end Token

end CiteForm.Template
