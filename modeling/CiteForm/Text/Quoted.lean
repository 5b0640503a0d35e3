import CiteForm.Text.Printable
import CiteForm.Text.Surrogate
/-!
# Quoted text

How a message shows a piece of text: between quotes, with every character that could be
misread written as an escape.

* The quote is `'`, unless the text holds a `'` and no `"`; then it is `"`.
* The chosen quote and the backslash are written after a backslash.
* Tab, line feed and carriage return are written `\t`, `\n`, `\r`.
* Any other character that is not printable is written by its code point in lower case
  hexadecimal: `\xNN` up to `FF`, `\uNNNN` up to `FFFF`, `\UNNNNNNNN` above. A lone
  surrogate is written `\uNNNN` by its own code point.
* Every other character stands for itself.

A text that an escape of a document may have made can hold stand-ins for surrogates; it is
quoted with the keep of its run (`Keep.quote`). Any other text is quoted as it is (`quote`).
-/

namespace CiteForm.Text

/-- The lower case hexadecimal digits of `n`, padded with zeros to `width` places. -/
def hexDigits (width n : Nat) : List Char :=
  let ds := Nat.toDigits 16 n
  List.replicate (width - ds.length) '0' ++ ds

/-- The escape of a code point: the mark letter followed by `width` hexadecimal digits. -/
def codeEscape (mark : Char) (width : Nat) (n : Nat) : List Char :=
  '\\' :: mark :: hexDigits width n

/-- The quote a text is written between. -/
def quoteFor (cs : List Char) : Char :=
  if cs.contains '\'' && !cs.contains '"' then '"' else '\''

/-- How one character is written inside the quote `q`, where `kept` names the surrogate a
character stands in for, if any. -/
def escapeChar (kept : Char → Option Nat) (q c : Char) : List Char :=
  match kept c with
  | some n => codeEscape 'u' 4 n
  | none =>
    if c = q ∨ c = '\\' then ['\\', c]
    else if c = '\t' then ['\\', 't']
    else if c = '\n' then ['\\', 'n']
    else if c = '\r' then ['\\', 'r']
    else if c.toNat < 0x20 ∨ c.toNat = 0x7F then codeEscape 'x' 2 c.toNat
    else if c.toNat < 0x7F ∨ isPrintable c then [c]
    else if c.toNat ≤ 0xFF then codeEscape 'x' 2 c.toNat
    else if c.toNat ≤ 0xFFFF then codeEscape 'u' 4 c.toNat
    else codeEscape 'U' 8 c.toNat

/-- A text between its quotes, each character written by `escapeChar`. -/
def quoteChars (kept : Char → Option Nat) (cs : List Char) : List Char :=
  let q := quoteFor cs
  q :: (cs.flatMap (escapeChar kept q) ++ [q])

/-- A text that holds no stand-ins, between its quotes. -/
def quote (s : String) : String :=
  String.ofList (quoteChars (fun _ => none) s.toList)

/-- A text of a run between its quotes, each stand-in written as the surrogate it stands
for. -/
def Keep.quote (k : Keep) (s : String) : String :=
  String.ofList (quoteChars k.surrogateOf? s.toList)

example : quote "it's" = "\"it's\"" := by decide
example : quote "a\\b\t" = "'a\\\\b\\t'" := by decide
example : quote "\x07" = "'\\x07'" := by decide
example : Keep.empty.quote (String.singleton (Keep.empty.codeChar 0xD800)) = "'\\ud800'" := by
  decide

end CiteForm.Text
