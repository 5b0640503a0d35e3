/-!
# Implicit types of plain scalars

Which type a plain scalar without a tag has, by its text. Suite files keep most scalars as
text: only null, the words `true` and `false`, integers, and the two marks `<<` and `=` get
a type of their own. Decimals, dates and the words `yes`, `no`, `on` and `off` stay text.

* `isNullWord`, `isBoolWord`, `isIntWord` — the spellings of each type.
* `implicitTag` — the tag a plain scalar resolves to, if it is not a string. A final line
  feed does not keep a text from a type: `12` and `12` with a line feed after it are both
  integers.
-/

namespace CiteForm.Yaml

/-- The tag prefix of the standard types. -/
def stdTag (name : String) : String := "tag:yaml.org,2002:" ++ name

/-- The spellings of null: empty, `~`, and `null` in three cases. -/
def isNullWord (s : String) : Bool :=
  s == "" || s == "~" || s == "null" || s == "Null" || s == "NULL"

/-- The spellings of a boolean: `true` and `false` in three cases. -/
def isBoolWord (s : String) : Bool :=
  s == "true" || s == "True" || s == "TRUE" || s == "false" || s == "False" || s == "FALSE"

/-- Whether every character satisfies `p` and there is at least one. -/
def nonEmptyAll (p : Char → Bool) (cs : List Char) : Bool :=
  !cs.isEmpty && cs.all p

/-- The groups `:d` or `:dd` of a sexagesimal number, the first of two digits at most `5`. -/
def sexagesimalTail : List Char → Bool
  | [] => false
  | ':' :: rest =>
    match rest with
    | a :: b :: more =>
      if a.isDigit && b.isDigit && a ≤ '5' then
        match more with
        | [] => true
        | ':' :: _ => sexagesimalTail more
        | _ => false
      else if a.isDigit then
        match b :: more with
        | ':' :: _ => sexagesimalTail (b :: more)
        | _ => false
      else false
    | [a] => a.isDigit
    | [] => false
  | _ => false

/-- The spellings of an integer: an optional sign and a binary (`0b`), octal (leading `0`),
decimal, hexadecimal (`0x`) or sexagesimal (`1:30`) numeral; underscores may stand among the
digits. -/
def isIntWord (s : String) : Bool :=
  let cs := match s.toList with
    | '-' :: r | '+' :: r => r
    | r => r
  match cs with
  | '0' :: 'b' :: r => nonEmptyAll (fun c => c == '0' || c == '1' || c == '_') r
  | '0' :: 'x' :: r => nonEmptyAll (fun c => c.isHexDigit || c == '_') r
  | ['0'] => true
  | '0' :: r => nonEmptyAll (fun c => ('0' ≤ c && c ≤ '7') || c == '_') r
  | c :: r =>
    if '1' ≤ c && c ≤ '9' then
      let digits := r.takeWhile (fun c => c.isDigit || c == '_')
      let rest := r.drop digits.length
      rest.isEmpty || sexagesimalTail rest
    else false
  | [] => false

/-- The text a pattern of the schema is matched against: the whole text, or the text less
one final line feed, which a pattern may match up to. -/
def matchedBody (s : String) : String :=
  if s.endsWith "\n" then String.ofList s.toList.dropLast else s

/-- The tag a plain scalar resolves to when its text gives it a type; none for a string. The
first character of the whole text says which types are tried. -/
def implicitTag (s : String) : Option String :=
  let body := matchedBody s
  match s.toList.head? with
  | none | some '~' | some 'n' | some 'N' =>
    if isNullWord body then some (stdTag "null") else none
  | some 't' | some 'T' | some 'f' | some 'F' =>
    if isBoolWord body then some (stdTag "bool") else none
  | some '<' => if body == "<<" then some (stdTag "merge") else none
  | some '=' => if body == "=" then some (stdTag "value") else none
  | some '!' | some '&' | some '*' =>
    if body == "!" || body == "&" || body == "*" then some (stdTag "yaml") else none
  | some c =>
    if c == '-' || c == '+' || c.isDigit then
      if isIntWord body then some (stdTag "int") else none
    else none

example : isIntWord "190:20:30" = true ∧ isIntWord "0o17" = false ∧ isIntWord "08" = false := by
  decide

example : implicitTag "12\n" = some (stdTag "int") ∧ implicitTag "\n" = none := by decide +kernel

end CiteForm.Yaml
