import CiteForm.Text.Quoted
/-!
# Byte strings

A byte string is what a base64 scalar of a document stands for.

Its text must be ASCII; the error names the first run of other characters. Decoding then takes
the characters of the base64 alphabet four at a time, three bytes from each group, and skips
every other character. A padding `=` counts only after two characters of a group; once the
group is full with it, decoding stops there. Data that ends inside a group fails: after one
character of a group, since no bytes are ever written so, and after two or three, for want of
padding.

A byte string is written `b'...'`: printable ASCII as itself, tab, line feed and carriage return
as `\t`, `\n`, `\r`, the quote and the backslash after a backslash, every other byte as `\xNN`.
The quote is `"` when the bytes hold `'` and no `"`.

* `asciiBytes` — the bytes of an ASCII text, or the error naming what is not ASCII.
* `Base64Error`, `decodeBase64` — decoding.
* `bytesText` — how a byte string is written.
-/

namespace CiteForm

/-- The bytes of an ASCII text; for other text, the report of the first run of characters
beyond ASCII, by position, with a stand-in written as the surrogate `keep` keeps by it. -/
def asciiBytes (keep : Text.Keep) (cs : List Char) : Except String (List Nat) :=
  match cs.findIdx? (fun c => c.toNat ≥ 0x80) with
  | none => .ok (cs.map Char.toNat)
  | some i =>
    let run := ((cs.drop i).takeWhile fun c => c.toNat ≥ 0x80).length
    let c := (cs.drop i).headD ' '
    let escaped : String :=
      match keep.surrogateOf? c with
      | some n => String.ofList (Text.codeEscape 'u' 4 n)
      | none =>
        if c.toNat ≤ 0xFF then String.ofList (Text.codeEscape 'x' 2 c.toNat)
        else if c.toNat ≤ 0xFFFF then String.ofList (Text.codeEscape 'u' 4 c.toNat)
        else String.ofList (Text.codeEscape 'U' 8 c.toNat)
    .error (if run == 1 then
        "'ascii' codec can't encode character '" ++ escaped ++ "' in position " ++ toString i ++
          ": ordinal not in range(128)"
      else
        "'ascii' codec can't encode characters in position " ++ toString i ++ "-" ++
          toString (i + run - 1) ++ ": ordinal not in range(128)")

/-- Why base64 data does not decode. -/
inductive Base64Error where
  /-- The data ends one character into a group; `count` is the number of data characters a
  report names for it. -/
  | loneCharacter (count : Nat)
  /-- The data ends two or three characters into a group. -/
  | padding
  deriving DecidableEq, Repr

/-- The report of a base64 error. -/
def Base64Error.message : Base64Error → String
  | .loneCharacter n =>
    "Invalid base64-encoded string: number of data characters (" ++ toString n ++
      ") cannot be 1 more than a multiple of 4"
  | .padding => "Incorrect padding"

/-- The value of a byte in the base64 alphabet. -/
def base64Value? (b : Nat) : Option Nat :=
  if 65 ≤ b && b ≤ 90 then some (b - 65)
  else if 97 ≤ b && b ≤ 122 then some (b - 71)
  else if 48 ≤ b && b ≤ 57 then some (b + 4)
  else if b == 43 then some 62
  else if b == 47 then some 63
  else none

/-- Decodes from the place `place` of a group (0 to 3), with the bits `left` over from its
characters so far, `pads` padding characters seen since the last data character, and the
bytes written in `out` (last first). -/
def decodeGroups (place left pads : Nat) (out : List Nat) :
    List Nat → Except Base64Error (List Nat)
  | [] =>
    if place == 0 then .ok out.reverse
    else if place == 1 then .error (.loneCharacter (out.length / 3 * 4 + 1))
    else .error .padding
  | b :: rest =>
    if b == 61 then
      if place ≥ 2 && place + pads + 1 ≥ 4 then .ok out.reverse
      else decodeGroups place left (if place ≥ 2 then pads + 1 else pads) out rest
    else
      match base64Value? b with
      | none => decodeGroups place left pads out rest
      | some v =>
        if place == 0 then decodeGroups 1 v 0 out rest
        else if place == 1 then decodeGroups 2 (v % 16) 0 ((left * 4 + v / 16) :: out) rest
        else if place == 2 then decodeGroups 3 (v % 4) 0 ((left * 16 + v / 4) :: out) rest
        else decodeGroups 0 0 0 ((left * 64 + v) :: out) rest

/-- The bytes that base64 data stands for. -/
def decodeBase64 (bs : List Nat) : Except Base64Error (List Nat) :=
  decodeGroups 0 0 0 [] bs

/-- How one byte is written inside the quote `q`. -/
def byteEscape (q : Nat) (b : Nat) : List Char :=
  if b == q || b == 92 then ['\\', Char.ofNat b]
  else if b == 9 then ['\\', 't']
  else if b == 10 then ['\\', 'n']
  else if b == 13 then ['\\', 'r']
  else if b < 32 || b ≥ 127 then Text.codeEscape 'x' 2 b
  else [Char.ofNat b]

/-- How a byte string is written. -/
def bytesText (bs : List Nat) : String :=
  let q := if bs.contains 39 && !bs.contains 34 then 34 else 39
  String.ofList ('b' :: Char.ofNat q :: (bs.flatMap (byteEscape q) ++ [Char.ofNat q]))

example : (decodeBase64 ("aGk=".toList.map Char.toNat)).toOption = some [104, 105] := by decide

example : bytesText [104, 105] = "b'hi'" := by decide

end CiteForm
