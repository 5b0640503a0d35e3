import CiteForm.Text.Quoted
/-!
# Reading UTF-8

Bytes read as UTF-8 by the well-formed sequences of Unicode: a byte below `0x80` alone, or a
lead byte from `0xC2` to `0xF4` followed by one to three continuation bytes from `0x80` to
`0xBF`. After `E0`, `ED`, `F0` and `F4` the first continuation byte has a narrower range,
which keeps out overlong forms, surrogates and code points above `U+10FFFF`.

Where the bytes are not well formed, the error names the bytes at fault and the reason: a byte
that cannot start a sequence (that byte alone), a sequence cut short by a byte that cannot
continue it (the lead and the good continuation bytes before that byte), or the end of the
bytes inside a sequence (the lead and all that follows it).

* `Utf8Error`, `Utf8Error.message` — the bytes at fault, the reason, and its report.
* `decodeUtf8` — the characters of well-formed bytes, or the first error.
-/

namespace CiteForm.Text

/-- Why bytes are not well-formed UTF-8. -/
inductive Utf8Fault where
  /-- A byte that no sequence starts with. -/
  | invalidStart
  /-- A byte that cannot continue the sequence begun before it. -/
  | invalidContinuation
  /-- The bytes end inside a sequence. -/
  | unexpectedEnd
  deriving DecidableEq, Repr

/-- The reason as an error report words it. -/
def Utf8Fault.reason : Utf8Fault → String
  | .invalidStart => "invalid start byte"
  | .invalidContinuation => "invalid continuation byte"
  | .unexpectedEnd => "unexpected end of data"

/-- Bytes that are not well-formed UTF-8: the position and number of the bytes at fault, the
first of them, and the reason. -/
structure Utf8Error where
  start : Nat
  count : Nat
  first : Nat
  fault : Utf8Fault
  deriving DecidableEq, Repr

/-- The report of an error: one byte by its value and position, several by their positions. -/
def Utf8Error.message (e : Utf8Error) : String :=
  let which :=
    if e.count == 1 then
      "byte 0x" ++ String.ofList (hexDigits 2 e.first) ++ " in position " ++ toString e.start
    else
      "bytes in position " ++ toString e.start ++ "-" ++ toString (e.start + e.count - 1)
  "'utf-8' codec can't decode " ++ which ++ ": " ++ e.fault.reason

/-- How a sequence goes on after its lead byte: how many continuation bytes follow, and the
least and greatest value of the first of them. -/
def leadShape (b : Nat) : Option (Nat × Nat × Nat) :=
  if b < 0xC2 then none
  else if b < 0xE0 then some (1, 0x80, 0xBF)
  else if b < 0xF0 then some (2, if b == 0xE0 then 0xA0 else 0x80, if b == 0xED then 0x9F else 0xBF)
  else if b < 0xF5 then some (3, if b == 0xF0 then 0x90 else 0x80, if b == 0xF4 then 0x8F else 0xBF)
  else none

/-- How many of the bytes after a lead continue its sequence: the first must lie between `lo`
and `hi`, the others between `0x80` and `0xBF`. -/
def goodTail (lo hi : Nat) : List Nat → Nat
  | [] => 0
  | b :: rest => if lo ≤ b && b ≤ hi then 1 + goodTail 0x80 0xBF rest else 0

/-- The character of a lead byte and its continuation bytes. -/
def sequenceChar (lead : Nat) (tail : List Nat) : Char :=
  let start := lead % (Nat.pow 2 (6 - tail.length))
  Char.ofNat (tail.foldl (fun acc b => acc * 64 + b % 64) start)

/-- The characters of bytes from `pos` on, after those in `acc` (last first). -/
def decodeFrom (pos : Nat) (acc : List Char) : List Nat → Except Utf8Error (List Char)
  | [] => .ok acc.reverse
  | b :: rest =>
    if b < 0x80 then decodeFrom (pos + 1) (Char.ofNat b :: acc) rest
    else
      match leadShape b with
      | none => .error ⟨pos, 1, b, .invalidStart⟩
      | some (n, lo, hi) =>
        let tail := rest.take n
        let good := goodTail lo hi tail
        if good < tail.length then .error ⟨pos, good + 1, b, .invalidContinuation⟩
        else if tail.length < n then .error ⟨pos, tail.length + 1, b, .unexpectedEnd⟩
        else decodeFrom (pos + n + 1) (sequenceChar b tail :: acc) (rest.drop n)
termination_by bs => bs.length
decreasing_by all_goals (simp only [List.length_cons, List.length_drop]; omega)

/-- The characters that bytes encode as UTF-8, or the first place they are not well formed. -/
def decodeUtf8 (bs : List Nat) : Except Utf8Error (List Char) := decodeFrom 0 [] bs

example : (decodeUtf8 [0x61, 0xC3, 0xA9]).toOption = some ['a', 'é'] := by decide +kernel

example : (match decodeUtf8 [0xE2, 0x82] with | .error e => some e | .ok _ => none) =
    some ⟨0, 2, 0xE2, .unexpectedEnd⟩ := by decide +kernel

example : (match decodeUtf8 [0xED, 0xA0, 0x80] with | .error e => some e | .ok _ => none) =
    some ⟨0, 1, 0xED, .invalidContinuation⟩ := by decide +kernel

end CiteForm.Text
