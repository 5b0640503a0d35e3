/-!
# Blank characters

The characters a template's checks treat as blank: the ones a trimmed label loses at its
ends and the ones allowed inside an empty literal such as `{ }`. This is the Unicode
whitespace class: the ASCII controls from tab to carriage return, the four information
separators, the space separators and the line and paragraph separators. The zero width
space `U+200B` is not blank.

* `isBlank` — membership in the class.
* `trim` — a text without its blank ends.
-/

namespace CiteForm.Text

/-- The code points of the blank class, in increasing order. -/
def blankPoints : List Nat :=
  [0x09, 0x0A, 0x0B, 0x0C, 0x0D, 0x1C, 0x1D, 0x1E, 0x1F, 0x20, 0x85, 0xA0, 0x1680,
   0x2000, 0x2001, 0x2002, 0x2003, 0x2004, 0x2005, 0x2006, 0x2007, 0x2008, 0x2009, 0x200A,
   0x2028, 0x2029, 0x202F, 0x205F, 0x3000]

/-- A character is blank when its code point is one of `blankPoints`. -/
def isBlank (c : Char) : Bool :=
  blankPoints.contains c.toNat

/-- Drops the blank characters at both ends of a text. -/
def trimChars (cs : List Char) : List Char :=
  ((cs.dropWhile isBlank).reverse.dropWhile isBlank).reverse

/-- `trimChars` on a `String`. -/
def trim (s : String) : String :=
  String.ofList (trimChars s.toList)

/-- Every character that core calls whitespace is blank. -/
theorem isBlank_of_isWhitespace (c : Char) (h : c.isWhitespace = true) : isBlank c = true := by
  simp only [Char.isWhitespace, Bool.or_eq_true, decide_eq_true_eq] at h
  rcases h with ((h | h) | h) | h <;> simp [h, isBlank, blankPoints]

example : blankPoints.length = 29 := by decide

example : isBlank '\u200B' = false := by decide

end CiteForm.Text
