import CiteForm.Template.Render
/-!
# Template trees

A template body that the evaluator reads the way its author meant is a sequence of items:
tokens that stand outside any group, expressions `[...]` whose bodies are again sequences of
items, and literals `{...}` whose bodies are runs of tokens with balanced braces. Brackets are
plain text inside a literal, so a literal keeps its body as tokens and not as items.

The evaluator reads the text of a body into tokens anew at each level of nesting. A tree none of
whose tokens is a lone backslash is read back as its own tokens (`Item.ofChars_text`), so every
level sees the tokens the tree says it holds.

* `Item`, `Item.tokens`, `Item.text` — trees and the text they are written as.
* `Braced` — the token runs a literal may hold.
* `Item.WellFormed` — the trees whose text the evaluator reads as the tree.
-/

namespace CiteForm.Template

namespace Token

/-- A token as reading makes it: a character other than the backslash, or an escape pair of a
group character. -/
def Canonical : Token → Prop
  | char c => c ≠ '\\'
  | escaped c => isGroupChar c = true

/-- A token that may stand outside a group: a canonical token that is no group character. -/
def Loose : Token → Prop
  | char c => isGroupChar c = false ∧ c ≠ '\\'
  | escaped c => isGroupChar c = true

theorem Loose.canonical {t : Token} (h : t.Loose) : t.Canonical := by
  cases t with
  | char c => exact h.2
  | escaped c => exact h

/-- The character a token stands for, an escape pair standing for its second character. -/
def unescape : Token → Char
  | char c => c
  | escaped c => c

/-- A character other than the backslash is read as itself. -/
theorem ofChars_cons_of_ne {c : Char} (hc : c ≠ '\\') (cs : List Char) :
    ofChars (c :: cs) = char c :: ofChars cs := by
  cases cs with
  | nil => simp [ofChars]
  | cons d r => simp [ofChars, hc]

/-- Characters taken as tokens spell themselves. -/
@[simp] theorem toChars_map_char (cs : List Char) : toChars (cs.map char) = cs := by
  induction cs with
  | nil => rfl
  | cons c cs ih => simp [source, ih]

/-- Reading the text of canonical tokens gives the tokens back. -/
theorem ofChars_toChars {ts : List Token} (h : ∀ t ∈ ts, t.Canonical) :
    ofChars (toChars ts) = ts := by
  induction ts with
  | nil => rfl
  | cons t ts ih =>
    have hts := ih fun u hu => h u (List.mem_cons_of_mem t hu)
    cases t with
    | char c =>
      have hc : c ≠ '\\' := h (.char c) List.mem_cons_self
      simp [source, ofChars_cons_of_ne hc, hts]
    | escaped c =>
      have hc : isGroupChar c = true := h (.escaped c) List.mem_cons_self
      simp [source, ofChars, hc, hts]

end Token

/-- The runs of tokens a literal may hold: every brace is closed by a later one. -/
inductive Braced : List Token → Prop where
  | nil : Braced []
  | token {t : Token} {rest : List Token} :
      t ≠ .char '{' → t ≠ .char '}' → Braced rest → Braced (t :: rest)
  | nest {inner rest : List Token} :
      Braced inner → Braced rest → Braced (.char '{' :: inner ++ .char '}' :: rest)

theorem Braced.append {a b : List Token} (ha : Braced a) (hb : Braced b) : Braced (a ++ b) := by
  induction ha with
  | nil => exact hb
  | token h1 h2 _ ih => exact .token h1 h2 ih
  | nest hin _ _ ih => simpa using Braced.nest hin ih

/-- An item of a template body. -/
inductive Item where
  /-- A token outside any group. -/
  | token (t : Token)
  /-- An expression `[...]` with the items of its body. -/
  | expression (body : List Item)
  /-- A literal `{...}` with the tokens of its body. -/
  | literal (body : List Token)

namespace Item

mutual
/-- The tokens an item is written as. -/
def tokens : Item → List Token
  | token t => [t]
  | expression b => .char '[' :: tokensOf b ++ [.char ']']
  | literal b => .char '{' :: b ++ [.char '}']

/-- The tokens a sequence of items is written as. -/
def tokensOf : List Item → List Token
  | [] => []
  | i :: is => i.tokens ++ tokensOf is
end

@[simp] theorem tokensOf_nil : tokensOf [] = [] := by simp [tokensOf]

@[simp] theorem tokensOf_cons (i : Item) (is : List Item) :
    tokensOf (i :: is) = i.tokens ++ tokensOf is := by
  simp [tokensOf]

@[simp] theorem tokensOf_append (L M : List Item) :
    tokensOf (L ++ M) = tokensOf L ++ tokensOf M := by
  induction L with
  | nil => simp
  | cons i L ih => simp [ih]

/-- The text a sequence of items is written as. -/
def text (L : List Item) : List Char :=
  Token.toChars (tokensOf L)

@[simp] theorem text_nil : text [] = [] := rfl

@[simp] theorem text_append (L M : List Item) : text (L ++ M) = text L ++ text M := by
  simp [text, Token.toChars]

theorem text_cons (i : Item) (L : List Item) : text (i :: L) = text [i] ++ text L := by
  rw [← text_append, List.singleton_append]

/-- Whether a sequence of items begins with a group. -/
def opens : List Item → Bool
  | expression _ :: _ | literal _ :: _ => true
  | _ => false

mutual
/-- The items whose text the evaluator reads as the item: loose tokens, expressions of such
items, literals of canonical braced tokens. -/
def WellFormed : Item → Prop
  | token t => t.Loose
  | expression b => AllWellFormed b
  | literal b => Braced b ∧ ∀ t ∈ b, t.Canonical

/-- Every item of the sequence is well formed. -/
def AllWellFormed : List Item → Prop
  | [] => True
  | i :: is => i.WellFormed ∧ AllWellFormed is
end

@[simp] theorem allWellFormed_nil : AllWellFormed [] := by simp [AllWellFormed]

@[simp] theorem allWellFormed_cons {i : Item} {is : List Item} :
    AllWellFormed (i :: is) ↔ i.WellFormed ∧ AllWellFormed is := by
  simp [AllWellFormed]

theorem allWellFormed_iff {L : List Item} : AllWellFormed L ↔ ∀ i ∈ L, i.WellFormed := by
  induction L with
  | nil => simp
  | cons i L ih => simp [ih]

@[simp] theorem allWellFormed_append {L M : List Item} :
    AllWellFormed (L ++ M) ↔ AllWellFormed L ∧ AllWellFormed M := by
  simp only [allWellFormed_iff, List.mem_append]
  grind

@[simp] theorem wellFormed_expression {b : List Item} :
    (expression b).WellFormed ↔ AllWellFormed b := by
  simp [WellFormed]

@[simp] theorem wellFormed_literal {b : List Token} :
    (literal b).WellFormed ↔ Braced b ∧ ∀ t ∈ b, t.Canonical := by
  simp [WellFormed]

@[simp] theorem wellFormed_token {t : Token} : (token t).WellFormed ↔ t.Loose := by
  simp [WellFormed]

mutual
/-- Every token of a well-formed item is canonical. -/
theorem canonical_of_mem_tokens : ∀ (i : Item), i.WellFormed → ∀ t ∈ i.tokens, t.Canonical
  | token t, hi, u, hu => by
    simp only [tokens, List.mem_singleton] at hu
    exact hu ▸ (wellFormed_token.mp hi).canonical
  | expression b, hi, u, hu => by
    simp only [tokens, List.cons_append, List.mem_cons, List.mem_append, List.not_mem_nil,
      or_false] at hu
    rcases hu with rfl | hu | rfl
    · simp [Token.Canonical]
    · exact canonical_of_mem_tokensOf b (wellFormed_expression.mp hi) u hu
    · simp [Token.Canonical]
  | literal b, hi, u, hu => by
    simp only [tokens, List.cons_append, List.mem_cons, List.mem_append, List.not_mem_nil,
      or_false] at hu
    rcases hu with rfl | hu | rfl
    · simp [Token.Canonical]
    · exact (wellFormed_literal.mp hi).2 u hu
    · simp [Token.Canonical]

/-- Every token of a well-formed sequence is canonical. -/
theorem canonical_of_mem_tokensOf : ∀ (L : List Item), AllWellFormed L →
    ∀ t ∈ tokensOf L, t.Canonical
  | [], _, t, ht => by simp at ht
  | i :: is, hL, t, ht => by
    rw [allWellFormed_cons] at hL
    rw [tokensOf_cons, List.mem_append] at ht
    rcases ht with ht | ht
    · exact canonical_of_mem_tokens i hL.1 t ht
    · exact canonical_of_mem_tokensOf is hL.2 t ht
end

/-- Reading the text of a well-formed tree gives its tokens back. -/
theorem ofChars_text {L : List Item} (hL : AllWellFormed L) :
    Token.ofChars (text L) = tokensOf L :=
  Token.ofChars_toChars (canonical_of_mem_tokensOf L hL)

end Item

end CiteForm.Template
