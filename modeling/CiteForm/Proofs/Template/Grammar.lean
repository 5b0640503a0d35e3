import CiteForm.Proofs.Template.Evaluation
/-!
# The grammar of templates

Templates are written in a small grammar. A *forest* is one or more statements with nothing
between them; a *statement* is one or more groups joined by single `+` characters; a *group* is
a literal `{B}` or an expression `[B]`. A literal's body holds any character but the braces and
the backslash, escape pairs `\c` of a group character `c`, and nested literals. An expression's
body is empty, a forest, or a *text*: text characters (anything but the group characters and
the backslash), escape pairs and groups, beginning with a text character or an escape pair.

The relations below carry what each phrase denotes. A literal denotes its body with every escape
pair replaced by its character; an expression denotes nothing when empty, its body as written
when that is a text, and what the body denotes when that is a forest; a statement denotes its
groups' values put together by `collapse`; a forest, its statements' texts one after another.

`render_forest` says that the evaluator computes exactly this denotation: given room for the
nesting, every forest renders to what it denotes, and with the built-in limit it renders to
that or is refused as nested too deeply. The proof builds, from each derivation, a well-formed
tree written as the phrase (`Forest.tree` and its siblings) and renders the tree.

* `LiteralBody`, `Forest`, `Statement`, `Group`, `Text` — the grammar with its denotation.
* `Forest.tree` — every forest is the text of a well-formed tree rendering to its denotation.
* `render_forest` — the evaluator on a forest.
-/

namespace CiteForm.Template

namespace Grammar

/-- The characters a literal's body holds as themselves: all but the braces and the backslash. -/
def isOrdinary (c : Char) : Bool := c != '{' && c != '}' && c != '\\'

/-- The characters a text holds as themselves: all but the group characters and the backslash. -/
def isTextChar (c : Char) : Bool := !isGroupChar c && c != '\\'

/-- `LiteralBody b v`: `b` is the body of a literal, and `v` its value. -/
inductive LiteralBody : List Char → List Char → Prop where
  | nil : LiteralBody [] []
  | char {c : Char} {b v : List Char} :
      isOrdinary c = true → LiteralBody b v → LiteralBody (c :: b) (c :: v)
  | escape {c : Char} {b v : List Char} :
      isGroupChar c = true → LiteralBody b v → LiteralBody ('\\' :: c :: b) (c :: v)
  | nest {b v rest w : List Char} :
      LiteralBody b v → LiteralBody rest w →
        LiteralBody ('{' :: b ++ '}' :: rest) ('{' :: v ++ '}' :: w)

mutual
/-- `Forest s v`: `s` is a forest denoting `v`. -/
inductive Forest : List Char → List Char → Prop where
  | one {s : List Char} {gs : List Value} : Statement s gs → Forest s (collapse gs)
  | cons {s rest v : List Char} {gs : List Value} :
      Statement s gs → Forest rest v → Forest (s ++ rest) (collapse gs ++ v)

/-- `Statement s gs`: `s` is a statement whose groups have the values `gs`. -/
inductive Statement : List Char → List Value → Prop where
  | one {s : List Char} {g : Value} : Group s g → Statement s [g]
  | cons {s rest : List Char} {g : Value} {gs : List Value} :
      Group s g → Statement rest gs → Statement (s ++ '+' :: rest) (g :: gs)

/-- `Group s g`: `s` is a group of value `g`. -/
inductive Group : List Char → Value → Prop where
  | literal {b v : List Char} : LiteralBody b v → Group ('{' :: b ++ ['}']) (.literal v)
  | empty : Group ['[', ']'] (.expression [])
  | forest {b v : List Char} : Forest b v → Group ('[' :: b ++ [']']) (.expression v)
  | text {b : List Char} : Text b → Group ('[' :: b ++ [']']) (.expression b)

/-- `Text s`: `s` is a text, beginning with a text character or an escape pair. -/
inductive Text : List Char → Prop where
  | char {c : Char} {rest : List Char} : isTextChar c = true → TextTail rest → Text (c :: rest)
  | escape {c : Char} {rest : List Char} :
      isGroupChar c = true → TextTail rest → Text ('\\' :: c :: rest)

/-- `TextTail s`: `s` is a run of text characters, escape pairs and groups. -/
inductive TextTail : List Char → Prop where
  | nil : TextTail []
  | char {c : Char} {rest : List Char} : isTextChar c = true → TextTail rest → TextTail (c :: rest)
  | escape {c : Char} {rest : List Char} :
      isGroupChar c = true → TextTail rest → TextTail ('\\' :: c :: rest)
  | group {s rest : List Char} {g : Value} : Group s g → TextTail rest → TextTail (s ++ rest)
end

/-! ### From phrases to trees -/

/-- A text character stands outside a group as a loose token. -/
theorem loose_of_isTextChar {c : Char} (h : isTextChar c = true) : (Token.char c).Loose := by
  simp only [isTextChar, Bool.and_eq_true, Bool.not_eq_eq_eq_not, Bool.not_true,
    bne_iff_ne, ne_eq] at h
  exact h

/-- A literal's body is written as canonical braced tokens, which stand for its value. -/
theorem LiteralBody.tokens {b v : List Char} (h : LiteralBody b v) :
    ∃ ts : List Token, Braced ts ∧ (∀ t ∈ ts, t.Canonical) ∧ Token.toChars ts = b ∧
      ts.map Token.unescape = v := by
  induction h with
  | nil => exact ⟨[], .nil, by simp, rfl, rfl⟩
  | @char c b v hc _ ih =>
    obtain ⟨ts, hbr, hcan, hb, hv⟩ := ih
    simp only [isOrdinary, Bool.and_eq_true, bne_iff_ne, ne_eq] at hc
    refine ⟨.char c :: ts, .token (by simp [hc.1.1]) (by simp [hc.1.2]) hbr, ?_, ?_, ?_⟩
    · intro t ht
      rcases List.mem_cons.mp ht with rfl | ht
      · exact hc.2
      · exact hcan t ht
    · simp [Token.source, hb]
    · simp [Token.unescape, hv]
  | @escape c b v hc _ ih =>
    obtain ⟨ts, hbr, hcan, hb, hv⟩ := ih
    refine ⟨.escaped c :: ts, .token (by simp) (by simp) hbr, ?_, ?_, ?_⟩
    · intro t ht
      rcases List.mem_cons.mp ht with rfl | ht
      · exact hc
      · exact hcan t ht
    · simp [Token.source, hb]
    · simp [Token.unescape, hv]
  | nest _ _ ih ih' =>
    obtain ⟨ts, hbr, hcan, hb, hv⟩ := ih
    obtain ⟨us, hbr', hcan', hb', hv'⟩ := ih'
    refine ⟨.char '{' :: ts ++ .char '}' :: us, .nest hbr hbr', ?_, ?_, ?_⟩
    · intro t ht
      simp only [List.cons_append, List.mem_cons, List.mem_append] at ht
      rcases ht with rfl | ht | rfl | ht
      · simp [Token.Canonical]
      · exact hcan t ht
      · simp [Token.Canonical]
      · exact hcan' t ht
    · simp [Token.source, hb, hb']
    · simp [Token.unescape, hv, hv']

/-- The `+` that joins groups stands outside them as a loose token. -/
theorem loose_plus : (Token.char '+').Loose := ⟨by decide, by decide⟩

mutual
/-- A forest is the text of a well-formed tree that opens with a group and renders to the
forest's denotation once the room for nesting exceeds the tree's depth. -/
theorem Forest.tree : ∀ {s v : List Char}, Forest s v → ∃ L : List Item, Item.AllWellFormed L ∧
    Item.text L = s ∧ Item.opens L = true ∧
    ∀ whole n, Item.depthOf L < n → Item.render whole n L = .ok v
  | _, _, .one hs => by
    obtain ⟨G, hne, hG, htext, hval⟩ := hs.tree
    have hgrp : ∀ g ∈ G, g.isGroup = true := fun g hg => (hG g hg).2
    refine ⟨G.intersperse (.token (.char '+')), ?_, htext, ?_, ?_⟩
    · exact Item.allWellFormed_intersperse loose_plus fun g hg => (hG g hg).1
    · simpa using Item.opens_intersperse_append hne hgrp []
    · intro whole n hn
      obtain ⟨m, rfl⟩ : ∃ m, n = m + 1 := Nat.exists_eq_add_one_of_ne_zero (by omega)
      rw [Item.depthOf_intersperse] at hn
      have h := Item.render_intersperse_append whole m hne hgrp (Or.inr rfl)
        (hval whole m (by omega)) (v := []) rfl
      simpa using h
  | _, _, .cons hs hf => by
    obtain ⟨G, hne, hG, htext, hval⟩ := hs.tree
    obtain ⟨L, hL, htextL, hopens, hrender⟩ := hf.tree
    have hgrp : ∀ g ∈ G, g.isGroup = true := fun g hg => (hG g hg).2
    refine ⟨G.intersperse (.token (.char '+')) ++ L, ?_, ?_, ?_, ?_⟩
    · exact Item.allWellFormed_append.mpr
        ⟨Item.allWellFormed_intersperse loose_plus fun g hg => (hG g hg).1, hL⟩
    · rw [Item.text_append, htext, htextL]
    · exact Item.opens_intersperse_append hne hgrp L
    · intro whole n hn
      obtain ⟨m, rfl⟩ : ∃ m, n = m + 1 := Nat.exists_eq_add_one_of_ne_zero (by omega)
      rw [Item.depthOf_append, Item.depthOf_intersperse] at hn
      exact Item.render_intersperse_append whole m hne hgrp (Or.inl hopens)
        (hval whole m (by omega)) (hrender whole (m + 1) (by omega))

/-- A statement is its groups written out with `+` between them, each a well-formed group; their
values are the statement's once the room for nesting reaches their depth. -/
theorem Statement.tree : ∀ {s : List Char} {gs : List Value}, Statement s gs →
    ∃ G : List Item, G ≠ [] ∧ (∀ g ∈ G, g.WellFormed ∧ g.isGroup = true) ∧
      Item.text (G.intersperse (.token (.char '+'))) = s ∧
      ∀ whole n, Item.depthOf G ≤ n → G.mapM (Item.valueWith (Item.render whole n)) = .ok gs
  | _, _, .one hg => by
    obtain ⟨i, hwf, hgrp, htext, hval⟩ := hg.tree
    refine ⟨[i], List.cons_ne_nil i [], by simp [hwf, hgrp], by simpa using htext, ?_⟩
    intro whole n hn
    have hi : i.depth ≤ n := by simpa [Item.depthOf] using hn
    simp [hval whole n hi]
  | _, _, .cons hg hs => by
    obtain ⟨i, hwf, hgrp, htext, hval⟩ := hg.tree
    obtain ⟨G, hne, hG, htextG, hvalG⟩ := hs.tree
    obtain ⟨h, H, rfl⟩ := List.exists_cons_of_ne_nil hne
    refine ⟨i :: h :: H, List.cons_ne_nil i _, ?_, ?_, ?_⟩
    · intro g hg
      rcases List.mem_cons.mp hg with rfl | hg
      · exact ⟨hwf, hgrp⟩
      · exact hG g hg
    · rw [List.intersperse_cons_cons, Item.text_cons, htext, Item.text_cons, htextG]
      simp [Item.text, Item.tokens, Token.source]
    · intro whole n hn
      simp only [Item.depthOf] at hn
      have hi : i.depth ≤ n := by omega
      have hG' : Item.depthOf (h :: H) ≤ n := by simp only [Item.depthOf]; omega
      simp [hval whole n hi, hvalG whole n hG']

/-- A group is a well-formed group item whose value is the group's once the room for nesting
reaches its depth. -/
theorem Group.tree : ∀ {s : List Char} {g : Value}, Group s g → ∃ i : Item, i.WellFormed ∧
    i.isGroup = true ∧ Item.text [i] = s ∧
    ∀ whole n, i.depth ≤ n → Item.valueWith (Item.render whole n) i = .ok g
  | _, _, .literal hb => by
    obtain ⟨ts, hbr, hcan, htext, hval⟩ := hb.tokens
    refine ⟨.literal ts, Item.wellFormed_literal.mpr ⟨hbr, hcan⟩, rfl, ?_, ?_⟩
    · simp [Item.text, Item.tokens, Token.source, htext]
    · intro whole n _
      simp [Item.valueWith, hval]
  | _, _, .empty => by
    refine ⟨.expression [], by simp, rfl, by simp [Item.text, Item.tokens, Token.source], ?_⟩
    intro whole n hn
    obtain ⟨m, rfl⟩ : ∃ m, n = m + 1 :=
      Nat.exists_eq_add_one_of_ne_zero (by simp [Item.depth, Item.depthOf] at hn; omega)
    simp [Item.valueWith, Item.render, Item.opens]
  | _, _, .forest hf => by
    obtain ⟨L, hL, htext, -, hrender⟩ := hf.tree
    refine ⟨.expression L, Item.wellFormed_expression.mpr hL, rfl, ?_, ?_⟩
    · simp [Item.text, Item.tokens, Token.source, ← htext]
    · intro whole n hn
      simp only [Item.depth] at hn
      simp [Item.valueWith, hrender whole n (by omega)]
  | _, _, .text ht => by
    obtain ⟨L, hL, htext, hopens⟩ := ht.tree
    refine ⟨.expression L, Item.wellFormed_expression.mpr hL, rfl, ?_, ?_⟩
    · simp [Item.text, Item.tokens, Token.source, ← htext]
    · intro whole n hn
      simp only [Item.depth] at hn
      obtain ⟨m, rfl⟩ : ∃ m, n = m + 1 := Nat.exists_eq_add_one_of_ne_zero (by omega)
      simp [Item.valueWith, Item.render, hopens, htext]

/-- A text is the text of well-formed items that do not open with a group. -/
theorem Text.tree : ∀ {s : List Char}, Text s →
    ∃ L : List Item, Item.AllWellFormed L ∧ Item.text L = s ∧ Item.opens L = false
  | _, @Text.char c _ hc ht => by
    obtain ⟨L, hL, htext⟩ := ht.tree
    refine ⟨.token (.char c) :: L, ?_, ?_, rfl⟩
    · exact Item.allWellFormed_cons.mpr ⟨Item.wellFormed_token.mpr (loose_of_isTextChar hc), hL⟩
    · simp [Item.text, Item.tokens, Token.source, ← htext]
  | _, @Text.escape c _ hc ht => by
    obtain ⟨L, hL, htext⟩ := ht.tree
    refine ⟨.token (.escaped c) :: L, ?_, ?_, rfl⟩
    · exact Item.allWellFormed_cons.mpr ⟨Item.wellFormed_token.mpr hc, hL⟩
    · simp [Item.text, Item.tokens, Token.source, ← htext]

/-- A run of text characters, escape pairs and groups is the text of well-formed items. -/
theorem TextTail.tree : ∀ {s : List Char}, TextTail s →
    ∃ L : List Item, Item.AllWellFormed L ∧ Item.text L = s
  | _, .nil => ⟨[], trivial, rfl⟩
  | _, @TextTail.char c _ hc ht => by
    obtain ⟨L, hL, htext⟩ := ht.tree
    refine ⟨.token (.char c) :: L, ?_, ?_⟩
    · exact Item.allWellFormed_cons.mpr ⟨Item.wellFormed_token.mpr (loose_of_isTextChar hc), hL⟩
    · simp [Item.text, Item.tokens, Token.source, ← htext]
  | _, @TextTail.escape c _ hc ht => by
    obtain ⟨L, hL, htext⟩ := ht.tree
    refine ⟨.token (.escaped c) :: L, ?_, ?_⟩
    · exact Item.allWellFormed_cons.mpr ⟨Item.wellFormed_token.mpr hc, hL⟩
    · simp [Item.text, Item.tokens, Token.source, ← htext]
  | _, .group hg ht => by
    obtain ⟨i, hwf, -, htext, -⟩ := hg.tree
    obtain ⟨L, hL, htextL⟩ := ht.tree
    refine ⟨i :: L, Item.allWellFormed_cons.mpr ⟨hwf, hL⟩, ?_⟩
    rw [Item.text_cons, htext, htextL]
end

/-! ### The evaluator on forests -/

/-- The evaluator computes the denotation of every forest. Given room for more levels of nesting
than the forest has characters, it renders the forest to what the forest denotes; with its
built-in limit it does the same, or refuses the forest as nested too deeply. -/
theorem render_forest {s v : List Char} (h : Forest s v) :
    (∀ whole n, s.length < n → Template.render whole n s = .ok v) ∧
      (evaluateChars s = .ok v ∨ evaluateChars s = .error (.tooDeep s)) := by
  obtain ⟨L, hL, htext, -, hrender⟩ := h.tree
  have hdepth : Item.depthOf L ≤ s.length := htext ▸ Item.depthOf_le_length L
  have heq : ∀ whole n, Template.render whole n s = Item.render whole n L := by
    intro whole n
    rw [← htext]
    exact Item.render_text whole n hL
  refine ⟨fun whole n hn => ?_, ?_⟩
  · rw [heq]
    exact hrender whole n (by omega)
  · rw [evaluateChars, heq]
    cases hr : Item.render s (nestingLimit + 1) L with
    | ok x =>
      -- a rendering that succeeds keeps its result with more room, where it is the denotation
      have hmore := Item.render_ok_of_le s (Nat.le_max_left _ (s.length + 1)) hL hr
      rw [hrender s _ (by omega)] at hmore
      exact .inl (congrArg Except.ok (Except.ok.inj hmore).symm)
    | error e => exact .inr (by rw [Item.render_error s _ hL hr])

/-- The forest `[[a]+{ }+[[{(}+[b]+{)}]]]` denotes `a (b)`, and the evaluator gives it. -/
theorem render_forest_nested :
    Forest ['[', '[', 'a', ']', '+', '{', ' ', '}', '+', '[', '[', '{', '(', '}', '+', '[', 'b',
      ']', '+', '{', ')', '}', ']', ']', ']'] ['a', ' ', '(', 'b', ')'] ∧
    ((∀ whole n, 25 < n → Template.render whole n ['[', '[', 'a', ']', '+', '{', ' ', '}', '+',
        '[', '[', '{', '(', '}', '+', '[', 'b', ']', '+', '{', ')', '}', ']', ']', ']'] =
        .ok ['a', ' ', '(', 'b', ')']) ∧
      (evaluateChars ['[', '[', 'a', ']', '+', '{', ' ', '}', '+', '[', '[', '{', '(', '}', '+',
          '[', 'b', ']', '+', '{', ')', '}', ']', ']', ']'] = .ok ['a', ' ', '(', 'b', ')'] ∨
        evaluateChars ['[', '[', 'a', ']', '+', '{', ' ', '}', '+', '[', '[', '{', '(', '}', '+',
          '[', 'b', ']', '+', '{', ')', '}', ']', ']', ']'] =
          .error (.tooDeep ['[', '[', 'a', ']', '+', '{', ' ', '}', '+', '[', '[', '{', '(', '}',
            '+', '[', 'b', ']', '+', '{', ')', '}', ']', ']', ']']))) := by
  have ga := Group.text (Text.char (c := 'a') (by decide) .nil)
  have gb := Group.text (Text.char (c := 'b') (by decide) .nil)
  have gspace := Group.literal (LiteralBody.char (c := ' ') (by decide) .nil)
  have gopen := Group.literal (LiteralBody.char (c := '(') (by decide) .nil)
  have gclose := Group.literal (LiteralBody.char (c := ')') (by decide) .nil)
  have inner := Forest.one (Statement.cons gopen (Statement.cons gb (Statement.one gclose)))
  have paren := Group.forest (Forest.one (Statement.one (Group.forest inner)))
  have middle := Forest.one (Statement.cons ga (Statement.cons gspace (Statement.one paren)))
  have h := Forest.one (Statement.one (Group.forest middle))
  exact ⟨h, render_forest h⟩

end Grammar

end CiteForm.Template
