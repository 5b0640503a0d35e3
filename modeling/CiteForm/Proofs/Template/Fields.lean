import CiteForm.Proofs.Template.WellNested
import CiteForm.Proofs.Template.Shrinking
/-!
# Emptying fields deletes text

A citation template names its fields with `%s`. Where each `%s` stands alone in brackets, as
`[%s]`, a field's value fills an expression of its own, and filling in shorter values changes
nothing but the texts of those expressions and of the literals that hold a `%s`. The two filled
templates are then the texts of two trees, the first shrinking the second (`fill_trees`), and
rendering keeps the first a subsequence of the second (`Item.render_shrinks`).

The condition on the marks is what makes this work: with a value emptied, `[[x]%s+[y]]` loses a
text in front of its statement and renders `xy`, not a subsequence of what it renders with a
value in place. `MarksBracketed` states the condition for a piece of a template, given the
characters around the piece, so that it passes to the body of each group and to what follows.

* `fill_trees` — filled templates as trees, one shrinking the other.
* `format_sublist_of_fields` — formatting with shorter fields gives a subsequence.
-/

namespace CiteForm.Template

open Analysis

/-- `MarksBracketed before cs after`: every `%s` of `cs` has `[` right before it and `]` right
after it, where `before` and `after` are the characters around `cs`, if any. -/
def MarksBracketed (before : Option Char) (cs : List Char) (after : Option Char) : Prop :=
  ∀ a b, cs = a ++ '%' :: 's' :: b → a.getLast?.or before = some '[' ∧ b.head?.or after = some ']'

/-- With nothing around the text, the condition reads off the text alone. -/
theorem marksBracketed_none_iff {cs : List Char} : MarksBracketed none cs none ↔
    ∀ l r, cs = l ++ '%' :: 's' :: r → l.getLast? = some '[' ∧ r.head? = some ']' := by
  simp [MarksBracketed]

theorem getLast?_cons_or (c : Char) (a : List Char) (l : Option Char) :
    (c :: a).getLast?.or l = a.getLast?.or (some c) := by
  rw [List.getLast?_cons]
  cases a.getLast? <;> rfl

theorem head?_append_or (b : List Char) (c : Char) (rest : List Char) (r : Option Char) :
    (b ++ c :: rest).head?.or r = b.head?.or (some c) := by
  cases b <;> simp

namespace MarksBracketed

variable {before after : Option Char}

/-- The mark at the front of a text. -/
theorem front {rest : List Char} (h : MarksBracketed before ('%' :: 's' :: rest) after) :
    before = some '[' ∧ rest.head?.or after = some ']' := by
  simpa using h [] rest rfl

/-- After its first character, a text's marks are bracketed with that character before them. -/
theorem tail {c : Char} {rest : List Char} (h : MarksBracketed before (c :: rest) after) :
    MarksBracketed (some c) rest after := by
  intro a b hab
  have := h (c :: a) b (by rw [hab]; rfl)
  rwa [getLast?_cons_or] at this

/-- Inside a group, the marks are bracketed by the group's own brackets. -/
theorem body {o c : Char} {body rest : List Char}
    (h : MarksBracketed before (o :: body ++ c :: rest) after) :
    MarksBracketed (some o) body (some c) := by
  intro a b hab
  have := h (o :: a) (b ++ c :: rest) (by rw [hab]; simp)
  rwa [getLast?_cons_or, head?_append_or] at this

/-- After a group, the marks are bracketed with its closer before them. -/
theorem rest {o c : Char} {body rest : List Char}
    (h : MarksBracketed before (o :: body ++ c :: rest) after) :
    MarksBracketed (some c) rest after := by
  intro a b hab
  have := h (o :: body ++ c :: a) b (by rw [hab]; simp)
  rw [List.cons_append, getLast?_cons_or, List.getLast?_append, getLast?_cons_or] at this
  cases ha : a.getLast? <;> simp_all

end MarksBracketed

/-- A field value that may stand in a template: no group characters and no backslash. -/
def Plain (v : List Char) : Prop := ∀ c ∈ v, isGroupChar c = false ∧ c ≠ '\\'

theorem Plain.nested {v : List Char} (h : Plain v) : Nested v :=
  nested_of_not_group fun c hc => (h c hc).1

theorem Plain.not_mem {v : List Char} (h : Plain v) : '\\' ∉ v := fun hc => (h _ hc).2 rfl

theorem Item.allWellFormed_ofText {w : List Char} (h : Plain w) :
    Item.AllWellFormed (Item.ofText w) := by
  rw [Item.allWellFormed_iff]
  intro i hi
  obtain ⟨c, hc, rfl⟩ := List.mem_map.mp hi
  exact h c hc

/-- A bracketed mark filled with the first of some plain values is a well-formed expression. -/
theorem wellFormed_field {us : List (List Char)} (hus : ∀ u ∈ us, Plain u) :
    (Item.expression (Item.ofText (us.headD []))).WellFormed := by
  refine Item.wellFormed_expression.mpr (Item.allWellFormed_ofText ?_)
  rcases headD_mem_or_nil us with hu | hu
  · exact hus _ hu
  · rw [hu]
    exact fun c hc => absurd hc List.not_mem_nil

/-- A literal whose well-nested, backslash-free body is filled with plain values is well
formed. -/
theorem wellFormed_filledLiteral {body : List Char} (hbody : Nested body) (hbs : '\\' ∉ body)
    {us : List (List Char)} (hus : ∀ u ∈ us, Plain u) :
    (Item.literal ((fillPlaceholders body us).map .char)).WellFormed := by
  refine Item.wellFormed_literal.mpr
    ⟨braced_of_nested (nested_fillPlaceholders hbody fun u hu => (hus u hu).nested), ?_⟩
  intro t ht
  obtain ⟨c, hc, rfl⟩ := List.mem_map.mp ht
  exact fun h => not_mem_fillPlaceholders hbs (fun u hu => (hus u hu).not_mem) (h ▸ hc)

/-- Filling shorter and longer values into a well-nested template whose marks are bracketed
gives the texts of two well-formed trees, the first shrinking the second. A mark's value fills
an expression of its own; a literal keeps the values filled into it as text. -/
theorem fill_trees {cs : List Char} (h : Nested cs) {before after : Option Char}
    (hm : MarksBracketed before cs after) (hbs : '\\' ∉ cs) (hne : cs ≠ ['%', 's'])
    {ws vs : List (List Char)} (hp : Pointwise ws vs) (hws : ∀ w ∈ ws, Plain w)
    (hvs : ∀ v ∈ vs, Plain v) :
    ∃ Lw Lv : List Item, Item.AllWellFormed Lw ∧ Item.AllWellFormed Lv ∧
      Item.text Lw = fillPlaceholders cs ws ∧ Item.text Lv = fillPlaceholders cs vs ∧
      Item.ShrinksAll Lw Lv := by
  induction h generalizing before after ws vs with
  | nil => exact ⟨[], [], trivial, trivial, by simp [fillPlaceholders], by simp [fillPlaceholders], .nil⟩
  | @char c rest ho hc hrest ih =>
    by_cases hmark : c = '%' ∧ ∃ r, rest = 's' :: r
    · -- a mark is bracketed, so it would be the whole of this text
      exfalso
      obtain ⟨rfl, r, rfl⟩ := hmark
      obtain ⟨-, hafter⟩ := hm.front
      cases r with
      | nil => exact hne rfl
      | cons d r =>
        have hd : d = ']' := by simpa using hafter
        subst hd
        have := (hrest.of_cons (by decide)).not_closer
        simp [isCloser] at this
    · have hne' : rest ≠ ['%', 's'] := by
        rintro rfl
        have hc' : c = '[' := by simpa using hm.tail.front.1
        subst hc'
        simp [isOpener] at ho
      obtain ⟨Lw, Lv, hw, hv, htw, htv, hs⟩ :=
        ih hm.tail (fun h => hbs (List.mem_cons_of_mem c h)) hne' hp hws hvs
      have hloose : (Token.char c).Loose :=
        ⟨by rw [isGroupChar_eq, ho, hc]; rfl, fun h => hbs (h ▸ List.mem_cons_self)⟩
      refine ⟨.token (.char c) :: Lw, .token (.char c) :: Lv, ⟨hloose, hw⟩, ⟨hloose, hv⟩, ?_, ?_,
        .cons (.token _) hs⟩
      · rw [fillPlaceholders_cons_of_not_mark hmark, Item.text_cons, htw]
        simp [Item.text, Item.tokens, Token.source]
      · rw [fillPlaceholders_cons_of_not_mark hmark, Item.text_cons, htv]
        simp [Item.text, Item.tokens, Token.source]
  | @group o body rest ho hbody hrest ihb ihr =>
    have hbsb : '\\' ∉ body := fun h => hbs (by simp [h])
    have hbsr : '\\' ∉ rest := fun h => hbs (by simp [h])
    have hcl := (Nested.closer_isCloser ho).2
    have hne' : rest ≠ ['%', 's'] := by
      rintro rfl
      have hc' : closerOf o = '[' := by simpa using hm.rest.front.1
      rw [hc'] at hcl
      simp [isCloser] at hcl
    -- the part after the group takes the values the body leaves
    obtain ⟨Rw, Rv, hRw, hRv, htRw, htRv, hR⟩ :=
      ihr hm.rest hbsr hne' (hp.drop (placeholderCount body))
        (fun w hw => hws w (List.mem_of_mem_drop hw)) (fun v hv => hvs v (List.mem_of_mem_drop hv))
    rw [fillPlaceholders_group ho, fillPlaceholders_group ho]
    simp only [isOpener, Bool.or_eq_true, beq_iff_eq] at ho
    rcases ho with rfl | rfl
    · by_cases hb : body = ['%', 's']
      · -- a bracketed mark: an expression of the value alone
        subst hb
        refine ⟨.expression (Item.ofText (ws.headD [])) :: Rw,
          .expression (Item.ofText (vs.headD [])) :: Rv, ⟨wellFormed_field hws, hRw⟩,
          ⟨wellFormed_field hvs, hRv⟩, ?_, ?_, .cons (.field hp.headD) hR⟩
        · rw [Item.text_cons, Item.text_expression, Item.text_ofText, htRw]
          simp [closerOf, fillPlaceholders.eq_1, fillPlaceholders.eq_2]
        · rw [Item.text_cons, Item.text_expression, Item.text_ofText, htRv]
          simp [closerOf, fillPlaceholders.eq_1, fillPlaceholders.eq_2]
      · obtain ⟨Bw, Bv, hBw, hBv, htBw, htBv, hB⟩ := ihb hm.body hbsb hb hp hws hvs
        refine ⟨.expression Bw :: Rw, .expression Bv :: Rv, ⟨hBw, hRw⟩, ⟨hBv, hRv⟩, ?_, ?_,
          .cons (.expression hB) hR⟩
        · rw [Item.text_cons, Item.text_expression, htBw, htRw]
          simp [closerOf]
        · rw [Item.text_cons, Item.text_expression, htBv, htRv]
          simp [closerOf]
    · -- a literal keeps its filled body as text
      refine ⟨.literal ((fillPlaceholders body ws).map .char) :: Rw,
        .literal ((fillPlaceholders body vs).map .char) :: Rv,
        ⟨wellFormed_filledLiteral hbody hbsb hws, hRw⟩, ⟨wellFormed_filledLiteral hbody hbsb hvs, hRv⟩,
        ?_, ?_, .cons (.literal (fillPlaceholders_sublist body hp)) hR⟩
      · rw [Item.text_cons, Item.text_literal, Token.toChars_map_char, htRw]
        simp [closerOf]
      · rw [Item.text_cons, Item.text_literal, Token.toChars_map_char, htRv]
        simp [closerOf]

/-- Every value of the larger list is plain, so every value of the smaller one is. -/
theorem Pointwise.plain {ws vs : List (List Char)} (h : Pointwise ws vs)
    (hvs : ∀ v ∈ vs, Plain v) : ∀ w ∈ ws, Plain w := by
  intro w hw c hc
  obtain ⟨i, hi, rfl⟩ := List.getElem_of_mem hw
  have hc' := (h i).subset (by simpa [List.getD_eq_getElem?_getD, hi] using hc)
  rw [List.getD_eq_getElem?_getD] at hc'
  cases hv : vs[i]? with
  | none => simp [hv] at hc'
  | some v =>
    rw [hv, Option.getD_some] at hc'
    exact hvs v (List.mem_of_getElem? hv) c hc'

/-- The texts that optional field values put in, shorter at each place. -/
theorem pointwise_fields {ws vs : List (Option String)}
    (h : ∀ i, ((ws.getD i none).getD "").toList.Sublist ((vs.getD i none).getD "").toList) :
    Pointwise (ws.map fun v => (v.getD "").toList) (vs.map fun v => (v.getD "").toList) := by
  intro i
  have hi := h i
  simp only [List.getD_eq_getElem?_getD, List.getElem?_map] at hi ⊢
  cases hw : ws[i]? <;> cases hv : vs[i]? <;> simp_all

/-- Emptying or shortening field values can only delete text from a citation. Take a template
without backslashes on which lint reports only matters of style, each `%s` of which stands
alone in brackets as `[%s]`, and field values without group characters or backslashes. If each
value of `ws` is a subsequence of the value at its place in `vs`, a missing value reading as
empty, then formatting with `ws` gives a subsequence of formatting with `vs`; or both fail, for
nesting too deep. -/
theorem format_sublist_of_fields {t : String} (hlint : ∀ i ∈ lint t.toList, i.isWarning = true)
    (hbs : '\\' ∉ t.toList)
    (hmarks : ∀ l r, t.toList = l ++ '%' :: 's' :: r → l.getLast? = some '[' ∧ r.head? = some ']')
    {ws vs : List (Option String)}
    (hvs : ∀ s, some s ∈ vs → ∀ c ∈ s.toList, isGroupChar c = false ∧ c ≠ '\\')
    (hsub : ∀ i, ((ws.getD i none).getD "").toList.Sublist ((vs.getD i none).getD "").toList) :
    Option.Rel (fun x y => x.toList.Sublist y.toList) (format t ws).toOption
      (format t vs).toOption := by
  have hnest : Nested t.toList := lint_isWarning_iff.mp hlint
  have hm : MarksBracketed none t.toList none := marksBracketed_none_iff.mpr hmarks
  have hne : t.toList ≠ ['%', 's'] := by
    intro h
    simpa using (hmarks [] [] (by rw [h]; rfl)).1
  have hp := pointwise_fields hsub
  have hvs' : ∀ v ∈ vs.map (fun v => (v.getD "").toList), Plain v := by
    intro v hv
    obtain ⟨o, ho, rfl⟩ := List.mem_map.mp hv
    cases o with
    | none => exact fun c hc => absurd hc (by simp)
    | some s => exact hvs s ho
  obtain ⟨Lw, Lv, hw, hv, htw, htv, hs⟩ := fill_trees hnest hm hbs hne hp (hp.plain hvs') hvs'
  simp only [format, evaluate, substitute, String.toList_ofList, evaluateChars,
    Except.toOption_map]
  rw [← htw, ← htv, Item.render_text _ _ hw, Item.render_text _ _ hv]
  exact Option.Rel.map (fun x y h => by simpa [String.toList_ofList] using h)
    (Item.render_shrinks _ _ _ hs)

/-- Whether every `%s` of a text has `[` right before it and `]` right after it, `before` being
the character before the text; nothing follows the text. -/
def marksBracketed : Option Char → List Char → Bool
  | before, '%' :: 's' :: rest =>
    before == some '[' && rest.head? == some ']' && marksBracketed (some 's') rest
  | _, c :: rest => marksBracketed (some c) rest
  | _, [] => true

/-- What `marksBracketed` finds holds of every way of writing the text around a mark. -/
theorem marksBracketed_sound {before : Option Char} {cs : List Char}
    (h : marksBracketed before cs = true) : MarksBracketed before cs none := by
  intro a b hab
  fun_induction marksBracketed before cs generalizing a with
  | case1 before rest ih =>
    simp only [Bool.and_eq_true, beq_iff_eq] at h
    rcases a with _ | ⟨x, _ | ⟨y, a⟩⟩
    · obtain rfl : rest = b := by simpa using hab
      simpa using ⟨h.1.1, h.1.2⟩
    · simp at hab
    · -- the mark is a later one: the text goes on after this mark's `s`
      simp only [List.cons_append, List.cons.injEq] at hab
      obtain ⟨rfl, rfl, rfl⟩ := hab
      rw [getLast?_cons_or, getLast?_cons_or]
      exact ih h.2 a rfl
  | case2 before c rest hnot ih =>
    cases a with
    | nil =>
      simp only [List.nil_append, List.cons.injEq] at hab
      exact absurd hab.2 (hnot b hab.1)
    | cons d a =>
      simp only [List.cons_append, List.cons.injEq] at hab
      obtain ⟨rfl, rfl⟩ := hab
      rw [getLast?_cons_or]
      exact ih h a rfl
  | case3 => simp at hab

/-- Dropping the second author of `[[%s]+{, }+[%s]]` leaves the first without the comma. -/
theorem format_sublist_of_fields_authors :
    Option.Rel (fun x y => x.toList.Sublist y.toList)
      (format "[[%s]+\x7b, \x7d+[%s]]" [some "Smith", none]).toOption
      (format "[[%s]+\x7b, \x7d+[%s]]" [some "Smith", some "Jones"]).toOption :=
  format_sublist_of_fields (by decide) (by decide)
    (marksBracketed_none_iff.mp (marksBracketed_sound (by decide)))
    (by intro s hs; simp at hs; rcases hs with rfl | rfl <;> simp [isGroupChar])
    (by intro i; rcases i with _ | _ | i <;> simp)

end CiteForm.Template
