import CiteForm.Proofs.Template.Evaluation
import CiteForm.Proofs.Template.Placeholder
import CiteForm.Template.Format
/-!
# Well-nested templates evaluate

A template without backslashes on which lint reports only matters of style is well nested
(`Analysis.lint_isWarning_iff`), and a well-nested text without backslashes is the text of a
well-formed tree: brackets become expressions, braces become literals whose bodies keep every
character, brackets included, as a token (`tree_of_nested`). Everything known about rendering
trees then applies. The cut meets only groups, each addend opens and closes with the brackets
or braces of its group, both counters of the cut are zero whenever an addend closes, and the
evaluator is never left with an addend it cannot read: it only ever refuses a text for nesting
too deep, and with room for the nesting it returns a text.

The body of an expression addend is again well nested and free of backslashes, so the same
holds at every level of nesting. Field values without group characters or backslashes keep a
template well nested when they are filled in, so formatting such a template never meets an
unbalanced addend either.

* `tree_of_nested` — a well-nested text without backslashes is the text of a well-formed tree.
* `render_lint_clean` — what the evaluator does on a lint-clean template without backslashes.
-/

namespace CiteForm.Template

open Analysis

/-- A character is a group character exactly when it opens or closes. -/
theorem isGroupChar_eq (c : Char) : isGroupChar c = (isOpener c || isCloser c) := by
  simp only [isGroupChar, isOpener, isCloser]
  cases c == '[' <;> cases c == ']' <;> cases c == '{' <;> cases c == '}' <;> rfl

/-- A text without group characters is well nested. -/
theorem nested_of_not_group : ∀ {cs : List Char}, (∀ c ∈ cs, isGroupChar c = false) → Nested cs
  | [], _ => .nil
  | c :: cs, h => by
    have hc := h c List.mem_cons_self
    rw [isGroupChar_eq, Bool.or_eq_false_iff] at hc
    exact .char hc.1 hc.2 (nested_of_not_group fun d hd => h d (List.mem_cons_of_mem c hd))

/-- Read as the body of a literal, a well-nested text has balanced braces. -/
theorem braced_of_nested {cs : List Char} (h : Nested cs) : Braced (cs.map .char) := by
  induction h with
  | nil => exact .nil
  | @char c rest ho hc _ ih =>
    have hg : isGroupChar c = false := by rw [isGroupChar_eq, ho, hc]; rfl
    simp only [isGroupChar, Bool.or_eq_false_iff, beq_eq_false_iff_ne] at hg
    exact .token (by simpa using hg.1.2) (by simpa using hg.2) ih
  | @group o body rest ho _ _ ihb ihr =>
    simp only [isOpener, Bool.or_eq_true, beq_iff_eq] at ho
    rcases ho with rfl | rfl
    · -- brackets inside a literal are plain tokens around a braced body
      have hclose : Braced (.char ']' :: rest.map .char) := .token (by simp) (by simp) ihr
      simpa [closerOf] using Braced.token (by simp) (by simp) (ihb.append hclose)
    · simpa [closerOf] using Braced.nest ihb ihr

/-- A well-nested text without backslashes is the text of a well-formed tree, each expression
of which has a well-nested body without backslashes. -/
theorem tree_of_nested {cs : List Char} (h : Nested cs) (hbs : '\\' ∉ cs) :
    ∃ L : List Item, Item.AllWellFormed L ∧ Item.text L = cs ∧
      ∀ b, Item.expression b ∈ L → Nested (Item.text b) ∧ '\\' ∉ Item.text b := by
  induction h with
  | nil => exact ⟨[], trivial, rfl, by simp⟩
  | @char c rest ho hc _ ih =>
    obtain ⟨L, hL, htext, hsub⟩ := ih fun h => hbs (List.mem_cons_of_mem c h)
    have hg : isGroupChar c = false := by rw [isGroupChar_eq, ho, hc]; rfl
    have hcb : c ≠ '\\' := fun h => hbs (h ▸ List.mem_cons_self)
    refine ⟨.token (.char c) :: L, ⟨⟨hg, hcb⟩, hL⟩, ?_, ?_⟩
    · simp [Item.text, Item.tokens, Token.source, ← htext]
    · intro b hb
      rcases List.mem_cons.mp hb with hb | hb
      · cases hb
      · exact hsub b hb
  | @group o body rest ho hbody _ ihb ihr =>
    have hbsb : '\\' ∉ body := fun h => hbs (by simp [h])
    have hbsr : '\\' ∉ rest := fun h => hbs (by simp [h])
    obtain ⟨Lr, hLr, htextr, hsubr⟩ := ihr hbsr
    simp only [isOpener, Bool.or_eq_true, beq_iff_eq] at ho
    rcases ho with rfl | rfl
    · -- a bracket opens an expression over the tree of its body
      obtain ⟨Lb, hLb, htextb, -⟩ := ihb hbsb
      refine ⟨.expression Lb :: Lr, ⟨hLb, hLr⟩, ?_, ?_⟩
      · simp [Item.text, Item.tokens, Token.source, closerOf, ← htextb, ← htextr]
      · intro b hb
        rcases List.mem_cons.mp hb with hb | hb
        · cases hb
          exact ⟨htextb ▸ hbody, htextb ▸ hbsb⟩
        · exact hsubr b hb
    · -- a brace opens a literal that keeps its body as written
      have hcan : ∀ t ∈ body.map Token.char, t.Canonical := by
        intro t ht
        obtain ⟨c, hc, rfl⟩ := List.mem_map.mp ht
        exact fun h => hbsb (h ▸ hc)
      refine ⟨.literal (body.map .char) :: Lr, ⟨⟨braced_of_nested hbody, hcan⟩, hLr⟩, ?_, ?_⟩
      · simp [Item.text, Item.tokens, Token.source, closerOf, ← htextr]
      · intro b hb
        rcases List.mem_cons.mp hb with hb | hb
        · cases hb
        · exact hsubr b hb

/-- The evaluator refuses a well-nested text without backslashes only for nesting too deep. -/
theorem render_error_of_nested {cs : List Char} (h : Nested cs) (hbs : '\\' ∉ cs)
    (whole : List Char) (n : Nat) {e : RenderError} (he : render whole n cs = .error e) :
    e = .tooDeep whole := by
  obtain ⟨L, hL, htext, -⟩ := tree_of_nested h hbs
  rw [← htext, Item.render_text whole n hL] at he
  exact Item.render_error whole n hL he

/-- Values free of group characters and backslashes, filled into a well-nested template free of
backslashes, never leave a group unbalanced: the filled template is again well nested and free
of backslashes. -/
theorem format_ne_unbalanced {t : String} (hnest : Nested t.toList) (hbs : '\\' ∉ t.toList)
    {values : List (Option String)}
    (hvals : ∀ s, some s ∈ values → ∀ c ∈ s.toList, isGroupChar c = false ∧ c ≠ '\\')
    (a : List Char) : format t values ≠ .error (.unbalanced a) := by
  intro hfmt
  have hvs : ∀ v ∈ values.map (fun v => (v.getD "").toList), Nested v ∧ '\\' ∉ v := by
    intro v hv
    obtain ⟨o, ho, rfl⟩ := List.mem_map.mp hv
    cases o with
    | none => exact ⟨.nil, by simp⟩
    | some s =>
      have hs := hvals s ho
      exact ⟨nested_of_not_group fun c hc => (hs c hc).1, fun h => (hs '\\' h).2 rfl⟩
  have hfill := nested_fillPlaceholders hnest fun v hv => (hvs v hv).1
  have hfillbs := not_mem_fillPlaceholders hbs fun v hv => (hvs v hv).2
  simp only [format, evaluate, substitute, String.toList_ofList] at hfmt
  cases he : evaluateChars
      (fillPlaceholders t.toList (values.map fun v => (v.getD "").toList)) with
  | ok r => simp [he] at hfmt
  | error e =>
    simp only [he, Except.map_error, Except.error.injEq] at hfmt
    have htoo := render_error_of_nested hfill hfillbs _ _ he
    rw [hfmt] at htoo
    cases htoo

/-- What the evaluator does on a template without backslashes on which lint reports only
matters of style. It never meets an addend it cannot read: it refuses the template only for
nesting too deep, and with room for more levels of nesting than the template has characters it
returns a text. Every addend of the cut is a group that opens and closes with its brackets or
braces, and the body of an expression addend is again such a template, so the same holds at
every level of nesting; both counters of the cut are zero whenever an addend closes. Filling in
field values without group characters or backslashes keeps all this, so formatting the template
never fails on an unbalanced addend. -/
theorem render_lint_clean {t : String} (hlint : ∀ i ∈ lint t.toList, i.isWarning = true)
    (hbs : '\\' ∉ t.toList) :
    (∀ whole n e, render whole n t.toList = .error e → e = .tooDeep whole) ∧
    (∀ whole n, t.toList.length < n → ∃ v, render whole n t.toList = .ok v) ∧
    (∀ st ∈ statements t.toList, ∀ a ∈ st,
      (∃ b, a = '[' :: b ++ [']'] ∧ (∀ i ∈ lint b, i.isWarning = true) ∧ '\\' ∉ b) ∨
        (∃ b, a = '{' :: b ++ ['}'])) ∧
    (∀ x ∈ ((Token.ofChars t.toList).scanl Cut.step {}).tail,
      x.phase = .closed → x.depth = {}) ∧
    (∀ values : List (Option String),
      (∀ s, some s ∈ values → ∀ c ∈ s.toList, isGroupChar c = false ∧ c ≠ '\\') →
      ∀ a, format t values ≠ .error (.unbalanced a)) := by
  have hnest : Nested t.toList := lint_isWarning_iff.mp hlint
  obtain ⟨L, hL, htext, hsub⟩ := tree_of_nested hnest hbs
  refine ⟨fun whole n e he => render_error_of_nested hnest hbs whole n he, ?_, ?_, ?_, ?_⟩
  · intro whole n hn
    have hdepth := Item.depthOf_le_length L
    rw [htext] at hdepth
    rw [← htext, Item.render_text whole n hL]
    exact Item.render_ok_of_depth whole n hL (by omega)
  · -- the addends are those of the groups of the tree's cut
    intro st hst a ha
    rw [← htext, Item.statements_text hL, List.mem_map] at hst
    obtain ⟨st', hst', rfl⟩ := hst
    obtain ⟨g, hg, rfl⟩ := List.mem_map.mp ha
    obtain ⟨hgL, hgrp⟩ := Item.mem_cut hst' hg
    cases g with
    | token t => simp [Item.isGroup] at hgrp
    | expression b =>
      obtain ⟨hb, hbb⟩ := hsub b hgL
      exact .inl ⟨Item.text b, rfl, lint_isWarning_iff.mpr hb, hbb⟩
    | literal b => exact .inr ⟨b.map Token.unescape, rfl⟩
  · have hzero := Item.closesAtZero_text hL
    rw [htext] at hzero
    exact (Cut.always_iff_scanl _ _).mp hzero
  · exact fun values hvals => format_ne_unbalanced hnest hbs hvals

/-- The two-author form `[[%s]+{, }+[%s]]` is lint-clean, and evaluates as above. -/
theorem render_lint_clean_authors :
    (∀ i ∈ lint "[[%s]+\x7b, \x7d+[%s]]".toList, i.isWarning = true) ∧
    '\\' ∉ "[[%s]+\x7b, \x7d+[%s]]".toList ∧
    ((∀ whole n e, render whole n "[[%s]+\x7b, \x7d+[%s]]".toList = .error e →
        e = .tooDeep whole) ∧
      (∀ whole n, "[[%s]+\x7b, \x7d+[%s]]".toList.length < n →
        ∃ v, render whole n "[[%s]+\x7b, \x7d+[%s]]".toList = .ok v) ∧
      (∀ st ∈ statements "[[%s]+\x7b, \x7d+[%s]]".toList, ∀ a ∈ st,
        (∃ b, a = '[' :: b ++ [']'] ∧ (∀ i ∈ lint b, i.isWarning = true) ∧ '\\' ∉ b) ∨
          (∃ b, a = '{' :: b ++ ['}'])) ∧
      (∀ x ∈ ((Token.ofChars "[[%s]+\x7b, \x7d+[%s]]".toList).scanl Cut.step {}).tail,
        x.phase = .closed → x.depth = {}) ∧
      (∀ values : List (Option String),
        (∀ s, some s ∈ values → ∀ c ∈ s.toList, isGroupChar c = false ∧ c ≠ '\\') →
        ∀ a, format "[[%s]+\x7b, \x7d+[%s]]" values ≠ .error (.unbalanced a))) := by
  have hlint : ∀ i ∈ lint "[[%s]+\x7b, \x7d+[%s]]".toList, i.isWarning = true := by decide
  have hbs : '\\' ∉ "[[%s]+\x7b, \x7d+[%s]]".toList := by decide
  exact ⟨hlint, hbs, render_lint_clean hlint hbs⟩

end CiteForm.Template
