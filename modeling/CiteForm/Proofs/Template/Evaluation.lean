import CiteForm.Proofs.Template.Cut
import CiteForm.Proofs.Traversal
/-!
# Rendering a tree

`Item.render` renders a tree the way the evaluator renders text, with the cut of the tree in place
of the cut of its text: a sequence that opens with a group is cut into statements, each statement
is collapsed from the values of its groups, and an expression's body is rendered one level down;
any other sequence is its own text. `Item.render_text` shows that rendering the text of a
well-formed tree is rendering the tree, for every allowance of nesting. What the evaluator does
on such texts can then be argued over trees, by induction on their groups.

* `Item.valueWith` — the value of a group, its body rendered by a given function.
* `Item.render` — rendering with a given allowance of nesting.
* `Item.render_text` — the evaluator on the text of a tree is `Item.render` on the tree.
* `Item.render_error`, `Item.render_ok_of_le`, `Item.render_ok_of_depth` — a well-formed tree is
  refused only for too deep a nesting, keeps its rendering with more room, and renders once the
  room exceeds its depth.
-/

namespace CiteForm

namespace Template

/-- An expression's addend: its value is its body's rendering. -/
theorem addendValue_expression (inner : List Char → Except RenderError (List Char))
    (cs : List Char) : addendValue inner ('[' :: (cs ++ [']'])) = .expression <$> inner cs := by
  obtain ⟨d, ds, h⟩ : ∃ d ds, cs ++ [']'] = d :: ds := List.exists_cons_of_ne_nil (by simp)
  have hlast : (d :: ds).getLast? = some ']' := by rw [← h]; simp
  have hdrop : (d :: ds).dropLast = cs := by rw [← h]; simp
  simp [addendValue, h, hlast, hdrop]

/-- A literal's addend: its value is its body as written in the addend. -/
theorem addendValue_literal (inner : List Char → Except RenderError (List Char))
    (cs : List Char) : addendValue inner ('{' :: (cs ++ ['}'])) = pure (.literal cs) := by
  obtain ⟨d, ds, h⟩ : ∃ d ds, cs ++ ['}'] = d :: ds := List.exists_cons_of_ne_nil (by simp)
  have hlast : (d :: ds).getLast? = some '}' := by rw [← h]; simp
  have hdrop : (d :: ds).dropLast = cs := by rw [← h]; simp
  simp [addendValue, h, hlast, hdrop]

namespace Item

/-- What a group gives its statement, an expression's body rendered by `inner`. A token is no
addend: it is refused as an unbalanced one would be. -/
def valueWith (inner : List Item → Except RenderError (List Char)) :
    Item → Except RenderError Value
  | token t => .error (.unbalanced (Token.toChars [t]))
  | expression b => .expression <$> inner b
  | literal b => pure (.literal (b.map Token.unescape))

/-- Renders a sequence of items with `fuel` more levels of nesting allowed; `whole` is the text
an error for too deep a nesting reports. -/
def render (whole : List Char) : Nat → List Item → Except RenderError (List Char)
  | 0, _ => .error (.tooDeep whole)
  | n + 1, L =>
    if opens L then do
      let parts ← (cut L).mapM fun st => collapse <$> st.mapM (valueWith (render whole n))
      pure parts.flatten
    else pure (text L)

/-- The text of a well-formed tree opens with a group exactly when the tree does. -/
theorem opensGroup_text {L : List Item} (hL : AllWellFormed L) : opensGroup (text L) = opens L := by
  cases L with
  | nil => rfl
  | cons i is =>
    have hi := (allWellFormed_cons.mp hL).1
    cases i with
    | token t =>
      cases t with
      | char c =>
        have hc : isGroupChar c = false := (wellFormed_token.mp hi).1
        simp only [isGroupChar, Bool.or_eq_false_iff] at hc
        simp [text, tokens, Token.source, opensGroup, opens, hc.1.1.1, hc.1.2]
      | escaped c => simp [text, tokens, Token.source, opensGroup, opens]
    | expression b => simp [text, tokens, Token.source, opensGroup, opens]
    | literal b => simp [text, tokens, Token.source, opensGroup, opens]

/-- Rendering the text of a well-formed tree is rendering the tree. -/
theorem render_text (whole : List Char) :
    ∀ (n : Nat) {L : List Item}, AllWellFormed L → Template.render whole n (text L) = render whole n L
  | 0, _, _ => rfl
  | n + 1, L, hL => by
    -- each addend of the cut is a well-formed group, valued alike on both sides
    have hgroup : ∀ st ∈ cut L, ∀ g ∈ st,
        addendValue (Template.render whole n) g.addend = valueWith (render whole n) g := by
      intro st hst g hg
      obtain ⟨hmem, hgrp⟩ := mem_cut hst hg
      have hwf := allWellFormed_iff.mp hL g hmem
      cases g with
      | token t => simp [isGroup] at hgrp
      | expression b =>
        simp [addend, valueWith, addendValue_expression,
          render_text whole n (wellFormed_expression.mp hwf)]
      | literal b => simp [addend, valueWith, addendValue_literal]
    have hstmt : ∀ st ∈ cut L,
        (collapse <$> st.mapM fun g => addendValue (Template.render whole n) g.addend) =
          collapse <$> st.mapM (valueWith (render whole n)) := fun st hst => by
      rw [List.mapM_congr_mem (hgroup st hst)]
    simp only [Template.render, render, opensGroup_text hL, statements_text hL, List.mapM_map,
      Function.comp_def]
    rw [List.mapM_congr_mem hstmt]


mutual
/-- How deeply expressions nest in an item. -/
def depth : Item → Nat
  | token _ => 0
  | expression b => depthOf b + 1
  | literal _ => 0

/-- How deeply expressions nest in a sequence of items. -/
def depthOf : List Item → Nat
  | [] => 0
  | i :: is => max i.depth (depthOf is)
end

theorem depth_le_depthOf {i : Item} : ∀ {L : List Item}, i ∈ L → i.depth ≤ depthOf L
  | j :: L, h => by
    rcases List.mem_cons.mp h with rfl | h
    · exact Nat.le_max_left _ _
    · exact Nat.le_trans (depth_le_depthOf h) (Nat.le_max_right _ _)

mutual
/-- An item nests fewer expressions than it has characters. -/
theorem depth_lt_length : ∀ i : Item, i.depth < (Token.toChars i.tokens).length
  | token t => by cases t <;> simp [depth, tokens, Token.source]
  | expression b => by
    have hb := depthOf_le_length b
    simp only [depth, tokens, text] at hb ⊢
    simp [Token.source]
    omega
  | literal b => by simp [depth, tokens, Token.source]

/-- A sequence nests no more expressions than it has characters. -/
theorem depthOf_le_length : ∀ L : List Item, depthOf L ≤ (text L).length
  | [] => by simp [depthOf]
  | i :: is => by
    have hi := depth_lt_length i
    have his := depthOf_le_length is
    simp only [depthOf, text, tokensOf_cons, Token.toChars_append, List.length_append] at his ⊢
    omega
end

/-- A group's value agrees under two renderings that agree on its body. -/
theorem valueWith_ok_of_ok {f g : List Item → Except RenderError (List Char)} {i : Item}
    (hfg : ∀ b, i = expression b → ∀ y, f b = .ok y → g b = .ok y) {v : Value}
    (h : valueWith f i = .ok v) : valueWith g i = .ok v := by
  cases i with
  | token t => simp [valueWith] at h
  | expression b =>
    cases hb : f b with
    | error e => simp [valueWith, hb] at h
    | ok y => simpa [valueWith, hfg b rfl y hb, hb] using h
  | literal b => simpa [valueWith] using h

/-- A group fails only where its body fails. -/
theorem valueWith_error {f : List Item → Except RenderError (List Char)} {i : Item}
    (hi : i.isGroup = true) {e : RenderError} (h : valueWith f i = .error e) :
    ∃ b, i = expression b ∧ f b = .error e := by
  cases i with
  | token t => simp [isGroup] at hi
  | expression b =>
    cases hb : f b with
    | error e' => exact ⟨b, rfl, by simpa [valueWith, hb] using h⟩
    | ok y => simp [valueWith, hb] at h
  | literal b => simp [valueWith] at h

/-- The statements of a cut collapse alike under two renderings of bodies, when the second
agrees with the first wherever the first succeeds on a body of the sequence. -/
theorem mapM_cut_ok_of_ok {f g : List Item → Except RenderError (List Char)} {L : List Item}
    (hfg : ∀ b, expression b ∈ L → ∀ y, f b = .ok y → g b = .ok y) {parts : List (List Char)}
    (h : (cut L).mapM (fun st => collapse <$> st.mapM (valueWith f)) = .ok parts) :
    (cut L).mapM (fun st => collapse <$> st.mapM (valueWith g)) = .ok parts := by
  refine List.mapM_ok_of_ok h fun st hst y hy => ?_
  cases hs : st.mapM (valueWith f) with
  | error e => simp [hs] at hy
  | ok vs =>
    have hg : st.mapM (valueWith g) = .ok vs := List.mapM_ok_of_ok hs fun i hi w hw =>
      valueWith_ok_of_ok (fun b hb => hfg b (hb ▸ (mem_cut hst hi).1)) hw
    simpa [hs, hg] using hy

/-- More room for nesting does not change a rendering that succeeds. -/
theorem render_succ_of_ok (whole : List Char) :
    ∀ (n : Nat) {L : List Item} {v : List Char}, AllWellFormed L →
      render whole n L = .ok v → render whole (n + 1) L = .ok v
  | 0, _, _, _, h => by simp [render] at h
  | n + 1, L, v, hL, h => by
    by_cases ho : opens L
    · rw [render.eq_2, if_pos ho] at h ⊢
      cases hm : (cut L).mapM (fun st => collapse <$> st.mapM (valueWith (render whole n))) with
      | error e => simp [hm] at h
      | ok parts =>
        have hbody : ∀ b, expression b ∈ L → ∀ y,
            render whole n b = .ok y → render whole (n + 1) b = .ok y := fun b hb _ hy =>
          render_succ_of_ok whole n (wellFormed_expression.mp (allWellFormed_iff.mp hL _ hb)) hy
        simpa [hm, mapM_cut_ok_of_ok hbody hm] using h
    · simpa [render, ho] using h

/-- A rendering that succeeds keeps its result with any more room for nesting. -/
theorem render_ok_of_le (whole : List Char) {n m : Nat} (hnm : n ≤ m) {L : List Item}
    {v : List Char} (hL : AllWellFormed L) (h : render whole n L = .ok v) :
    render whole m L = .ok v := by
  induction hnm with
  | refl => exact h
  | step _ ih => exact render_succ_of_ok whole _ hL ih

/-- A well-formed tree is only ever refused for too deep a nesting. -/
theorem render_error (whole : List Char) :
    ∀ (n : Nat) {L : List Item} {e : RenderError}, AllWellFormed L →
      render whole n L = .error e → e = .tooDeep whole
  | 0, _, _, _, h => by simpa [render] using h.symm
  | n + 1, L, e, hL, h => by
    by_cases ho : opens L
    · simp only [render, ho, if_true] at h
      cases hm : (cut L).mapM (fun st => collapse <$> st.mapM (valueWith (render whole n))) with
      | ok parts => simp [hm] at h
      | error e' =>
        simp only [hm, Except.error_bind, Except.error.injEq] at h
        obtain ⟨st, hst, hse⟩ := List.exists_of_mapM_error hm
        cases hs : st.mapM (valueWith (render whole n)) with
        | ok vs => simp [hs] at hse
        | error e'' =>
          simp only [hs, Except.map_error, Except.error.injEq] at hse
          obtain ⟨i, hi, hie⟩ := List.exists_of_mapM_error hs
          obtain ⟨b, rfl, hb⟩ := valueWith_error (mem_cut hst hi).2 hie
          have hwf := wellFormed_expression.mp (allWellFormed_iff.mp hL _ (mem_cut hst hi).1)
          rw [← h, ← hse]
          exact render_error whole n hwf hb
    · simp [render, ho] at h

/-- A well-formed tree renders once the room for nesting exceeds its depth. -/
theorem render_ok_of_depth (whole : List Char) :
    ∀ (n : Nat) {L : List Item}, AllWellFormed L → depthOf L < n → ∃ v, render whole n L = .ok v
  | 0, _, _, h => absurd h (Nat.not_lt_zero _)
  | n + 1, L, hL, h => by
    by_cases ho : opens L
    · have hst : ∀ st ∈ cut L, ∃ y,
          (collapse <$> st.mapM (valueWith (render whole n))) = .ok y := by
        intro st hst
        have hval : ∀ i ∈ st, ∃ y, valueWith (render whole n) i = .ok y := by
          intro i hi
          obtain ⟨hiL, hgrp⟩ := mem_cut hst hi
          cases i with
          | token t => simp [isGroup] at hgrp
          | expression b =>
            have hd : depthOf b < n := by
              have := depth_le_depthOf hiL
              simp only [depth] at this
              omega
            obtain ⟨y, hy⟩ := render_ok_of_depth whole n
              (wellFormed_expression.mp (allWellFormed_iff.mp hL _ hiL)) hd
            exact ⟨.expression y, by simp [valueWith, hy]⟩
          | literal b => exact ⟨_, rfl⟩
        obtain ⟨vs, hvs⟩ := List.mapM_ok_of_forall hval
        exact ⟨collapse vs, by simp [hvs]⟩
      obtain ⟨parts, hparts⟩ := List.mapM_ok_of_forall hst
      exact ⟨parts.flatten, by simp [render, ho, hparts]⟩
    · exact ⟨text L, by simp [render, ho]⟩

theorem depthOf_append (L M : List Item) : depthOf (L ++ M) = max (depthOf L) (depthOf M) := by
  induction L with
  | nil => simp [depthOf]
  | cons i L ih => simp only [List.cons_append, depthOf, ih]; omega

/-- The `+` tokens of a statement written out nest nothing. -/
theorem depthOf_intersperse (t : Token) : ∀ G : List Item,
    depthOf (G.intersperse (token t)) = depthOf G
  | [] => rfl
  | [g] => rfl
  | g :: h :: G => by
    have ih := depthOf_intersperse t (h :: G)
    simp only [List.intersperse_cons_cons, depthOf, depth] at ih ⊢
    omega

theorem allWellFormed_intersperse {t : Token} (ht : t.Loose) : ∀ {G : List Item},
    (∀ g ∈ G, g.WellFormed) → AllWellFormed (G.intersperse (token t))
  | [], _ => trivial
  | [g], hG => by simpa using hG
  | g :: h :: G, hG => by
    have ih := allWellFormed_intersperse ht (G := h :: G) fun i hi => hG i (List.mem_cons_of_mem g hi)
    simp only [List.intersperse_cons_cons, allWellFormed_cons, wellFormed_token] at ih ⊢
    exact ⟨hG g List.mem_cons_self, ht, ih⟩

/-- A statement written out, followed by a sequence that opens with a group or is empty, renders
as the collapse of its groups' values followed by the rendering of the rest. -/
theorem render_intersperse_append (whole : List Char) (n : Nat) {G L : List Item} (hne : G ≠ [])
    (hG : ∀ g ∈ G, g.isGroup = true) (hL : opens L = true ∨ L = []) {gs : List Value}
    {v : List Char} (hgs : G.mapM (valueWith (render whole n)) = .ok gs)
    (hv : render whole (n + 1) L = .ok v) :
    render whole (n + 1) (G.intersperse (token (.char '+')) ++ L) = .ok (collapse gs ++ v) := by
  -- the rest renders as its statements do, also when it is empty
  have hrest : ∃ parts, (cut L).mapM (fun st => collapse <$> st.mapM (valueWith (render whole n)))
      = .ok parts ∧ parts.flatten = v := by
    rcases hL with hL | rfl
    · rw [render.eq_2, if_pos hL] at hv
      cases hm : (cut L).mapM (fun st => collapse <$> st.mapM (valueWith (render whole n))) with
      | error e => simp [hm] at hv
      | ok parts => exact ⟨parts, rfl, by simpa [hm] using hv⟩
    · exact ⟨[], rfl, by simpa [render, opens, text] using hv⟩
  obtain ⟨parts, hparts, hflat⟩ := hrest
  rw [render.eq_2, if_pos (opens_intersperse_append hne hG L), cut_intersperse_append hne hG hL]
  simp [hgs, hparts, hflat]

end Item

end Template

end CiteForm
