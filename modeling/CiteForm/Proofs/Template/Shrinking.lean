import Mathlib.Data.List.Forall2
import CiteForm.Proofs.Template.Evaluation
/-!
# Shrinking fields

A tree *shrinks* another (`Item.Shrinks`, `Item.ShrinksAll`) when the two are the same tree
except at their fields and literals: there each text of the first is a subsequence of the
second's, the kind of item staying the same. This is what emptying or shortening field values
does to a template whose fields each fill an expression of their own.

Rendering respects it (`Item.render_shrinks`): both trees are refused, or both render and the
first text is a subsequence of the second. The cut sees the same shape on both sides; each
group's value shrinks; and `collapse` is monotone (`collapse_sublist`). An expression that is
empty on the larger side is empty on the smaller one, so a statement that collapses there
collapses here too, and one that collapses only here keeps only its expressions, which are a
subsequence of everything the other keeps.

* `collapse_sublist` — collapsing shrunk values gives a subsequence.
* `Item.render_shrinks` — rendering shrunk trees gives a subsequence, or fails on both sides.
-/

namespace CiteForm.Template

namespace Value

/-- `Shrinks u v`: the values are of one kind, and the text of `u` is a subsequence of `v`'s. -/
def Shrinks : Value → Value → Prop
  | expression a, expression b => a.Sublist b
  | literal a, literal b => a.Sublist b
  | _, _ => False

theorem Shrinks.text_sublist : ∀ {u v : Value}, u.Shrinks v → u.text.Sublist v.text
  | expression _, expression _, h => h
  | literal _, literal _, h => h

theorem Shrinks.expressionText_sublist :
    ∀ {u v : Value}, u.Shrinks v → u.expressionText.Sublist v.expressionText
  | expression _, expression _, h => h
  | literal _, literal _, _ => .slnil

/-- A value shrinking an empty expression is an empty expression. -/
theorem Shrinks.empty_of_empty : ∀ {u v : Value}, u.Shrinks v →
    v.isEmptyExpression = true → u.isEmptyExpression = true
  | expression _, expression b, h, hv => by
    simp only [Value.isEmptyExpression, List.isEmpty_iff] at hv ⊢
    subst hv
    exact List.eq_nil_of_sublist_nil h
  | literal _, literal _, _, hv => by simp [Value.isEmptyExpression] at hv

theorem expressionText_sublist_text (v : Value) : v.expressionText.Sublist v.text := by
  cases v with
  | expression t => exact List.Sublist.refl t
  | literal t => exact List.nil_sublist t

end Value

/-- Collapsing shrinks with the values: an empty expression on the larger side collapses both
statements, and an empty expression only on the smaller side keeps of it only expressions. -/
theorem collapse_sublist {us vs : List Value} (h : List.Forall₂ Value.Shrinks us vs) :
    (collapse us).Sublist (collapse vs) := by
  have hexpr : (us.flatMap Value.expressionText).Sublist (vs.flatMap Value.expressionText) :=
    List.flatMap_sublist_of_forall₂ (f := Value.expressionText) (g := Value.expressionText)
      (fun _ _ => Value.Shrinks.expressionText_sublist) h
  have htext : (us.flatMap Value.text).Sublist (vs.flatMap Value.text) :=
    List.flatMap_sublist_of_forall₂ (f := Value.text) (g := Value.text)
      (fun _ _ => Value.Shrinks.text_sublist) h
  by_cases hv : vs.any Value.isEmptyExpression = true
  · have hu : us.any Value.isEmptyExpression = true := by
      clear hexpr htext
      induction h with
      | nil => simp at hv
      | cons huv _ ih =>
        simp only [List.any_cons, Bool.or_eq_true] at hv ⊢
        rcases hv with hv | hv
        · exact .inl (huv.empty_of_empty hv)
        · exact .inr (ih hv)
    simpa [collapse, hu, hv] using hexpr
  · have hvs : (vs.flatMap Value.expressionText).Sublist (vs.flatMap Value.text) :=
      List.flatMap_sublist_of_forall₂ (R := Eq) (f := Value.expressionText) (g := Value.text)
        (fun v _ h => h ▸ Value.expressionText_sublist_text v)
        (List.forall₂_same.mpr fun _ _ => rfl)
    unfold collapse
    rw [if_neg hv]
    split
    · exact hexpr.trans hvs
    · exact htext

namespace Item

@[simp] theorem text_expression (b : List Item) :
    text [expression b] = '[' :: text b ++ [']'] := by
  simp [text, tokens, Token.source]

@[simp] theorem text_literal (ts : List Token) :
    text [literal ts] = '{' :: Token.toChars ts ++ ['}'] := by
  simp [text, tokens, Token.source]

/-- A text as items, each character a token of its own. -/
def ofText (w : List Char) : List Item := w.map fun c => token (.char c)

@[simp] theorem text_ofText (w : List Char) : text (ofText w) = w := by
  induction w with
  | nil => rfl
  | cons c w ih => simpa [ofText, text, tokens, Token.source] using ih

@[simp] theorem opens_ofText (w : List Char) : opens (ofText w) = false := by
  cases w <;> rfl

/-- A text of characters renders as itself once any room is left. -/
theorem render_ofText (whole w : List Char) (n : Nat) :
    render whole (n + 1) (ofText w) = .ok w := by
  simp [render]

mutual
/-- `Shrinks i j`: `i` is `j` with fields emptied or shortened. The two are the same item,
except that where `j` is an expression of field text or a literal, `i` is one of the same kind
whose text is a subsequence of `j`'s. -/
inductive Shrinks : Item → Item → Prop where
  | token (t : Token) : Shrinks (token t) (token t)
  | expression {b b' : List Item} : ShrinksAll b b' → Shrinks (expression b) (expression b')
  | field {w v : List Char} : w.Sublist v → Shrinks (expression (ofText w)) (expression (ofText v))
  | literal {a b : List Char} : a.Sublist b →
      Shrinks (literal (a.map .char)) (literal (b.map .char))

/-- Item by item, `Shrinks`. -/
inductive ShrinksAll : List Item → List Item → Prop where
  | nil : ShrinksAll [] []
  | cons {i j : Item} {L M : List Item} : Shrinks i j → ShrinksAll L M → ShrinksAll (i :: L) (j :: M)
end

theorem ShrinksAll.append : ∀ {L M L' M' : List Item}, ShrinksAll L M → ShrinksAll L' M' →
    ShrinksAll (L ++ L') (M ++ M')
  | _, _, _, _, .nil, h' => h'
  | _, _, _, _, .cons hij h, h' => .cons hij (h.append h')

theorem ShrinksAll.forall₂ : ∀ {L M : List Item}, ShrinksAll L M → List.Forall₂ Shrinks L M
  | _, _, .nil => .nil
  | _, _, .cons hij h => .cons hij h.forall₂

/-- Shrinking keeps whether an item is a group. -/
theorem Shrinks.isGroup_eq {i j : Item} (h : Shrinks i j) : i.isGroup = j.isGroup := by
  cases h <;> rfl

/-- Shrinking keeps whether a sequence opens with a group. -/
theorem ShrinksAll.opens_eq {L M : List Item} (h : ShrinksAll L M) : opens L = opens M := by
  cases h with
  | nil => rfl
  | cons hij _ => cases hij <;> rfl

mutual
/-- A shrunk item is written as a subsequence of the other. -/
theorem Shrinks.text_sublist : ∀ {i j : Item}, Shrinks i j → (text [i]).Sublist (text [j])
  | _, _, .token t => List.Sublist.refl _
  | _, _, .expression h => by
    simpa [text_expression] using (h.text_sublist.append_right [']']).cons_cons '['
  | _, _, .field h => by
    simpa [text_expression] using (h.append_right [']']).cons_cons '['
  | _, _, .literal h => by
    simpa [text_literal] using (h.append_right ['}']).cons_cons '{'

/-- A shrunk sequence is written as a subsequence of the other. -/
theorem ShrinksAll.text_sublist : ∀ {L M : List Item}, ShrinksAll L M → (text L).Sublist (text M)
  | _, _, .nil => List.Sublist.refl _
  | i :: L, j :: M, .cons hij h => by
    rw [text_cons i L, text_cons j M]
    exact hij.text_sublist.append h.text_sublist
end

/-- One step of the cut over a shrunk group, given the cut of what follows. -/
theorem cut_go_shrinks_group {i j : Item} (hij : Shrinks i j) (hg : i.isGroup = true)
    {L M : List Item} (ih : ∀ (closed : Bool) {st st' : List Item}, ShrinksAll st st' →
      List.Forall₂ ShrinksAll (cut.go closed st L) (cut.go closed st' M))
    (closed : Bool) {st st' : List Item} (hst : ShrinksAll st st') :
    List.Forall₂ ShrinksAll (cut.go closed st (i :: L)) (cut.go closed st' (j :: M)) := by
  have hg' : j.isGroup = true := hij.isGroup_eq ▸ hg
  cases closed with
  | false =>
    rw [cut_go_false_group hg, cut_go_false_group hg']
    exact ih true (hst.append (.cons hij .nil))
  | true =>
    rw [cut_go_true_group hg, cut_go_true_group hg']
    exact .cons hst (ih true (.cons hij .nil))

/-- Cutting shrunk sequences gives shrunk statements, one for one. -/
theorem cut_go_shrinks {L M : List Item} (h : ShrinksAll L M) : ∀ (closed : Bool)
    {st st' : List Item}, ShrinksAll st st' →
      List.Forall₂ ShrinksAll (cut.go closed st L) (cut.go closed st' M) := by
  induction L generalizing M with
  | nil =>
    cases h
    intro closed st st' hst
    cases closed with
    | false => simp [cut.go]
    | true => simpa [cut.go] using hst
  | cons i L ih =>
    cases h with
    | cons hij h =>
      intro closed st st' hst
      cases hij with
      | token t =>
        cases closed with
        | false => simp [cut.go]
        | true =>
          -- a `+` goes on with the statement; any other token ends the cut
          by_cases hplus : t = .char '+'
          · subst hplus
            simpa [cut.go] using ih h false hst
          · rw [cut_go_true_token hplus, cut_go_true_token hplus]
            exact .cons hst .nil
      | expression hb => exact cut_go_shrinks_group (.expression hb) rfl (ih h) closed hst
      | field hw => exact cut_go_shrinks_group (.field hw) rfl (ih h) closed hst
      | literal ha => exact cut_go_shrinks_group (.literal ha) rfl (ih h) closed hst

theorem cut_shrinks {L M : List Item} (h : ShrinksAll L M) :
    List.Forall₂ ShrinksAll (cut L) (cut M) :=
  cut_go_shrinks h false .nil

/-- Valuing shrunk groups under renderings that keep shrinking gives shrunk values. -/
theorem valueWith_shrinks {f g : List Item → Except RenderError (List Char)}
    (hfg : ∀ b b', ShrinksAll b b' → Option.Rel List.Sublist (f b).toOption (g b').toOption)
    (hfield : ∀ w v : List Char, w.Sublist v →
      Option.Rel List.Sublist (f (ofText w)).toOption (g (ofText v)).toOption)
    {i j : Item} (h : Shrinks i j) :
    Option.Rel Value.Shrinks (valueWith f i).toOption (valueWith g j).toOption := by
  cases h with
  | token t => exact .none
  | expression hb =>
    rw [valueWith, valueWith, Except.toOption_map, Except.toOption_map]
    exact Option.Rel.map (S := Value.Shrinks) (f := Value.expression) (g := Value.expression)
      (fun _ _ h => h) (hfg _ _ hb)
  | field hw =>
    rw [valueWith, valueWith, Except.toOption_map, Except.toOption_map]
    exact Option.Rel.map (S := Value.Shrinks) (f := Value.expression) (g := Value.expression)
      (fun _ _ h => h) (hfield _ _ hw)
  | literal ha =>
    simpa [valueWith, Value.Shrinks, Function.comp_def, Token.unescape] using ha

/-- Rendering shrunk trees: both are refused, or both render and the first text is a
subsequence of the second. -/
theorem render_shrinks (whole whole' : List Char) : ∀ (n : Nat) {L M : List Item},
    ShrinksAll L M → Option.Rel List.Sublist (render whole n L).toOption (render whole' n M).toOption
  | 0, _, _, _ => .none
  | n + 1, L, M, h => by
    by_cases ho : opens L = true
    · -- statement by statement, the values shrink, and so do their collapses
      have ho' : opens M = true := h.opens_eq ▸ ho
      have hfield : ∀ w v : List Char, w.Sublist v → Option.Rel List.Sublist
          (render whole n (ofText w)).toOption (render whole' n (ofText v)).toOption := by
        intro w v hwv
        cases n with
        | zero => exact .none
        | succ m => simpa [render_ofText] using hwv
      have hstmt : ∀ st st', ShrinksAll st st' → Option.Rel List.Sublist
          (collapse <$> st.mapM (valueWith (render whole n))).toOption
          (collapse <$> st'.mapM (valueWith (render whole' n))).toOption := by
        intro st st' hst
        rw [Except.toOption_map, Except.toOption_map]
        exact Option.Rel.map (R := List.Forall₂ Value.Shrinks) (fun _ _ h => collapse_sublist h)
          (List.mapM_rel (fun _ _ hij => valueWith_shrinks
            (fun _ _ hb => render_shrinks whole whole' n hb) hfield hij) hst.forall₂)
      rw [render.eq_2, if_pos ho, render.eq_2, if_pos ho', Except.toOption_bind_pure,
        Except.toOption_bind_pure]
      exact Option.Rel.map (R := List.Forall₂ List.Sublist)
        (fun _ _ h => List.flatten_sublist_of_forall₂ h)
        (List.mapM_rel hstmt (cut_shrinks h))
    · have ho' : ¬ opens M = true := h.opens_eq ▸ ho
      rw [render.eq_2, if_neg ho, render.eq_2, if_neg ho']
      exact .some h.text_sublist

end Item

end CiteForm.Template
