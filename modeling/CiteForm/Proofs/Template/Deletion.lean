import CiteForm.Proofs.Template.Shrinking
/-!
# Evaluation only deletes

Rendering a text never invents, repeats or reorders a character: what it returns is a
subsequence of the text. The cut keeps of each token at most the characters the token was read
from, and keeps them in reading order; the collapse rule keeps some of each statement's values;
a literal's value is its addend less the braces; and an expression's value is, one level of
nesting down, a subsequence of its body. What is lost is the group delimiters, the `+` between
addends, the backslash of an escape pair inside a literal, the literals of a collapsed
statement, and whatever never closes.

* `Cut.kept` — the text a cut has kept; `Cut.kept_step` — a token adds at most its own text.
* `statements_sublist` — the addends of a cut, one after another, are a subsequence of the text.
* `render_sublist` — a rendering that succeeds is a subsequence of the text rendered.
* `evaluate_sublist` — the same for the evaluator, so it never lengthens a text.
-/

namespace CiteForm.Template

/-- What a token adds to an addend is some of the characters it was read from. -/
theorem Token.addendText_sublist (o : Option Char) (t : Token) :
    (t.addendText o).Sublist t.source := by
  cases t with
  | char c => exact .refl _
  | escaped c => by_cases h : o = some '{' <;> simp [Token.addendText, Token.source, h]

namespace Cut

/-- The text a cut has kept: the addends of its finished statements, those of the open
statement, then the open addend, in the order they were read. -/
def kept (s : Cut) : List Char :=
  (s.done.reverse.map List.flatten).flatten ++ s.st.reverse.flatten ++ s.acc.reverse

@[simp] theorem kept_empty : ({} : Cut).kept = [] := rfl

/-- Feeding a token to the open addend keeps the text it adds there. -/
theorem kept_feed (s : Cut) (o : Char) (t : Token) :
    (s.feed o t).kept = s.kept ++ t.addendText (some o) := by
  cases t with
  | escaped c => simp [feed, kept]
  | char c =>
    simp only [feed]
    split <;> simp [kept, Token.addendText]

/-- Finishing the open statement moves its addends without changing what is kept. -/
theorem kept_finishStatement (s : Cut) :
    { s with done := s.st.reverse :: s.done, st := [] }.kept = s.kept := by
  simp [kept]

/-- A token read keeps at most the characters it was read from, after what was kept before. -/
theorem kept_step (s : Cut) (t : Token) : (s.step t).kept.Sublist (s.kept ++ t.source) := by
  have hfeed : ∀ (s' : Cut) (o : Char), s'.kept = s.kept →
      (s'.feed o t).kept.Sublist (s.kept ++ t.source) := fun s' o hs' => by
    rw [kept_feed, hs']
    exact (Token.addendText_sublist _ t).append_left _
  unfold step
  split
  · exact hfeed s _ rfl
  · exact hfeed s _ rfl
  · split
    · -- a `+` between addends is dropped
      exact List.sublist_append_left _ _
    · exact hfeed _ _ (kept_finishStatement s)

/-- A run of tokens keeps a subsequence of their characters, after what was kept before. -/
theorem kept_run (s : Cut) (ts : List Token) :
    (s.run ts).kept.Sublist (s.kept ++ Token.toChars ts) := by
  induction ts generalizing s with
  | nil => simp
  | cons t ts ih =>
    -- the rest of the run after the first token, which kept at most its own characters
    have hrest := ih (s.step t)
    have hfirst := (kept_step s t).append_right (Token.toChars ts)
    simpa using hrest.trans hfirst

/-- The statements of a finished cut hold only what it kept; an open statement is dropped. -/
theorem finish_sublist_kept (s : Cut) : (s.finish.map List.flatten).flatten.Sublist s.kept := by
  unfold finish kept
  split <;> simp

end Cut

/-- The addends of the statements of a text, one after another, are a subsequence of the text. -/
theorem statements_sublist (cs : List Char) :
    ((statements cs).map List.flatten).flatten.Sublist cs := by
  have hrun := Cut.kept_run {} (Token.ofChars cs)
  rw [Cut.kept_empty, List.nil_append, Token.toChars_ofChars] at hrun
  exact (Cut.finish_sublist_kept _).trans hrun

/-- The collapse rule keeps some of the values' texts, in order. -/
theorem collapse_sublist_text (vs : List Value) :
    (collapse vs).Sublist (vs.flatMap Value.text) := by
  unfold collapse
  split
  · exact List.flatMap_sublist_of_forall₂ (R := Eq) (f := Value.expressionText) (g := Value.text)
      (fun v _ h => h ▸ Value.expressionText_sublist_text v)
      (List.forall₂_same.mpr fun _ _ => rfl)
  · exact .refl _

/-- An addend's value is a subsequence of the addend, when each body's rendering is a subsequence
of the body. -/
theorem addendValue_sublist {inner : List Char → Except RenderError (List Char)}
    (hinner : ∀ b w, inner b = .ok w → w.Sublist b) {a : List Char} {v : Value}
    (h : addendValue inner a = .ok v) : v.text.Sublist a := by
  unfold addendValue at h
  split at h
  · next _ c cs =>
    split at h
    · cases hb : inner (c :: cs).dropLast with
      | error e => simp [hb] at h
      | ok w =>
        simp only [hb, Except.map_ok, Except.ok.injEq] at h
        subst h
        exact ((hinner _ _ hb).trans (List.dropLast_sublist _)).cons '['
    · simp at h
  · next _ c cs =>
    split at h
    · simp only [Except.pure_eq_ok, Except.ok.injEq] at h
      subst h
      exact (List.dropLast_sublist _).cons '{'
    · simp at h
  · simp at h

/-- A rendering that succeeds is a subsequence of the text rendered. -/
theorem render_sublist (whole : List Char) :
    ∀ (n : Nat) {cs v : List Char}, render whole n cs = .ok v → v.Sublist cs
  | 0, _, _, h => by simp [render] at h
  | n + 1, cs, v, h => by
    rw [render.eq_2] at h
    split at h
    · -- each statement keeps a subsequence of its addends, which the cut kept from the text
      have hstmt : ∀ (st : List (List Char)) (p : List Char),
          (collapse <$> st.mapM (addendValue (render whole n))) = .ok p →
            (id p).Sublist st.flatten := by
        intro st p hp
        cases hs : st.mapM (addendValue (render whole n)) with
        | error e => simp [hs] at hp
        | ok vs =>
          simp only [hs, Except.map_ok, Except.ok.injEq] at hp
          subst hp
          have hvals := List.flatMap_sublist_of_mapM (g := Value.text) (h := id)
            (fun a w hw => addendValue_sublist (fun b u hu => render_sublist whole n hu) hw) hs
          simpa using (collapse_sublist_text vs).trans hvals
      cases hm : (statements cs).mapM
          (fun st => collapse <$> st.mapM (addendValue (render whole n))) with
      | error e => simp [hm] at h
      | ok parts =>
        simp only [hm, Except.ok_bind, Except.pure_eq_ok, Except.ok.injEq] at h
        subst h
        have hparts := List.flatMap_sublist_of_mapM (h := List.flatten) hstmt hm
        rw [List.flatMap_id, List.flatMap_def] at hparts
        exact hparts.trans (statements_sublist cs)
    · simp only [Except.pure_eq_ok, Except.ok.injEq] at h
      subst h
      exact .refl _

/-- Evaluation only deletes characters: a text the evaluator returns is a subsequence of the
text it was given, and so never longer. -/
theorem evaluate_sublist {t s : String} (h : evaluate t = .ok s) :
    s.toList.Sublist t.toList ∧ s.length ≤ t.length := by
  cases he : evaluateChars t.toList with
  | error e => simp [evaluate, he] at h
  | ok cs =>
    simp only [evaluate, he, Except.map_ok, Except.ok.injEq] at h
    subst h
    have hsub := render_sublist t.toList (nestingLimit + 1) he
    refine ⟨by simpa using hsub, ?_⟩
    rw [← String.length_toList, ← String.length_toList]
    simpa using hsub.length_le

/-- The two-author form evaluates to a subsequence of itself: the braces, brackets and `+` go. -/
theorem evaluate_sublist_authors :
    evaluate "[Smith]+\x7b, \x7d+[Jones]" = .ok "Smith, Jones" ∧
      "Smith, Jones".toList.Sublist "[Smith]+\x7b, \x7d+[Jones]".toList ∧
      "Smith, Jones".length ≤ "[Smith]+\x7b, \x7d+[Jones]".length := by
  have h : evaluate "[Smith]+\x7b, \x7d+[Jones]" = .ok "Smith, Jones" := by decide
  exact ⟨h, evaluate_sublist h⟩

end CiteForm.Template
