import CiteForm.Template.Placeholder
import CiteForm.Proofs.Analysis.Nesting
/-!
# Filling placeholders

`fillPlaceholders` reads a text left to right and puts the next value in for each `%s`. Its
mark is two characters long, so filling a text in two pieces agrees with filling it whole as
long as no mark straddles the cut: `fillPlaceholders_append` needs only that the second piece
does not begin with `s`, and hands that piece the values the first leaves over.

Filling changes only the characters outside the marks' values: a text stays well nested when
the values are (`nested_fillPlaceholders`), and stays free of a character none of the values
holds (`not_mem_fillPlaceholders`).
-/

namespace CiteForm.Template

open Analysis

/-- A character that does not begin a `%s` mark is kept. -/
theorem fillPlaceholders_cons {c : Char} {rest : List Char} (h : c ≠ '%' ∨ rest.head? ≠ some 's')
    (vs : List (List Char)) : fillPlaceholders (c :: rest) vs = c :: fillPlaceholders rest vs := by
  refine fillPlaceholders.eq_3 vs c rest fun r hc hr => ?_
  subst hr
  simp_all

/-- Filling a text in two pieces, when the second does not begin with `s`: a `%s` mark never
straddles the cut, and the second piece takes the values the first leaves. -/
theorem fillPlaceholders_append (a : List Char) {b : List Char} (hb : b.head? ≠ some 's')
    (vs : List (List Char)) :
    fillPlaceholders (a ++ b) vs =
      fillPlaceholders a vs ++ fillPlaceholders b (vs.drop (placeholderCount a)) := by
  fun_induction fillPlaceholders a vs with
  | case1 vs => simp [placeholderCount]
  | case2 rest vs ih =>
    simp [fillPlaceholders.eq_2, placeholderCount.eq_2, ih, List.drop_tail]
  | case3 c rest vs hne ih =>
    have hcb : c ≠ '%' ∨ (rest ++ b).head? ≠ some 's' := by
      by_cases hc : c = '%'
      · refine .inr ?_
        cases rest with
        | nil => simpa using hb
        | cons d r =>
          intro hd
          simp only [List.cons_append, List.head?_cons, Option.some.injEq] at hd
          exact hne r hc (by rw [hd])
      · exact .inl hc
    rw [List.cons_append, fillPlaceholders_cons hcb, ih, placeholderCount.eq_3 c rest hne]
    rfl

/-- The value a `%s` mark takes is one of the values, or nothing. -/
theorem headD_mem_or_nil (vs : List (List Char)) : vs.headD [] ∈ vs ∨ vs.headD [] = [] := by
  cases vs with
  | nil => exact .inr rfl
  | cons v vs => exact .inl List.mem_cons_self

/-- Filling a text leaves out a character that neither the text nor any value holds. -/
theorem not_mem_fillPlaceholders {x : Char} {cs : List Char} {vs : List (List Char)}
    (hcs : x ∉ cs) (hvs : ∀ v ∈ vs, x ∉ v) : x ∉ fillPlaceholders cs vs := by
  fun_induction fillPlaceholders cs vs with
  | case1 vs => simp
  | case2 rest vs ih =>
    rw [List.mem_append, not_or]
    refine ⟨?_, ih (by simp_all) fun v hv => hvs v (List.mem_of_mem_tail hv)⟩
    rcases headD_mem_or_nil vs with h | h
    · exact hvs _ h
    · rw [h]
      exact List.not_mem_nil
  | case3 c rest vs hne ih =>
    rw [List.mem_cons, not_or]
    exact ⟨fun h => hcs (h ▸ List.mem_cons_self), ih (fun h => hcs (List.mem_cons_of_mem c h)) hvs⟩

/-- A character that does not begin a `%s` mark is kept as it is. -/
theorem fillPlaceholders_cons_of_not_mark {c : Char} {rest : List Char}
    (h : ¬ (c = '%' ∧ ∃ r, rest = 's' :: r)) (vs : List (List Char)) :
    fillPlaceholders (c :: rest) vs = c :: fillPlaceholders rest vs := by
  refine fillPlaceholders_cons ?_ vs
  by_cases hc : c = '%'
  · refine .inr fun hs => h ⟨hc, ?_⟩
    cases rest with
    | nil => simp at hs
    | cons d r => exact ⟨r, by simp_all⟩
  · exact .inl hc

/-- A group is filled inside and after, the part after taking the values its body leaves. -/
theorem fillPlaceholders_group {o : Char} (ho : isOpener o = true) (body rest : List Char)
    (vs : List (List Char)) :
    fillPlaceholders (o :: body ++ closerOf o :: rest) vs =
      o :: (fillPlaceholders body vs ++
        closerOf o :: fillPlaceholders rest (vs.drop (placeholderCount body))) := by
  obtain ⟨-, hcc⟩ := Nested.closer_isCloser ho
  have hno : o ≠ '%' := by rintro rfl; simp [isOpener] at ho
  have hnc : closerOf o ≠ '%' := by intro h; rw [h] at hcc; simp [isCloser] at hcc
  have hns : (closerOf o :: rest).head? ≠ some 's' := by
    intro h
    simp only [List.head?_cons, Option.some.injEq] at h
    rw [h] at hcc
    simp [isCloser] at hcc
  rw [List.cons_append, fillPlaceholders_cons (.inl hno), fillPlaceholders_append body hns,
    fillPlaceholders_cons (.inl hnc)]

/-- Filling well-nested values into a well-nested text leaves it well nested. -/
theorem nested_fillPlaceholders {cs : List Char} (h : Nested cs) :
    ∀ {vs : List (List Char)}, (∀ v ∈ vs, Nested v) → Nested (fillPlaceholders cs vs) := by
  induction h with
  | nil => intro vs _; simpa [fillPlaceholders] using Nested.nil
  | @char c rest ho hc hrest ih =>
    intro vs hvs
    by_cases hmark : c = '%' ∧ ∃ r, rest = 's' :: r
    · -- a `%s` mark: its value, then the rest after the `s`
      obtain ⟨rfl, r, rfl⟩ := hmark
      have hr : Nested (fillPlaceholders r vs.tail) := by
        have := ih fun v hv => hvs v (List.mem_of_mem_tail hv)
        rw [fillPlaceholders_cons (.inl (by decide))] at this
        exact this.of_cons (by decide)
      rw [fillPlaceholders.eq_2]
      refine Nested.append ?_ hr
      rcases headD_mem_or_nil vs with hv | hv
      · exact hvs _ hv
      · rw [hv]
        exact Nested.nil
    · rw [fillPlaceholders_cons_of_not_mark hmark]
      exact .char ho hc (ih hvs)
  | @group o body rest ho hbody hrest ihb ihr =>
    intro vs hvs
    rw [fillPlaceholders_group ho]
    exact .group ho (ihb hvs) (ihr fun v hv => hvs v (List.mem_of_mem_drop hv))

/-! ### Shorter values -/

/-- Values each a subsequence of the one at its place; a value past the end reads as none. -/
def Pointwise (ws vs : List (List Char)) : Prop := ∀ i, (ws.getD i []).Sublist (vs.getD i [])

theorem Pointwise.drop {ws vs : List (List Char)} (h : Pointwise ws vs) (k : Nat) :
    Pointwise (ws.drop k) (vs.drop k) := by
  intro i
  simpa [List.getD_eq_getElem?_getD, List.getElem?_drop] using h (k + i)

theorem Pointwise.headD {ws vs : List (List Char)} (h : Pointwise ws vs) :
    (ws.headD []).Sublist (vs.headD []) := by
  simpa [List.getD_eq_getElem?_getD, List.headD_eq_head?_getD, List.head?_eq_getElem?] using h 0

theorem Pointwise.tail {ws vs : List (List Char)} (h : Pointwise ws vs) :
    Pointwise ws.tail vs.tail := by
  simpa using h.drop 1

/-- Filling in shorter values gives a subsequence. -/
theorem fillPlaceholders_sublist (cs : List Char) {ws vs : List (List Char)} (h : Pointwise ws vs) :
    (fillPlaceholders cs ws).Sublist (fillPlaceholders cs vs) := by
  fun_induction fillPlaceholders cs ws generalizing vs with
  | case1 => simp
  | case2 rest ws ih =>
    rw [fillPlaceholders.eq_2]
    exact h.headD.append (ih h.tail)
  | case3 c rest ws hne ih =>
    rw [fillPlaceholders.eq_3 vs c rest hne]
    exact (ih h).cons_cons c

end CiteForm.Template
