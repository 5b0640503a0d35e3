import CiteForm.Template.Placeholder
/-!
# Fold tokens

`fillFolds` reads a text left to right and puts the next piece in for each `[*]` token. The
token cannot overlap itself: no proper suffix of `[*]` begins it. So a text that holds no
token keeps its characters when a token follows it, and no token forms across the seam
(`fillFolds_append_token`).

A text written as token-free parts with a token between each two therefore expands to those
parts with the pieces put in between them: the tokens found are exactly the ones written, in
order, and a piece is put in as it is, never read again, whatever tokens or marks it holds
(`expandFolds_intercalate`).
-/

namespace CiteForm.Template

/-- A character that does not begin a `[*]` token is kept. -/
theorem fillFolds_cons {c : Char} {rest : List Char} (h : ¬ (c = '[' ∧ ∃ r, rest = '*' :: ']' :: r))
    (ps : List (List Char)) : fillFolds (c :: rest) ps = c :: fillFolds rest ps :=
  fillFolds.eq_3 ps c rest fun r hc hr => h ⟨hc, r, hr⟩

/-- A text that holds no token is kept as it is. -/
theorem fillFolds_of_no_token {a : List Char} (ha : ¬ ['[', '*', ']'] <:+: a)
    (ps : List (List Char)) : fillFolds a ps = a := by
  induction a with
  | nil => simp [fillFolds]
  | cons c a ih =>
    have hfree : ¬ ['[', '*', ']'] <:+: a := fun h => ha (h.trans (List.suffix_cons c a).isInfix)
    have hhead : ¬ (c = '[' ∧ ∃ r, a = '*' :: ']' :: r) := by
      rintro ⟨rfl, r, rfl⟩
      exact ha ⟨[], r, rfl⟩
    rw [fillFolds_cons hhead, ih hfree]

/-- A token-free text, then a token: the text is kept, the token takes the first piece, and
the rest of the text takes the pieces after it. -/
theorem fillFolds_append_token {a : List Char} (ha : ¬ ['[', '*', ']'] <:+: a)
    (rest : List Char) (ps : List (List Char)) :
    fillFolds (a ++ '[' :: '*' :: ']' :: rest) ps = a ++ ps.headD [] ++ fillFolds rest ps.tail := by
  induction a with
  | nil => simp [fillFolds]
  | cons c a ih =>
    have hfree : ¬ ['[', '*', ']'] <:+: a := fun h => ha (h.trans (List.suffix_cons c a).isInfix)
    -- a token beginning at `c` would lie inside the token-free text, or begin with `*`
    have hhead : ¬ (c = '[' ∧ ∃ r, a ++ '[' :: '*' :: ']' :: rest = '*' :: ']' :: r) := by
      rintro ⟨rfl, r, hr⟩
      rcases a with _ | ⟨d, _ | ⟨e, a⟩⟩
      · simp at hr
      · simp at hr
      · simp only [List.cons_append, List.cons.injEq] at hr
        obtain ⟨rfl, rfl, -⟩ := hr
        exact ha ⟨[], a, rfl⟩
    rw [List.cons_append, fillFolds_cons hhead, ih hfree]
    simp

/-- Token-free parts with a token between each two: each token takes the next piece, and
nothing once the pieces run out. -/
theorem fillFolds_intercalate (rest : List (List Char)) :
    ∀ (a₀ : List Char), (∀ a ∈ a₀ :: rest, ¬ ['[', '*', ']'] <:+: a) → ∀ ps : List (List Char),
      fillFolds (['[', '*', ']'].intercalate (a₀ :: rest)) ps =
        a₀ ++ (rest.mapIdx fun j a => ps.getD j [] ++ a).flatten := by
  induction rest with
  | nil =>
    intro a₀ h ps
    simp [fillFolds_of_no_token (h a₀ List.mem_cons_self)]
  | cons a₁ rest ih =>
    intro a₀ h ps
    have h₀ : ¬ ['[', '*', ']'] <:+: a₀ := h a₀ List.mem_cons_self
    have hrest : ∀ a ∈ a₁ :: rest, ¬ ['[', '*', ']'] <:+: a :=
      fun a ha => h a (List.mem_cons_of_mem _ ha)
    -- the first token takes the first piece; the parts after it take the pieces after it
    rw [List.intercalate_cons_cons, List.append_assoc, List.cons_append, List.cons_append,
      List.cons_append, List.nil_append, fillFolds_append_token h₀, ih a₁ hrest ps.tail]
    cases ps <;> simp [List.mapIdx_cons]

/-- Putting pieces between strings, read as characters. -/
theorem mapIdx_toList (rest ps : List String) :
    (rest.map String.toList).mapIdx (fun j a => (ps.map String.toList).getD j [] ++ a) =
      (rest.mapIdx fun j a => ps.getD j "" ++ a).map String.toList := by
  apply List.ext_getElem (by simp)
  intro j h₁ h₂
  simp only [List.getElem_map, List.getElem_mapIdx, List.getD_eq_getElem?_getD, List.getElem?_map,
    String.toList_append]
  cases ps[j]? <;> simp

/-- Fold tokens round-trip. Writing token-free parts `a₀, a₁, …, aₖ` with a `[*]` between each
two and expanding with the pieces `ps` gives `a₀ ++ p₁ ++ a₁ ++ … ++ pₖ ++ aₖ`, where `pⱼ` is
the `j`-th piece, or nothing past the last: the tokens replaced are exactly the ones written,
in order, and the pieces, which may hold `[*]` or `%s`, are put in as they are. -/
theorem expandFolds_intercalate (a₀ : String) (rest ps : List String)
    (h : ∀ a ∈ a₀ :: rest, ¬ "[*]".toList <:+: a.toList) :
    expandFolds ("[*]".intercalate (a₀ :: rest)) ps =
      a₀ ++ String.join (rest.mapIdx fun j a => ps.getD j "" ++ a) := by
  have htoken : "[*]".toList = ['[', '*', ']'] := rfl
  have hparts : ∀ a ∈ a₀.toList :: rest.map String.toList, ¬ ['[', '*', ']'] <:+: a := by
    simpa [htoken] using h
  apply String.ext
  rw [expandFolds, String.toList_ofList, String.toList_intercalate, List.map_cons, htoken,
    fillFolds_intercalate _ _ hparts, String.toList_append, String.toList_join,
    List.flatMap_def]
  rw [mapIdx_toList]

/-- The tokens at the seams of `x[`, `*]y` and `%s` are the two written, and the piece put in,
itself a token, is not expanded again. -/
theorem expandFolds_intercalate_seams :
    (∀ a ∈ ["x[", "*]y", "%s"], ¬ "[*]".toList <:+: a.toList) ∧
      expandFolds ("[*]".intercalate ["x[", "*]y", "%s"]) ["[*]"] =
        "x[" ++ String.join (["*]y", "%s"].mapIdx fun j a => ["[*]"].getD j "" ++ a) :=
  ⟨by decide, expandFolds_intercalate "x[" ["*]y", "%s"] ["[*]"] (by decide)⟩

example : expandFolds ("[*]".intercalate ["x[", "*]y", "%s"]) ["[*]"] = "x[[*]*]y%s" := by decide

end CiteForm.Template
