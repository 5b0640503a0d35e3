import CiteForm.Proofs.Template.Placeholder
/-!
# Positional substitution

A template cut at its `%s` marks, left to right and without overlap, falls into mark-free parts
`a₀, a₁, …, aₖ` with a mark between each two. No proper suffix of `%s` begins it, so no mark forms
across a seam: a mark-free text followed by anything that does not begin with `s` keeps its
characters and counts no mark (`placeholderCount_append`, with `fillPlaceholders_append`).

So the marks of `a₀ %s a₁ … %s aₖ` are exactly the `k` written, and filling it puts the `i`-th
value, or nothing when there is none, between `aᵢ` and `aᵢ₊₁` as it is, never read again
(`substitute_intercalate`).
-/

namespace CiteForm.Template

/-- A `%s` mark cannot begin at a character of a text and end after it, when what follows does
not begin with `s`. -/
theorem not_mark_append {c : Char} {rest b : List Char} (hb : b.head? ≠ some 's')
    (h : ¬ (c = '%' ∧ ∃ r, rest = 's' :: r)) : ¬ (c = '%' ∧ ∃ r, rest ++ b = 's' :: r) := by
  rintro ⟨rfl, r, hr⟩
  cases rest with
  | nil => exact hb (by rw [← List.nil_append b, hr]; rfl)
  | cons d rest =>
    simp only [List.cons_append, List.cons.injEq] at hr
    exact h ⟨rfl, rest, by rw [hr.1]⟩

/-- A character that does not begin a `%s` mark counts none. -/
theorem placeholderCount_cons {c : Char} {rest : List Char} (h : ¬ (c = '%' ∧ ∃ r, rest = 's' :: r)) :
    placeholderCount (c :: rest) = placeholderCount rest :=
  placeholderCount.eq_3 c rest fun r hc hr => h ⟨hc, r, hr⟩

/-- Counting marks in two pieces, when the second does not begin with `s`. -/
theorem placeholderCount_append (a : List Char) {b : List Char} (hb : b.head? ≠ some 's') :
    placeholderCount (a ++ b) = placeholderCount a + placeholderCount b := by
  fun_induction placeholderCount a with
  | case1 => simp
  | case2 rest ih =>
    rw [List.cons_append, List.cons_append, placeholderCount.eq_2, ih]
    omega
  | case3 c rest hne ih =>
    have hc : ¬ (c = '%' ∧ ∃ r, rest = 's' :: r) := by
      rintro ⟨hc, r, hr⟩
      exact hne r hc hr
    rw [List.cons_append, placeholderCount_cons (not_mark_append hb hc), ih]

/-- A mark-free text: its first character begins no mark, and the rest is mark-free. -/
theorem no_mark_cons {c : Char} {a : List Char} (ha : ¬ ['%', 's'] <:+: c :: a) :
    ¬ (c = '%' ∧ ∃ r, a = 's' :: r) ∧ ¬ ['%', 's'] <:+: a := by
  refine ⟨?_, fun h => ha (h.trans (List.suffix_cons c a).isInfix)⟩
  rintro ⟨rfl, r, rfl⟩
  exact ha ⟨[], r, rfl⟩

section MarkFree

variable {a : List Char} (ha : ¬ ['%', 's'] <:+: a)
include ha

theorem placeholderCount_of_no_mark : placeholderCount a = 0 := by
  induction a with
  | nil => rfl
  | cons c a ih =>
    obtain ⟨hc, ha'⟩ := no_mark_cons ha
    rw [placeholderCount_cons hc, ih ha']

theorem fillPlaceholders_of_no_mark (vs : List (List Char)) : fillPlaceholders a vs = a := by
  induction a with
  | nil => simp [fillPlaceholders]
  | cons c a ih =>
    obtain ⟨hc, ha'⟩ := no_mark_cons ha
    rw [fillPlaceholders_cons_of_not_mark hc, ih ha']

end MarkFree

/-- Mark-free parts with a mark between each two hold exactly the marks written. -/
theorem placeholderCount_intercalate (rest : List (List Char)) :
    ∀ a₀, (∀ a ∈ a₀ :: rest, ¬ ['%', 's'] <:+: a) →
      placeholderCount (['%', 's'].intercalate (a₀ :: rest)) = rest.length := by
  induction rest with
  | nil =>
    intro a₀ h
    simpa using placeholderCount_of_no_mark (h a₀ List.mem_cons_self)
  | cons a₁ rest ih =>
    intro a₀ h
    have hrest : ∀ a ∈ a₁ :: rest, ¬ ['%', 's'] <:+: a := fun a ha => h a (List.mem_cons_of_mem _ ha)
    rw [List.intercalate_cons_cons, List.append_assoc, List.cons_append, List.singleton_append,
      placeholderCount_append _ (by simp), placeholderCount_of_no_mark (h a₀ List.mem_cons_self),
      placeholderCount.eq_2, ih a₁ hrest, List.length_cons, Nat.zero_add]

/-- Mark-free parts with a mark between each two: each mark takes the next value, and nothing
once the values run out. -/
theorem fillPlaceholders_intercalate (rest : List (List Char)) :
    ∀ a₀, (∀ a ∈ a₀ :: rest, ¬ ['%', 's'] <:+: a) → ∀ vs : List (List Char),
      fillPlaceholders (['%', 's'].intercalate (a₀ :: rest)) vs =
        a₀ ++ (rest.mapIdx fun j a => vs.getD j [] ++ a).flatten := by
  induction rest with
  | nil =>
    intro a₀ h vs
    simp [fillPlaceholders_of_no_mark (h a₀ List.mem_cons_self)]
  | cons a₁ rest ih =>
    intro a₀ h vs
    have h₀ : ¬ ['%', 's'] <:+: a₀ := h a₀ List.mem_cons_self
    have hrest : ∀ a ∈ a₁ :: rest, ¬ ['%', 's'] <:+: a := fun a ha => h a (List.mem_cons_of_mem _ ha)
    -- the first part is kept and leaves every value; the first mark takes the first value
    rw [List.intercalate_cons_cons, List.append_assoc, List.cons_append, List.singleton_append,
      fillPlaceholders_append _ (by simp), placeholderCount_of_no_mark h₀,
      fillPlaceholders_of_no_mark h₀, List.drop_zero, fillPlaceholders.eq_2, ih a₁ hrest vs.tail]
    cases vs <;> simp [List.mapIdx_cons]

/-- The values a template's marks take, as character lists: a missing value and one past the
end are both the empty text. -/
theorem getD_valueChars (vs : List (Option String)) (j : Nat) :
    (vs.map fun v => (v.getD "").toList).getD j [] = ((vs.getD j none).getD "").toList := by
  simp only [List.getD_eq_getElem?_getD, List.getElem?_map]
  cases vs[j]? <;> rfl

/-- Positional substitution. Cut a template at its `%s` marks, left to right, into mark-free
parts `a₀, a₁, …, aₖ`. It counts `k` marks, and filling it with values `vs` gives
`a₀ ++ v₀ ++ a₁ ++ … ++ vₖ₋₁ ++ aₖ`, where `vᵢ` is the `i`-th value, or the empty text when that
value is missing or there is none. The values go in as they are, and the result depends on
them only through `v₀, …, vₖ₋₁`. -/
theorem substitute_intercalate (a₀ : String) (rest : List String) (vs : List (Option String))
    (h : ∀ a ∈ a₀ :: rest, ¬ "%s".toList <:+: a.toList) :
    countPlaceholders ("%s".intercalate (a₀ :: rest)) = rest.length ∧
    substitute ("%s".intercalate (a₀ :: rest)) vs =
      a₀ ++ String.join (rest.mapIdx fun j a => (vs.getD j none).getD "" ++ a) ∧
    ∀ ws : List (Option String),
      (∀ j < rest.length, (ws.getD j none).getD "" = (vs.getD j none).getD "") →
      substitute ("%s".intercalate (a₀ :: rest)) ws = substitute ("%s".intercalate (a₀ :: rest)) vs := by
  have hmark : "%s".toList = ['%', 's'] := rfl
  have hparts : ∀ a ∈ a₀.toList :: rest.map String.toList, ¬ ['%', 's'] <:+: a := by
    simpa [hmark] using h
  have htext : ("%s".intercalate (a₀ :: rest)).toList =
      ['%', 's'].intercalate (a₀.toList :: rest.map String.toList) := by
    rw [String.toList_intercalate, List.map_cons, hmark]
  -- filling, read as characters, is the parts with the values between them
  have hfill : ∀ ws : List (Option String), substitute ("%s".intercalate (a₀ :: rest)) ws =
      a₀ ++ String.join (rest.mapIdx fun j a => (ws.getD j none).getD "" ++ a) := by
    intro ws
    apply String.ext
    rw [substitute, String.toList_ofList, htext, fillPlaceholders_intercalate _ _ hparts,
      String.toList_append, String.toList_join, List.flatMap_def]
    congr 2
    apply List.ext_getElem (by simp)
    intro j h₁ h₂
    simp only [List.getElem_mapIdx, List.getElem_map, String.toList_append, getD_valueChars]
  refine ⟨?_, hfill vs, fun ws hws => ?_⟩
  · rw [countPlaceholders, htext, placeholderCount_intercalate _ _ hparts, List.length_map]
  · rw [hfill ws, hfill vs]
    congr 2
    exact List.mapIdx_eq_mapIdx_iff.mpr fun j hj => by rw [hws j hj]

/-- The marks of `%%s`, `a%s` and `%` are the two written: a `%` before a mark starts none, and
the value put in, itself a mark, is not filled again. -/
theorem substitute_intercalate_seams :
    (∀ a ∈ ["%", "a", "s%"], ¬ "%s".toList <:+: a.toList) ∧
      countPlaceholders ("%s".intercalate ["%", "a", "s%"]) = 2 ∧
      substitute ("%s".intercalate ["%", "a", "s%"]) [some "%s"] =
        "%" ++ String.join (["a", "s%"].mapIdx fun j a => ([some "%s"].getD j none).getD "" ++ a) :=
  have h := substitute_intercalate "%" ["a", "s%"] [some "%s"] (by decide)
  ⟨by decide, h.1, h.2.1⟩

example : substitute ("%s".intercalate ["%", "a", "s%"]) [some "%s"] = "%%sas%" := by decide

end CiteForm.Template
