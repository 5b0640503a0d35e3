import Mathlib.Data.List.TakeWhile
import CiteForm.Analysis.Labels
/-!
# Argument labels

`labelSpans` reads the spans of a spec with a scanner that remembers whether it is inside a `[`
and what it has read since. Here the spans are said by position instead: the span that begins at
a position is `[x]` with `x` non-empty and free of brackets (`spanAt`, `spanAt_eq_some_iff`).
Such a span holds no `[` after its first character, so no two of them overlap, and the
scanner finds exactly the span of every position, left to right (`labelSpans_eq_bracketSpans`).

The labels are the trimmed insides of the spans with the later repeats of a label dropped, as
`List.eraseDups` drops them. So they are distinct, free of brackets and of blank ends, and a
span of blanks gives the empty label (`extractLabels_eq_eraseDups`).
-/

namespace CiteForm.Analysis

open CiteForm.Text

/-- A character of the inside of a span: anything but a bracket. -/
def IsSpanChar (c : Char) : Prop := c ≠ '[' ∧ c ≠ ']'

instance : DecidablePred IsSpanChar := fun _ => inferInstanceAs (Decidable (_ ∧ _))

/-- The inside `x` of the span `[x]` that begins a text, if one does: `x` is the longest run of
characters other than brackets after the `[`, it is not empty, and a `]` follows it. -/
def spanAt : List Char → Option (List Char)
  | '[' :: rest =>
    let x := rest.takeWhile fun c => decide (IsSpanChar c)
    if x ≠ [] ∧ (rest.dropWhile fun c => decide (IsSpanChar c)).head? = some ']' then some x
    else none
  | _ => none

/-- The insides of the spans of a text, by the position each begins at, from left to right. -/
def bracketSpans (cs : List Char) : List (List Char) :=
  (List.range cs.length).filterMap fun i => spanAt (cs.drop i)

/-! ### Spans by position -/

theorem spanAt_of_ne {c : Char} (hc : c ≠ '[') (rest : List Char) : spanAt (c :: rest) = none := by
  simp [spanAt, hc]

/-- A run of span characters then a bracket: a span when the bracket closes a non-empty run. -/
theorem spanAt_run {x : List Char} (hx : ∀ c ∈ x, IsSpanChar c) {d : Char} (hd : ¬ IsSpanChar d)
    (rest : List Char) : spanAt ('[' :: (x ++ d :: rest)) = if x ≠ [] ∧ d = ']' then some x else none := by
  have hpos : ∀ c ∈ x, decide (IsSpanChar c) = true := fun c hc => decide_eq_true (hx c hc)
  have htake : (d :: rest).takeWhile (fun c => decide (IsSpanChar c)) = [] :=
    List.takeWhile_cons_of_neg fun h => hd (of_decide_eq_true h)
  have hdrop : (d :: rest).dropWhile (fun c => decide (IsSpanChar c)) = d :: rest :=
    List.dropWhile_cons_of_neg fun h => hd (of_decide_eq_true h)
  simp only [spanAt, List.takeWhile_append_of_pos hpos, List.dropWhile_append_of_pos hpos, htake,
    hdrop, List.append_nil, List.head?_cons, Option.some.injEq]

/-- A run of span characters that nothing closes is no span. -/
theorem spanAt_unclosed {x : List Char} (hx : ∀ c ∈ x, IsSpanChar c) : spanAt ('[' :: x) = none := by
  have hdrop : x.dropWhile (fun c => decide (IsSpanChar c)) = [] :=
    List.dropWhile_eq_nil_iff.mpr fun c hc => decide_eq_true (hx c hc)
  simp [spanAt, hdrop]

/-- A span begins with `[`, then its non-empty inside, free of brackets, then `]`. -/
theorem spanAt_eq_some_iff {cs x : List Char} :
    spanAt cs = some x ↔ ∃ rest, cs = '[' :: (x ++ ']' :: rest) ∧ x ≠ [] ∧ ∀ c ∈ x, IsSpanChar c := by
  constructor
  · intro h
    cases cs with
    | nil => simp [spanAt] at h
    | cons c rest =>
      by_cases hc : c = '['
      · subst hc
        -- the text after `[` is its longest run of span characters, then what stops the run
        have hrun : ∀ d ∈ rest.takeWhile (fun c => decide (IsSpanChar c)), IsSpanChar d :=
          fun d hd => of_decide_eq_true (List.mem_takeWhile_imp (p := fun c => decide (IsSpanChar c)) hd)
        have hsplit := List.takeWhile_append_dropWhile (p := fun c => decide (IsSpanChar c)) (l := rest)
        cases hdrop : rest.dropWhile (fun c => decide (IsSpanChar c)) with
        | nil =>
          rw [← hsplit, hdrop, List.append_nil, spanAt_unclosed hrun] at h
          cases h
        | cons d r =>
          have hd : ¬ IsSpanChar d := by
            have := List.head?_dropWhile_not (fun c => decide (IsSpanChar c)) rest
            rw [hdrop] at this
            simpa using this
          rw [← hsplit, hdrop, spanAt_run hrun hd] at h
          split at h
          · next hcond =>
            obtain ⟨hne, rfl⟩ := hcond
            cases h
            exact ⟨r, by rw [← hdrop, List.takeWhile_append_dropWhile], hne, hrun⟩
          · cases h
      · rw [spanAt_of_ne hc] at h
        cases h
  · rintro ⟨rest, rfl, hne, hx⟩
    rw [spanAt_run hx (by simp [IsSpanChar]), if_pos ⟨hne, rfl⟩]

/-- The spans of a text: the one at its first character, if any, then those after it. -/
theorem bracketSpans_cons (c : Char) (rest : List Char) :
    bracketSpans (c :: rest) = (spanAt (c :: rest)).toList ++ bracketSpans rest := by
  simp only [bracketSpans, List.length_cons, List.range_succ_eq_map, List.filterMap_cons,
    List.drop_zero, List.filterMap_map]
  cases spanAt (c :: rest) <;> rfl

/-! ### The scanner -/

/-- The scanner finds the spans by position. Inside a `[` with `acc` read so far, reversed, it
finds the span that `[` begins, if that is one, then the spans of the rest; a `[` met inside
starts afresh, since no span holds one. -/
theorem spansFrom_eq (cs : List Char) (st : Option (List Char))
    (hst : ∀ acc ∈ st, ∀ c ∈ acc, IsSpanChar c) :
    spansFrom cs st =
      (st.bind fun acc => spanAt ('[' :: (acc.reverse ++ cs))).toList ++ bracketSpans cs := by
  fun_induction spansFrom cs st with
  | case1 st =>
    -- the text runs out: no `]` closes what is open
    cases st with
    | none => rfl
    | some acc =>
      rw [Option.bind_some, List.append_nil, spanAt_unclosed (x := acc.reverse) (by simpa using hst acc rfl)]
      rfl
  | case2 c rest ih =>
    by_cases hc : c = '['
    · subst hc
      rw [if_pos rfl] at ih ⊢
      rw [ih (by simp), bracketSpans_cons]
      simp
    · rw [if_neg hc] at ih ⊢
      rw [ih (by simp), bracketSpans_cons, spanAt_of_ne hc]
      simp
  | case3 rest acc hempty ih =>
    rw [List.isEmpty_iff] at hempty
    subst hempty
    have hshut : spanAt ('[' :: ']' :: rest) = none := by
      simpa using spanAt_run (x := []) (by simp) (d := ']') (by simp [IsSpanChar]) rest
    rw [ih (by simp), bracketSpans_cons, spanAt_of_ne (by decide)]
    simp [hshut]
  | case4 rest acc hne ih =>
    have hacc : ∀ c ∈ acc.reverse, IsSpanChar c := by simpa using hst acc rfl
    have hne' : acc.reverse ≠ [] := by simpa [List.isEmpty_iff] using hne
    rw [ih (by simp), bracketSpans_cons, spanAt_of_ne (by decide)]
    simp [spanAt_run hacc (d := ']') (by simp [IsSpanChar]), hne']
  | case5 rest acc _ ih =>
    have hacc : ∀ c ∈ acc.reverse, IsSpanChar c := by simpa using hst acc rfl
    rw [ih (by simp), bracketSpans_cons]
    simp [spanAt_run hacc (d := '[') (by simp [IsSpanChar])]
  | case6 c rest acc hclose hopen ih =>
    have hacc : ∀ d ∈ c :: acc, IsSpanChar d := by
      intro d hd
      rcases List.mem_cons.mp hd with rfl | hd
      · exact ⟨hopen, hclose⟩
      · exact hst acc rfl d hd
    rw [ih (by simpa using hacc), bracketSpans_cons, spanAt_of_ne hopen]
    simp

/-- The scanner's spans are the spans of every position, left to right. -/
theorem labelSpans_eq_bracketSpans (cs : List Char) : labelSpans cs = bracketSpans cs := by
  rw [labelSpans, spansFrom_eq cs none (by simp)]
  rfl

/-! ### First occurrences -/

section FirstOccurrences

variable {α : Type} [BEq α]

theorem mem_of_mem_firstOccurrences {x : α} {l : List α} (h : x ∈ firstOccurrences l) : x ∈ l := by
  induction l with
  | nil => simp [firstOccurrences] at h
  | cons y l ih =>
    rcases List.mem_cons.mp h with rfl | h
    · exact List.mem_cons_self
    · exact List.mem_cons_of_mem y (ih (List.mem_filter.mp h).1)

/-- Dropping elements before or after keeping first occurrences comes to the same. -/
theorem filter_firstOccurrences [LawfulBEq α] (p : α → Bool) (l : List α) :
    (firstOccurrences l).filter p = firstOccurrences (l.filter p) := by
  induction l with
  | nil => rfl
  | cons y l ih =>
    have hcomm : ((firstOccurrences l).filter fun z => !z == y).filter p =
        ((firstOccurrences l).filter p).filter fun z => !z == y := by
      rw [List.filter_filter, List.filter_filter]
      exact List.filter_congr fun z _ => Bool.and_comm _ _
    by_cases hy : p y = true
    · rw [firstOccurrences, List.filter_cons_of_pos hy, hcomm, ih, List.filter_cons_of_pos hy,
        firstOccurrences]
    · -- `y` is dropped, and it is nowhere among the kept first occurrences of the rest
      have hfree : ∀ z ∈ firstOccurrences (l.filter p), (!z == y) = true := by
        intro z hz
        have hz' := List.mem_filter.mp (mem_of_mem_firstOccurrences hz)
        have hne : z ≠ y := fun h => hy (h ▸ hz'.2)
        simpa using hne
      rw [firstOccurrences, List.filter_cons_of_neg hy, hcomm, ih, List.filter_cons_of_neg hy]
      exact List.filter_eq_self.mpr hfree

/-- Keeping first occurrences is the library's `List.eraseDups`. -/
theorem firstOccurrences_eq_eraseDups [LawfulBEq α] : (l : List α) → firstOccurrences l = l.eraseDups
  | [] => rfl
  | y :: l => by
    rw [firstOccurrences, List.eraseDups_cons, filter_firstOccurrences,
      firstOccurrences_eq_eraseDups (l.filter _)]
termination_by l => l.length
decreasing_by exact Nat.lt_succ_of_le (List.length_filter_le _ _)

theorem nodup_firstOccurrences [LawfulBEq α] (l : List α) : (firstOccurrences l).Nodup := by
  induction l with
  | nil => exact List.nodup_nil
  | cons y l ih =>
    refine List.nodup_cons.mpr ⟨fun h => ?_, ih.filter _⟩
    simpa using (List.mem_filter.mp h).2

end FirstOccurrences

/-! ### Trimmed insides -/

/-- Trimming the end keeps the front of the text without its leading blanks. -/
theorem trimChars_isPrefix_dropWhile (cs : List Char) : trimChars cs <+: cs.dropWhile isBlank := by
  rw [trimChars, ← List.reverse_suffix, List.reverse_reverse]
  exact List.dropWhile_suffix isBlank

/-- Trimming keeps a stretch of the text. -/
theorem trimChars_contained (cs : List Char) : trimChars cs <:+: cs :=
  (trimChars_isPrefix_dropWhile cs).isInfix.trans (List.dropWhile_suffix isBlank).isInfix

/-- A trimmed text does not begin with a blank. -/
theorem head?_trimChars {cs : List Char} {c : Char} (h : (trimChars cs).head? = some c) :
    isBlank c = false := by
  -- the text without its leading blanks begins as the trimmed text does
  obtain ⟨t, ht⟩ := trimChars_isPrefix_dropWhile cs
  have hhead : (cs.dropWhile isBlank).head? = some c := by
    rw [← ht, List.head?_append, h]
    rfl
  have := List.head?_dropWhile_not isBlank cs
  rw [hhead] at this
  exact this

/-- A trimmed text does not end with a blank. -/
theorem getLast?_trimChars {cs : List Char} {c : Char} (h : (trimChars cs).getLast? = some c) :
    isBlank c = false := by
  rw [trimChars, List.getLast?_reverse] at h
  have := List.head?_dropWhile_not isBlank (cs.dropWhile isBlank).reverse
  rw [h] at this
  exact this

/-- A text of blanks trims to nothing. -/
theorem trimChars_eq_nil {cs : List Char} (h : ∀ c ∈ cs, isBlank c = true) : trimChars cs = [] := by
  rw [trimChars, List.dropWhile_eq_nil_iff.mpr h]
  rfl

/-- Label extraction. The labels of a spec are the insides `x` of its spans `[x]` (`x` non-empty
and free of brackets), from left to right, each trimmed of its blank ends, with a label that
was seen before dropped. So no label repeats, none holds a bracket or begins or ends with a
blank, and a span of blanks gives the empty label. -/
theorem extractLabels_eq_eraseDups (s : String) :
    extractLabels s = ((bracketSpans s.toList).map fun x => trim (String.ofList x)).eraseDups ∧
    (extractLabels s).Nodup ∧
    (∀ l ∈ extractLabels s, '[' ∉ l.toList ∧ ']' ∉ l.toList ∧
      (∀ c ∈ l.toList.head?, isBlank c = false) ∧ (∀ c ∈ l.toList.getLast?, isBlank c = false)) ∧
    (∀ x ∈ bracketSpans s.toList, (∀ c ∈ x, isBlank c = true) → "" ∈ extractLabels s) := by
  have htrim : ∀ x : List Char, trim (String.ofList x) = String.ofList (trimChars x) := by
    intro x
    rw [trim, String.toList_ofList]
  have heq : extractLabels s = ((bracketSpans s.toList).map fun x => trim (String.ofList x)).eraseDups := by
    rw [extractLabels, labelSpans_eq_bracketSpans, firstOccurrences_eq_eraseDups]
    simp only [htrim]
  -- a label is the trimmed inside of some span
  have hmem : ∀ l ∈ extractLabels s, ∃ x ∈ bracketSpans s.toList, l = String.ofList (trimChars x) := by
    intro l hl
    rw [heq, List.mem_eraseDups, List.mem_map] at hl
    obtain ⟨x, hx, rfl⟩ := hl
    exact ⟨x, hx, htrim x⟩
  refine ⟨heq, ?_, ?_, ?_⟩
  · rw [extractLabels]
    exact nodup_firstOccurrences _
  · intro l hl
    obtain ⟨x, hx, rfl⟩ := hmem l hl
    obtain ⟨i, -, hi⟩ := List.mem_filterMap.mp hx
    obtain ⟨-, -, -, hspan⟩ := spanAt_eq_some_iff.mp hi
    have hinside : ∀ c ∈ trimChars x, IsSpanChar c := fun c hc => hspan c ((trimChars_contained x).subset hc)
    rw [String.toList_ofList]
    exact ⟨fun h => (hinside _ h).1 rfl, fun h => (hinside _ h).2 rfl,
      fun c hc => head?_trimChars hc, fun c hc => getLast?_trimChars hc⟩
  · intro x hx hblank
    rw [heq, List.mem_eraseDups, List.mem_map]
    exact ⟨x, hx, by rw [htrim, trimChars_eq_nil hblank]⟩

example : bracketSpans "[a[b]] [ ]".toList = [['b'], [' ']] := by decide

end CiteForm.Analysis
