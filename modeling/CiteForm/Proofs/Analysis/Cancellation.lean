import Mathlib.Logic.Relation
import CiteForm.Proofs.Analysis.Nesting
/-!
# Nesting as cancellation

A word of brackets and braces is well nested when deleting an opener that stands right before
its closer, `[]` or `{}`, over and over leaves nothing. This is the same notion as `Nested`, read
on the group characters of a text alone: the characters between them never matter
(`nested_iff_cancels`). One direction cancels the innermost groups first; the other puts the
deleted pairs back, since a well-nested piece can go anywhere in a well-nested text
(`Nested.insert`).

The lint of a text is laid out in a fixed order: the closers that matched nothing, each at its
own index and in the order of the text, then at most one note of an opener left unclosed, then
the two matters of style (`lint_eq`).

* `Cancels` — one deletion of an adjacent pair.
* `nested_iff_cancels` — a text is well nested exactly when its group characters cancel.
* `Nesting.unmatchedAt_scanFrom` — where the scan reports unmatched closers.
* `lint_verdict` — what lint reports about nesting, and in which order.
-/

namespace CiteForm.Analysis

/-- The group characters of a text, in order. -/
def groupChars (cs : List Char) : List Char :=
  cs.filter fun c => isOpener c || isCloser c

/-- One deletion of an opener that stands right before its closer. -/
inductive Cancels : List Char → List Char → Prop where
  | pair (u v : List Char) {o : Char} :
      isOpener o = true → Cancels (u ++ o :: closerOf o :: v) (u ++ v)

/-! ### Well-nested texts are closed under insertion -/

namespace Nested

/-- A well-nested piece put anywhere into a well-nested text leaves it well nested. -/
theorem insert {x : List Char} (hx : Nested x) :
    ∀ {w : List Char}, Nested w → ∀ u v, w = u ++ v → Nested (u ++ x ++ v) := by
  intro w hw
  induction hw with
  | nil =>
    intro u v h
    obtain ⟨rfl, rfl⟩ := List.append_eq_nil_iff.mp h.symm
    simpa using hx
  | @char c rest ho hc hrest ih =>
    intro u v h
    cases u with
    | nil =>
      subst h
      simpa using hx.append (.char ho hc hrest)
    | cons d u =>
      obtain ⟨rfl, rfl⟩ := List.cons.inj h
      exact .char ho hc (ih u v rfl)
  | @group o body rest ho hbody hrest ihb ihr =>
    intro u v h
    cases u with
    | nil =>
      subst h
      simpa using hx.append (.group ho hbody hrest)
    | cons d u =>
      simp only [List.cons_append, List.cons.injEq] at h
      obtain ⟨rfl, h⟩ := h
      -- the insertion point lies in the body, or at its end, or after the closer
      rcases List.append_eq_append_iff.mp h with ⟨a, rfl, ha⟩ | ⟨b, rfl, rfl⟩
      · cases a with
        | nil =>
          simp only [List.nil_append] at ha
          subst ha
          simpa using Nested.group ho (ihb body [] (by simp)) hrest
        | cons e a =>
          obtain ⟨rfl, rfl⟩ := List.cons.inj ha
          simpa using Nested.group ho hbody (ihr a v rfl)
      · simpa using Nested.group ho (ihb u b rfl) hrest

/-- An opener right before its closer, put anywhere into a well-nested text. -/
theorem insert_pair {o : Char} (ho : isOpener o = true) {u v : List Char}
    (h : Nested (u ++ v)) : Nested (u ++ o :: closerOf o :: v) := by
  simpa using (Nested.group ho .nil .nil).insert h u v rfl

/-- Putting back the characters that are no group characters keeps a text well nested. -/
theorem of_groupChars :
    ∀ (t u : List Char), Nested (u ++ Analysis.groupChars t) → Nested (u ++ t)
  | [], _, h => by simpa [Analysis.groupChars] using h
  | c :: t, u, h => by
    by_cases hg : (isOpener c || isCloser c) = true
    · have h' : Nested ((u ++ [c]) ++ Analysis.groupChars t) := by
        simpa [Analysis.groupChars, List.filter_cons, hg] using h
      simpa using of_groupChars t (u ++ [c]) h'
    · have hg' : isOpener c = false ∧ isCloser c = false := by simpa using hg
      have h' : Nested (u ++ Analysis.groupChars t) := by
        simpa [Analysis.groupChars, List.filter_cons, hg] using h
      simpa using (Nested.char hg'.1 hg'.2 .nil).insert (of_groupChars t u h') u t rfl

end Nested

/-! ### Cancellation -/

namespace Cancels

/-- A deletion inside a text is a deletion in any text around it. -/
theorem frame {a b : List Char} (h : Cancels a b) (p q : List Char) :
    Cancels (p ++ a ++ q) (p ++ b ++ q) := by
  cases h with
  | pair u v ho => simpa using Cancels.pair (p ++ u) (v ++ q) ho

/-- Deletions inside a text are deletions in any text around it. -/
theorem frame_star {a b : List Char} (h : Relation.ReflTransGen Cancels a b) (p q : List Char) :
    Relation.ReflTransGen Cancels (p ++ a ++ q) (p ++ b ++ q) :=
  Relation.ReflTransGen.lift (fun w => p ++ w ++ q)
    (fun (a b : List Char) (hab : Cancels a b) => hab.frame p q) a b h

end Cancels

/-- The group characters of a well-nested text cancel to nothing, innermost groups first. -/
theorem cancels_of_nested {cs : List Char} (h : Nested cs) :
    Relation.ReflTransGen Cancels (groupChars cs) [] := by
  induction h with
  | nil => exact .refl
  | char ho hc _ ih => simpa [groupChars, ho, hc] using ih
  | @group o body rest ho _ _ ihb ihr =>
    obtain ⟨hco, hc⟩ := Nested.closer_isCloser ho
    have hsplit : groupChars (o :: body ++ closerOf o :: rest) =
        [o] ++ groupChars body ++ (closerOf o :: groupChars rest) := by
      simp [groupChars, List.filter_append, ho, hco, hc]
    -- the body cancels inside the group, then the group's own pair goes
    have hbody := Cancels.frame_star ihb [o] (closerOf o :: groupChars rest)
    have hpair : Cancels (o :: closerOf o :: groupChars rest) (groupChars rest) := by
      simpa using Cancels.pair [] (groupChars rest) ho
    rw [hsplit]
    exact hbody.trans (Relation.ReflTransGen.head hpair ihr)

/-- A word that cancels to nothing is well nested: each deleted pair can be put back. -/
theorem nested_of_cancels {w : List Char} (h : Relation.ReflTransGen Cancels w []) : Nested w := by
  induction h using Relation.ReflTransGen.head_induction_on with
  | refl => exact .nil
  | head hstep _ ih =>
    cases hstep with
    | pair u v ho => exact ih.insert_pair ho

/-- A text is well nested exactly when its group characters cancel to nothing. -/
theorem nested_iff_cancels {cs : List Char} :
    Nested cs ↔ Relation.ReflTransGen Cancels (groupChars cs) [] := by
  refine ⟨cancels_of_nested, fun h => ?_⟩
  -- the group characters are well nested, and the others can be put back among them
  have hgroup : Nested ([] ++ groupChars cs) := by simpa using nested_of_cancels h
  simpa using Nested.of_groupChars cs [] hgroup

/-! ### Where the scan reports unmatched closers -/

namespace Nesting

/-- `UnmatchedAt cs i us`: each closer of `us` stands in `cs` at its index, counted from `i`,
and the indices increase. -/
def UnmatchedAt (cs : List Char) (i : Nat) (us : List (Char × Nat)) : Prop :=
  us.Pairwise (fun a b => a.2 < b.2) ∧ ∀ x ∈ us, i ≤ x.2 ∧ cs[x.2 - i]? = some x.1

/-- Closers found further on, in the rest of the text, are found in the whole text. -/
theorem UnmatchedAt.cons {c : Char} {rest : List Char} {i : Nat} {us : List (Char × Nat)}
    (h : UnmatchedAt rest (i + 1) us) : UnmatchedAt (c :: rest) i us := by
  refine ⟨h.1, fun x hx => ?_⟩
  obtain ⟨hle, hget⟩ := h.2 x hx
  have hsub : x.2 - i = (x.2 - (i + 1)) + 1 := by omega
  exact ⟨by omega, by rw [hsub, List.getElem?_cons_succ, hget]⟩

/-- The closer at the front, reported before those further on. -/
theorem UnmatchedAt.push {c : Char} {rest : List Char} {i : Nat} {us : List (Char × Nat)}
    (h : UnmatchedAt rest (i + 1) us) : UnmatchedAt (c :: rest) i ((c, i) :: us) := by
  have hcons := h.cons (c := c)
  refine ⟨List.pairwise_cons.mpr ⟨fun x hx => ?_, h.1⟩, fun x hx => ?_⟩
  · have := (h.2 x hx).1
    simp only
    omega
  · rcases List.mem_cons.mp hx with rfl | hx
    · simp
    · exact hcons.2 x hx

/-- Every closer the scan reports stands at its index, and they come in the order of the
text. -/
theorem unmatchedAt_scanFrom (cs : List Char) (i : Nat) (stack : List (Char × Nat)) :
    UnmatchedAt cs i (scanFrom cs i stack).unmatched := by
  induction cs generalizing i stack with
  | nil => simp [scanFrom, UnmatchedAt]
  | cons c rest ih =>
    by_cases ho : isOpener c = true
    · rw [scanFrom_opener _ _ _ ho]
      exact (ih (i + 1) _).cons
    · by_cases hc : isCloser c = true
      · -- a closer is reported unless it closes the top of the stack
        cases stack with
        | nil => simpa [scanFrom, ho, hc] using (ih (i + 1) []).push
        | cons top below =>
          obtain ⟨o, j⟩ := top
          by_cases hm : closerOf o = c
          · rw [scanFrom_closer _ _ _ _ (by simpa using ho) hc hm]
            exact (ih (i + 1) below).cons
          · simpa [scanFrom, ho, hc, hm] using (ih (i + 1) below).push
      · rw [scanFrom_plain _ _ _ (by simpa using ho) (by simpa using hc)]
        exact (ih (i + 1) stack).cons

end Nesting

/-! ### The verdict of lint -/

/-- A lint is its unmatched closers, then what more it notes, each at most once and in the order
unclosed, empty literal, doubled `+`. -/
theorem lint_eq (cs : List Char) : ∃ rest, lint cs =
      (Nesting.scan cs).unmatched.map (fun x => Issue.unmatched x.1 x.2) ++ rest ∧
    rest.Sublist [.unclosed, .emptyLiteral, .doubledPlus] := by
  refine ⟨(if (Nesting.scan cs).unclosed.isEmpty then [] else [Issue.unclosed]) ++
    (if hasBlankPair '{' '}' cs then [Issue.emptyLiteral] else []) ++
    (if hasBlankPair '+' '+' cs then [Issue.doubledPlus] else []), ?_, ?_⟩
  · simp only [lint, List.append_assoc]
  · rw [show [Issue.unclosed, .emptyLiteral, .doubledPlus] =
        [.unclosed] ++ [.emptyLiteral] ++ [.doubledPlus] from rfl]
    refine (List.Sublist.append ?_ ?_).append ?_ <;> split <;> simp

/-- An issue is a fault of nesting exactly when its message begins with `Unmatched` or notes an
unclosed opener. -/
theorem Issue.isWarning_eq_false_iff (i : Issue) : i.isWarning = false ↔
    ("Unmatched".toList <+: i.message.toList ∨
      i.message = "Unclosed bracket/brace detected") := by
  cases i with
  | unmatched c n =>
    have hpre : "Unmatched".toList <+: "Unmatched '".toList := by decide
    simp only [Issue.isWarning, Issue.message, String.toList_append, List.append_assoc,
      true_iff]
    exact .inl (hpre.trans (List.prefix_append _ _))
  | unclosed => simp [Issue.isWarning, Issue.message]
  | emptyLiteral => simp only [Issue.isWarning, Issue.message]; decide
  | doubledPlus => simp only [Issue.isWarning, Issue.message]; decide

/-- What lint says about nesting. It reports no message beginning with `Unmatched` and no note of
an unclosed opener exactly when the group characters of the text cancel to nothing. Its issues
come in a fixed order: the closers that matched nothing, each standing at its index in the
text and in increasing order of index, then at most once the note of an unclosed opener, then
the warning of an empty literal, then that of a doubled `+`. -/
theorem lint_verdict (t : String) :
    ((∀ m ∈ (lint t.toList).map Issue.message,
        ¬ ("Unmatched".toList <+: m.toList ∨ m = "Unclosed bracket/brace detected")) ↔
      Relation.ReflTransGen Cancels (groupChars t.toList) []) ∧
    ∃ (us : List (Char × Nat)) (rest : List Issue),
      lint t.toList = us.map (fun x => Issue.unmatched x.1 x.2) ++ rest ∧
      rest.Sublist [.unclosed, .emptyLiteral, .doubledPlus] ∧
      us.Pairwise (fun a b => a.2 < b.2) ∧ ∀ x ∈ us, t.toList[x.2]? = some x.1 := by
  have hwarn : (∀ m ∈ (lint t.toList).map Issue.message,
      ¬ ("Unmatched".toList <+: m.toList ∨ m = "Unclosed bracket/brace detected")) ↔
      ∀ i ∈ lint t.toList, i.isWarning = true := by
    simp only [List.mem_map, forall_exists_index, and_imp, forall_apply_eq_imp_iff₂,
      ← Issue.isWarning_eq_false_iff, Bool.not_eq_false]
  refine ⟨hwarn.trans (lint_isWarning_iff.trans nested_iff_cancels), ?_⟩
  obtain ⟨rest, hlint, hrest⟩ := lint_eq t.toList
  obtain ⟨hsorted, hat⟩ := Nesting.unmatchedAt_scanFrom t.toList 0 []
  exact ⟨_, rest, hlint, hrest, hsorted, fun x hx => by simpa using (hat x hx).2⟩

end CiteForm.Analysis
