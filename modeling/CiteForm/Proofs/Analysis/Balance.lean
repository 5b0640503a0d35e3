import CiteForm.Analysis.Balance
import CiteForm.Proofs.Analysis.Nesting
/-!
# What the single-expression test accepts

The test that a selection is one expression counts brackets and braces apart, each from the
left. On a well-nested text neither count ever drops below zero and both end at zero, whatever
the order of its groups (`balancedFrom_nested`). So on a lint-clean text without backslashes
the test asks no more than that the text begins with `[` and ends with `]`
(`isBalancedExpression_iff_of_lint`): it accepts each single expression, `[`, a well-nested
body and the `]` that closes it (`OneExpression`), but also two expressions joined by `+`, where
the first `[` is closed before the end (`isBalancedExpression_two_expressions`).
-/

namespace CiteForm.Analysis

/-- A text that is exactly one expression: `[`, a well-nested body, and the `]` that closes the
first `[`. -/
def OneExpression (cs : List Char) : Prop :=
  ∃ body, Nested body ∧ cs = '[' :: body ++ [']']

/-- The counts at a character other than a backslash. -/
theorem balancedFrom_cons {c : Char} (hc : c ≠ '\\') (rest : List Char) (b r : Nat) :
    balancedFrom (c :: rest) b r =
      if c = '[' then balancedFrom rest (b + 1) r
      else if c = ']' then (if b = 0 then false else balancedFrom rest (b - 1) r)
      else if c = '{' then balancedFrom rest b (r + 1)
      else if c = '}' then (if r = 0 then false else balancedFrom rest b (r - 1))
      else balancedFrom rest b r :=
  balancedFrom.eq_4 b r c rest (fun h _ => hc h) (fun _ _ h _ => hc h)

/-- A well-nested text without backslashes leaves both counts as it found them. -/
theorem balancedFrom_nested {t : List Char} (ht : Nested t) (hb : '\\' ∉ t) :
    ∀ (x : List Char) (b r : Nat), balancedFrom (t ++ x) b r = balancedFrom x b r := by
  induction ht with
  | nil => intro x b r; rfl
  | @char c rest ho hc _ ih =>
    intro x b r
    have hne : c ≠ '\\' := fun h => hb (h ▸ List.mem_cons_self)
    simp only [isOpener, isCloser, Bool.or_eq_false_iff, beq_eq_false_iff_ne, ne_eq] at ho hc
    rw [List.cons_append, balancedFrom_cons hne, if_neg ho.1, if_neg hc.1, if_neg ho.2,
      if_neg hc.2, ih (fun h => hb (List.mem_cons_of_mem c h))]
  | @group o body rest ho _ _ ihb ihr =>
    intro x b r
    have hbody : '\\' ∉ body := fun h => hb (by simp [h])
    have hrest : '\\' ∉ rest := fun h => hb (by simp [h])
    simp only [isOpener, Bool.or_eq_true, beq_iff_eq] at ho
    -- the opener counts up, the body leaves the count, and the closer counts back down
    rcases ho with rfl | rfl
    · simp [closerOf, balancedFrom_cons (by decide : '[' ≠ '\\'), ihb hbody,
        balancedFrom_cons (by decide : ']' ≠ '\\'), ihr hrest]
    · simp [closerOf, balancedFrom_cons (by decide : '{' ≠ '\\'), ihb hbody,
        balancedFrom_cons (by decide : '}' ≠ '\\'), ihr hrest]

/-- On a lint-clean text without backslashes the single-expression test only looks at the
first and the last character: it passes exactly when the text begins with `[` and ends with
`]`. -/
theorem isBalancedExpression_iff_of_lint {cs : List Char} (hlint : ∀ i ∈ lint cs, i.isWarning = true)
    (hb : '\\' ∉ cs) :
    isBalancedExpression cs = true ↔ cs.head? = some '[' ∧ cs.getLast? = some ']' := by
  have hcount : balancedFrom cs 0 0 = true := by
    simpa [balancedFrom] using balancedFrom_nested (lint_isWarning_iff.mp hlint) hb [] 0 0
  simp [isBalancedExpression, hcount]

/-- Every single expression without backslashes passes the test. -/
theorem isBalancedExpression_of_oneExpression {cs : List Char} (h : OneExpression cs)
    (hb : '\\' ∉ cs) : isBalancedExpression cs = true := by
  obtain ⟨body, hbody, rfl⟩ := h
  have hnested : Nested ('[' :: body ++ [']']) := by
    simpa [closerOf] using Nested.group (o := '[') rfl hbody .nil
  rw [isBalancedExpression_iff_of_lint (lint_isWarning_iff.mpr hnested) hb,
    List.getLast?_concat]
  exact ⟨rfl, rfl⟩

/-- Two expressions joined by `+` pass the test, though the `]` that closes the first `[` is not
the last character. -/
theorem isBalancedExpression_two_expressions :
    (∀ i ∈ lint "[a]+[b]".toList, i.isWarning = true) ∧ '\\' ∉ "[a]+[b]".toList ∧
      isBalancedExpression "[a]+[b]".toList = true ∧ ¬ OneExpression "[a]+[b]".toList := by
  refine ⟨by decide, by decide, by decide, ?_⟩
  rintro ⟨body, hbody, heq⟩
  -- the body would have to be `a]+[b`, whose `]` closes nothing
  have hbody' : body = "a]+[b".toList := by
    have := congrArg (fun l => (l.drop 1).dropLast) heq
    simpa using this.symm
  subst hbody'
  have hclean := scan_isClean_iff.mpr hbody
  revert hclean
  decide

end CiteForm.Analysis
