import CiteForm.Proofs.Template.Tree
/-!
# Cutting the text of a tree

The cut of statements reads tokens one at a time and never resets its two counters. On the
text of a well-formed tree it still finds exactly the tree's groups: each group is read from
depth zero, no addend closes inside it, and the cut is back at depth zero when the group
closes. What follows a group decides the rest, as `Item.cut` says: a `+` continues the
statement, another group begins the next one, and any other token opens an addend that never
closes, so the rest of the text is dropped.

* `Cut.run`, `Cut.Always` — reading a run of tokens, and what holds at every state on the way.
* `Item.cut` — the statements of a sequence of items.
* `Item.statements_text` — the cut of a tree's text is the tree's own cut.
-/

namespace CiteForm.Template

@[simp] theorem Token.toChars_append (ts us : List Token) :
    Token.toChars (ts ++ us) = Token.toChars ts ++ Token.toChars us := by
  simp [Token.toChars]

/-- Outside a literal an addend keeps every token as written. -/
theorem Token.flatMap_addendText_bracket (ts : List Token) :
    ts.flatMap (Token.addendText (some '[')) = Token.toChars ts := by
  induction ts with
  | nil => rfl
  | cons t ts ih => cases t <;> simp [Token.addendText, Token.source, ih]

/-- Inside a literal an addend keeps every token as the character it stands for. -/
theorem Token.flatMap_addendText_brace (ts : List Token) :
    ts.flatMap (Token.addendText (some '{')) = ts.map Token.unescape := by
  induction ts with
  | nil => rfl
  | cons t ts ih => cases t <;> simp [Token.addendText, Token.unescape, ih]

namespace Depth

/-- A character that is no group character leaves the counters alone. -/
theorem count_of_not_group {c : Char} (hc : isGroupChar c = false) (k : Depth) :
    k.count c = k := by
  simp only [isGroupChar, Bool.or_eq_false_iff, beq_eq_false_iff_ne] at hc
  obtain ⟨⟨⟨h1, h2⟩, h3⟩, h4⟩ := hc
  simp [count, h1, h2, h3, h4]

/-- Inside an open brace a character other than a brace leaves the counters alone. -/
theorem count_within_braces {c : Char} (h1 : c ≠ '{') (h2 : c ≠ '}') {k : Depth}
    (hk : 0 < k.braces) : k.count c = k := by
  have : ¬ k.braces ≤ 0 := by omega
  simp [count, h1, h2, this]

/-- An addend is not closed while the counter its opener watches is not zero. -/
theorem closes_eq_false {o : Char} {m j : Int} (hj : 0 < j) (hm : o = '[' → m ≠ 0) :
    closes ⟨m, j⟩ (some o) = false := by
  by_cases h1 : o = '['
  · subst h1
    simp [closes, hm rfl]
  · by_cases h2 : o = '{'
    · subst h2
      simp only [closes, beq_eq_false_iff_ne]
      omega
    · unfold closes
      split <;> simp_all

end Depth

namespace Cut

/-- The state after reading a run of tokens. -/
def run (s : Cut) (ts : List Token) : Cut :=
  ts.foldl step s

@[simp] theorem run_nil (s : Cut) : s.run [] = s := rfl

@[simp] theorem run_cons (s : Cut) (t : Token) (ts : List Token) :
    s.run (t :: ts) = (s.step t).run ts := rfl

@[simp] theorem run_append (s : Cut) (ts us : List Token) :
    s.run (ts ++ us) = (s.run ts).run us := by
  simp [run]

/-- Every state the cut passes through while reading `ts` from `s`, `s` itself apart,
satisfies `P`. -/
def Always (P : Cut → Prop) : Cut → List Token → Prop
  | _, [] => True
  | s, t :: ts => P (s.step t) ∧ Always P (s.step t) ts

variable {P Q : Cut → Prop}

@[simp] theorem always_nil (s : Cut) : Always P s [] := trivial

@[simp] theorem always_cons (s : Cut) (t : Token) (ts : List Token) :
    Always P s (t :: ts) ↔ P (s.step t) ∧ Always P (s.step t) ts := Iff.rfl

theorem always_append (s : Cut) (ts us : List Token) :
    Always P s (ts ++ us) ↔ Always P s ts ∧ Always P (s.run ts) us := by
  induction ts generalizing s with
  | nil => simp
  | cons t ts ih => simp [ih, and_assoc]

theorem Always.mono (h : ∀ x, P x → Q x) {s : Cut} {ts : List Token} (hs : Always P s ts) :
    Always Q s ts := by
  induction ts generalizing s with
  | nil => trivial
  | cons t ts ih => exact ⟨h _ hs.1, ih hs.2⟩

/-- `Always` speaks of the states of the scan after the first. -/
theorem always_iff_scanl (s : Cut) (ts : List Token) :
    Always P s ts ↔ ∀ x ∈ (ts.scanl step s).tail, P x := by
  -- with the first state counted too, the scan unfolds one token at a time
  have whole : ∀ s ts, (P s ∧ Always P s ts ↔ ∀ x ∈ ts.scanl step s, P x) := by
    intro s ts
    induction ts generalizing s with
    | nil => simp
    | cons t ts ih => simp [← ih]
  cases ts with
  | nil => simp
  | cons t ts => simp [← whole]

/-- While inside an addend that began with `o`, reading `ts` closes nothing. -/
abbrev NoClose : Cut → List Token → Prop := Always (·.phase ≠ .closed)

/-- A state of an addend that began with anything but `[` or `{`: it never closes. -/
def Dead (s : Cut) : Prop :=
  ∃ x, s.phase = .inside x ∧ x ≠ '[' ∧ x ≠ '{'

theorem closes_dead {x : Char} (h1 : x ≠ '[') (h2 : x ≠ '{') (k : Depth) :
    k.closes (some x) = false := by
  unfold Depth.closes
  split <;> simp_all

/-- A dead addend stays dead, and the statements already made stay as they are. -/
theorem run_dead {s : Cut} (hs : s.Dead) (ts : List Token) :
    (s.run ts).Dead ∧ (s.run ts).st = s.st ∧ (s.run ts).done = s.done ∧ NoClose s ts := by
  induction ts generalizing s with
  | nil => simpa using hs
  | cons t ts ih =>
    obtain ⟨x, hx, h1, h2⟩ := hs
    have hstep : (s.step t).Dead ∧ (s.step t).st = s.st ∧ (s.step t).done = s.done := by
      cases t <;> simp [step, hx, feed, closes_dead h1 h2, Dead, h1, h2]
    obtain ⟨hd, hst, hdone, hno⟩ := ih hstep.1
    refine ⟨hd, hst.trans hstep.2.1, hdone.trans hstep.2.2, ?_, hno⟩
    obtain ⟨y, hy, -⟩ := hstep.1
    simp [hy]

/-- The statements once the text has ended, from a dead addend: the open statement is
dropped. -/
theorem finish_of_dead {s : Cut} (hs : s.Dead) : s.finish = s.done.reverse := by
  obtain ⟨x, hx, -⟩ := hs
  simp [finish, hx]

/-- The open statement finished, and the next addend awaited. -/
def endStatement (s : Cut) : Cut :=
  { s with phase := .await, done := s.st.reverse :: s.done, st := [] }

/-- After a closed addend a token other than `+` is read as if from the start of a statement,
the open statement being finished. -/
theorem step_closed {s : Cut} (hs : s.phase = .closed) {t : Token} (ht : t ≠ .char '+') :
    s.step t = s.endStatement.step t := by
  cases t <;> simp_all [step, feed, endStatement]

/-! ### One token inside an open addend -/

/-- A character read inside an open addend that it does not close. -/
theorem step_inside_char {o c : Char} {k d : Depth} (hk : k.count c = d)
    (hc : d.closes (some o) = false) (acc : List Char) (st : List (List Char))
    (done : List (List (List Char))) :
    step ⟨.inside o, k, acc, st, done⟩ (.char c) = ⟨.inside o, d, c :: acc, st, done⟩ := by
  simp [step, feed, hk, hc]

/-- A character read inside an open addend that it closes. -/
theorem step_inside_close {o c : Char} {k d : Depth} (hk : k.count c = d)
    (hc : d.closes (some o) = true) (acc : List Char) (st : List (List Char))
    (done : List (List (List Char))) :
    step ⟨.inside o, k, acc, st, done⟩ (.char c) =
      ⟨.closed, d, [], (c :: acc).reverse :: st, done⟩ := by
  simp [step, feed, hk, hc]

/-- An escape pair read inside an open addend: it never counts and never closes. -/
theorem step_inside_escaped (o c : Char) (k : Depth) (acc : List Char) (st : List (List Char))
    (done : List (List (List Char))) :
    step ⟨.inside o, k, acc, st, done⟩ (.escaped c) =
      ⟨.inside o, k, ((Token.escaped c).addendText (some o)).reverse ++ acc, st, done⟩ := by
  simp [step, feed]

/-- The first character of an addend is read as inside an addend it opens. -/
theorem step_await_char (c : Char) (k : Depth) (acc : List Char) (st : List (List Char))
    (done : List (List (List Char))) :
    step ⟨.await, k, acc, st, done⟩ (.char c) = step ⟨.inside c, k, acc, st, done⟩ (.char c) := by
  simp [step, Token.lead, feed]

/-- Where an addend opens, a token whose first character is neither `[` nor `{` opens an addend
that never closes. -/
theorem step_await_dead {s : Cut} (hs : s.phase = .await) {t : Token} (h1 : t.lead ≠ '[')
    (h2 : t.lead ≠ '{') :
    (s.step t).Dead ∧ (s.step t).st = s.st ∧ (s.step t).done = s.done := by
  cases t with
  | char c =>
    have h1' : c ≠ '[' := h1
    have h2' : c ≠ '{' := h2
    simp [step, hs, feed, Token.lead, closes_dead h1' h2', Dead, h1', h2']
  | escaped c => simp [step, hs, feed, Token.lead, Dead]

/-- A loose token where an addend should open begins an addend that never closes. -/
theorem step_loose {s : Cut} (hs : s.phase = .await) {t : Token} (ht : t.Loose) :
    (s.step t).Dead ∧ (s.step t).st = s.st ∧ (s.step t).done = s.done := by
  -- a loose token starts with a character that opens no group
  have hlead : t.lead ≠ '[' ∧ t.lead ≠ '{' := by
    cases t with
    | char c =>
      have hc : isGroupChar c = false := ht.1
      simp only [isGroupChar, Bool.or_eq_false_iff, beq_eq_false_iff_ne] at hc
      exact ⟨hc.1.1.1, hc.1.2⟩
    | escaped c => simp [Token.lead]
  exact step_await_dead hs hlead.1 hlead.2

/-- After a closed addend, reading a run that starts with a token other than `+` is reading it
from the start of a statement, the open statement being finished. -/
theorem run_closed {s : Cut} (hs : s.phase = .closed) {t : Token} (ht : t ≠ .char '+')
    (ts : List Token) :
    s.run (t :: ts) = s.endStatement.run (t :: ts) := by
  simp [step_closed hs ht]

/-- What no addend closing means for the trace of the counters. -/
abbrev ClosesAtZero : Cut → List Token → Prop := Always (fun x => x.phase = .closed → x.depth = {})

theorem NoClose.closesAtZero {s : Cut} {ts : List Token} (h : NoClose s ts) : ClosesAtZero s ts :=
  h.mono fun _ hx hc => absurd hc hx

/-- A literal body read inside an addend that its braces cannot close: its text is added and
nothing closes. The opener's counter stays where it is, since brackets do not count inside
braces and the body's braces balance. -/
theorem run_braced {b : List Token} (hb : Braced b) {o : Char} {m : Int} (hm : o = '[' → m ≠ 0) :
    ∀ {j : Int}, 0 < j → ∀ (acc : List Char) (st : List (List Char))
      (done : List (List (List Char))),
      (Cut.mk (.inside o) ⟨m, j⟩ acc st done).run b =
        ⟨.inside o, ⟨m, j⟩, (b.flatMap (Token.addendText (some o))).reverse ++ acc, st, done⟩ ∧
      NoClose ⟨.inside o, ⟨m, j⟩, acc, st, done⟩ b := by
  induction hb with
  | nil => intro j _ acc st done; simp
  | @token t rest ht1 ht2 _ ih =>
    intro j hj acc st done
    cases t with
    | char c =>
      have h1 : c ≠ '{' := fun h => ht1 (h ▸ rfl)
      have h2 : c ≠ '}' := fun h => ht2 (h ▸ rfl)
      have hstep := step_inside_char (o := o) (c := c) (Depth.count_within_braces h1 h2 hj)
        (Depth.closes_eq_false hj hm) acc st done
      obtain ⟨hrun, hno⟩ := ih hj (c :: acc) st done
      refine ⟨?_, ?_⟩
      · simp [hstep, hrun, Token.addendText]
      · simpa [hstep] using hno
    | escaped c =>
      obtain ⟨hrun, hno⟩ := ih hj (((Token.escaped c).addendText (some o)).reverse ++ acc) st done
      refine ⟨?_, ?_⟩
      · simp [step_inside_escaped, hrun]
      · simpa [step_inside_escaped] using hno
  | @nest inner rest _ _ ih1 ih2 =>
    intro j hj acc st done
    have hopen := step_inside_char (o := o) (c := '{') (k := ⟨m, j⟩) (d := ⟨m, j + 1⟩)
      (by simp [Depth.count]) (Depth.closes_eq_false (by omega) hm) acc st done
    obtain ⟨hrun1, hno1⟩ := ih1 (j := j + 1) (by omega) ('{' :: acc) st done
    have hclose := step_inside_char (o := o) (c := '}') (k := ⟨m, j + 1⟩) (d := ⟨m, j⟩)
      (by simp [Depth.count]) (Depth.closes_eq_false hj hm)
      ((inner.flatMap (Token.addendText (some o))).reverse ++ '{' :: acc) st done
    obtain ⟨hrun2, hno2⟩ := ih2 hj ('}' :: ((inner.flatMap (Token.addendText (some o))).reverse ++
      '{' :: acc)) st done
    refine ⟨?_, ?_⟩
    · simp [hopen, hrun1, hclose, hrun2, Token.addendText]
    · simp [hopen, hrun1, hclose, always_append, hno1, hno2]

end Cut

namespace Item

open Cut

mutual
/-- An item of an expression's body, read while the bracket counter is above zero and no brace
is open: its text is added as written and nothing closes. -/
theorem run_tokens_bracketed : ∀ (i : Item), i.WellFormed → ∀ {m : Int}, 0 < m →
    ∀ (acc : List Char) (st : List (List Char)) (done : List (List (List Char))),
      (Cut.mk (.inside '[') ⟨m, 0⟩ acc st done).run i.tokens =
        ⟨.inside '[', ⟨m, 0⟩, (Token.toChars i.tokens).reverse ++ acc, st, done⟩ ∧
      NoClose ⟨.inside '[', ⟨m, 0⟩, acc, st, done⟩ i.tokens
  | token (.char c), hi, m, hm, acc, st, done => by
    have hc : isGroupChar c = false := (wellFormed_token.mp hi).1
    have hstep := step_inside_char (o := '[') (c := c) (Depth.count_of_not_group hc ⟨m, 0⟩)
      (by simp [Depth.closes]; omega) acc st done
    simp [tokens, hstep, Token.source]
  | token (.escaped c), _, m, _, acc, st, done => by
    simp [tokens, step_inside_escaped, Token.addendText, Token.source]
  | expression b, hi, m, hm, acc, st, done => by
    -- the opening bracket raises the counter, the body leaves it, the closing one lowers it
    have hopen := step_inside_char (o := '[') (c := '[') (k := ⟨m, 0⟩) (d := ⟨m + 1, 0⟩)
      (by simp [Depth.count]) (by simp [Depth.closes]; omega) acc st done
    obtain ⟨hrun, hno⟩ := run_tokensOf_bracketed b (wellFormed_expression.mp hi)
      (m := m + 1) (by omega) ('[' :: acc) st done
    have hclose := step_inside_char (o := '[') (c := ']') (k := ⟨m + 1, 0⟩) (d := ⟨m, 0⟩)
      (by simp [Depth.count]) (by simp [Depth.closes]; omega)
      ((Token.toChars (tokensOf b)).reverse ++ '[' :: acc) st done
    refine ⟨?_, ?_⟩
    · simp [tokens, hopen, hrun, hclose, Token.source]
    · simp [tokens, hopen, hrun, hclose, always_append, hno]
  | literal b, hi, m, hm, acc, st, done => by
    -- inside the braces the bracket counter is frozen at `m`, which is not zero
    have hb := wellFormed_literal.mp hi
    have hopen := step_inside_char (o := '[') (c := '{') (k := ⟨m, 0⟩) (d := ⟨m, 1⟩)
      (by simp [Depth.count]) (by simp [Depth.closes]; omega) acc st done
    obtain ⟨hrun, hno⟩ := run_braced hb.1 (o := '[') (m := m) (fun _ => by omega)
      (j := 1) (by omega) ('{' :: acc) st done
    have hclose := step_inside_char (o := '[') (c := '}') (k := ⟨m, 1⟩) (d := ⟨m, 0⟩)
      (by simp [Depth.count]) (by simp [Depth.closes]; omega)
      ((b.flatMap (Token.addendText (some '['))).reverse ++ '{' :: acc) st done
    rw [Token.flatMap_addendText_bracket] at hrun hclose
    refine ⟨?_, ?_⟩
    · simp [tokens, hopen, hrun, hclose, Token.source]
    · simp [tokens, hopen, hrun, hclose, always_append, hno]

/-- A body of items read while the bracket counter is above zero: its text is added as written
and nothing closes. -/
theorem run_tokensOf_bracketed : ∀ (L : List Item), AllWellFormed L → ∀ {m : Int}, 0 < m →
    ∀ (acc : List Char) (st : List (List Char)) (done : List (List (List Char))),
      (Cut.mk (.inside '[') ⟨m, 0⟩ acc st done).run (tokensOf L) =
        ⟨.inside '[', ⟨m, 0⟩, (Token.toChars (tokensOf L)).reverse ++ acc, st, done⟩ ∧
      NoClose ⟨.inside '[', ⟨m, 0⟩, acc, st, done⟩ (tokensOf L)
  | [], _, m, _, acc, st, done => by simp
  | i :: is, hL, m, hm, acc, st, done => by
    rw [allWellFormed_cons] at hL
    obtain ⟨hrun1, hno1⟩ := run_tokens_bracketed i hL.1 hm acc st done
    obtain ⟨hrun2, hno2⟩ := run_tokensOf_bracketed is hL.2 hm
      ((Token.toChars i.tokens).reverse ++ acc) st done
    refine ⟨?_, ?_⟩
    · simp [hrun1, hrun2]
    · simp [always_append, hrun1, hno1, hno2]
end

/-- The text an addend leaves in the cut: an expression as written, a literal with its escape
pairs read as their characters. -/
def addend : Item → List Char
  | token t => Token.toChars [t]
  | expression b => '[' :: text b ++ [']']
  | literal b => '{' :: b.map Token.unescape ++ ['}']

/-- An expression read from the start of an addend at depth zero closes at its last bracket,
and only there, with both counters back at zero. -/
theorem run_expression_await {b : List Item} (hb : AllWellFormed b) (st : List (List Char))
    (done : List (List (List Char))) :
    (Cut.mk .await {} [] st done).run (expression b).tokens =
      ⟨.closed, {}, [], (expression b).addend :: st, done⟩ ∧
    ClosesAtZero ⟨.await, {}, [], st, done⟩ (expression b).tokens := by
  have hopen := step_inside_char (o := '[') (c := '[') (k := {}) (d := ⟨1, 0⟩)
    (by simp [Depth.count]) (by simp [Depth.closes]) [] st done
  obtain ⟨hrun, hno⟩ := run_tokensOf_bracketed b hb (m := 1) (by omega) ['['] st done
  have hclose := step_inside_close (o := '[') (c := ']') (k := ⟨1, 0⟩) (d := {})
    (by simp [Depth.count]) (by simp [Depth.closes])
    ((Token.toChars (tokensOf b)).reverse ++ ['[']) st done
  refine ⟨?_, ?_⟩
  · simp [tokens, step_await_char, hopen, hrun, hclose, addend, text]
  · simp [tokens, step_await_char, hopen, hrun, hclose, always_append, hno.closesAtZero]

/-- A literal read from the start of an addend at depth zero closes at its last brace, and only
there, with both counters back at zero. -/
theorem run_literal_await {b : List Token} (hb : Braced b) (st : List (List Char))
    (done : List (List (List Char))) :
    (Cut.mk .await {} [] st done).run (literal b).tokens =
      ⟨.closed, {}, [], (literal b).addend :: st, done⟩ ∧
    ClosesAtZero ⟨.await, {}, [], st, done⟩ (literal b).tokens := by
  have hopen := step_inside_char (o := '{') (c := '{') (k := {}) (d := ⟨0, 1⟩)
    (by simp [Depth.count]) (by simp [Depth.closes]) [] st done
  obtain ⟨hrun, hno⟩ := run_braced hb (o := '{') (m := 0) (by simp) (j := 1) (by omega)
    ['{'] st done
  have hclose := step_inside_close (o := '{') (c := '}') (k := ⟨0, 1⟩) (d := {})
    (by simp [Depth.count]) (by simp [Depth.closes])
    ((b.flatMap (Token.addendText (some '{'))).reverse ++ ['{']) st done
  rw [Token.flatMap_addendText_brace] at hrun hclose
  refine ⟨?_, ?_⟩
  · simp [tokens, step_await_char, hopen, hrun, hclose, addend]
  · simp [tokens, step_await_char, hopen, hrun, hclose, always_append, hno.closesAtZero]

/-- The state of the cut between groups: just after one closed, or awaiting one, with the open
statement `st` and the finished statements `done`. -/
def between (closed : Bool) (st : List Item) (done : List (List (List Char))) : Cut :=
  ⟨if closed then .closed else .await, {}, [], (st.map addend).reverse, done⟩

/-- A group read where an addend opens closes at its end and joins the open statement. -/
theorem run_group_between {g : Item} (hg : g.WellFormed) (hgrp : ∀ t, g ≠ token t)
    (st : List Item) (done : List (List (List Char))) :
    (between false st done).run g.tokens = between true (st ++ [g]) done ∧
    ClosesAtZero (between false st done) g.tokens := by
  cases g with
  | token t => exact absurd rfl (hgrp t)
  | expression b =>
    simpa [between] using run_expression_await (wellFormed_expression.mp hg)
      (st.map addend).reverse done
  | literal b =>
    simpa [between] using run_literal_await (wellFormed_literal.mp hg).1
      (st.map addend).reverse done

/-- A group is written starting with its opener, which is no `+`. -/
theorem tokens_group {g : Item} (hgrp : ∀ t, g ≠ token t) :
    ∃ c ts, g.tokens = .char c :: ts ∧ c ≠ '+' := by
  cases g with
  | token t => exact absurd rfl (hgrp t)
  | expression b => exact ⟨'[', _, rfl, by decide⟩
  | literal b => exact ⟨'{', _, rfl, by decide⟩

/-- The statements of a sequence of items, each the list of its groups. A group opens a
statement, or continues the open one after a `+`; where a group should open, any other token
begins an addend that never closes, and the rest is dropped with the open statement. -/
def cut (L : List Item) : List (List Item) :=
  go false [] L
where
  /-- `closed` says whether a group has just closed; `st` is the open statement. -/
  go : Bool → List Item → List Item → List (List Item)
    | false, _, [] => []
    | false, _, token _ :: _ => []
    | false, st, g :: rest => go true (st ++ [g]) rest
    | true, st, [] => [st]
    | true, st, token (.char '+') :: rest => go false st rest
    | true, st, token _ :: _ => [st]
    | true, st, g :: rest => st :: go true [g] rest

/-- Whether an item is a group. -/
def isGroup : Item → Bool
  | token _ => false
  | _ => true

theorem isGroup_of_ne_token {g : Item} (hgrp : ∀ t, g ≠ token t) : g.isGroup = true := by
  cases g with
  | token t => exact absurd rfl (hgrp t)
  | expression b => rfl
  | literal b => rfl

/-- A group where an addend opens joins the open statement. -/
theorem cut_go_false_group {g : Item} (hgrp : g.isGroup = true) (st rest : List Item) :
    cut.go false st (g :: rest) = cut.go true (st ++ [g]) rest := by
  cases g with
  | token t => simp [isGroup] at hgrp
  | expression b => simp [cut.go]
  | literal b => simp [cut.go]

/-- A group right after a group finishes the open statement and opens the next one. -/
theorem cut_go_true_group {g : Item} (hgrp : g.isGroup = true) (st rest : List Item) :
    cut.go true st (g :: rest) = st :: cut.go true [g] rest := by
  cases g with
  | token t => simp [isGroup] at hgrp
  | expression b => simp [cut.go]
  | literal b => simp [cut.go]

/-- What reading a run of items from between two groups comes to: the statements `cut` gives
after those already finished, and counters at zero at every close. -/
def CutsAs (closed : Bool) (st : List Item) (done : List (List (List Char)))
    (L : List Item) : Prop :=
  ((between closed st done).run (tokensOf L)).finish =
      done.reverse ++ (cut.go closed st L).map (·.map addend) ∧
    ClosesAtZero (between closed st done) (tokensOf L)

/-- Reading a group where an addend opens: the cut puts it in the open statement
(`cut_go_false_group`), and its tokens close with both counters at zero. -/
theorem cutsAs_group_first {g : Item} (hg : g.WellFormed) (hgrp : ∀ t, g ≠ token t)
    {rest : List Item} (ih : ∀ st done, CutsAs true st done rest) (st : List Item)
    (done : List (List (List Char))) : CutsAs false st done (g :: rest) := by
  obtain ⟨hrun, hclo⟩ := run_group_between hg hgrp st done
  obtain ⟨hrun', hclo'⟩ := ih (st ++ [g]) done
  have hgo := cut_go_false_group (isGroup_of_ne_token hgrp) st rest
  refine ⟨?_, ?_⟩
  · simpa [hrun, hgo] using hrun'
  · simp [always_append, hclo, hrun, hclo']

/-- Reading a group right after a group: the cut finishes the open statement and opens the next
one (`cut_go_true_group`), and the reading does the same at the group's first token. -/
theorem cutsAs_group_after {g : Item} (hg : g.WellFormed) (hgrp : ∀ t, g ≠ token t)
    {rest : List Item} (ih : ∀ st done, CutsAs true st done rest) (st : List Item)
    (done : List (List (List Char))) : CutsAs true st done (g :: rest) := by
  obtain ⟨c, ts, htok, hc⟩ := tokens_group hgrp
  have hplus : Token.char c ≠ .char '+' := fun h => hc (Token.char.inj h)
  have hs : (between true st done).phase = .closed := rfl
  -- the step that finishes the statement lands where a first group would be read
  have hfresh : (between true st done).endStatement = between false [] ((st.map addend) :: done) := by
    simp [between, endStatement]
  obtain ⟨hrun, hclo⟩ := run_group_between hg hgrp [] ((st.map addend) :: done)
  obtain ⟨hrun', hclo'⟩ := ih [g] ((st.map addend) :: done)
  have hgo := cut_go_true_group (isGroup_of_ne_token hgrp) st rest
  have hrun_g : (between true st done).run g.tokens =
      between true [g] ((st.map addend) :: done) := by
    rw [htok, run_closed hs hplus, hfresh, ← htok, hrun]
    rfl
  have hclo_g : ClosesAtZero (between true st done) g.tokens := by
    rw [htok]
    simp only [always_cons]
    rw [step_closed hs hplus, hfresh]
    rw [htok] at hclo
    simpa using hclo
  refine ⟨?_, ?_⟩
  · simp [hrun_g, hrun', hgo]
  · simp [always_append, hclo_g, hrun_g, hclo']

/-- Reading the text of well-formed items from between two groups finishes with the statements
`cut` gives, and every addend that closes on the way closes with both counters at zero. -/
theorem cutsAs : ∀ (L : List Item), AllWellFormed L → ∀ (closed : Bool) (st : List Item)
    (done : List (List (List Char))), CutsAs closed st done L
  | [], _, closed, st, done => by
    cases closed <;> simp [CutsAs, between, Cut.finish, cut.go]
  | token t :: rest, hL, false, st, done => by
    -- where a group should open, a token begins an addend that never closes
    have ht := wellFormed_token.mp (allWellFormed_cons.mp hL).1
    obtain ⟨hdead, -, hdone⟩ := step_loose (s := between false st done) rfl ht
    obtain ⟨hd, -, hdone', hno⟩ := run_dead hdead (tokensOf rest)
    obtain ⟨x, hx, -⟩ := hdead
    simp only [CutsAs, tokensOf_cons, tokens, List.singleton_append, run_cons, always_cons]
    refine ⟨?_, by simp [hx], hno.closesAtZero⟩
    rw [finish_of_dead hd, hdone', hdone]
    simp [between, cut.go]
  | token t :: rest, hL, true, st, done => by
    have ht := wellFormed_token.mp (allWellFormed_cons.mp hL).1
    simp only [CutsAs, tokensOf_cons, tokens, List.singleton_append, run_cons, always_cons]
    by_cases hplus : t = .char '+'
    · -- a `+` after a group: the statement goes on
      subst hplus
      have hstep : (between true st done).step (.char '+') = between false st done := by
        simp [between, step]
      obtain ⟨hrun, hclo⟩ := cutsAs rest (allWellFormed_cons.mp hL).2 false st done
      rw [hstep]
      exact ⟨by simpa [cut.go] using hrun, by simp [between], hclo⟩
    · -- any other token after a group: the statement is finished, and the rest is dropped
      have hs : (between true st done).phase = .closed := rfl
      rw [step_closed hs hplus]
      obtain ⟨hdead, -, hdone⟩ := step_loose (s := (between true st done).endStatement) rfl ht
      obtain ⟨hd, -, hdone', hno⟩ := run_dead hdead (tokensOf rest)
      obtain ⟨x, hx, -⟩ := hdead
      refine ⟨?_, by simp [hx], hno.closesAtZero⟩
      rw [finish_of_dead hd, hdone', hdone]
      cases t <;> simp [between, endStatement, cut.go]
  | expression b :: rest, hL, false, st, done =>
    cutsAs_group_first (allWellFormed_cons.mp hL).1 (fun t => by simp)
      (cutsAs rest (allWellFormed_cons.mp hL).2 true) st done
  | literal b :: rest, hL, false, st, done =>
    cutsAs_group_first (allWellFormed_cons.mp hL).1 (fun t => by simp)
      (cutsAs rest (allWellFormed_cons.mp hL).2 true) st done
  | expression b :: rest, hL, true, st, done =>
    cutsAs_group_after (allWellFormed_cons.mp hL).1 (fun t => by simp)
      (cutsAs rest (allWellFormed_cons.mp hL).2 true) st done
  | literal b :: rest, hL, true, st, done =>
    cutsAs_group_after (allWellFormed_cons.mp hL).1 (fun t => by simp)
      (cutsAs rest (allWellFormed_cons.mp hL).2 true) st done

/-- The cut of a well-formed tree's text is the tree's own cut, each group leaving its addend. -/
theorem statements_text {L : List Item} (hL : AllWellFormed L) :
    statements (text L) = (cut L).map (·.map addend) := by
  simpa [statements, ofChars_text hL, between, Cut.run, cut] using (cutsAs L hL false [] []).1

/-- While the text of a well-formed tree is cut, every addend closes with both counters at
zero. -/
theorem closesAtZero_text {L : List Item} (hL : AllWellFormed L) :
    ClosesAtZero {} (Token.ofChars (text L)) := by
  simpa [ofChars_text hL, between] using (cutsAs L hL false [] []).2

/-- The statements of a cut hold groups of the sequence cut, and the open statement's. -/
theorem mem_cut_go {closed : Bool} {st L : List Item} {st' : List Item} {g : Item}
    (h : st' ∈ cut.go closed st L) (hg : g ∈ st') : g ∈ st ∨ (g ∈ L ∧ g.isGroup) := by
  fun_induction cut.go closed st L with
  | case1 => simp at h
  | case2 => simp at h
  | case3 st g' rest hne ih =>
    rcases ih h with hmem | ⟨hmem, hgrp⟩
    · rcases List.mem_append.mp hmem with hmem | hmem
      · exact .inl hmem
      · have hgg : g = g' := List.mem_singleton.mp hmem
        subst hgg
        cases g <;> simp_all [isGroup]
    · exact .inr ⟨List.mem_cons_of_mem _ hmem, hgrp⟩
  | case4 st =>
    simp only [List.mem_singleton] at h
    exact .inl (h ▸ hg)
  | case5 st rest ih =>
    rcases ih h with hmem | ⟨hmem, hgrp⟩
    · exact .inl hmem
    · exact .inr ⟨List.mem_cons_of_mem _ hmem, hgrp⟩
  | case6 st t rest hne =>
    simp only [List.mem_singleton] at h
    exact .inl (h ▸ hg)
  | case7 st g' rest hne1 hne2 ih =>
    rcases List.mem_cons.mp h with rfl | h
    · exact .inl hg
    · rcases ih h with hmem | ⟨hmem, hgrp⟩
      · have hgg : g = g' := List.mem_singleton.mp hmem
        subst hgg
        refine .inr ⟨List.mem_cons_self, ?_⟩
        cases g <;> simp_all [isGroup]
      · exact .inr ⟨List.mem_cons_of_mem _ hmem, hgrp⟩

/-- Every addend of a cut is a group of the sequence cut. -/
theorem mem_cut {L st : List Item} {g : Item} (h : st ∈ cut L) (hg : g ∈ st) :
    g ∈ L ∧ g.isGroup := by
  rcases mem_cut_go h hg with hmem | hmem
  · simp at hmem
  · exact hmem

/-- A token other than `+` right after a group ends the cut with the open statement. -/
theorem cut_go_true_token {t : Token} (ht : t ≠ .char '+') (st rest : List Item) :
    cut.go true st (token t :: rest) = [st] := by
  cases t with
  | char c => simp_all [cut.go]
  | escaped c => simp [cut.go]

/-- The groups of a statement written out with `+` between them are read into the open
statement. -/
theorem cut_go_intersperse (st rest : List Item) :
    ∀ {G : List Item}, G ≠ [] → (∀ g ∈ G, g.isGroup = true) →
      cut.go false st (G.intersperse (token (.char '+')) ++ rest) = cut.go true (st ++ G) rest
  | [g], _, hG => by
    simp [cut_go_false_group (hG g List.mem_cons_self)]
  | g :: h :: G, _, hG => by
    have htail := cut_go_intersperse (st ++ [g]) rest (G := h :: G)
      (List.cons_ne_nil h G) fun i hi => hG i (List.mem_cons_of_mem g hi)
    simp only [List.intersperse_cons_cons, List.cons_append,
      cut_go_false_group (hG g List.mem_cons_self)] at htail ⊢
    simpa [cut.go] using htail

/-- A statement written out opens with its first group. -/
theorem opens_intersperse_append {G : List Item} (hne : G ≠ []) (hG : ∀ g ∈ G, g.isGroup = true)
    (L : List Item) : opens (G.intersperse (token (.char '+')) ++ L) = true := by
  obtain ⟨g, G, rfl⟩ := List.exists_cons_of_ne_nil hne
  have hg := hG g List.mem_cons_self
  cases G <;> cases g <;> simp_all [opens, isGroup]

/-- A statement written out is cut off whole from what follows it, when that opens with a
group or is empty. -/
theorem cut_intersperse_append {G L : List Item} (hne : G ≠ []) (hG : ∀ g ∈ G, g.isGroup = true)
    (hL : opens L = true ∨ L = []) : cut (G.intersperse (token (.char '+')) ++ L) = G :: cut L := by
  rw [cut, cut_go_intersperse [] L hne hG, List.nil_append]
  rcases hL with hL | rfl
  · cases L with
    | nil => simp [opens] at hL
    | cons g L =>
      have hg : g.isGroup = true := by cases g <;> simp_all [opens, isGroup]
      rw [cut_go_true_group hg, cut, cut_go_false_group hg, List.nil_append]
  · simp [cut, cut.go]

end Item

end CiteForm.Template
