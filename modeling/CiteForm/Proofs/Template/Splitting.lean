import Mathlib.Data.List.Infix
import CiteForm.Proofs.Template.Deletion
/-!
# Statements written out are read back

Groups without backslashes, joined by `+` into statements and the statements written one after
another, are cut back into exactly those statements, whatever text follows as long as it does not
begin with `+` (`joinStatements_reads_back`). A group is a literal `{B}` whose braces balance, or
an expression `[B]` whose body holds characters other than the group characters and groups.

Each group is read from where an addend opens at depth zero and closes at its last character
with both counters back at zero (`run_group`), so the cut after a statement stands just as it
stood at the start, less the statements it finished (`Cut.withDone`). What follows is then read
as if it were a text of its own. For the evaluator this means that a text following the written
statements adds its own rendering when it opens with a group, and is dropped when it opens with
anything else.

* `BracesBalanced`, `IsGroup`, `IsGroupBody` — the groups, as a grammar on texts.
* `joinStatements` — statements written out.
* `statements_joinStatements_append` — the cut of written statements and what follows them.
* `joinStatements_reads_back` — the cut and the evaluator on written statements.
-/

namespace CiteForm.Template

/-! ### Groups as a grammar on texts -/

/-- The braces of a literal's body balance: no prefix closes more braces than it opens, and the
whole body opens as many as it closes. -/
def BracesBalanced (b : List Char) : Prop :=
  (∀ p ∈ b.inits, p.count '}' ≤ p.count '{') ∧ b.count '{' = b.count '}'

instance (b : List Char) : Decidable (BracesBalanced b) :=
  inferInstanceAs (Decidable (_ ∧ _))

mutual
/-- A group without backslashes: a literal whose braces balance, or an expression. -/
inductive IsGroup : List Char → Prop where
  | literal {b : List Char} : '\\' ∉ b → BracesBalanced b → IsGroup ('{' :: b ++ ['}'])
  | expression {b : List Char} : IsGroupBody b → IsGroup ('[' :: b ++ [']'])

/-- The body of an expression: characters other than the group characters and the backslash,
and groups. -/
inductive IsGroupBody : List Char → Prop where
  | nil : IsGroupBody []
  | char {c : Char} {rest : List Char} :
      isGroupChar c = false → c ≠ '\\' → IsGroupBody rest → IsGroupBody (c :: rest)
  | group {g rest : List Char} : IsGroup g → IsGroupBody rest → IsGroupBody (g ++ rest)
end

/-- Statements written out: each statement's groups joined by `+`, one statement after
another. -/
def joinStatements (f : List (List (List Char))) : List Char :=
  (f.map (List.intercalate ['+'])).flatten

@[simp] theorem joinStatements_nil : joinStatements [] = [] := rfl

@[simp] theorem joinStatements_cons (G : List (List Char)) (f : List (List (List Char))) :
    joinStatements (G :: f) = List.intercalate ['+'] G ++ joinStatements f := rfl

/-! ### Balanced braces as braced runs -/

/-- `ClosesBraces n ts`: the tokens close `n` braces opened before them, each after a braced
run, and then hold a braced run. -/
inductive ClosesBraces : Nat → List Token → Prop where
  | zero {ts : List Token} : Braced ts → ClosesBraces 0 ts
  | succ {b rest : List Token} {n : Nat} :
      Braced b → ClosesBraces n rest → ClosesBraces (n + 1) (b ++ .char '}' :: rest)

/-- Tokens that close at least one brace: a braced run, the closing brace, and tokens that close
the others. -/
theorem ClosesBraces.succ_inv {n : Nat} {ts : List Token} (h : ClosesBraces (n + 1) ts) :
    ∃ b rest, Braced b ∧ ClosesBraces n rest ∧ ts = b ++ .char '}' :: rest := by
  cases h with
  | succ hb hrest => exact ⟨_, _, hb, hrest, rfl⟩

/-- A braced run may go in front of tokens that close braces. -/
theorem ClosesBraces.prepend {g : List Token} (hg : Braced g) {n : Nat} {ts : List Token}
    (h : ClosesBraces n ts) : ClosesBraces n (g ++ ts) := by
  cases h with
  | zero hts => exact .zero (hg.append hts)
  | succ hb hrest => simpa using ClosesBraces.succ (hg.append hb) hrest

/-- Characters read after `n` open braces, never closing more than are open and closing all of
them at the end, close those braces one after another. -/
theorem closesBraces_of_counts : ∀ (b : List Char) (n : Nat),
    (∀ p ∈ b.inits, p.count '}' ≤ n + p.count '{') → n + b.count '{' = b.count '}' →
      ClosesBraces n (b.map .char)
  | [], n, _, htotal => by
    have hn : n = 0 := by simpa using htotal
    subst hn
    exact .zero .nil
  | c :: b, n, hprefix, htotal => by
    -- the prefixes of the rest, each seen after `c`
    have htail : ∀ p ∈ b.inits, (c :: p).count '}' ≤ n + (c :: p).count '{' := fun p hp =>
      hprefix (c :: p) (by simp [hp])
    by_cases hopen : c = '{'
    · subst hopen
      have hrest := closesBraces_of_counts b (n + 1)
        (fun p hp => by have := htail p hp; simp at this; omega)
        (by simp at htotal; omega)
      -- the brace opened here is closed by the first of the `n + 1` closings
      obtain ⟨inner, after, hinner, hafter, heq⟩ := hrest.succ_inv
      rw [List.map_cons, heq]
      simpa using ClosesBraces.prepend (Braced.nest hinner .nil) hafter
    · by_cases hclose : c = '}'
      · subst hclose
        have hfirst := hprefix ['}'] (by simp)
        obtain ⟨m, rfl⟩ : ∃ m, n = m + 1 := ⟨n - 1, by simp at hfirst; omega⟩
        have hrest := closesBraces_of_counts b m
          (fun p hp => by have := htail p hp; simp at this; omega)
          (by simp at htotal; omega)
        simpa using ClosesBraces.succ .nil hrest
      · have hrest := closesBraces_of_counts b n
          (fun p hp => by
            have := htail p hp
            simp [hopen, hclose] at this
            omega)
          (by simp [hopen, hclose] at htotal; omega)
        simpa using ClosesBraces.prepend
          (Braced.token (by simpa using hopen) (by simpa using hclose) .nil) hrest

/-- A literal body whose braces balance is a braced run of tokens. -/
theorem BracesBalanced.braced {b : List Char} (h : BracesBalanced b) : Braced (b.map .char) := by
  have hcl := closesBraces_of_counts b 0 (fun p hp => by simpa using h.1 p hp) (by simpa using h.2)
  cases hcl with
  | zero hb => exact hb

/-! ### Groups as trees -/

mutual
/-- A group is the text of one well-formed group of a tree, which the cut keeps whole as its
addend; it holds no backslash. -/
theorem IsGroup.item : ∀ {g : List Char}, IsGroup g → ∃ i : Item, i.WellFormed ∧
    i.isGroup = true ∧ Item.text [i] = g ∧ i.addend = g ∧ '\\' ∉ g
  | _, @IsGroup.literal b hbs hbal => by
    have hcan : ∀ t ∈ b.map Token.char, t.Canonical := by
      intro t ht
      obtain ⟨c, hc, rfl⟩ := List.mem_map.mp ht
      exact fun h => hbs (h ▸ hc)
    refine ⟨.literal (b.map .char), ⟨hbal.braced, hcan⟩, rfl, ?_, ?_, ?_⟩
    · simp
    · simp [Item.addend, Function.comp_def, Token.unescape]
    · simpa using hbs
  | _, @IsGroup.expression b hb => by
    obtain ⟨L, hL, htext, hbs⟩ := hb.items
    refine ⟨.expression L, hL, rfl, ?_, ?_, ?_⟩
    · simp [htext]
    · simp [Item.addend, htext]
    · simpa using hbs

/-- The body of an expression is the text of a well-formed sequence of items; it holds no
backslash. -/
theorem IsGroupBody.items : ∀ {b : List Char}, IsGroupBody b →
    ∃ L : List Item, Item.AllWellFormed L ∧ Item.text L = b ∧ '\\' ∉ b
  | _, .nil => ⟨[], trivial, rfl, by simp⟩
  | _, @IsGroupBody.char c rest hc hbs hrest => by
    obtain ⟨L, hL, htext, hbs'⟩ := hrest.items
    refine ⟨.token (.char c) :: L, ⟨⟨hc, hbs⟩, hL⟩, ?_, ?_⟩
    · simp [Item.text, Item.tokens, Token.source, ← htext]
    · simp [hbs', Ne.symm hbs]
  | _, @IsGroupBody.group g rest hg hrest => by
    obtain ⟨i, hi, -, htext, -, hbs⟩ := hg.item
    obtain ⟨L, hL, htextL, hbsL⟩ := hrest.items
    refine ⟨i :: L, ⟨hi, hL⟩, ?_, ?_⟩
    · rw [Item.text_cons, htext, htextL]
    · simp [hbs, hbsL]
end

/-- A group holds no backslash. -/
theorem IsGroup.not_mem {g : List Char} (hg : IsGroup g) : '\\' ∉ g := by
  obtain ⟨-, -, -, -, -, hbs⟩ := hg.item
  exact hbs

/-- A group opens with its bracket or its brace. -/
theorem IsGroup.head {g : List Char} (hg : IsGroup g) :
    ∃ c rest, g = c :: rest ∧ (c = '[' ∨ c = '{') := by
  cases hg with
  | literal _ _ => exact ⟨'{', _, rfl, .inr rfl⟩
  | expression _ => exact ⟨'[', _, rfl, .inl rfl⟩

/-! ### Reading written statements -/

/-- A text without backslashes is read token by token, whatever follows it. -/
theorem Token.ofChars_append_of_not_mem : ∀ {a : List Char}, '\\' ∉ a → ∀ (b : List Char),
    Token.ofChars (a ++ b) = Token.ofChars a ++ Token.ofChars b
  | [], _, b => rfl
  | c :: a, h, b => by
    have hc : c ≠ '\\' := fun hc => h (hc ▸ List.mem_cons_self)
    have ha : '\\' ∉ a := fun ha => h (List.mem_cons_of_mem c ha)
    rw [List.cons_append, Token.ofChars_cons_of_ne hc, Token.ofChars_cons_of_ne hc,
      Token.ofChars_append_of_not_mem ha b, List.cons_append]

/-- A group read where an addend opens at depth zero closes at its last character, with both
counters back at zero, and joins the open statement as written. -/
theorem run_group {g : List Char} (hg : IsGroup g) (st : List (List Char))
    (done : List (List (List Char))) :
    (Cut.mk .await {} [] st done).run (Token.ofChars g) = ⟨.closed, {}, [], g :: st, done⟩ := by
  obtain ⟨i, hi, hgrp, htext, haddend, -⟩ := hg.item
  have htok : Token.ofChars g = i.tokens := by
    rw [← htext, Item.ofChars_text (Item.allWellFormed_cons.mpr ⟨hi, Item.allWellFormed_nil⟩)]
    simp
  rw [htok, ← haddend]
  cases i with
  | token t => simp [Item.isGroup] at hgrp
  | expression b => exact (Item.run_expression_await (Item.wellFormed_expression.mp hi) st done).1
  | literal b => exact (Item.run_literal_await (Item.wellFormed_literal.mp hi).1 st done).1

/-- A statement written out holds no backslash when its groups hold none. -/
theorem not_mem_intercalate : ∀ {G : List (List Char)}, (∀ g ∈ G, '\\' ∉ g) →
    '\\' ∉ List.intercalate ['+'] G
  | [], _ => by simp
  | [g], hG => by simpa using hG g List.mem_cons_self
  | g :: h :: G, hG => by
    have hrest := not_mem_intercalate (G := h :: G) fun x hx => hG x (List.mem_cons_of_mem g hx)
    rw [List.intercalate_cons_cons]
    simp [hG g List.mem_cons_self, hrest]

/-- A statement written out opens with its first group. -/
theorem intercalate_cons_eq (g : List Char) :
    ∀ G : List (List Char), ∃ w, List.intercalate ['+'] (g :: G) = g ++ w
  | [] => ⟨[], by simp⟩
  | h :: G => ⟨['+'] ++ List.intercalate ['+'] (h :: G), by
      rw [List.intercalate_cons_cons, List.append_assoc]⟩

section Written

variable {f : List (List (List Char))} (hf : ∀ G ∈ f, G ≠ [] ∧ ∀ g ∈ G, IsGroup g)
include hf

/-- Written statements hold no backslash. -/
theorem not_mem_joinStatements : '\\' ∉ joinStatements f := by
  intro hmem
  obtain ⟨w, hw, hmw⟩ := List.mem_flatten.mp hmem
  obtain ⟨G, hG, rfl⟩ := List.mem_map.mp hw
  exact not_mem_intercalate (fun g hg => ((hf G hG).2 g hg).not_mem) hmw

/-- Written statements, when there are any, open with a bracket or a brace. -/
theorem joinStatements_head (hne : f ≠ []) :
    ∃ c rest, joinStatements f = c :: rest ∧ (c = '[' ∨ c = '{') := by
  obtain ⟨G, f', rfl⟩ := List.exists_cons_of_ne_nil hne
  obtain ⟨hGne, hG⟩ := hf G List.mem_cons_self
  obtain ⟨g, G', rfl⟩ := List.exists_cons_of_ne_nil hGne
  obtain ⟨c, rest, rfl, hc⟩ := (hG g List.mem_cons_self).head
  obtain ⟨w, hw⟩ := intercalate_cons_eq (c :: rest) G'
  exact ⟨c, rest ++ w ++ joinStatements f', by simp [hw], hc⟩

/-- Written statements, when there are any, open with a group whatever follows them. -/
theorem opensGroup_joinStatements_append (hne : f ≠ []) (r : List Char) :
    opensGroup (joinStatements f ++ r) = true := by
  obtain ⟨c, rest, hjoin, hc⟩ := joinStatements_head hf hne
  rw [hjoin]
  rcases hc with rfl | rfl <;> rfl

/-- Written statements, when there are any, open with a group. -/
theorem opensGroup_joinStatements (hne : f ≠ []) : opensGroup (joinStatements f) = true := by
  simpa using opensGroup_joinStatements_append hf hne []

/-- Written statements followed by tokens that do not begin with `+`, unless both are empty,
begin with a token other than `+`. -/
theorem ofChars_joinStatements_append_cons {R : List Token} (hR : R.head? ≠ some (.char '+'))
    (hend : ¬(f = [] ∧ R = [])) :
    ∃ t ts, Token.ofChars (joinStatements f) ++ R = t :: ts ∧ t ≠ .char '+' := by
  by_cases hnil : f = []
  · subst hnil
    obtain ⟨t, ts, rfl⟩ := List.exists_cons_of_ne_nil fun h => hend ⟨rfl, h⟩
    exact ⟨t, ts, rfl, fun h => hR (by simp [h])⟩
  · -- the first character is a bracket or a brace, read as a token of its own
    obtain ⟨c, rest, hjoin, hc⟩ := joinStatements_head hf hnil
    have hcb : c ≠ '\\' := by rcases hc with rfl | rfl <;> decide
    refine ⟨.char c, Token.ofChars rest ++ R,
      by rw [hjoin, Token.ofChars_cons_of_ne hcb]; rfl, fun h => ?_⟩
    cases h
    rcases hc with h | h <;> cases h

end Written

/-- The first token of a text is read from its first character. -/
theorem Token.ofChars_cons_lead (c : Char) (r : List Char) :
    ∃ t ts, Token.ofChars (c :: r) = t :: ts ∧ t.lead = c := by
  by_cases hc : c = '\\'
  · subst hc
    cases r with
    | nil => exact ⟨.char '\\', [], by simp [Token.ofChars], rfl⟩
    | cons d r =>
      by_cases hd : isGroupChar d = true
      · exact ⟨.escaped d, Token.ofChars r, by simp [Token.ofChars, hd], rfl⟩
      · exact ⟨.char '\\', Token.ofChars (d :: r), by simp [Token.ofChars, hd], rfl⟩
  · exact ⟨.char c, _, Token.ofChars_cons_of_ne hc r, rfl⟩

/-- A text that does not begin with `+` is not read as beginning with the token `+`. -/
theorem Token.ofChars_head_ne_plus {r : List Char} (hr : r.head? ≠ some '+') :
    (Token.ofChars r).head? ≠ some (.char '+') := by
  cases r with
  | nil => simp [Token.ofChars]
  | cons c r =>
    obtain ⟨t, ts, hts, hlead⟩ := Token.ofChars_cons_lead c r
    have hc : c ≠ '+' := fun h => hr (by simp [h])
    rw [hts]
    rintro ⟨⟩
    exact hc hlead.symm

namespace Cut

/-- The cut with more statements finished before those it has. -/
def withDone (s : Cut) (D : List (List (List Char))) : Cut :=
  { s with done := s.done ++ D }

theorem feed_withDone (s : Cut) (D : List (List (List Char))) (o : Char) (t : Token) :
    (s.withDone D).feed o t = (s.feed o t).withDone D := by
  cases t with
  | escaped c => rfl
  | char c => by_cases h : (s.depth.count c).closes (some o) <;> simp [feed, withDone, h]

/-- Statements finished earlier take no part in reading a token. -/
theorem step_withDone (s : Cut) (D : List (List (List Char))) (t : Token) :
    (s.withDone D).step t = (s.step t).withDone D := by
  cases s with
  | mk phase depth acc st done =>
    cases phase with
    | await => exact feed_withDone _ D _ t
    | inside o => exact feed_withDone _ D o t
    | closed =>
      by_cases ht : t = .char '+'
      · subst ht
        rfl
      · simp only [step, ht, if_false]
        exact feed_withDone ⟨.closed, depth, acc, [], st.reverse :: done⟩ D t.lead t

/-- Statements finished earlier take no part in reading a run of tokens. -/
theorem run_withDone (s : Cut) (D : List (List (List Char))) (ts : List Token) :
    (s.withDone D).run ts = (s.run ts).withDone D := by
  induction ts generalizing s with
  | nil => rfl
  | cons t ts ih => simp only [run_cons, step_withDone, ih]

/-- Statements finished earlier come first among the statements at the end. -/
theorem finish_withDone (s : Cut) (D : List (List (List Char))) :
    (s.withDone D).finish = D.reverse ++ s.finish := by
  cases s with
  | mk phase depth acc st done => cases phase <;> simp [finish, withDone]

end Cut

/-- A `+` right after a closed addend awaits the next addend of the statement. -/
theorem step_plus (st : List (List Char)) (done : List (List (List Char))) :
    (Cut.mk .closed {} [] st done).step (.char '+') = ⟨.await, {}, [], st, done⟩ := by
  simp [Cut.step]

/-- A statement's groups joined by `+`, read where an addend opens at depth zero, close one
after another and stay in the open statement, latest first. -/
theorem run_statement : ∀ {G : List (List Char)}, G ≠ [] → (∀ g ∈ G, IsGroup g) →
    ∀ (st : List (List Char)) (done : List (List (List Char))),
      (Cut.mk .await {} [] st done).run (Token.ofChars (List.intercalate ['+'] G)) =
        ⟨.closed, {}, [], G.reverse ++ st, done⟩
  | [g], _, hG, st, done => by simpa using run_group (hG g List.mem_cons_self) st done
  | g :: h :: G, _, hG, st, done => by
    have hg := hG g List.mem_cons_self
    have hbs := hg.not_mem
    have hrest := run_statement (G := h :: G) (List.cons_ne_nil h G)
      (fun x hx => hG x (List.mem_cons_of_mem g hx)) (g :: st) done
    rw [List.intercalate_cons_cons, List.append_assoc, Token.ofChars_append_of_not_mem hbs,
      Cut.run_append, run_group hg, List.singleton_append,
      Token.ofChars_cons_of_ne (by decide), Cut.run_cons, step_plus, hrest]
    simp

/-- Written statements followed by tokens that do not begin with `+`, read from the start of a
statement after the statements `done`: the written statements are finished as they were written,
and the tokens are cut as if they stood alone. -/
theorem finish_run_joinStatements : ∀ (f : List (List (List Char))),
    (∀ G ∈ f, G ≠ [] ∧ ∀ g ∈ G, IsGroup g) →
    ∀ (R : List Token), R.head? ≠ some (.char '+') →
      ∀ (done : List (List (List Char))),
        ((Cut.mk .await {} [] [] done).run (Token.ofChars (joinStatements f) ++ R)).finish =
          done.reverse ++ f ++ (({} : Cut).run R).finish
  | [], _, R, _, done => by
    -- with nothing written, the cut reads on as a fresh one after the statements `done`
    have hstart : Cut.mk .await {} [] [] done = ({} : Cut).withDone done := rfl
    rw [joinStatements_nil, Token.ofChars.eq_1, List.nil_append, hstart, Cut.run_withDone,
      Cut.finish_withDone, List.append_nil]
  | G :: f, hf, R, hR, done => by
    obtain ⟨hne, hG⟩ := hf G List.mem_cons_self
    have hf' : ∀ G ∈ f, G ≠ [] ∧ ∀ g ∈ G, IsGroup g := fun G' hG' =>
      hf G' (List.mem_cons_of_mem G hG')
    have hbs : '\\' ∉ List.intercalate ['+'] G :=
      not_mem_intercalate fun g hg => (hG g hg).not_mem
    rw [joinStatements_cons, Token.ofChars_append_of_not_mem hbs, List.append_assoc,
      Cut.run_append, run_statement hne hG [] done, List.append_nil]
    by_cases hend : f = [] ∧ R = []
    · obtain ⟨rfl, rfl⟩ := hend
      simp [Cut.finish, Token.ofChars.eq_1]
    · -- the statement ends at its last group, since what follows does not begin with `+`
      obtain ⟨t, ts, hts, ht⟩ := ofChars_joinStatements_append_cons hf' hR hend
      rw [hts, Cut.run_closed rfl ht, ← hts]
      simpa [Cut.endStatement] using finish_run_joinStatements f hf' R hR (G :: done)

section Written

variable {f : List (List (List Char))} (hf : ∀ G ∈ f, G ≠ [] ∧ ∀ g ∈ G, IsGroup g)
include hf

/-- Written statements followed by a text that does not begin with `+` are cut into the
statements as written, then the statements of that text. -/
theorem statements_joinStatements_append {r : List Char} (hr : r.head? ≠ some '+') :
    statements (joinStatements f ++ r) = f ++ statements r := by
  have h := finish_run_joinStatements f hf (Token.ofChars r) (Token.ofChars_head_ne_plus hr) []
  rw [← Token.ofChars_append_of_not_mem (not_mem_joinStatements hf), List.reverse_nil,
    List.nil_append] at h
  exact h

/-- Written statements are cut into the statements as written. -/
theorem statements_joinStatements : statements (joinStatements f) = f := by
  have h := statements_joinStatements_append hf (r := []) (by simp)
  rwa [List.append_nil, show statements [] = [] from rfl, List.append_nil] at h

end Written

/-- A text that opens with anything but a bracket or a brace has no statements: its first addend
never closes. -/
theorem statements_eq_nil {r : List Char}
    (hr : ∀ c, r.head? = some c → c ≠ '[' ∧ c ≠ '{') :
    statements r = [] := by
  cases r with
  | nil => rfl
  | cons c r =>
    obtain ⟨h1, h2⟩ := hr c rfl
    obtain ⟨t, ts, hts, hlead⟩ := Token.ofChars_cons_lead c r
    obtain ⟨hdead, -, hdone⟩ :=
      Cut.step_await_dead (s := {}) rfl (t := t) (hlead ▸ h1) (hlead ▸ h2)
    obtain ⟨hd, -, hdone', -⟩ := Cut.run_dead hdead ts
    show (({} : Cut).run (Token.ofChars (c :: r))).finish = []
    rw [hts, Cut.run_cons, Cut.finish_of_dead hd, hdone', hdone]
    rfl

/-! ### What the evaluator makes of written statements -/

/-- What a statement renders to, the bodies of its expressions rendered by `render whole n`. -/
def statementText (whole : List Char) (n : Nat) (st : List (List Char)) :
    Except RenderError (List Char) :=
  collapse <$> st.mapM (addendValue (render whole n))

/-- A text that opens with a group renders as its statements do, one after another. -/
theorem render_succ_of_opensGroup (whole : List Char) (n : Nat) {cs : List Char}
    (h : opensGroup cs = true) :
    (render whole (n + 1) cs).toOption =
      ((statements cs).mapM (statementText whole n)).toOption.map List.flatten := by
  rw [render.eq_2, if_pos h]
  exact Except.toOption_bind_pure _ _

/-- An addend's value fails or succeeds, and with what, as its body's rendering does. -/
theorem addendValue_toOption_congr {f g : List Char → Except RenderError (List Char)}
    (h : ∀ b, (f b).toOption = (g b).toOption) (a : List Char) :
    (addendValue f a).toOption = (addendValue g a).toOption := by
  unfold addendValue
  split
  · split
    · simp only [Except.toOption_map, h]
    · rfl
  · split <;> rfl
  · rfl

/-- A statement's text fails or succeeds, and with what, as the rendering of its bodies does. -/
theorem statementText_toOption_congr {w w' : List Char} {n : Nat}
    (h : ∀ b, (render w n b).toOption = (render w' n b).toOption) (st : List (List Char)) :
    (statementText w n st).toOption = (statementText w' n st).toOption := by
  simp only [statementText, Except.toOption_map]
  rw [List.mapM_toOption_congr fun a _ => addendValue_toOption_congr h a]

/-- The text an error of too deep a nesting reports never decides whether rendering succeeds,
nor what it returns. -/
theorem render_toOption_whole (w w' : List Char) :
    ∀ (n : Nat) (cs : List Char), (render w n cs).toOption = (render w' n cs).toOption
  | 0, _ => rfl
  | n + 1, cs => by
    by_cases ho : opensGroup cs = true
    · rw [render_succ_of_opensGroup w n ho, render_succ_of_opensGroup w' n ho,
        List.mapM_toOption_congr fun st _ =>
          statementText_toOption_congr (render_toOption_whole w w' n) st]
    · simp [render, ho]

/-- The statements of a text render alike whatever text an error would report. -/
theorem mapM_statementText_whole (w w' : List Char) (n : Nat) (l : List (List (List Char))) :
    (l.mapM (statementText w n)).toOption = (l.mapM (statementText w' n)).toOption :=
  List.mapM_toOption_congr fun st _ =>
    statementText_toOption_congr (render_toOption_whole w w' n) st

section Written

variable {f : List (List (List Char))} (hf : ∀ G ∈ f, G ≠ [] ∧ ∀ g ∈ G, IsGroup g)
include hf

/-- Written statements followed by a text that opens with a group evaluate to the evaluation of
the statements followed by that of the text; either failing, both fail. -/
theorem evaluateChars_joinStatements_append {r : List Char}
    (hr : r.head? = some '[' ∨ r.head? = some '{') :
    (evaluateChars (joinStatements f ++ r)).toOption = (do
      let a ← (evaluateChars (joinStatements f)).toOption
      let b ← (evaluateChars r).toOption
      pure (a ++ b)) := by
  have hplus : r.head? ≠ some '+' := by rcases hr with h | h <;> simp [h]
  have hopen : opensGroup r = true := by
    obtain ⟨c, r', rfl⟩ : ∃ c r', r = c :: r' := by
      cases r with
      | nil => simp at hr
      | cons c r' => exact ⟨c, r', rfl⟩
    rcases hr with h | h <;> simp at h <;> subst h <;> rfl
  by_cases hne : f = []
  · -- nothing written evaluates to nothing
    subst hne
    have hnil : (evaluateChars []).toOption = some [] := rfl
    simp [hnil]
  · have hW := opensGroup_joinStatements_append hf hne r
    have hF := opensGroup_joinStatements hf hne
    simp only [evaluateChars]
    rw [render_succ_of_opensGroup _ _ hW, render_succ_of_opensGroup _ _ hF,
      render_succ_of_opensGroup _ _ hopen, statements_joinStatements_append hf hplus,
      statements_joinStatements hf, List.mapM_append_toOption,
      mapM_statementText_whole (joinStatements f ++ r) [] _ f,
      mapM_statementText_whole (joinStatements f ++ r) [] _ (statements r),
      mapM_statementText_whole (joinStatements f) [], mapM_statementText_whole r []]
    -- the statements as written, then those of the text, each rendered alike
    cases (f.mapM (statementText [] nestingLimit)).toOption <;>
      cases ((statements r).mapM (statementText [] nestingLimit)).toOption <;> simp

/-- Written statements followed by a text that opens with anything but `+`, `[` or `{` evaluate
as the statements alone: the text is dropped. -/
theorem evaluateChars_joinStatements_drop (hne : f ≠ []) {r : List Char}
    (hr : ∀ c, r.head? = some c → c ≠ '+' ∧ c ≠ '[' ∧ c ≠ '{') :
    (evaluateChars (joinStatements f ++ r)).toOption =
      (evaluateChars (joinStatements f)).toOption := by
  have hplus : r.head? ≠ some '+' := fun h => (hr '+' h).1 rfl
  have hnone : statements r = [] := statements_eq_nil fun c hc => (hr c hc).2
  have hW := opensGroup_joinStatements_append hf hne r
  have hF := opensGroup_joinStatements hf hne
  simp only [evaluateChars]
  rw [render_succ_of_opensGroup _ _ hW, render_succ_of_opensGroup _ _ hF,
    statements_joinStatements_append hf hplus, hnone, List.append_nil,
    statements_joinStatements hf,
    mapM_statementText_whole (joinStatements f ++ r) (joinStatements f)]

end Written

/-- Groups joined by `+` into statements, written one after another, are read back as those
statements, whatever follows them as long as it does not begin with `+`; alone, they are read
back exactly. For the evaluator, a text following them that opens with a group adds its own
evaluation, and one that opens with anything else is dropped. -/
theorem joinStatements_reads_back {f : List (List (List Char))}
    (hf : ∀ G ∈ f, G ≠ [] ∧ ∀ g ∈ G, IsGroup g) :
    (∀ r : List Char, r.head? ≠ some '+' →
      statements (joinStatements f ++ r) = f ++ statements r) ∧
    statements (joinStatements f) = f ∧
    (∀ r : List Char, (r.head? = some '[' ∨ r.head? = some '{') →
      (evaluateChars (joinStatements f ++ r)).toOption = (do
        let a ← (evaluateChars (joinStatements f)).toOption
        let b ← (evaluateChars r).toOption
        pure (a ++ b))) ∧
    (f ≠ [] → ∀ r : List Char,
      (∀ c, r.head? = some c → c ≠ '+' ∧ c ≠ '[' ∧ c ≠ '{') →
      (evaluateChars (joinStatements f ++ r)).toOption =
        (evaluateChars (joinStatements f)).toOption) :=
  ⟨fun _ hr => statements_joinStatements_append hf hr, statements_joinStatements hf,
    fun _ hr => evaluateChars_joinStatements_append hf hr,
    fun hne _ hr => evaluateChars_joinStatements_drop hf hne hr⟩

/-- The statements `[a]+{, }` and `[b]`, each group as its characters. -/
def authorStatements : List (List (List Char)) :=
  [[['[', 'a', ']'], ['{', ',', ' ', '}']], [['[', 'b', ']']]]

/-- The statements `[a]+{, }` and `[b]` are groups written out, and are read back so. -/
theorem joinStatements_reads_back_authors :
    (∀ G ∈ authorStatements, G ≠ [] ∧ ∀ g ∈ G, IsGroup g) ∧
    ((∀ r : List Char, r.head? ≠ some '+' →
        statements (joinStatements authorStatements ++ r) = authorStatements ++ statements r) ∧
      statements (joinStatements authorStatements) = authorStatements ∧
      (∀ r : List Char, (r.head? = some '[' ∨ r.head? = some '{') →
        (evaluateChars (joinStatements authorStatements ++ r)).toOption = (do
          let a ← (evaluateChars (joinStatements authorStatements)).toOption
          let b ← (evaluateChars r).toOption
          pure (a ++ b))) ∧
      (authorStatements ≠ [] → ∀ r : List Char,
        (∀ c, r.head? = some c → c ≠ '+' ∧ c ≠ '[' ∧ c ≠ '{') →
        (evaluateChars (joinStatements authorStatements ++ r)).toOption =
          (evaluateChars (joinStatements authorStatements)).toOption)) := by
  have ha : IsGroup ['[', 'a', ']'] :=
    IsGroup.expression (b := ['a']) (.char (by decide) (by decide) .nil)
  have hb : IsGroup ['[', 'b', ']'] :=
    IsGroup.expression (b := ['b']) (.char (by decide) (by decide) .nil)
  have hsep : IsGroup ['{', ',', ' ', '}'] :=
    IsGroup.literal (b := [',', ' ']) (by decide) (by decide)
  have hf : ∀ G ∈ authorStatements, G ≠ [] ∧ ∀ g ∈ G, IsGroup g := by
    intro G hG
    simp only [authorStatements, List.mem_cons, List.not_mem_nil, or_false] at hG
    rcases hG with rfl | rfl
    · refine ⟨by simp, fun g hg => ?_⟩
      simp only [List.mem_cons, List.not_mem_nil, or_false] at hg
      rcases hg with rfl | rfl
      · exact ha
      · exact hsep
    · refine ⟨by simp, fun g hg => ?_⟩
      simp only [List.mem_cons, List.not_mem_nil, or_false] at hg
      subst hg
      exact hb
  exact ⟨hf, joinStatements_reads_back hf⟩

end CiteForm.Template
