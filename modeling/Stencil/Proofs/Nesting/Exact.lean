import Stencil.Proofs.Nesting.Derived
import Stencil.Proofs.Nesting.Limits
import Stencil.Proofs.Writing.Operands

/-!
# What nests within the limit is read

Where a pair of brackets counts twice, the number of constructs that the grammar finds open at once
is exactly the number of levels that the readers need: with so many they take the tokens, and with
fewer they fail because the expression nests too deep.
-/

namespace Stencil

open Arguments Grammar

variable {env : Surroundings} {filters : Registry FilterRef} {w n m : Nat} {l : Level}
  {e a b : Expr}
  {F G : Lexeme → Prop} {fits fits' : Prop} {ts us : List Token} {t u : Token} {p : Phrase}

/-! ## The first token -/

/-- The symbols that close a list. -/
def Symbol.Shuts (s : Symbol) : Prop := s = .closeBracket ∨ s = .closeParen

/-- The first token closes no list, and is no unary operator if one cannot stand at the level. -/
def Opening (l : Level) (ts : List Token) : Prop :=
  ∃ t rest, ts = t :: rest ∧ (∀ s : Symbol, s.Shuts → t.lexeme ≠ .symbol s) ∧
    (.unary < l → unaryOp? t.lexeme = none)

theorem Opening.append (h : Opening l ts) (us : List Token) : Opening l (ts ++ us) := by
  obtain ⟨t, rest, rfl, ht⟩ := h
  exact ⟨t, rest ++ us, rfl, ht⟩

theorem Opening.mono {k : Level} (h : Opening k ts) (hl : l ≤ k) : Opening l ts := by
  obtain ⟨t, rest, rfl, hshuts, ht⟩ := h
  exact ⟨t, rest, rfl, hshuts, fun hlt => ht (Nat.lt_of_lt_of_le hlt hl)⟩

theorem opening_of_lexeme (hshuts : ∀ s : Symbol, s.Shuts → t.lexeme ≠ .symbol s)
    (hunary : unaryOp? t.lexeme = none) : Opening l (t :: ts) :=
  ⟨t, ts, rfl, hshuts, fun _ => hunary⟩

/-- An expression starts with a token that can open it. -/
def Phrase.Opens : Phrase → List Token → Prop
  | .expr l _, ts => Opening l ts
  | .more _ _, ts => Opening .disjunction ts
  | _, _ => True

theorem Level.le_next (l : Level) : l ≤ l.next := by cases l <;> decide

theorem opening_of_constant {v : Literal} (ht : t.lexeme.constant? = some v) :
    Opening l (t :: ts) := by
  generalize hx : t.lexeme = x at ht
  apply opening_of_lexeme
  · rintro s - h
    rw [← hx, h] at ht
    cases ht
  · rw [hx]
    cases x with
    | symbol s => cases ht
    | keyword k => cases k <;> first | rfl | cases ht
    | _ => rfl

theorem Derives.opens (h : Derives filters w p ts n) : p.Opens ts := by
  have hsymbol {s : Symbol} {l : Level} {t : Token} {ts : List Token} (ht : t.lexeme = .symbol s)
      (hs : ¬ s.Shuts) (hunary : unaryOp? (.symbol s) = none) : Opening l (t :: ts) := by
    refine opening_of_lexeme ?_ (by rw [ht, hunary])
    rintro s' hs' h
    rw [ht] at h
    cases h
    exact hs hs'
  induction h with
  | constant ht => exact opening_of_constant ht
  | fraction ht | path ht =>
    refine opening_of_lexeme (fun s _ h => ?_) (by rw [ht]; rfl)
    rw [ht] at h
    cases h
  | group ht => exact hsymbol ht (by rintro (h | h) <;> cases h) rfl
  | array ht => exact hsymbol ht (by rintro (h | h) <;> cases h) rfl
  | looser _ _ ih => exact ih.mono (Level.le_next _)
  | filtered _ _ _ ih => exact (Opening.mono ih (by decide)).append _
  | unary ht =>
    refine ⟨_, _, rfl, ?_, fun h => absurd h (by decide)⟩
    rintro s (rfl | rfl) h <;>
    · rw [h] at ht
      cases ht
  | power _ _ _ ih => exact (Opening.mono ih (by decide)).append _
  | relation _ _ _ ih => exact (Opening.mono ih (by decide)).append _
  | chained _ _ _ ih => exact Opening.append ih _
  | items _ ih => trivial
  | lastItem _ _ ih => exact Opening.append ih _
  | addItem _ _ _ ih => exact Opening.append ih _
  | filter | filterWith | noFilters | addFilter | noSteps | member | subscript | call | noItems =>
    trivial

/-- Filters are told from the operand in front of them. -/
theorem Derives.leads_filters {fs : List FilterCall} (h : Derives filters w (.filters fs) ts n) :
    Leads (Loose .operand) (ts.map Token.lexeme) (Loose .filtered) := by
  cases h with
  | noFilters => exact fun x hx => hx.mono (by decide)
  | addFilter ht =>
    show Loose .operand _
    rw [ht]
    decide

theorem Level.chains_of_op? {x : Lexeme} {op : BinaryOp} (h : l.op? x = some op) : l.Chains := by
  cases l <;> trivial

/-! ## Chains -/

/-- If `fits` holds, `leftAssoc` reads the tokens `ts` as `e` and leaves what follows to the chain,
and else it fails because an expression nests too deep. -/
def Arguments.Heads (env : Surroundings) (op? : Lexeme → Option BinaryOp) (next : Arguments Expr)
    (ts : List Token) (F : Lexeme → Prop) (fits : Prop) (e : Expr) : Prop :=
  ∀ rest, Followed F rest →
    (fits → ∃ k, rest.length ≤ k ∧
      leftAssoc op? next env (ts ++ rest) = chain op? next k e env rest) ∧
    (¬fits → Exceeds env (leftAssoc op? next) (ts ++ rest))

section Chains

variable {op? : Lexeme → Option BinaryOp} {next : Arguments Expr}

theorem heads_of_limits (h : Limits env ts F fits next e) : Heads env op? next ts F fits e := by
  intro rest hrest
  obtain ⟨hread, hexceeds⟩ := h rest hrest
  refine ⟨fun hfits => ⟨rest.length, Nat.le_refl _, ?_⟩,
    fun hfits => exceeds_bind (hexceeds hfits) _⟩
  unfold leftAssoc
  rw [arguments_bind, hread hfits]
  rfl

/-- What was chained so far and one more operand. -/
theorem heads_append {op : BinaryOp} (h : Heads env op? next ts F fits a)
    (hop : op? t.lexeme = some op) (ht : F t.lexeme) (hnext : Limits env us F fits' next b) :
    Heads env op? next (ts ++ t :: us) F (fits ∧ fits') (.binary op a b t.position) := by
  intro rest hrest
  obtain ⟨hread, hexceeds⟩ := h (t :: (us ++ rest)) (.cons ht _)
  obtain ⟨hread', hexceeds'⟩ := hnext rest hrest
  rw [List.append_assoc, List.cons_append]
  have hgoes (hfits : fits) : ∃ k, rest.length ≤ k ∧
      leftAssoc op? next env (ts ++ t :: (us ++ rest)) =
        (next >>= fun b => chain op? next k (.binary op a b t.position)) env (us ++ rest) := by
    obtain ⟨k, hk, hchain⟩ := hread hfits
    simp only [List.length_cons, List.length_append] at hk
    obtain ⟨k, rfl⟩ : ∃ k', k = k' + 1 := ⟨k - 1, by omega⟩
    refine ⟨k, by omega, ?_⟩
    rw [hchain, chain, arguments_bind]
    simp only [takeIf, hop]
  refine ⟨fun hfits => ?_, fun hfits => ?_⟩
  · obtain ⟨k, hk, hchain⟩ := hgoes hfits.1
    refine ⟨k, hk, ?_⟩
    rw [hchain, arguments_bind, hread' hfits.2]
  · by_cases hfirst : fits
    · obtain ⟨k, -, hchain⟩ := hgoes hfirst
      obtain ⟨p, found, hfails⟩ := exceeds_bind (hexceeds' fun h' => hfits ⟨hfirst, h'⟩)
        fun b => chain op? next k (.binary op a b t.position)
      exact ⟨p, found, hchain.trans hfails⟩
    · exact hexceeds hfirst

/-- Where no operator follows, the chain is at its end. -/
theorem limits_of_heads (h : Heads env op? next ts G fits e) (hF : ∀ x, F x → G x)
    (hop : ∀ x, F x → op? x = none) : Limits env ts F fits (leftAssoc op? next) e := by
  intro rest hrest
  obtain ⟨hread, hexceeds⟩ := h rest (hrest.imp hF)
  refine ⟨fun hfits => ?_, hexceeds⟩
  obtain ⟨k, -, hchain⟩ := hread hfits
  rw [hchain]
  cases k with
  | zero => rfl
  | succ k =>
    have hend : Takes env [] F (takeIf op?) (· = none) := takes_takeIf_none hop
    obtain ⟨_, hnone, rfl⟩ := hend [] rest rfl hrest
    rw [List.nil_append] at hnone
    unfold chain
    rw [arguments_bind, hnone]
    rfl

end Chains

/-! ## Levels -/

/-- What is read at one level is read at the next looser one. -/
theorem limits_next {i : Inner} (hl : l ≠ .operand)
    (h : Limits env ts (Loose l.next) fits (l.next.reader i) e) (hfirst : Opening l.next ts) :
    Limits env ts (Loose l) fits (l.reader i) e := by
  have hloose : Limits env ts (Loose l) fits (l.next.reader i) e :=
    h.mono fun x hx => hx.mono l.le_next
  have hchains (hc : l.Chains) (hright : l.right = l.next) :
      Limits env ts (Loose l) fits (l.reader i) e := by
    rw [Level.reader_of_chains hc, hright]
    exact limits_of_heads (heads_of_limits h) (fun x hx => hx.mono l.le_next) fun x hx =>
      Level.op?_of_loose hx
  cases l with
  | disjunction | conjunction | sum | product => exact hchains trivial rfl
  | relation =>
    exact limits_bind_end hloose
      (limits_bind_end (limits_of_takes takes_relation?_none) (limits_pure e))
  | power =>
    exact limits_bind_end hloose
      (limits_bind_end (limits_of_takes (takes_symbol?_none (by decide))) (limits_pure e))
  | unary =>
    obtain ⟨t, rest, rfl, -, ht⟩ := hfirst
    exact limits_takeIf_bind_none (ht (by decide)) hloose
  | filtered =>
    refine limits_bind_end hloose (limits_left_bind fun k _ => ?_)
    exact limits_bind_end (limits_of_takes (takes_filtersRest_nil k)) (limits_pure e)
  | operand => exact absurd rfl hl

/-! ## One level of nesting further in -/

theorem limits_tooDeep (e : Expr) : Limits env ts F False tooDeep e := by
  intro rest _
  refine ⟨False.elim, fun _ => ?_⟩
  show ∃ p found, want (.shallower env.depthLimit) env (ts ++ rest) = _
  cases ts ++ rest with
  | nil => exact ⟨_, _, rfl⟩
  | cons t ts => exact ⟨_, _, rfl⟩

theorem limits_inside {r : Nat → Arguments Expr} (inside : Nat → Arguments Expr)
    (h : ∀ room, Limits env ts F (n ≤ room) (r room) e) (h0 : inside 0 = tooDeep)
    (hinside : ∀ room, inside (room + 1) = r room) (room : Nat) :
    Limits env ts F (n + 1 ≤ room) (inside room) e := by
  cases room with
  | zero =>
    rw [h0]
    exact (limits_tooDeep e).congr (iff_of_false id (by omega))
  | succ room =>
    rw [hinside]
    exact (h room).congr (by omega)

/-! ## Readers of one token or two -/

theorem limits_constant {v : Literal} (ht : t.lexeme.constant? = some v) (i : Inner) :
    Limits env [t] (Loose .operand) True (operand i) (.literal v) := by
  refine limits_peek_bind ?_
  generalize hx : t.lexeme = x at ht
  simp only [hx]
  cases x with
  | string s =>
    cases ht
    exact limits_skip_one (limits_pure _)
  | keyword k =>
    cases k <;> cases ht <;> exact limits_skip_one (limits_pure _)
  | number ds =>
    refine limits_skip_one fun rest hrest => ⟨fun _ => ?_, fun hnot => (hnot trivial).elim⟩
    have hinteger (rest : List Token) :
        integer ds t env rest = .ok (.literal v, rest) := by
      obtain ⟨n, hn, rfl⟩ := Option.map_eq_some_iff.mp ht
      unfold integer
      rw [hn]
      rfl
    match rest, hrest with
    | [], _ => exact hinteger []
    | [point], _ => exact hinteger [point]
    | point :: u :: rest, hrest =>
      have hpoint : point.lexeme ≠ .symbol .dot := by
        intro h
        have hloose : Loose .operand point.lexeme := hrest point rfl
        rw [h] at hloose
        exact absurd hloose (by decide)
      exact (number_integer (fun h => absurd h hpoint) rest).trans (hinteger _)
  | symbol s => cases ht
  | _ => cases ht

theorem memberStep_member {s : Segment} (hu : u.lexeme.member? = some s) (rest : List Token) :
    memberStep env (t :: u :: rest) = .ok (s, rest) := by
  unfold memberStep
  simp only [arguments_bind, peekSecond?, List.tail_cons, List.head?_cons]
  generalize u.lexeme = x at hu
  cases x with
  | identifier name | keyword k =>
    cases hu
    rfl
  | number ds =>
    obtain ⟨n, hn, rfl⟩ := Option.map_eq_some_iff.mp hu
    simp only [hn]
    rfl
  | _ => cases hu

theorem limits_member_bind {α : Type} {f : Segment → Arguments α} {s : Segment} {a : α}
    (hu : u.lexeme.member? = some s) (h : Limits env us F fits (f s) a) :
    Limits env (t :: u :: us) F fits (memberStep >>= f) a := by
  show Limits env ([t, u] ++ us) F fits (memberStep >>= f) a
  exact limits_first_bind (fun rest _ => memberStep_member hu _) h

theorem relation?_compares {ops : List Token} {op : BinaryOp} {p : Position}
    (h : Compares ops op p) :
    ∃ t : Token, t.position = p ∧
      ∀ rest, relation? env (ops ++ rest) = .ok (some (op, t), rest) := by
  cases h with
  | @one t op ht =>
    refine ⟨t, rfl, fun rest => ?_⟩
    have hnot : t.isKeyword .kwNot = false := by
      unfold Token.isKeyword
      rw [beq_eq_false_iff_ne]
      intro h
      rw [h] at ht
      cases ht
    have htake : takeIf relationalOp? env (t :: rest) = .ok (some (op, t), rest) := by
      simp only [takeIf, ht]
    cases rest with
    | nil => exact htake
    | cons u rest =>
      unfold relation?
      simp only [List.cons_append, List.nil_append, arguments_bind, peek?, peekSecond?,
        List.head?_cons, List.tail_cons, hnot, Bool.false_and]
      exact htake
  | @notIn t u ht hu =>
    refine ⟨t, rfl, fun rest => ?_⟩
    have hkeywords : (t.isKeyword .kwNot && u.isKeyword .kwIn) = true := by
      simp only [Token.isKeyword, ht, hu]
      decide
    unfold relation?
    simp only [List.cons_append, List.nil_append, arguments_bind, peek?, peekSecond?,
      List.head?_cons, List.tail_cons, hkeywords]
    rfl

/-! ## Readers of phrases -/

/-- The reader of the phrase takes its tokens if there is room for `n` levels, and fails because an
expression nests too deep if there is not. -/
def Phrase.Meets (env : Surroundings) (ts : List Token) (n : Nat) : Phrase → Prop
  | .expr l e => ∀ room, Limits env ts (Loose l) (n ≤ room) (l.reader (inner room)) e ∧
      (l.Chains → Heads env l.op? (l.right.reader (inner room)) ts (Loose l.right) (n ≤ room) e)
  | .filter f => ∀ room, Limits env ts (Loose .operand) (n ≤ room) (filterCall (inner room)) f
  | .filters fs => ∀ room k, ts.length ≤ k →
      Limits env ts (Loose .filtered) (n ≤ room) (filtersRest (inner room) k) fs
  | .steps segments => ∀ room k, ts.length ≤ k →
      Limits env ts (Loose .operand) (n ≤ room) (Grammar.steps (inner room) k) segments
  | .items close es => close.Shuts →
      ∀ room, Limits env ts anyLexeme (n ≤ room) (listUpTo (inner room) close) es
  | .more close es => close.Shuts → ∀ room k, ts.length ≤ k →
      Limits env ts anyLexeme (n ≤ room) (listRest (inner room).group close k) es

theorem meets_of_not_chains (hl : ¬l.Chains)
    (h : ∀ room, Limits env ts (Loose l) (n ≤ room) (l.reader (inner room)) e) :
    (Phrase.expr l e).Meets env ts n := fun room => ⟨h room, fun hc => absurd hc hl⟩

theorem limits_group (h : (Phrase.expr .disjunction e).Meets env ts n) (room : Nat) :
    Limits env ts (Loose .disjunction) (n + 2 ≤ room) (inner room).group e :=
  have hexpression := limits_inside (fun room => (inner room).expression)
    (fun room => (h room).1) rfl fun _ => rfl
  limits_inside (fun room => (inner room).group) hexpression rfl (fun _ => rfl) room

theorem meets_looser (hl : l ≠ .operand) (h : (Phrase.expr l.next e).Meets env ts n)
    (hfirst : Opening l.next ts) : (Phrase.expr l e).Meets env ts n := by
  refine fun room => ⟨limits_next hl (h room).1 hfirst, fun hc => heads_of_limits ?_⟩
  have hright : l.right = l.next := by cases l <;> first | rfl | exact hc.elim
  rw [hright]
  exact (h room).1

theorem meets_chained {op : BinaryOp} (ha : (Phrase.expr l a).Meets env ts n)
    (ht : l.op? t.lexeme = some op) (hb : (Phrase.expr l.right b).Meets env us m) :
    (Phrase.expr l (.binary op a b t.position)).Meets env (ts ++ t :: us) (max n m) := by
  have hc := Level.chains_of_op? ht
  have hlt : l < l.right := by cases l <;> first | decide | exact hc.elim
  have hloose : Loose l.right t.lexeme := by
    intro k hk
    rw [Level.joins_of_op? ht] at hk
    cases hk
    exact hlt
  intro room
  have hheads : Heads env l.op? (l.right.reader (inner room)) (ts ++ t :: us) (Loose l.right)
      (n ≤ room ∧ m ≤ room) (.binary op a b t.position) :=
    heads_append ((ha room).2 hc) ht hloose (hb room).1
  rw [propext Nat.max_le, Level.reader_of_chains hc]
  exact ⟨limits_of_heads hheads (fun x hx => hx.mono (Nat.le_of_lt hlt)) fun x hx =>
    Level.op?_of_loose hx, fun _ => hheads⟩

theorem meets_relation {op : BinaryOp} {p : Position} {ops : List Token}
    (ha : (Phrase.expr .sum a).Meets env ts n) (hop : Compares ops op p)
    (hb : (Phrase.expr .sum b).Meets env us m) :
    (Phrase.expr .relation (.binary op a b p)).Meets env (ts ++ (ops ++ us)) (max n m) := by
  have hlead : Leads (Loose .sum) ((ops ++ us).map Token.lexeme) (Loose .relation) := by
    cases hop with
    | one ht =>
      intro k hk
      rw [Lexeme.joins_of_relationalOp? ht] at hk
      cases hk
      decide
    | notIn ht =>
      show Loose .sum _
      rw [ht]
      decide
  refine meets_of_not_chains id fun room => ?_
  obtain ⟨t, rfl, hread⟩ := relation?_compares hop
  rw [propext Nat.max_le]
  refine limits_bind (ha room).1 (limits_first_bind (fun rest _ => hread _) ?_) hlead
  exact limits_bind_pure ((hb room).1.mono fun x hx => hx.mono (by decide))

theorem Derives.meets (h : Derives env.filters 2 p ts n) : p.Meets env ts n := by
  induction h with
  | constant ht =>
    exact meets_of_not_chains id fun room =>
      (limits_constant ht _).given (Nat.zero_le room)
  | @fraction t point u ds fs ht hpoint hu =>
    refine meets_of_not_chains id fun room => limits_peek_bind ?_
    simp only [ht]
    refine limits_skip_one fun rest _ => ⟨fun _ => number_fraction hpoint hu rest, fun h => ?_⟩
    exact absurd (Nat.zero_le room) h
  | group ht he hu ih =>
    refine meets_of_not_chains id fun room => limits_peek_bind ?_
    simp only [ht]
    refine limits_skip_one (limits_bind_always (limits_group ih room)
      (limits_symbol_bind hu (limits_pure _)) ?_)
    show Loose _ _
    rw [hu]
    exact loose_of_joins rfl _
  | array ht hes ih =>
    refine meets_of_not_chains id fun room => limits_peek_bind ?_
    simp only [ht]
    exact limits_skip_one (limits_bind_pure ((ih (.inl rfl) room).mono fun _ _ => trivial))
  | path ht hsegments ih =>
    refine meets_of_not_chains id fun room => limits_peek_bind ?_
    simp only [ht]
    exact limits_skip_one (limits_left_bind fun k hk => limits_bind_pure (ih room k hk))
  | looser hl he ih => exact meets_looser hl ih he.opens
  | @filtered e fs ts us n m he hfs hne ihe ihfs =>
    refine meets_of_not_chains id fun room => ?_
    rw [propext Nat.max_le]
    refine limits_bind (ihe room).1 (limits_left_bind fun k hk => ?_) hfs.leads_filters
    refine limits_bind_end (ihfs room k hk) ?_
    cases fs with
    | nil => exact absurd rfl hne
    | cons f fs => exact limits_pure _
  | unary ht he ih =>
    refine meets_of_not_chains id fun room => limits_takeIf_bind ht (limits_bind_pure ?_)
    exact limits_inside (fun room => (inner room).unary) (fun room => (ih room).1) rfl
      (fun _ => rfl) room
  | power ha ht hb iha ihb =>
    refine meets_of_not_chains id fun room => ?_
    rw [propext Nat.max_le]
    refine limits_bind ((iha room).1) (limits_symbol?_bind ht (limits_bind_pure ?_)) ?_
    · exact limits_inside (fun room => (inner room).power) (fun room => (ihb room).1) rfl
        (fun _ => rfl) room
    · show Loose _ _
      rw [ht]
      decide
  | relation ha hop hb iha ihb => exact meets_relation iha hop ihb
  | chained ha ht hb iha ihb => exact meets_chained iha ht ihb
  | filter ht hallowed hf =>
    intro room
    refine limits_takeIf_bind (by rw [ht]) (limits_read_bind ?_)
    simp only [hallowed, hf]
    rw [if_neg Bool.false_ne_true]
    refine Limits.given ?_ (Nat.zero_le room)
    exact limits_bind_end (limits_of_takes (takes_symbol?_none (by decide))) (limits_pure _)
  | filterWith ht hallowed hf hu he ih =>
    intro room
    refine limits_takeIf_bind (by rw [ht]) (limits_read_bind ?_)
    simp only [hallowed, hf]
    rw [if_neg Bool.false_ne_true]
    refine limits_symbol?_bind hu (limits_bind_pure ?_)
    exact limits_inside (fun room => (inner room).operand) (fun room => (ih room).1) rfl
      (fun _ => rfl) room
  | noFilters =>
    exact fun room k _ => (limits_of_takes (takes_filtersRest_nil k)).given (Nat.zero_le room)
  | addFilter ht hf hfs ihf ihfs =>
    intro room k hk
    simp only [List.length_cons, List.length_append] at hk
    obtain ⟨k, rfl⟩ : ∃ k', k = k' + 1 := ⟨k - 1, by omega⟩
    rw [propext Nat.max_le]
    refine limits_symbol?_bind ht (limits_bind (ihf room) (limits_bind_pure ?_) hfs.leads_filters)
    exact ihfs room k (by omega)
  | noSteps =>
    exact fun room k _ => (limits_of_takes (takes_steps_nil _ k)).given (Nat.zero_le room)
  | member ht hu hsegments ih =>
    intro room k hk
    simp only [List.length_cons] at hk
    obtain ⟨k, rfl⟩ : ∃ k', k = k' + 1 := ⟨k - 1, by omega⟩
    refine limits_peek_bind ?_
    simp only [Option.map_some, ht]
    exact limits_member_bind hu (limits_bind_pure (ih room k (by omega)))
  | subscript ht hkey hu hsegments ihkey ih =>
    intro room k hk
    simp only [List.length_cons, List.length_append] at hk
    obtain ⟨k, rfl⟩ : ∃ k', k = k' + 1 := ⟨k - 1, by omega⟩
    refine limits_peek_bind ?_
    simp only [Option.map_some, ht]
    rw [propext Nat.max_le]
    refine limits_skip_one (limits_bind (limits_group ihkey room) (limits_symbol_bind hu
      (limits_bind_pure (ih room k (by omega)))) ?_)
    show Loose _ _
    rw [hu]
    exact loose_of_joins rfl _
  | call ht hargs hsegments ihargs ih =>
    intro room k hk
    simp only [List.length_cons, List.length_append] at hk
    obtain ⟨k, rfl⟩ : ∃ k', k = k' + 1 := ⟨k - 1, by omega⟩
    refine limits_peek_bind ?_
    simp only [Option.map_some, ht]
    rw [propext Nat.max_le]
    exact limits_skip_one (limits_bind (ihargs (.inr rfl) room)
      (limits_bind_pure (ih room k (by omega))) (leads_any _))
  | noItems hu =>
    exact fun _ room => limits_symbol?_bind hu
      ((limits_pure _).given (Nat.zero_le room))
  | items hes ih =>
    intro hclose room
    obtain ⟨t, rest, rfl, hshuts, -⟩ := hes.opens
    exact limits_symbol?_bind_none (hshuts _ hclose) (limits_left_bind fun k hk =>
      ih hclose room k hk)
  | @lastItem close u e ts n he hu ih =>
    intro hclose room k _
    have hcomma : u.lexeme ≠ .symbol .comma := by
      rw [hu]
      rcases hclose with rfl | rfl <;> decide
    have hlead : Leads (Loose .disjunction) ([u].map Token.lexeme) anyLexeme := by
      show Loose _ _
      rw [hu]
      rcases hclose with rfl | rfl <;> exact loose_of_joins rfl _
    cases k with
    | zero =>
      exact limits_bind_always (limits_group ih room) (limits_symbol_bind hu (limits_pure _)) hlead
    | succ k =>
      refine limits_bind_always (limits_group ih room) ?_ hlead
      exact limits_symbol?_bind_none hcomma (limits_symbol_bind hu (limits_pure _))
  | addItem he ht hes ihe ihes =>
    intro hclose room k hk
    simp only [List.length_cons, List.length_append] at hk
    obtain ⟨k, rfl⟩ : ∃ k', k = k' + 1 := ⟨k - 1, by omega⟩
    rw [propext Nat.max_le]
    refine limits_bind (limits_group ihe room) (limits_symbol?_bind ht
      (limits_bind_pure (ihes hclose room k (by omega)))) ?_
    show Loose _ _
    rw [ht]
    exact loose_of_joins rfl _

/-- What the grammar derives is read if it nests less deep than the limit, and otherwise fails for
that reason. -/
theorem limits_expression (h : Derives env.filters 2 (.expr .disjunction e) ts n) :
    Limits env ts (Loose .disjunction) (n < env.depthLimit) Arguments.expression e :=
  limits_read_bind (limits_inside (fun room => (inner room).expression)
    (fun room => (h.meets room).1) rfl (fun _ => rfl) env.depthLimit)

/-- An operand is an expression of every level. -/
theorem Derives.atLevel (h : Derives filters w (.expr .operand e) ts n) (l : Level) :
    Derives filters w (.expr l e) ts n := by
  have hunary : Derives filters w (.expr .unary e) ts n := .looser nofun (.looser nofun h)
  have hsum : Derives filters w (.expr .sum e) ts n :=
    .looser nofun (.looser nofun (.looser nofun hunary))
  cases l with
  | operand => exact h
  | filtered => exact .looser nofun h
  | unary => exact hunary
  | power => exact .looser nofun hunary
  | product => exact .looser nofun (.looser nofun hunary)
  | sum => exact hsum
  | relation => exact .looser nofun hsum
  | conjunction => exact .looser nofun (.looser nofun hsum)
  | disjunction => exact .looser nofun (.looser nofun (.looser nofun hsum))

end Stencil
