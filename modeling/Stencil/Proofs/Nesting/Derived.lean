import Stencil.Proofs.Nesting.Limits

/-!
# What is read follows the grammar

Whatever tokens the readers of expressions take, these tokens stand for what the readers give, and
around an operand in them there are no more constructs open at once than the readers may go deep.
-/

namespace Stencil

namespace Arguments

/-- Where `r` succeeds on the tokens `ts`, it takes some of the first ones, and `A` holds for what
it gives and these tokens. -/
def YieldsAt {α : Type} (env : Surroundings) (ts : List Token) (r : Arguments α)
    (A : α → List Token → Prop) : Prop :=
  ∀ a rest, r env ts = .ok (a, rest) → ∃ used, ts = used ++ rest ∧ A a used

/-- Where `r` succeeds, it takes tokens from the front, and `A` holds for what it gives and these
tokens. -/
def Yields {α : Type} (env : Surroundings) (r : Arguments α) (A : α → List Token → Prop) : Prop :=
  ∀ ts, YieldsAt env ts r A

end Arguments

open Arguments Grammar

variable {env : Surroundings} {w cost room : Nat} {α β : Type} {A A' : α → List Token → Prop}
  {B : β → List Token → Prop} {ts : List Token} {t u : Token}

/-! ## Rules -/

theorem yieldsAt_pure {a : α} (ha : A a []) : YieldsAt env ts (pure a) A := by
  intro _ rest h
  cases h
  exact ⟨[], rfl, ha⟩

theorem yields_pure {a : α} (ha : A a []) : Yields env (pure a) A := fun _ => yieldsAt_pure ha

theorem yieldsAt_bind {r : Arguments α} {f : α → Arguments β} (hr : YieldsAt env ts r A)
    (hf : ∀ a used, A a used → Yields env (f a) fun b more => B b (used ++ more)) :
    YieldsAt env ts (r >>= f) B := by
  intro b rest h
  rw [arguments_bind] at h
  split at h
  · rename_i a middle hmiddle
    obtain ⟨used, rfl, ha⟩ := hr a middle hmiddle
    obtain ⟨more, rfl, hb⟩ := hf a used ha middle b rest h
    exact ⟨used ++ more, (List.append_assoc ..).symm, hb⟩
  · cases h

theorem yields_bind {r : Arguments α} {f : α → Arguments β} (hr : Yields env r A)
    (hf : ∀ a used, A a used → Yields env (f a) fun b more => B b (used ++ more)) :
    Yields env (r >>= f) B := fun ts => yieldsAt_bind (hr ts) hf

theorem Arguments.YieldsAt.imp {r : Arguments α} (h : YieldsAt env ts r A)
    (hA : ∀ a used, A a used → A' a used) : YieldsAt env ts r A' := fun a rest hr =>
  have ⟨used, hused, ha⟩ := h a rest hr
  ⟨used, hused, hA a used ha⟩

theorem Arguments.Yields.imp {r : Arguments α} (h : Yields env r A)
    (hA : ∀ a used, A a used → A' a used) : Yields env r A' := fun ts => (h ts).imp hA

theorem yields_bind_pure {r : Arguments α} {f : α → β} (hr : Yields env r A)
    (hf : ∀ a used, A a used → B (f a) used) : Yields env (do return f (← r)) B :=
  yields_bind hr fun a used ha => yields_pure (by rw [List.append_nil]; exact hf a used ha)

theorem yieldsAt_refuse (t : Token) (fault : ParseFault) :
    YieldsAt env ts (refuse t fault : Arguments α) A := nofun

theorem yields_want (what : Wanted) : Yields env (want what : Arguments α) A := by
  intro ts a rest h
  unfold want at h
  split at h <;> cases h

theorem yieldsAt_peek_bind {f : Option Token → Arguments β} (hnil : YieldsAt env [] (f none) B)
    (hcons : ∀ t us, YieldsAt env (t :: us) (f (some t)) B) : Yields env (peek? >>= f) B := by
  intro ts
  cases ts with
  | nil => exact hnil
  | cons t us => exact hcons t us

theorem yieldsAt_skip_one {r : Arguments β} {us : List Token}
    (h : YieldsAt env us r fun b used => B b (t :: used)) :
    YieldsAt env (t :: us) (skip 1 >>= fun _ => r) B := by
  intro b rest hr
  obtain ⟨used, rfl, hb⟩ := h b rest hr
  exact ⟨t :: used, rfl, hb⟩

theorem yields_read_bind {f : Surroundings → Arguments β} (h : Yields env (f env) B) :
    Yields env (read >>= f) B := h

theorem yieldsAt_left_bind {f : Nat → Arguments β} (h : ∀ n, YieldsAt env ts (f n) B) :
    YieldsAt env ts (left >>= f) B := fun b rest hr => h _ b rest hr

theorem yields_takeIf (f : Lexeme → Option α) :
    Yields env (takeIf f) fun found used =>
      (found = none ∧ used = []) ∨
        ∃ a t, found = some (a, t) ∧ f t.lexeme = some a ∧ used = [t] := by
  intro ts found rest h
  unfold takeIf at h
  split at h
  · cases h
    exact ⟨[], rfl, .inl ⟨rfl, rfl⟩⟩
  · rename_i t us
    split at h
    · rename_i a ha
      cases h
      exact ⟨[t], rfl, .inr ⟨a, t, rfl, ha, rfl⟩⟩
    · cases h
      exact ⟨[], rfl, .inl ⟨rfl, rfl⟩⟩

theorem yields_symbol? (s : Symbol) :
    Yields env (symbol? s) fun found used =>
      (found = none ∧ used = []) ∨ ∃ t, found = some t ∧ t.lexeme = .symbol s ∧ used = [t] := by
  refine yields_bind_pure (yields_takeIf _) ?_
  rintro _ _ (⟨rfl, rfl⟩ | ⟨a, t, rfl, ht, rfl⟩)
  · exact .inl ⟨rfl, rfl⟩
  · by_cases h : t.lexeme = .symbol s
    · exact .inr ⟨t, rfl, h, rfl⟩
    · rw [if_neg h] at ht
      cases ht

theorem yields_symbol (s : Symbol) :
    Yields env (symbol s) fun t used => t.lexeme = .symbol s ∧ used = [t] := by
  refine yields_bind (yields_symbol? s) ?_
  rintro _ _ (⟨rfl, rfl⟩ | ⟨t, rfl, ht, rfl⟩)
  · exact yields_want _
  · exact yields_pure ⟨ht, rfl⟩

/-- Goes on one way if the symbol is next, which is then taken, and another way if not. -/
theorem yields_symbol?_bind {s : Symbol} {f : Option Token → Arguments β}
    (hnone : Yields env (f none) B)
    (hsome : ∀ t, t.lexeme = .symbol s → Yields env (f (some t)) fun b used => B b (t :: used)) :
    Yields env (symbol? s >>= f) B := by
  refine yields_bind (yields_symbol? s) ?_
  rintro _ _ (⟨rfl, rfl⟩ | ⟨t, rfl, ht, rfl⟩)
  · exact hnone
  · exact hsome t ht

theorem yields_symbol_bind {s : Symbol} {f : Token → Arguments β}
    (h : ∀ t, t.lexeme = .symbol s → Yields env (f t) fun b used => B b (t :: used)) :
    Yields env (symbol s >>= f) B := by
  refine yields_bind (yields_symbol s) ?_
  rintro t _ ⟨ht, rfl⟩
  exact h t ht

/-! ## Phrases -/

namespace Arguments

/-- The tokens that `r` takes stand for the phrase made of what it gives, and in them no more
constructs are open at once than `room` and what the place of the phrase costs allow. -/
def Follows {α : Type} (env : Surroundings) (w cost room : Nat) (r : Arguments α)
    (p : α → Phrase) : Prop :=
  Yields env r fun a used => ∃ n, n + cost ≤ room ∧ Derives env.filters w (p a) used n

end Arguments

/-- What is further in follows the grammar. -/
structure Grammar.Inner.Follows (env : Surroundings) (w room : Nat) (i : Inner) : Prop where
  expression : Arguments.Follows env w 1 room i.expression (.expr .disjunction)
  group : Arguments.Follows env w w room i.group (.expr .disjunction)
  power : Arguments.Follows env w 1 room i.power (.expr .power)
  unary : Arguments.Follows env w 1 room i.unary (.expr .unary)
  operand : Arguments.Follows env w 1 room i.operand (.expr .operand)

variable {i : Inner}

theorem follows_looser {l : Level} {r : Arguments Expr} (hl : l ≠ .operand)
    (h : Follows env w cost room r (.expr l.next)) : Follows env w cost room r (.expr l) :=
  h.imp fun _ _ ⟨n, hn, he⟩ => ⟨n, hn, .looser hl he⟩

/-! ## Chains -/

theorem yields_chain {l : Level} {next : Arguments Expr}
    (hnext : Follows env w 0 room next (.expr l.right)) (k : Nat) (lhs : Expr) (before : List Token)
    (hlhs : ∃ n, n + 0 ≤ room ∧ Derives env.filters w (.expr l lhs) before n) :
    Yields env (chain l.op? next k lhs) fun e used =>
      ∃ n, n + 0 ≤ room ∧ Derives env.filters w (.expr l e) (before ++ used) n := by
  induction k generalizing lhs before with
  | zero =>
    refine yields_pure ?_
    rwa [List.append_nil]
  | succ k ih =>
    refine yields_bind (yields_takeIf l.op?) ?_
    rintro _ _ (⟨rfl, rfl⟩ | ⟨op, t, rfl, hop, rfl⟩)
    · refine yields_pure ?_
      rwa [List.append_nil, List.append_nil]
    · refine yields_bind hnext fun rhs used hrhs => ?_
      obtain ⟨n, hn, hlhs⟩ := hlhs
      obtain ⟨m, hm, hrhs⟩ := hrhs
      have hboth := Derives.chained hlhs hop hrhs
      refine (ih _ (before ++ t :: used) ⟨_, by omega, hboth⟩).imp fun e more he => ?_
      simpa using he

theorem follows_leftAssoc {l : Level} {next : Arguments Expr} (hl : l.Chains)
    (hnext : Follows env w 0 room next (.expr l.right)) :
    Follows env w 0 room (leftAssoc l.op? next) (.expr l) := by
  have hnot : l ≠ .operand := by
    rintro rfl
    exact hl
  have hright : l.right = l.next := by cases l <;> first | rfl | exact hl.elim
  refine yields_bind hnext fun lhs used ⟨n, hn, hlhs⟩ ts => yieldsAt_left_bind fun k => ?_
  exact yields_chain hnext k lhs used ⟨n, hn, .looser hnot (hright ▸ hlhs)⟩ ts

/-! ## Lists -/

theorem follows_listRest {item : Arguments Expr}
    (hitem : Follows env w w room item (.expr .disjunction)) (close : Symbol) (k : Nat) :
    Follows env w 0 room (listRest item close k) (.more close) := by
  have hlast (e : Expr) (used : List Token)
      (he : ∃ n, n + w ≤ room ∧ Derives env.filters w (.expr .disjunction e) used n) :
      Yields env (do let _ ← symbol close; pure [e]) fun es more =>
        ∃ n, n + 0 ≤ room ∧ Derives env.filters w (.more close es) (used ++ more) n :=
    yields_symbol_bind fun u hu => yields_pure
      (he.imp' (· + w) fun n ⟨hn, he⟩ => ⟨hn, .lastItem he hu⟩)
  induction k with
  | zero => exact yields_bind hitem hlast
  | succ k ih =>
    refine yields_bind hitem fun e used he => yields_symbol?_bind (hlast e used he) fun t ht => ?_
    refine yields_bind_pure ih fun es more hes => ?_
    obtain ⟨n, hn, he⟩ := he
    obtain ⟨m, hm, hes⟩ := hes
    exact ⟨_, by omega, .addItem he ht hes⟩

theorem follows_listUpTo (hi : i.Follows env w room) (close : Symbol) :
    Follows env w 0 room (listUpTo i close) (.items close) := by
  refine yields_symbol?_bind (fun ts => yieldsAt_left_bind fun k => ?_) fun u hu =>
    yields_pure ⟨0, Nat.zero_le _, .noItems hu⟩
  exact (follows_listRest hi.group close k ts).imp fun es used ⟨n, hn, hes⟩ => ⟨n, hn, .items hes⟩

/-! ## Operands -/

/-- What a run of digits is where no point and further digits follow. -/
def Grammar.integer (ds : String) (t : Token) : Arguments Expr :=
  match Integer.read? ds.toList with
  | some n => pure (.literal (.int n))
  | none => refuse t (.integerRange ds)

theorem number_fraction {ds fs : String} {point : Token} (hpoint : point.lexeme = .symbol .dot)
    (hu : u.lexeme = .number fs) (us : List Token) :
    number ds t env (point :: u :: us) = .ok (.literal (.float (decimalFraction ds fs)), us) := by
  unfold number
  simp only [arguments_bind, peek?, peekSecond?, List.head?_cons, List.tail_cons, hpoint, hu]
  rfl

theorem number_integer {ds : String} {point : Token}
    (hnot : point.lexeme = .symbol .dot → ∀ fs, u.lexeme ≠ .number fs) (us : List Token) :
    number ds t env (point :: u :: us) = integer ds t env (point :: u :: us) := by
  unfold number
  simp only [arguments_bind, peek?, peekSecond?, List.head?_cons, List.tail_cons]
  split
  · exact absurd ‹_› (hnot ‹_› _)
  · rfl

theorem yieldsAt_integer {ds : String} (ht : t.lexeme = .number ds) :
    YieldsAt env ts (integer ds t) fun e used =>
      ∃ n, n + 0 ≤ room ∧ Derives env.filters w (.expr .operand e) (t :: used) n := by
  unfold integer
  split
  · rename_i n hn
    exact yieldsAt_pure ⟨0, Nat.zero_le _, .constant (by rw [ht, Lexeme.constant?, hn]; rfl)⟩
  · exact yieldsAt_refuse _ _

theorem yields_number {ds : String} (ht : t.lexeme = .number ds) :
    Yields env (number ds t) fun e used =>
      ∃ n, n + 0 ≤ room ∧ Derives env.filters w (.expr .operand e) (t :: used) n := by
  intro us
  match us with
  | [] => exact yieldsAt_integer ht
  | [_] => exact yieldsAt_integer ht
  | point :: u :: us =>
    intro a rest h
    by_cases hfraction : point.lexeme = .symbol .dot ∧ ∃ fs, u.lexeme = .number fs
    · obtain ⟨hpoint, fs, hu⟩ := hfraction
      rw [number_fraction hpoint hu] at h
      cases h
      exact ⟨[point, u], rfl, 0, Nat.zero_le _, .fraction ht hpoint hu⟩
    · rw [number_integer fun hpoint fs hu => hfraction ⟨hpoint, fs, hu⟩] at h
      exact yieldsAt_integer ht a rest h

theorem yieldsAt_memberStep {us : List Token} :
    YieldsAt env (t :: us) memberStep fun s used =>
      ∃ u, u.lexeme.member? = some s ∧ used = [t, u] := by
  cases us with
  | nil => exact fun a rest h => nomatch h
  | cons u us =>
    intro a rest h
    unfold memberStep at h
    simp only [arguments_bind, peekSecond?, List.tail_cons, List.head?_cons] at h
    have hmember {s : Segment} (hs : u.lexeme.member? = some s) :
        ∃ used, t :: u :: us = used ++ us ∧ ∃ u, u.lexeme.member? = some s ∧ used = [t, u] :=
      ⟨[t, u], rfl, u, hs, rfl⟩
    generalize hu : u.lexeme = x at h hmember
    cases x with
    | identifier name =>
      cases h
      exact hmember rfl
    | keyword k =>
      cases h
      exact hmember rfl
    | number ds =>
      dsimp only at h
      cases hn : Integer.read? ds.toList with
      | some n =>
        rw [hn] at h
        cases h
        exact hmember (by rw [Lexeme.member?, hn]; rfl)
      | none =>
        rw [hn] at h
        cases h
    | text | string | symbol => cases h

theorem follows_steps (hi : i.Follows env w room) (k : Nat) :
    Follows env w 0 room (steps i k) .steps := by
  induction k with
  | zero => exact yields_pure ⟨0, Nat.zero_le _, .noSteps⟩
  | succ k ih =>
    have hend (ts : List Token) : YieldsAt env ts (pure []) fun segments used =>
        ∃ n, n + 0 ≤ room ∧ Derives env.filters w (.steps segments) used n :=
      yieldsAt_pure ⟨0, Nat.zero_le _, .noSteps⟩
    refine yieldsAt_peek_bind (hend []) fun t us => ?_
    rw [Option.map_some]
    split
    · rename_i ht
      have ht : t.lexeme = .symbol .dot := Option.some.inj ht
      refine yieldsAt_bind yieldsAt_memberStep ?_
      rintro s _ ⟨u, hu, rfl⟩
      exact yields_bind_pure ih fun rest used ⟨n, hn, hrest⟩ => ⟨n, hn, .member ht hu hrest⟩
    · rename_i ht
      have ht : t.lexeme = .symbol .openBracket := Option.some.inj ht
      refine yieldsAt_skip_one (yields_bind hi.group (fun key used hkey => ?_) us)
      refine yields_symbol_bind fun u hu => yields_bind_pure ih fun rest more hrest => ?_
      obtain ⟨n, hn, hkey⟩ := hkey
      obtain ⟨m, hm, hrest⟩ := hrest
      exact ⟨_, by omega, .subscript ht hkey hu hrest⟩
    · rename_i ht
      have ht : t.lexeme = .symbol .openParen := Option.some.inj ht
      refine yieldsAt_skip_one (yields_bind (follows_listUpTo hi .closeParen)
        (fun args used hargs => ?_) us)
      refine yields_bind_pure ih fun rest more hrest => ?_
      obtain ⟨n, hn, hargs⟩ := hargs
      obtain ⟨m, hm, hrest⟩ := hrest
      exact ⟨_, by omega, .call ht hargs hrest⟩
    · exact hend _

theorem follows_operand (hi : i.Follows env w room) :
    Follows env w 0 room (operand i) (.expr .operand) := by
  refine yieldsAt_peek_bind (yields_want _ []) fun t us => ?_
  have hconstant {v : Literal} (hv : t.lexeme.constant? = some v) :
      YieldsAt env (t :: us) (skip 1 >>= fun _ => pure (.literal v)) fun e used =>
        ∃ n, n + 0 ≤ room ∧ Derives env.filters w (.expr .operand e) used n :=
    yieldsAt_skip_one (yieldsAt_pure ⟨0, Nat.zero_le _, .constant hv⟩)
  dsimp only
  split
  · rename_i ht
    refine yieldsAt_skip_one (yields_bind hi.group (fun e used ⟨n, hn, he⟩ => ?_) us)
    exact yields_symbol_bind fun u hu => yields_pure ⟨_, hn, .group ht he hu⟩
  · rename_i ht
    refine yieldsAt_skip_one (yields_bind_pure (follows_listUpTo hi .closeBracket)
      (fun es used ⟨n, hn, hes⟩ => ?_) us)
    exact ⟨n, hn, .array ht hes⟩
  · exact yieldsAt_skip_one (yields_number ‹_› us)
  · rename_i ht
    exact hconstant (by rw [ht]; rfl)
  · rename_i ht
    exact hconstant (by rw [ht]; rfl)
  · rename_i ht
    exact hconstant (by rw [ht]; rfl)
  · rename_i ht
    refine yieldsAt_skip_one (yieldsAt_left_bind fun k => ?_)
    exact yields_bind_pure (follows_steps hi k)
      (fun rest used ⟨n, hn, hrest⟩ => ⟨n, hn, .path ht hrest⟩) us
  · exact yieldsAt_refuse _ _

/-! ## Filters -/

theorem yields_identifier? :
    Yields env identifier? fun found used => (found = none ∧ used = []) ∨
      ∃ name t, found = some (name, t) ∧ t.lexeme = .identifier name ∧ used = [t] := by
  refine (yields_takeIf _).imp ?_
  rintro _ _ (h | ⟨name, t, rfl, ht, rfl⟩)
  · exact .inl h
  · refine .inr ⟨name, t, rfl, ?_, rfl⟩
    split at ht
    · cases ht
      assumption
    · cases ht

theorem follows_filterCall (hi : i.Follows env w room) :
    Follows env w 0 room (filterCall i) .filter := by
  refine yields_bind yields_identifier? ?_
  rintro _ _ (⟨rfl, rfl⟩ | ⟨name, t, rfl, ht, rfl⟩)
  · exact yields_want _
  · refine yields_read_bind ?_
    dsimp only
    split
    · exact fun ts => yieldsAt_refuse _ _
    · rename_i hbanned
      have hallowed : env.filters.isBanned name = false := by simpa using hbanned
      split
      · exact fun ts => yieldsAt_refuse _ _
      · rename_i f hf
        refine yields_symbol?_bind (yields_pure ?_) fun u hu => ?_
        · exact ⟨0, Nat.zero_le _, .filter ht hallowed hf⟩
        · exact yields_bind_pure hi.operand fun e used ⟨n, hn, he⟩ =>
            ⟨_, hn, .filterWith ht hallowed hf hu he⟩

theorem follows_filtersRest (hi : i.Follows env w room) (k : Nat) :
    Follows env w 0 room (filtersRest i k) .filters := by
  induction k with
  | zero => exact yields_pure ⟨0, Nat.zero_le _, .noFilters⟩
  | succ k ih =>
    refine yields_symbol?_bind (yields_pure ⟨0, Nat.zero_le _, .noFilters⟩) fun t ht => ?_
    refine yields_bind (follows_filterCall hi) fun f used ⟨n, hn, hf⟩ => ?_
    exact yields_bind_pure ih fun fs more ⟨m, hm, hfs⟩ =>
      ⟨_, Nat.max_le.mpr ⟨hn, hm⟩, .addFilter ht hf hfs⟩

/-! ## Levels -/

theorem follows_primary (hi : i.Follows env w room) :
    Follows env w 0 room (primary i) (.expr .filtered) := by
  refine yields_bind (follows_operand hi) fun e used ⟨n, hn, he⟩ ts =>
    yieldsAt_left_bind fun k => ?_
  refine yieldsAt_bind (follows_filtersRest hi k ts) fun fs more ⟨m, hm, hfs⟩ => ?_
  cases fs with
  | nil =>
    cases hfs
    refine yields_pure ⟨n, hn, .looser nofun ?_⟩
    rw [List.append_nil, List.append_nil]
    exact he
  | cons f fs =>
    refine yields_pure ⟨max n m, Nat.max_le.mpr ⟨hn, hm⟩, ?_⟩
    rw [List.append_nil]
    exact .filtered he hfs (List.cons_ne_nil _ _)

theorem follows_unary (hi : i.Follows env w room) :
    Follows env w 0 room (Grammar.unary i) (.expr .unary) := by
  refine yields_bind (yields_takeIf unaryOp?) ?_
  rintro _ _ (⟨rfl, rfl⟩ | ⟨op, t, rfl, ht, rfl⟩)
  · exact follows_looser nofun (follows_primary hi)
  · exact yields_bind_pure hi.unary fun e used ⟨n, hn, he⟩ => ⟨_, hn, .unary ht he⟩

theorem follows_power (hi : i.Follows env w room) :
    Follows env w 0 room (Grammar.power i) (.expr .power) := by
  refine yields_bind (follows_unary hi) fun base used ⟨n, hn, hbase⟩ => ?_
  refine yields_symbol?_bind (yields_pure ?_) fun t ht => ?_
  · rw [List.append_nil]
    exact ⟨n, hn, .looser nofun hbase⟩
  · exact yields_bind_pure hi.power fun e more ⟨m, hm, he⟩ =>
      ⟨_, Nat.max_le.mpr ⟨hn, hm⟩, .power hbase ht he⟩

theorem follows_additive (hi : i.Follows env w room) :
    Follows env w 0 room (additive i) (.expr .sum) :=
  have hproduct : Follows env w 0 room (multiplicative i) (.expr .product) :=
    follows_leftAssoc (l := .product) trivial (follows_power hi)
  follows_leftAssoc (l := .sum) trivial hproduct

theorem yields_relation? :
    Yields env relation? fun found used =>
      (found = none ∧ used = []) ∨ ∃ op t, found = some (op, t) ∧ Compares used op t.position := by
  have hone : Yields env (takeIf relationalOp?) fun found used =>
      (found = none ∧ used = []) ∨ ∃ op t, found = some (op, t) ∧ Compares used op t.position := by
    refine (yields_takeIf _).imp ?_
    rintro _ _ (h | ⟨op, t, rfl, ht, rfl⟩)
    · exact .inl h
    · exact .inr ⟨op, t, rfl, .one ht⟩
  intro ts
  match ts with
  | [] => exact hone []
  | [t] => exact hone [t]
  | t :: u :: ts =>
    intro found rest h
    unfold relation? at h
    simp only [arguments_bind, peek?, peekSecond?, List.head?_cons, List.tail_cons] at h
    split at h
    · rename_i hnotIn
      obtain ⟨ht, hu⟩ := Bool.and_eq_true_iff.mp hnotIn
      cases h
      exact ⟨[t, u], rfl, .inr ⟨.notIn, t, rfl, .notIn (beq_iff_eq.mp ht) (beq_iff_eq.mp hu)⟩⟩
    · exact hone _ found rest h

theorem follows_relational (hi : i.Follows env w room) :
    Follows env w 0 room (relational i) (.expr .relation) := by
  refine yields_bind (follows_additive hi) fun lhs used ⟨n, hn, hlhs⟩ => ?_
  refine yields_bind yields_relation? ?_
  rintro _ _ (⟨rfl, rfl⟩ | ⟨op, t, rfl, hop⟩)
  · refine yields_pure ⟨n, hn, .looser nofun ?_⟩
    rw [List.append_nil, List.append_nil]
    exact hlhs
  · exact yields_bind_pure (follows_additive hi) fun rhs more ⟨m, hm, hrhs⟩ =>
      ⟨_, Nat.max_le.mpr ⟨hn, hm⟩, .relation hlhs hop hrhs⟩

theorem follows_disjunction (hi : i.Follows env w room) :
    Follows env w 0 room (Grammar.disjunction i) (.expr .disjunction) :=
  have hconjunction : Follows env w 0 room (Grammar.conjunction i) (.expr .conjunction) :=
    follows_leftAssoc (l := .conjunction) trivial (follows_relational hi)
  follows_leftAssoc (l := .disjunction) trivial hconjunction

theorem follows_tooDeep (p : Expr → Phrase) : Follows env w cost room tooDeep p :=
  have hwant : Follows env w cost room (want (.shallower env.depthLimit)) p := yields_want _
  fun ts a rest h => hwant ts a rest h

/-- Every level of nesting follows the grammar if brackets cost no more than two levels. -/
theorem inner_follows (env : Surroundings) (hw : w ≤ 2) (room : Nat) :
    (inner room).Follows env w room := by
  induction room with
  | zero =>
    exact ⟨follows_tooDeep _, follows_tooDeep _, follows_tooDeep _, follows_tooDeep _,
      follows_tooDeep _⟩
  | succ room ih =>
    have hdeeper {r : Arguments Expr} {p : Expr → Phrase} (h : Follows env w 0 room r p) :
        Follows env w 1 (room + 1) r p :=
      h.imp fun _ _ ⟨n, hn, he⟩ => ⟨n, Nat.succ_le_succ hn, he⟩
    refine ⟨hdeeper (follows_disjunction ih), ?_, hdeeper (follows_power ih),
      hdeeper (follows_unary ih), hdeeper (follows_operand ih)⟩
    exact Arguments.Yields.imp ih.expression fun e used ⟨n, hn, he⟩ => ⟨n, by omega, he⟩

/-- The tokens of an expression that is read stand for it, and they nest less deep than the
limit. -/
theorem derives_of_expression {e : Expr} {rest : List Token} (hw : w ≤ 2)
    (h : Arguments.expression env ts = .ok (e, rest)) :
    ∃ used n, ts = used ++ rest ∧ n < env.depthLimit ∧
      Derives env.filters w (.expr .disjunction e) used n :=
  have ⟨used, hused, n, hn, he⟩ := (inner_follows env hw env.depthLimit).expression ts e rest h
  ⟨used, n, hused, hn, he⟩

end Stencil
