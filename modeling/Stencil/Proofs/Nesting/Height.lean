import Stencil.Proofs.Nesting.Exact

/-!
# What the limit on nesting bounds

The limit counts a pair of brackets twice and every other construct once. It bounds the height of a
tree only together with the length of the chains in it.
-/

namespace Stencil

open Arguments Grammar

/-!
## What the limit counts

A pair of brackets takes two levels and every other construct takes one. Counted once each, the
constructs that are open at once are never more than these levels and at least half as many.
-/

section Counts

variable {env : Surroundings} {filters : Registry FilterRef} {n : Nat} {e : Expr} {p : Phrase}
  {ts : List Token}

/-- What the grammar derives with brackets counted once it derives with brackets counted twice. -/
theorem Derives.twice (h : Derives filters 1 p ts n) :
    ∃ m, n ≤ m ∧ m ≤ 2 * n ∧ Derives filters 2 p ts m := by
  induction h with
  | constant ht => exact ⟨0, by omega, by omega, .constant ht⟩
  | fraction ht hpoint hu => exact ⟨0, by omega, by omega, .fraction ht hpoint hu⟩
  | group ht he hu ih =>
    obtain ⟨m, h, h', he⟩ := ih
    exact ⟨m + 2, by omega, by omega, .group ht he hu⟩
  | array ht hes ih =>
    obtain ⟨m, h, h', hes⟩ := ih
    exact ⟨m, h, h', .array ht hes⟩
  | path ht hsegments ih =>
    obtain ⟨m, h, h', hsegments⟩ := ih
    exact ⟨m, h, h', .path ht hsegments⟩
  | looser hl he ih =>
    obtain ⟨m, h, h', he⟩ := ih
    exact ⟨m, h, h', .looser hl he⟩
  | filtered he hfs hne ihe ihfs =>
    obtain ⟨m, hm, hm', he⟩ := ihe
    obtain ⟨k, hk, hk', hfs⟩ := ihfs
    exact ⟨max m k, by omega, by omega, .filtered he hfs hne⟩
  | unary ht he ih =>
    obtain ⟨m, h, h', he⟩ := ih
    exact ⟨m + 1, by omega, by omega, .unary ht he⟩
  | power ha ht hb iha ihb =>
    obtain ⟨m, hm, hm', ha⟩ := iha
    obtain ⟨k, hk, hk', hb⟩ := ihb
    exact ⟨max m (k + 1), by omega, by omega, .power ha ht hb⟩
  | relation ha hop hb iha ihb =>
    obtain ⟨m, hm, hm', ha⟩ := iha
    obtain ⟨k, hk, hk', hb⟩ := ihb
    exact ⟨max m k, by omega, by omega, .relation ha hop hb⟩
  | chained ha ht hb iha ihb =>
    obtain ⟨m, hm, hm', ha⟩ := iha
    obtain ⟨k, hk, hk', hb⟩ := ihb
    exact ⟨max m k, by omega, by omega, .chained ha ht hb⟩
  | filter ht hallowed hf => exact ⟨0, by omega, by omega, .filter ht hallowed hf⟩
  | filterWith ht hallowed hf hu he ih =>
    obtain ⟨m, h, h', he⟩ := ih
    exact ⟨m + 1, by omega, by omega, .filterWith ht hallowed hf hu he⟩
  | noFilters => exact ⟨0, by omega, by omega, .noFilters⟩
  | addFilter ht hf hfs ihf ihfs =>
    obtain ⟨m, hm, hm', hf⟩ := ihf
    obtain ⟨k, hk, hk', hfs⟩ := ihfs
    exact ⟨max m k, by omega, by omega, .addFilter ht hf hfs⟩
  | noSteps => exact ⟨0, by omega, by omega, .noSteps⟩
  | member ht hu hsegments ih =>
    obtain ⟨m, h, h', hsegments⟩ := ih
    exact ⟨m, h, h', .member ht hu hsegments⟩
  | subscript ht hkey hu hsegments ihkey ih =>
    obtain ⟨m, hm, hm', hkey⟩ := ihkey
    obtain ⟨k, hk, hk', hsegments⟩ := ih
    exact ⟨max (m + 2) k, by omega, by omega, .subscript ht hkey hu hsegments⟩
  | call ht hargs hsegments ihargs ih =>
    obtain ⟨m, hm, hm', hargs⟩ := ihargs
    obtain ⟨k, hk, hk', hsegments⟩ := ih
    exact ⟨max m k, by omega, by omega, .call ht hargs hsegments⟩
  | noItems hu => exact ⟨0, by omega, by omega, .noItems hu⟩
  | items hes ih =>
    obtain ⟨m, h, h', hes⟩ := ih
    exact ⟨m, h, h', .items hes⟩
  | lastItem he hu ih =>
    obtain ⟨m, h, h', he⟩ := ih
    exact ⟨m + 2, by omega, by omega, .lastItem he hu⟩
  | addItem he ht hes ihe ihes =>
    obtain ⟨m, hm, hm', he⟩ := ihe
    obtain ⟨k, hk, hk', hes⟩ := ihes
    exact ⟨max (m + 2) k, by omega, by omega, .addItem he ht hes⟩

/-- An expression is read if the limit allows its levels, and else it is refused because it nests
too deep, where brackets take two levels. With every construct counted once, `n` are open at
once. -/
theorem nesting_limit (h : Derives filters 1 (.expr .disjunction e) ts n) :
    ∃ m, n ≤ m ∧ m ≤ 2 * n ∧ Derives filters 2 (.expr .disjunction e) ts m ∧
      ∀ env : Surroundings, env.filters = filters →
        (Exceeds env Arguments.expression ts ↔ env.depthLimit < m + 1) ∧
        (m + 1 ≤ env.depthLimit → Arguments.expression env ts = .ok (e, [])) := by
  obtain ⟨m, hm, hm', he⟩ := h.twice
  refine ⟨m, hm, hm', he, ?_⟩
  rintro env rfl
  obtain ⟨hread, hexceeds⟩ := limits_expression he [] .nil
  rw [List.append_nil] at hread hexceeds
  refine ⟨⟨?_, fun hlimit => hexceeds (by omega)⟩, hread⟩
  rintro ⟨q, found, hfails⟩
  by_cases hlimit : env.depthLimit < m + 1
  · exact hlimit
  · rw [hread (by omega)] at hfails
    cases hfails

/-- The number one in brackets. -/
def bracketedOne : List Token :=
  [⟨.symbol .openParen, default, false⟩, ⟨.number "1", default, false⟩,
    ⟨.symbol .closeParen, default, false⟩]

theorem derives_bracketedOne (w : Nat) :
    Derives filters w (.expr .disjunction (.literal (.int 1))) bracketedOne (0 + w) := by
  have hone : Derives filters w (.expr .operand (.literal (.int 1)))
      [⟨.number "1", default, false⟩] 0 := .constant rfl
  exact (Derives.group rfl (hone.atLevel .disjunction) rfl).atLevel .disjunction

theorem nesting_limit_bracketed :
    ∃ m, 1 ≤ m ∧ m ≤ 2 * 1 ∧
      Derives {} 2 (.expr .disjunction (.literal (.int 1))) bracketedOne m ∧
      ∀ env : Surroundings, env.filters = {} →
        (Exceeds env Arguments.expression bracketedOne ↔ env.depthLimit < m + 1) ∧
        (m + 1 ≤ env.depthLimit →
          Arguments.expression env bracketedOne = .ok (.literal (.int 1), [])) :=
  nesting_limit (derives_bracketedOne 1)

/-- With every construct counted once, the limit is not what decides. -/
theorem not_limit_once :
    ¬∀ (env : Surroundings) (ts : List Token) (e : Expr) (n : Nat), 1 ≤ env.depthLimit →
      Derives env.filters 1 (.expr .disjunction e) ts n →
        (Exceeds env Arguments.expression ts ↔ env.depthLimit < n + 1) := by
  intro h
  have honce := h ⟨{}, default, 2⟩ bracketedOne (.literal (.int 1)) 1 (by decide)
    (derives_bracketedOne 1)
  have htwice : Limits ⟨{}, default, 2⟩ bracketedOne (Loose .disjunction) (2 < 2)
      Arguments.expression (.literal (.int 1)) := limits_expression (derives_bracketedOne 2)
  have hexceeds := (htwice [] .nil).2 (by decide)
  rw [List.append_nil] at hexceeds
  exact absurd (honce.mp hexceeds) (by decide)

end Counts

/-!
## How tall the trees of expressions are

The limit on nesting bounds the height of a tree only together with the length of the chains in it:
operators of one level that group to the left make the tree taller without nesting.
-/

section Heights

/-! ### Height -/

mutual

/-- How many expressions stand inside one another in the tree, which is how deep its evaluation
recurs. -/
def Expr.height : Expr → Nat
  | .literal _ => 1
  | .array items => heightItems items + 1
  | .path _ segments _ => heightSegments segments + 1
  | .unary _ e _ => e.height + 1
  | .binary _ a b _ => max a.height b.height + 1
  | .filtered e filters => max e.height (heightFilters filters) + 1

/-- The height of the expressions in a step. -/
def Segment.height : Segment → Nat
  | .attr _ | .index _ => 0
  | .subscript key => key.height
  | .call args => heightItems args

/-- The height of the argument of a filter. -/
def FilterCall.height : FilterCall → Nat
  | .mk _ none _ _ => 0
  | .mk _ (some e) _ _ => e.height

/-- The height of the tallest of the expressions. -/
def heightItems : List Expr → Nat
  | [] => 0
  | e :: es => max e.height (heightItems es)

/-- The height of the tallest expression in the steps. -/
def heightSegments : List Segment → Nat
  | [] => 0
  | s :: rest => max s.height (heightSegments rest)

/-- The height of the tallest argument of the filters. -/
def heightFilters : List FilterCall → Nat
  | [] => 0
  | f :: rest => max f.height (heightFilters rest)

end

/-! ### Chains -/

/-- How many operators of the level `l` the tree starts with, each the left operand of the one in
front of it. -/
def Expr.run (l : Level) : Expr → Nat
  | .binary op a _ _ => if op.level = l then a.run l + 1 else 0
  | _ => 0

mutual

/-- The longest run of operators of one level anywhere in the tree. -/
def Expr.chain : Expr → Nat
  | .literal _ => 0
  | .array items => chainItems items
  | .path _ segments _ => chainSegments segments
  | .unary _ e _ => e.chain
  | .binary op a b _ => max (a.run op.level + 1) (max a.chain b.chain)
  | .filtered e filters => max e.chain (chainFilters filters)

/-- The longest run in the expressions of a step. -/
def Segment.chain : Segment → Nat
  | .attr _ | .index _ => 0
  | .subscript key => key.chain
  | .call args => chainItems args

/-- The longest run in the argument of a filter. -/
def FilterCall.chain : FilterCall → Nat
  | .mk _ none _ _ => 0
  | .mk _ (some e) _ _ => e.chain

/-- The longest run in any of the expressions. -/
def chainItems : List Expr → Nat
  | [] => 0
  | e :: es => max e.chain (chainItems es)

/-- The longest run in any of the steps. -/
def chainSegments : List Segment → Nat
  | [] => 0
  | s :: rest => max s.chain (chainSegments rest)

/-- The longest run in any of the filters. -/
def chainFilters : List FilterCall → Nat
  | [] => 0
  | f :: rest => max f.chain (chainFilters rest)

end

theorem run_le_chain (e : Expr) (l : Level) : e.run l ≤ e.chain := by
  cases e with
  | binary op a b p =>
    unfold Expr.run Expr.chain
    split
    · rename_i hlevel
      subst hlevel
      exact Nat.le_max_left _ _
    · exact Nat.zero_le _
  | _ => exact Nat.zero_le _

/-! ### Height and nesting -/

/-- How tall an expression of the level `l` is in which nothing nests, if the runs in it are no
longer than `c`. -/
def Expr.ceiling (c : Nat) (e : Expr) : Level → Nat
  | .operand => 1
  | .filtered | .unary => 2
  | .power => 3
  | .product => 3 + e.run .product
  | .sum => 3 + c + e.run .sum
  | .relation => 4 + 2 * c
  | .conjunction => 4 + 2 * c + e.run .conjunction
  | .disjunction => 4 + 3 * c + e.run .disjunction

/-- What the limit on nesting and on runs says about the height of a phrase. -/
def Phrase.Low (c n : Nat) : Phrase → Prop
  | .expr l e => e.chain ≤ c → e.height ≤ e.ceiling c l + 4 * (c + 1) * n
  | .filter f => f.chain ≤ c → f.height ≤ 4 * (c + 1) * n
  | .filters fs => chainFilters fs ≤ c → heightFilters fs ≤ 4 * (c + 1) * n
  | .steps segments => chainSegments segments ≤ c → heightSegments segments ≤ 4 * (c + 1) * n
  | .items _ es | .more _ es => chainItems es ≤ c → heightItems es ≤ 4 * (c + 1) * n

variable {c n m : Nat} {l : Level} {e a b : Expr} {filters : Registry FilterRef} {p : Phrase}
  {ts : List Token}

/-- Brackets make room for whatever stands in them. -/
theorem height_le_of_low (h : (Phrase.expr .disjunction e).Low c n) (hc : e.chain ≤ c) :
    e.height ≤ 4 * (c + 1) * (n + 1) := by
  have hheight := h hc
  have hrun := run_le_chain e .disjunction
  simp only [Expr.ceiling] at hheight
  rw [Nat.mul_add, Nat.mul_one]
  omega

theorem height_le_of_low_of_le (h : (Phrase.expr .disjunction e).Low c n) (hc : e.chain ≤ c)
    (hm : n + 1 ≤ m) : e.height ≤ 4 * (c + 1) * m :=
  Nat.le_trans (height_le_of_low h hc) (Nat.mul_le_mul_left _ hm)

theorem ceiling_next_le (hl : l ≠ .operand) (hc : e.chain ≤ c) :
    e.ceiling c l.next ≤ e.ceiling c l := by
  have hrun := run_le_chain e l.next
  cases l with
  | operand => exact absurd rfl hl
  | _ =>
    simp only [Level.next, Expr.ceiling] at hrun ⊢
    omega

theorem Level.level_of_op? {x : Lexeme} {op : BinaryOp} (h : l.op? x = some op) :
    op.level = l := by
  cases l with
  | disjunction =>
    change orOp? x = some op at h
    unfold orOp? at h
    split at h <;> cases h <;> rfl
  | conjunction =>
    change andOp? x = some op at h
    unfold andOp? at h
    split at h <;> cases h <;> rfl
  | sum =>
    change additiveOp? x = some op at h
    unfold additiveOp? at h
    split at h <;> cases h <;> rfl
  | product =>
    change multiplicativeOp? x = some op at h
    unfold multiplicativeOp? at h
    split at h <;> cases h <;> rfl
  | relation | power | unary | filtered | operand => cases h

theorem height_of_member {x : Lexeme} {s : Segment} (h : x.member? = some s) : s.height = 0 := by
  cases x with
  | identifier | keyword =>
    cases h
    rfl
  | number ds =>
    obtain ⟨i, -, rfl⟩ := Option.map_eq_some_iff.mp h
    rfl
  | _ => cases h

/-- One more operator of a chain raises the ceiling by one, which is enough for its operands. -/
theorem ceiling_chained {op : BinaryOp} (hl : l.Chains) (hop : op.level = l) (q : Position)
    (hb : b.chain ≤ c) :
    a.ceiling c l + 1 ≤ (Expr.binary op a b q).ceiling c l ∧
      b.ceiling c l.right + 1 ≤ (Expr.binary op a b q).ceiling c l := by
  have hrun := run_le_chain b l.right
  have hmore : (Expr.binary op a b q).run l = a.run l + 1 := if_pos hop
  cases l with
  | disjunction | conjunction | sum | product =>
    simp only [Level.right, Level.next, Expr.ceiling] at hrun hmore ⊢
    omega
  | _ => exact hl.elim

theorem Derives.low (c : Nat) (h : Derives filters 2 p ts n) : p.Low c n := by
  have hleft (n m : Nat) : 4 * (c + 1) * n ≤ 4 * (c + 1) * max n m :=
    Nat.mul_le_mul_left _ (Nat.le_max_left n m)
  have hright (n m : Nat) : 4 * (c + 1) * m ≤ 4 * (c + 1) * max n m :=
    Nat.mul_le_mul_left _ (Nat.le_max_right n m)
  have hsucc (n : Nat) : 4 * (c + 1) * (n + 1) = 4 * (c + 1) * n + 4 * (c + 1) := Nat.mul_succ _ n
  induction h with
  | constant | fraction => exact fun _ => Nat.le_add_right 1 _
  | @group t u e ts n ht he hu ih =>
    intro hc
    have hheight := height_le_of_low_of_le ih hc (m := n + 2) (by omega)
    exact Nat.le_trans hheight (Nat.le_add_left _ 1)
  | array ht hes ih =>
    intro hc
    have hheight := ih hc
    simp only [Expr.ceiling, Expr.height]
    omega
  | path ht hsegments ih =>
    intro hc
    have hheight := ih hc
    simp only [Expr.ceiling, Expr.height]
    omega
  | looser hl he ih =>
    exact fun hc => Nat.le_trans (ih hc) (Nat.add_le_add_right (ceiling_next_le hl hc) _)
  | @filtered e fs ts us n m he hfs hne ihe ihfs =>
    intro hc
    simp only [Expr.chain, Nat.max_le] at hc
    have hheight := ihe hc.1
    have hfilters := ihfs hc.2
    have h := hleft n m
    have h' := hright n m
    simp only [Expr.ceiling, Expr.height] at hheight ⊢
    omega
  | @unary t op e ts n ht he ih =>
    intro hc
    have hheight := ih hc
    simp only [Expr.ceiling, Expr.height, hsucc] at hheight ⊢
    omega
  | @power t a b ts us n m ha ht hb iha ihb =>
    intro hc
    simp only [Expr.chain, Nat.max_le] at hc
    have hbase := iha hc.2.1
    have hexponent := ihb hc.2.2
    have h := hleft n (m + 1)
    have h' := hright n (m + 1)
    rw [hsucc] at h'
    simp only [Expr.ceiling, Expr.height] at hbase hexponent ⊢
    omega
  | @relation op q a b ts ops us n m ha hop hb iha ihb =>
    intro hc
    simp only [Expr.chain, Nat.max_le] at hc
    have hlhs := iha hc.2.1
    have hrhs := ihb hc.2.2
    have hrun := run_le_chain a .sum
    have hrun' := run_le_chain b .sum
    have h := hleft n m
    have h' := hright n m
    simp only [Expr.ceiling, Expr.height] at hlhs hrhs ⊢
    omega
  | @chained l t op a b ts us n m ha ht hb iha ihb =>
    intro hc
    simp only [Expr.chain, Nat.max_le] at hc
    have hlhs := iha hc.2.1
    have hrhs := ihb hc.2.2
    obtain ⟨hfirst, hsecond⟩ := ceiling_chained (a := a) (Level.chains_of_op? ht)
      (Level.level_of_op? ht) t.position hc.2.2
    have h := hleft n m
    have h' := hright n m
    simp only [Expr.height]
    omega
  | filter => exact fun _ => Nat.zero_le _
  | filterWith ht hallowed hf hu he ih =>
    intro hc
    have hheight := ih hc
    simp only [Expr.ceiling] at hheight
    simp only [FilterCall.height, hsucc]
    omega
  | noFilters | noSteps | noItems => exact fun _ => Nat.zero_le _
  | @addFilter t f fs ts us n m ht hf hfs ihf ihfs =>
    intro hc
    simp only [chainFilters, Nat.max_le] at hc
    exact Nat.max_le.mpr ⟨Nat.le_trans (ihf hc.1) (hleft n m),
      Nat.le_trans (ihfs hc.2) (hright n m)⟩
  | member ht hu hsegments ih =>
    intro hc
    simp only [chainSegments, Nat.max_le] at hc
    exact Nat.max_le.mpr ⟨height_of_member hu ▸ Nat.zero_le _, ih hc.2⟩
  | @subscript t u key segments ts us n m ht hkey hu hsegments ihkey ih =>
    intro hc
    simp only [chainSegments, Nat.max_le] at hc
    have hheight := height_le_of_low_of_le ihkey hc.1 (Nat.le_succ (n + 1))
    exact Nat.max_le.mpr
      ⟨Nat.le_trans hheight (hleft (n + 2) m), Nat.le_trans (ih hc.2) (hright (n + 2) m)⟩
  | @call t args segments ts us n m ht hargs hsegments ihargs ih =>
    intro hc
    simp only [chainSegments, Nat.max_le] at hc
    exact Nat.max_le.mpr
      ⟨Nat.le_trans (ihargs hc.1) (hleft n m), Nat.le_trans (ih hc.2) (hright n m)⟩
  | items hes ih => exact ih
  | @lastItem close u e ts n he hu ih =>
    intro hc
    simp only [chainItems, Nat.max_le] at hc
    exact Nat.max_le.mpr ⟨height_le_of_low_of_le ih hc.1 (Nat.le_succ (n + 1)), Nat.zero_le _⟩
  | @addItem close t e es ts us n m he ht hes ihe ihes =>
    intro hc
    simp only [chainItems, Nat.max_le] at hc
    have hheight := height_le_of_low_of_le ihe hc.1 (Nat.le_succ (n + 1))
    exact Nat.max_le.mpr
      ⟨Nat.le_trans hheight (hleft (n + 2) m), Nat.le_trans (ihes hc.2) (hright (n + 2) m)⟩

/-! ### Chains of any length -/

/-- The number one. -/
def Token.one : Token := { lexeme := .number "1", position := default }

/-- A plus sign. -/
def Token.plus : Token := { lexeme := .symbol .plus, position := default }

/-- One and as many times one more, added up. -/
def onesAdded : Nat → List Token
  | 0 => [.one]
  | k + 1 => onesAdded k ++ [.plus, .one]

/-- The sum that `onesAdded` stands for. -/
def sumOfOnes : Nat → Expr
  | 0 => .literal (.int 1)
  | k + 1 => .binary .add (sumOfOnes k) (.literal (.int 1)) default

theorem height_sumOfOnes (k : Nat) : (sumOfOnes k).height = k + 1 := by
  induction k with
  | zero => rfl
  | succ k ih =>
    simp only [sumOfOnes, Expr.height, ih]
    omega

theorem derives_one : Derives filters 2 (.expr .operand (.literal (.int 1))) [.one] 0 :=
  .constant rfl

theorem derives_onesAdded (k : Nat) :
    Derives filters 2 (.expr .sum (sumOfOnes k)) (onesAdded k) 0 := by
  induction k with
  | zero => exact derives_one.atLevel .sum
  | succ k ih => exact Derives.chained (t := .plus) ih rfl (derives_one.atLevel .product)

/-- Nothing nests in a sum, and so one of any length is read whatever the limit is. -/
theorem read_onesAdded {env : Surroundings} (hlimit : 0 < env.depthLimit) (k : Nat) :
    Arguments.expression env (onesAdded k) = .ok (sumOfOnes k, []) := by
  have hsum : Derives env.filters 2 (.expr .disjunction (sumOfOnes k)) (onesAdded k) 0 :=
    .looser nofun (.looser nofun (.looser nofun (derives_onesAdded k)))
  have hread := (limits_expression hsum [] .nil).1 hlimit
  rwa [List.append_nil] at hread

/-! ### The bound -/

/-- An expression that is read is at most as tall as the limit on nesting and the longest run in it
say. -/
theorem height_le_of_read {env : Surroundings} {rest : List Token}
    (h : Arguments.expression env ts = .ok (e, rest)) :
    e.height ≤ 4 * (e.chain + 1) * env.depthLimit := by
  obtain ⟨used, n, -, hn, he⟩ := derives_of_expression (Nat.le_refl 2) h
  exact height_le_of_low_of_le (he.low e.chain) (Nat.le_refl _) hn

theorem height_le_of_read_ones :
    Arguments.expression ⟨{}, default, 1⟩ (onesAdded 2) = .ok (sumOfOnes 2, []) ∧
      (sumOfOnes 2).height ≤ 4 * ((sumOfOnes 2).chain + 1) * 1 :=
  have hread := @read_onesAdded ⟨{}, default, 1⟩ Nat.one_pos 2
  ⟨hread, height_le_of_read hread⟩

/-- The limit on nesting does not bound the height of the trees that are read. -/
theorem height_unbounded :
    ¬∃ f : Nat → Nat, ∀ (env : Surroundings) (ts rest : List Token) (e : Expr),
      Arguments.expression env ts = .ok (e, rest) → e.height ≤ f env.depthLimit := by
  rintro ⟨f, hf⟩
  have hread := @read_onesAdded ⟨{}, default, 1⟩ Nat.one_pos (f 1)
  have hheight := hf _ _ _ _ hread
  rw [height_sumOfOnes] at hheight
  exact Nat.not_succ_le_self _ hheight

end Heights

end Stencil
