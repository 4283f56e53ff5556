import Stencil.Proofs.Writing.Expr
import Stencil.Proofs.Writing.Drafts

/-!
# Readers of the levels

Each lexeme that can go on with an expression does so at one level, and a reader of a tighter level
leaves it alone. What is read at one level is therefore read at all looser ones.
-/

namespace Stencil

open Arguments Grammar

/-- The level at which a lexeme goes on with the expression in front of it. -/
def Lexeme.joins : Lexeme → Option Level
  | .keyword .kwOr | .symbol .orOr => some .disjunction
  | .keyword .kwAnd | .symbol .andAnd => some .conjunction
  | .symbol .equalEqual | .symbol .bangEqual | .symbol .lessGreater | .symbol .less
  | .symbol .lessEqual | .symbol .greater | .symbol .greaterEqual | .keyword .kwIn
  | .keyword .kwNot => some .relation
  | .symbol .plus | .symbol .minus => some .sum
  | .symbol .star | .symbol .slash | .symbol .percent => some .product
  | .symbol .caret => some .power
  | .symbol .bar => some .filtered
  | .symbol .colon | .symbol .dot | .symbol .openBracket | .symbol .openParen => some .operand
  | _ => none

/-- A lexeme that does not go on with an expression of the level `l`. -/
def Loose (l : Level) (x : Lexeme) : Prop := ∀ k ∈ x.joins, k < l

instance (l : Level) (x : Lexeme) : Decidable (Loose l x) :=
  inferInstanceAs (Decidable (∀ k ∈ x.joins, k < l))

variable {env : Surroundings} {l k : Level} {x : Lexeme} {ls ls' : List Lexeme}

theorem Loose.mono (h : Loose l x) (hl : l ≤ k) : Loose k x :=
  fun m hm => Nat.lt_of_lt_of_le (h m hm) hl

/-- A lexeme that goes on with no expression at all. -/
theorem loose_of_joins (h : x.joins = none) (l : Level) : Loose l x := by
  intro k hk
  rw [h] at hk
  cases hk

/-! ## Readers and operators of a level -/

/-- The production of the grammar that reads expressions of a level. -/
def Level.reader : Level → Inner → Arguments Expr
  | .disjunction => Grammar.disjunction
  | .conjunction => Grammar.conjunction
  | .relation => Grammar.relational
  | .sum => Grammar.additive
  | .product => Grammar.multiplicative
  | .power => Grammar.power
  | .unary => Grammar.unary
  | .filtered => Grammar.primary
  | .operand => Grammar.operand

/-- The operators that chain at a level. -/
def Level.op? : Level → Lexeme → Option BinaryOp
  | .disjunction => orOp?
  | .conjunction => andOp?
  | .sum => additiveOp?
  | .product => multiplicativeOp?
  | _ => fun _ => none

theorem Level.reader_of_chains {l : Level} (hl : l.Chains) (i : Inner) :
    l.reader i = leftAssoc l.op? (l.right.reader i) := by
  cases l <;> first | exact hl.elim | rfl

/-- An operator that chains at a level goes on with the expressions of that level. -/
theorem Level.joins_of_op? {l : Level} {op : BinaryOp} (h : l.op? x = some op) :
    x.joins = some l := by
  cases l with
  | disjunction =>
    change orOp? x = some op at h
    unfold orOp? at h
    split at h <;> first | rfl | cases h
  | conjunction =>
    change andOp? x = some op at h
    unfold andOp? at h
    split at h <;> first | rfl | cases h
  | sum =>
    change additiveOp? x = some op at h
    unfold additiveOp? at h
    split at h <;> first | rfl | cases h
  | product =>
    change multiplicativeOp? x = some op at h
    unfold multiplicativeOp? at h
    split at h <;> first | rfl | cases h
  | relation | power | unary | filtered | operand => cases h

theorem Level.op?_of_loose {l : Level} (hx : Loose l x) : l.op? x = none := by
  cases h : l.op? x with
  | none => rfl
  | some op => exact absurd (hx l (joins_of_op? h)) (Nat.lt_irrefl _)

/-- The expressions are the same up to positions. -/
def Expr.Alike (e e' : Expr) : Prop := e'.unplaced = e.unplaced

/-! ## Chains -/

/-- From the given lexemes `leftAssoc` takes a first operand, for which `A` holds, and leaves
whatever operators and operands follow to the chain. -/
def Arguments.Starts (env : Surroundings) (op? : Lexeme → Option BinaryOp) (next : Arguments Expr)
    (ls : List Lexeme) (F : Lexeme → Prop) (A : Expr → Prop) : Prop :=
  ∀ ts rest, ts.map Token.lexeme = ls → Followed F rest →
    ∃ e n, A e ∧ rest.length ≤ n ∧ leftAssoc op? next env (ts ++ rest) = chain op? next n e env rest

section Chains

variable {F G : Lexeme → Prop} {op? : Lexeme → Option BinaryOp} {next : Arguments Expr}
  {A B C : Expr → Prop}

theorem starts_of_takes (h : Takes env ls G next A) : Starts env op? next ls G A := by
  intro ts rest hts hrest
  obtain ⟨e, hread, he⟩ := h ts rest hts hrest
  refine ⟨e, rest.length, he, Nat.le_refl _, ?_⟩
  unfold leftAssoc
  rw [arguments_bind, hread]
  rfl

/-- What was chained so far and one more operand. -/
theorem starts_append {op : BinaryOp} (h : Starts env op? next ls G A) (hop : op? x = some op)
    (hx : G x) (hnext : Takes env ls' G next B)
    (hC : ∀ a b p, A a → B b → C (.binary op a b p)) :
    Starts env op? next (ls ++ x :: ls') G C := by
  intro ts rest hts hrest
  obtain ⟨front, back, rfl, hfront, hback⟩ := List.map_eq_append_iff.mp hts
  obtain ⟨t, back, rfl, rfl, rfl⟩ := List.map_eq_cons_iff.mp hback
  obtain ⟨a, n, ha, hn, hread⟩ := h front (t :: (back ++ rest)) hfront (.cons hx _)
  obtain ⟨b, hb, hB⟩ := hnext back rest rfl hrest
  simp only [List.length_cons, List.length_append] at hn
  obtain ⟨m, rfl⟩ : ∃ m, n = m + 1 := ⟨n - 1, by omega⟩
  refine ⟨.binary op a b t.position, m, hC a b _ ha hB, by omega, ?_⟩
  rw [List.append_assoc, List.cons_append, hread, chain, arguments_bind]
  simp only [takeIf, hop]
  rw [arguments_bind, hb]

/-- Where no operator follows, the chain is at its end. -/
theorem takes_of_starts (h : Starts env op? next ls G A) (hF : ∀ x, F x → G x)
    (hop : ∀ x, F x → op? x = none) : Takes env ls F (leftAssoc op? next) A := by
  intro ts rest hts hrest
  obtain ⟨e, n, he, hn, hread⟩ := h ts rest hts (hrest.imp hF)
  refine ⟨e, ?_, he⟩
  rw [hread]
  cases n with
  | zero => rfl
  | succ n =>
    have hend : Takes env [] _ (takeIf _) (· = none) := takes_takeIf_none hop
    obtain ⟨_, hnone, rfl⟩ := hend [] rest rfl hrest
    rw [List.nil_append] at hnone
    unfold chain
    rw [arguments_bind, hnone]
    rfl

end Chains

/-! ## From tighter levels to looser ones -/

theorem Lexeme.joins_of_relationalOp? {op : BinaryOp} (h : relationalOp? x = some op) :
    x.joins = some .relation := by
  unfold relationalOp? at h
  split at h <;> first | rfl | cases h

theorem relationalOp?_of_loose (hx : Loose .relation x) : relationalOp? x = none := by
  cases h : relationalOp? x with
  | none => rfl
  | some op => exact absurd (hx _ (Lexeme.joins_of_relationalOp? h)) (Nat.lt_irrefl _)

theorem takes_relation?_none : Takes env [] (Loose .relation) relation? (· = none) := by
  intro ts rest hts hrest
  have hend : Takes env [] (Loose .relation) (takeIf relationalOp?) (· = none) :=
    takes_takeIf_none fun x hx => relationalOp?_of_loose hx
  obtain ⟨_, hnone, rfl⟩ := hend ts rest hts hrest
  refine ⟨none, ?_, rfl⟩
  rw [List.map_eq_nil_iff.mp hts] at hnone ⊢
  match rest, hrest, hnone with
  | [], _, hnone => exact hnone
  | [t], _, hnone => exact hnone
  | t :: u :: rest, hrest, hnone =>
    have ht : t.isKeyword .kwNot = false := by
      unfold Token.isKeyword
      rw [beq_eq_false_iff_ne]
      intro h
      have hloose : Loose .relation t.lexeme := hrest t rfl
      rw [h] at hloose
      exact absurd hloose (by decide)
    unfold relation?
    simp only [List.nil_append, arguments_bind, peek?, peekSecond?, List.head?_cons, List.tail_cons,
      ht, Bool.false_and]
    exact hnone

theorem takes_filtersRest_nil {i : Inner} (n : Nat) :
    Takes env [] (Loose .filtered) (filtersRest i n) (· = []) := by
  cases n with
  | zero => exact takes_pure rfl
  | succ n =>
    refine takes_bind_end (takes_symbol?_none (by decide)) ?_
    rintro _ rfl
    exact takes_pure rfl

/-- The text starts with something else than a unary operator. -/
def Upfront (ls : List Lexeme) : Prop := ∃ x rest, ls = x :: rest ∧ unaryOp? x = none

/-- What is read at one level is read at the next looser one. -/
theorem takes_of_next {i : Inner} {A : Expr → Prop} (hl : l ≠ .operand)
    (h : Takes env ls (Loose l.next) (l.next.reader i) A) (hfirst : l = .unary → Upfront ls) :
    Takes env ls (Loose l) (l.reader i) A := by
  have hle : l ≤ l.next := by cases l <;> decide
  have hloose : Takes env ls (Loose l) (l.next.reader i) A := h.mono fun x hx => hx.mono hle
  have hchains (hc : l.Chains) (hright : l.right = l.next) :
      Takes env ls (Loose l) (l.reader i) A := by
    rw [Level.reader_of_chains hc]
    exact takes_of_starts (starts_of_takes (hright ▸ h)) (fun x hx => hx.mono hle) fun x hx =>
      Level.op?_of_loose hx
  cases l with
  | disjunction | conjunction | sum | product => exact hchains trivial rfl
  | relation =>
    refine takes_bind_end hloose fun e he => takes_bind_end takes_relation?_none ?_
    rintro _ rfl
    exact takes_pure he
  | power =>
    refine takes_bind_end hloose fun e he => takes_bind_end (takes_symbol?_none (by decide)) ?_
    rintro _ rfl
    exact takes_pure he
  | unary =>
    obtain ⟨x, rest, rfl, hx⟩ := hfirst rfl
    exact takes_takeIf_bind_none hx hloose
  | filtered =>
    refine takes_bind_end hloose fun e he => takes_left_bind fun n _ => ?_
    refine takes_bind_end (takes_filtersRest_nil n) ?_
    rintro _ rfl
    exact takes_pure he
  | operand => exact absurd rfl hl

/-- What is read at one level is read at all looser ones, except that an operator in front of it
would be taken for a unary one. -/
theorem takes_looser {i : Inner} {A : Expr → Prop} (hlk : l ≤ k)
    (h : Takes env ls (Loose k) (k.reader i) A) (hfirst : .unary < k → Upfront ls) :
    Takes env ls (Loose l) (l.reader i) A := by
  rw [Level.le_iff] at hlk
  obtain ⟨d, hd⟩ : ∃ d, k.rank = l.rank + d := ⟨k.rank - l.rank, by omega⟩
  induction d generalizing l with
  | zero =>
    have heq : l = k := by
      cases l <;> cases k <;> first | rfl | (simp [Level.rank] at hd)
    rw [heq]
    exact h
  | succ d ih =>
    have hne : l ≠ .operand := by
      rintro rfl
      have hk : k.rank ≤ Level.operand.rank := by cases k <;> decide
      omega
    have hnext : l.next.rank = l.rank + 1 := by
      cases l <;> first | rfl | exact absurd rfl hne
    refine takes_of_next hne (ih (by omega) (by omega)) ?_
    rintro rfl
    exact hfirst (Level.lt_iff.mpr (by omega))

end Stencil
