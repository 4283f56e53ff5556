import Stencil.Proofs.Reading.Expr
import Stencil.Template.Draft

/-!
# Where literal names come from

A tag that names another template by a literal reads an expression, and no operator and no filter
turns one that is not a literal into one. So the name stands in the tokens as a string.
-/

namespace Stencil

/-- The strings in tokens. -/
def quoted (ts : List Token) : List String :=
  ts.filterMap fun t =>
    match t.lexeme with
    | .string s => some s
    | _ => none

theorem mem_quoted_of_lexeme {ts : List Token} {t : Token} {s : String} (ht : t ∈ ts)
    (hs : t.lexeme = .string s) : s ∈ quoted ts :=
  List.mem_filterMap.mpr ⟨t, ht, by rw [hs]⟩

theorem quoted_subset {ts rest : List Token} (h : rest ⊆ ts) : quoted rest ⊆ quoted ts :=
  List.filterMap_subset _ h

namespace Arguments

/-- What `r` gives for the tokens `ts` is a literal string only if it is one of those in `ts`. -/
def QuotesFrom (ts : List Token) (r : Arguments Expr) : Prop :=
  ∀ env e rest, r env ts = .ok (e, rest) → ∀ s ∈ e.literalString?, s ∈ quoted ts

/-- What `r` gives is a literal string only if it is one of the strings that it reads. -/
def Quotes (r : Arguments Expr) : Prop := ∀ ts, QuotesFrom ts r

/-- What `r` gives is a literal string only if `e` is the same one. -/
def Spares (e : Expr) (r : Arguments Expr) : Prop :=
  ∀ env ts e' rest, r env ts = .ok (e', rest) → ∀ s ∈ e'.literalString?, s ∈ e.literalString?

/-- What `r` gives is not a literal string. -/
def Builds (r : Arguments Expr) : Prop :=
  ∀ env ts e rest, r env ts = .ok (e, rest) → e.literalString? = none

/-- What `r` leaves are tokens that it was given. -/
def Shortens {α : Type} (r : Arguments α) : Prop :=
  ∀ env ts a rest, r env ts = .ok (a, rest) → rest ⊆ ts

end Arguments

open Arguments Grammar

variable {α : Type} {e : Expr}

/-! ## Rules -/

theorem Arguments.Gives.shortens {r : Arguments α}
    (h : ∀ env, Gives env {} r fun _ => True) : r.Shortens := fun env ts a rest hr =>
  (h env ts ⟨fun _ _ => trivial, fun _ _ => trivial, fun _ _ _ => trivial⟩ a rest hr).2.subset

theorem spares_pure (e : Expr) : Spares e (pure e) := by
  intro env ts e' rest h s hs
  cases h
  exact hs

theorem builds_pure (he : e.literalString? = none) : Builds (pure e) := by
  intro env ts _ rest h
  cases h
  exact he

theorem builds_bind {r : Arguments α} {f : α → Arguments Expr} (hf : ∀ a, (f a).Builds) :
    (r >>= f).Builds := by
  intro env ts e rest h
  rw [arguments_bind] at h
  split at h
  · exact hf _ env _ e rest h
  · cases h

theorem Arguments.Builds.spares {r : Arguments Expr} (h : r.Builds) (e : Expr) : Spares e r := by
  intro env ts e' rest hr s hs
  rw [h env ts e' rest hr] at hs
  cases hs

theorem Arguments.Builds.quotes {r : Arguments Expr} (h : r.Builds) : r.Quotes := by
  intro ts env e rest hr s hs
  rw [h env ts e rest hr] at hs
  cases hs

theorem spares_bind {r : Arguments α} {f : α → Arguments Expr} (hf : ∀ a, Spares e (f a)) :
    Spares e (r >>= f) := by
  intro env ts e' rest h
  rw [arguments_bind] at h
  split at h
  · exact hf _ env _ e' rest h
  · cases h

/-- What comes behind an expression does not make a literal of it. -/
theorem quotes_bind_of_spares {r : Arguments Expr} {f : Expr → Arguments Expr} (hr : r.Quotes)
    (hf : ∀ e, Spares e (f e)) : (r >>= f).Quotes := by
  intro ts env e' rest h s hs
  rw [arguments_bind] at h
  split at h
  · rename_i e middle hmiddle
    exact hr ts env e middle hmiddle s (hf e env middle e' rest h s hs)
  · cases h

/-- What comes in front of an expression uses up tokens. -/
theorem quotes_bind {r : Arguments α} {f : α → Arguments Expr} (hr : r.Shortens)
    (hf : ∀ a, (f a).Quotes) : (r >>= f).Quotes := by
  intro ts env e rest h s hs
  rw [arguments_bind] at h
  split at h
  · rename_i a middle hmiddle
    exact quoted_subset (hr env ts a middle hmiddle) (hf a middle env e rest h s hs)
  · cases h

theorem quotes_want (what : Wanted) : (want what : Arguments Expr).Quotes := by
  intro ts env e rest h
  unfold want at h
  split at h <;> cases h

theorem quotes_refuse (t : Token) (fault : ParseFault) :
    (refuse t fault : Arguments Expr).Quotes := by
  intro ts env e rest h
  cases h

/-! ## The grammar -/

theorem spares_chain (op? : Lexeme → Option BinaryOp) (next : Arguments Expr) (n : Nat)
    (lhs : Expr) : Spares lhs (chain op? next n lhs) := by
  induction n generalizing lhs with
  | zero => exact spares_pure lhs
  | succ n ih =>
    refine spares_bind fun found => ?_
    split
    · exact spares_pure lhs
    · -- An operator applied to an operand is no literal, and what is chained behind it is none.
      refine spares_bind fun rhs env ts e rest h s hs => ?_
      have hnone := ih _ env ts e rest h s hs
      cases hnone

theorem quotes_leftAssoc {op? : Lexeme → Option BinaryOp} {next : Arguments Expr}
    (hnext : next.Quotes) : (leftAssoc op? next).Quotes :=
  quotes_bind_of_spares hnext fun lhs => spares_bind fun n => spares_chain op? next n lhs

theorem shortens_skip (n : Nat) : (skip n).Shortens := Gives.shortens fun _ => gives_skip n

theorem quotes_number (ds : String) (t : Token) : (number ds t).Quotes := by
  refine quotes_bind (Gives.shortens fun _ => gives_peek) fun point => ?_
  refine quotes_bind (Gives.shortens fun _ => gives_peekSecond) fun second => ?_
  dsimp only
  split
  · refine quotes_bind (shortens_skip 2) fun _ => (builds_pure rfl).quotes
  · split
    · exact (builds_pure rfl).quotes
    · exact quotes_refuse _ _

theorem quotesFrom_peek_bind {ts : List Token} {f : Option Token → Arguments Expr}
    (h : QuotesFrom ts (f ts.head?)) : QuotesFrom ts (peek? >>= f) := h

theorem quotes_operand {i : Inner} (hi : i.group.Quotes) : (operand i).Quotes := by
  intro ts
  refine quotesFrom_peek_bind ?_
  split
  · exact quotes_want _ ts
  · rename_i t ht
    have hbehind {r : Arguments Expr} (hr : r.Quotes) : QuotesFrom ts (skip 1 >>= fun _ => r) :=
      quotes_bind (shortens_skip 1) (fun _ => hr) ts
    split
    · refine hbehind (quotes_bind_of_spares hi fun e => ?_)
      exact spares_bind fun _ => spares_pure e
    · exact hbehind (builds_bind fun items => builds_pure rfl).quotes
    · exact hbehind (quotes_number _ _)
    · rename_i s hs
      intro env e rest h s' hs'
      cases h
      cases hs'
      exact mem_quoted_of_lexeme (List.mem_of_head? ht) hs
    · exact hbehind (builds_pure rfl).quotes
    · exact hbehind (builds_pure rfl).quotes
    · exact hbehind (builds_bind fun n => builds_bind fun segments => builds_pure rfl).quotes
    · exact quotes_refuse _ _ ts

theorem quotes_primary {i : Inner} (hi : i.group.Quotes) : (primary i).Quotes := by
  refine quotes_bind_of_spares (quotes_operand hi) fun e => spares_bind fun n => ?_
  refine spares_bind fun filters => ?_
  split
  · exact spares_pure e
  · exact (builds_pure rfl).spares e

theorem quotes_unary {i : Inner} (hi : i.group.Quotes) : (unary i).Quotes := by
  refine quotes_bind (Gives.shortens fun _ => gives_takeIf _) fun found => ?_
  split
  · exact quotes_primary hi
  · exact (builds_bind fun e => builds_pure rfl).quotes

theorem quotes_power {i : Inner} (hi : i.group.Quotes) : (power i).Quotes := by
  refine quotes_bind_of_spares (quotes_unary hi) fun base => spares_bind fun found => ?_
  split
  · exact spares_pure base
  · exact (builds_bind fun e => builds_pure rfl).spares base

theorem quotes_disjunction {i : Inner} (hi : i.group.Quotes) : (disjunction i).Quotes := by
  have hadditive : (additive i).Quotes := quotes_leftAssoc (quotes_leftAssoc (quotes_power hi))
  refine quotes_leftAssoc (quotes_leftAssoc (quotes_bind_of_spares hadditive fun lhs => ?_))
  refine spares_bind fun found => ?_
  split
  · exact spares_pure lhs
  · exact (builds_bind fun rhs => builds_pure rfl).spares lhs

/-- At every level of nesting, what is a literal string stands there as one. -/
theorem quotes_inner (room : Nat) :
    (inner room).expression.Quotes ∧ (inner room).group.Quotes := by
  have htooDeep : tooDeep.Quotes :=
    quotes_bind (Gives.shortens fun _ => gives_read.imp fun _ _ => trivial) fun _ => quotes_want _
  induction room with
  | zero => exact ⟨htooDeep, htooDeep⟩
  | succ room ih => exact ⟨quotes_disjunction ih.2, ih.1⟩

theorem quotes_expression : Arguments.expression.Quotes :=
  quotes_bind (Gives.shortens fun _ => gives_read.imp fun _ _ => trivial) fun env =>
    (quotes_inner env.depthLimit).1

/-- The name of an include stands in its arguments if it is a literal. -/
theorem mem_quoted_of_include {env : Surroundings} {ts rest : List Token}
    {found : Expr × List (String × Expr) × Bool × Bool}
    (h : (do
      let e ← Arguments.expression
      let (bindings, only, ifExists) ← TagReader.includeWords (← left) ([], false, false)
      pure (e, bindings, only, ifExists)) env ts = .ok (found, rest)) :
    ∀ name ∈ found.1.literalString?, name ∈ quoted ts := by
  intro name hname
  rw [arguments_bind] at h
  split at h
  · rename_i e middle he
    have hfound : found.1 = e := by
      rw [arguments_bind] at h
      split at h
      · rw [arguments_bind] at h
        split at h <;> cases h
        rfl
      · cases h
    rw [hfound] at hname
    exact quotes_expression ts env e middle he name hname
  · cases h

theorem mem_quoted_of_string {env : Surroundings} {ts rest : List Token} {found : String × Token}
    (h : Arguments.string env ts = .ok (found, rest)) : found.1 ∈ quoted ts := by
  unfold Arguments.string at h
  rw [arguments_bind] at h
  unfold takeIf at h
  cases ts with
  | nil => cases h
  | cons t ts =>
    dsimp only at h
    cases ht : t.lexeme with
    | string s =>
      rw [ht] at h
      cases h
      exact mem_quoted_of_lexeme (List.mem_cons_self ..) ht
    | _ =>
      rw [ht] at h
      cases h

end Stencil
