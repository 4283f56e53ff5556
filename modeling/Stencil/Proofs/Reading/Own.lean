import Stencil.Expr.Grammar
import Stencil.Proofs.Keeping
import Stencil.Proofs.Reading.Expr
import Stencil.Template.Draft

/-!
# What readers of arguments fail with

Errors of a loader say that a template was not found, and whoever asked for it may go on without it.
So it matters that nothing else ends with such an error. A reader of arguments never does, since it
only refuses tokens.
-/

namespace Stencil

section Expressions

/-- Where the reader fails, it is not for want of a template. -/
def Arguments.Own {α : Type} (r : Arguments α) : Prop :=
  ∀ env ts e, r env ts = .error e → e.isLoader = false

open Arguments Grammar

variable {α β : Type} {r : Arguments α}

/-! ### Rules -/

theorem own_pure (a : α) : Own (pure a) := fun _ _ _ h => nomatch h

theorem own_bind {f : α → Arguments β} (hr : r.Own) (hf : ∀ a, (f a).Own) : (r >>= f).Own := by
  intro env ts e h
  rw [arguments_bind] at h
  cases hfound : r env ts with
  | ok found =>
    rw [hfound] at h
    exact hf found.1 env found.2 e h
  | error e' =>
    rw [hfound] at h
    cases h
    exact hr env ts e hfound

theorem own_map {f : α → β} (hr : r.Own) : (do return f (← r)).Own :=
  own_bind hr fun _ => own_pure _

/-- What is done depends on whether something was found. -/
theorem own_found {r : Arguments (Option α)} {f : Option α → Arguments β} (hr : r.Own)
    (hnone : (f none).Own) (hsome : ∀ a, (f (some a)).Own) : (r >>= f).Own := by
  refine own_bind hr fun found => ?_
  cases found with
  | none => exact hnone
  | some a => exact hsome a

theorem own_read_bind {f : Surroundings → Arguments β} (hf : ∀ env, (f env).Own) :
    (read >>= f).Own := fun env => hf env env

theorem own_want (what : Wanted) : (want what : Arguments α).Own := by
  intro env ts e h
  unfold want at h
  split at h <;> cases h <;> rfl

theorem own_refuse (t : Token) (fault : ParseFault) : (refuse t fault : Arguments α).Own := by
  rintro env ts _ ⟨⟩
  rfl

theorem own_refuse_bind (t : Token) (fault : ParseFault) (f : α → Arguments β) :
    (refuse t fault >>= f).Own := by
  rintro env ts _ ⟨⟩
  rfl

theorem own_ite {c : Prop} [Decidable c] {r' : Arguments α} (h : r.Own) (h' : r'.Own) :
    (if c then r else r').Own := by
  split
  · exact h
  · exact h'

/-! ### Single tokens -/

theorem own_peek : peek?.Own := fun _ _ _ h => nomatch h

theorem own_peekSecond : peekSecond?.Own := fun _ _ _ h => nomatch h

theorem own_left : left.Own := fun _ _ _ h => nomatch h

theorem own_skip (n : Nat) : (skip n).Own := fun _ _ _ h => nomatch h

theorem own_takeAll : takeAll.Own := fun _ _ _ h => nomatch h

theorem own_takeIf (f : Lexeme → Option α) : (takeIf f).Own := by
  intro env ts e h
  unfold takeIf at h
  split at h
  · cases h
  · split at h <;> cases h

theorem own_symbol? (s : Symbol) : (symbol? s).Own := own_map (own_takeIf _)

theorem own_keyword? (k : Keyword) : (keyword? k).Own := own_map (own_takeIf _)

theorem own_word? (name : String) : (word? name).Own := own_map (own_takeIf _)

theorem own_identifier? : identifier?.Own := own_takeIf _

theorem own_identifier : identifier.Own :=
  own_found own_identifier? (own_want _) fun _ => own_pure _

theorem own_string : string.Own := own_found (own_takeIf _) (own_want _) fun _ => own_pure _

theorem own_symbol (s : Symbol) : (symbol s).Own :=
  own_found (own_symbol? s) (own_want _) fun _ => own_pure _

theorem own_keyword (k : Keyword) : (keyword k).Own :=
  own_found (own_keyword? k) (own_want _) fun _ => own_pure _

theorem own_done (tag : String) : (done tag).Own :=
  own_found own_peek (own_pure ()) fun _ => own_refuse _ _

/-! ### Lists and operators -/

/-- What a level finds further in never fails as a loader does. -/
structure Grammar.Inner.Own (i : Inner) : Prop where
  expression : i.expression.Own
  group : i.group.Own
  power : i.power.Own
  unary : i.unary.Own
  operand : i.operand.Own

variable {i : Inner}

theorem own_chain (op? : Lexeme → Option BinaryOp) {next : Arguments Expr} (hnext : next.Own)
    (n : Nat) (lhs : Expr) : (chain op? next n lhs).Own := by
  induction n generalizing lhs with
  | zero => exact own_pure lhs
  | succ n ih =>
    exact own_found (own_takeIf op?) (own_pure lhs) fun _ => own_bind hnext fun _ => ih _

theorem own_leftAssoc (op? : Lexeme → Option BinaryOp) {next : Arguments Expr} (hnext : next.Own) :
    (leftAssoc op? next).Own :=
  own_bind hnext fun _ => own_bind own_left fun n => own_chain op? hnext n _

theorem own_listRest {item : Arguments Expr} (hitem : item.Own) (close : Symbol) (n : Nat) :
    (listRest item close n).Own := by
  have hlast (e : Expr) : (do let _ ← symbol close; pure [e]).Own :=
    own_bind (own_symbol close) fun _ => own_pure [e]
  induction n with
  | zero => exact own_bind hitem hlast
  | succ n ih =>
    exact own_bind hitem fun e => own_found (own_symbol? .comma) (hlast e) fun _ => own_map ih

theorem own_listUpTo (hi : i.Own) (close : Symbol) : (listUpTo i close).Own :=
  own_found (own_symbol? close) (own_bind own_left fun n => own_listRest hi.group close n)
    fun _ => own_pure []

/-! ### Operands -/

theorem own_number (ds : String) (t : Token) : (number ds t).Own := by
  refine own_bind own_peek fun _ => own_bind own_peekSecond fun _ => ?_
  dsimp only
  split
  · exact own_map (own_skip 2)
  · split
    · exact own_pure _
    · exact own_refuse t _

theorem own_memberStep : memberStep.Own := by
  have hstep (segment : Segment) : (do skip 2; pure segment).Own := own_map (own_skip 2)
  have hnone : (do skip 1; want .nameOrIndex : Arguments Segment).Own :=
    own_bind (own_skip 1) fun _ => own_want _
  refine own_found own_peekSecond hnone fun t => ?_
  dsimp only
  split
  · exact hstep _
  · exact hstep _
  · split
    · exact hstep _
    · exact own_refuse t _
  · exact hnone

theorem own_steps (hi : i.Own) (n : Nat) : (steps i n).Own := by
  induction n with
  | zero => exact own_pure []
  | succ n ih =>
    have hmore (segment : Segment) : (do return segment :: (← steps i n)).Own := own_map ih
    refine own_bind own_peek fun found => ?_
    split
    · exact own_bind own_memberStep hmore
    · refine own_bind (own_skip 1) fun _ => own_bind hi.group fun key => ?_
      exact own_bind (own_symbol .closeBracket) fun _ => hmore (.subscript key)
    · refine own_bind (own_skip 1) fun _ => ?_
      exact own_bind (own_listUpTo hi .closeParen) fun args => hmore (.call args)
    · exact own_pure []

theorem own_operand (hi : i.Own) : (operand i).Own := by
  refine own_found own_peek (own_want _) fun t => ?_
  dsimp only
  split
  · refine own_bind (own_skip 1) fun _ => own_bind hi.group fun e => ?_
    exact own_bind (own_symbol .closeParen) fun _ => own_pure e
  · exact own_bind (own_skip 1) fun _ => own_map (own_listUpTo hi .closeBracket)
  · exact own_bind (own_skip 1) fun _ => own_number _ t
  · exact own_map (own_skip 1)
  · exact own_map (own_skip 1)
  · exact own_map (own_skip 1)
  · exact own_bind (own_skip 1) fun _ => own_bind own_left fun n => own_map (own_steps hi n)
  · exact own_refuse t _

/-! ### Filters -/

theorem own_filterCall (hi : i.Own) : (filterCall i).Own := by
  refine own_found own_identifier? (own_want _) fun found => own_read_bind fun env => ?_
  dsimp only
  split
  · exact own_refuse _ _
  split
  · exact own_refuse _ _
  · exact own_found (own_symbol? .colon) (own_pure _) fun _ => own_map hi.operand

theorem own_filtersRest (hi : i.Own) (n : Nat) : (filtersRest i n).Own := by
  induction n with
  | zero => exact own_pure []
  | succ n ih =>
    exact own_found (own_symbol? .bar) (own_pure []) fun _ =>
      own_bind (own_filterCall hi) fun _ => own_map ih

/-! ### Levels -/

theorem own_primary (hi : i.Own) : (primary i).Own := by
  refine own_bind (own_operand hi) fun e => own_bind own_left fun n => ?_
  refine own_bind (own_filtersRest hi n) fun filters => ?_
  split <;> exact own_pure _

theorem own_unary (hi : i.Own) : (unary i).Own :=
  own_found (own_takeIf unaryOp?) (own_primary hi) fun _ => own_map hi.unary

theorem own_power (hi : i.Own) : (power i).Own :=
  own_bind (own_unary hi) fun base =>
    own_found (own_symbol? .caret) (own_pure base) fun _ => own_map hi.power

theorem own_additive (hi : i.Own) : (additive i).Own :=
  own_leftAssoc _ (own_leftAssoc _ (own_power hi))

theorem own_relation : relation?.Own := by
  refine own_bind own_peek fun t => own_bind own_peekSecond fun second => ?_
  split
  · exact own_ite (own_map (own_skip 2)) (own_takeIf _)
  · exact own_takeIf _

theorem own_relational (hi : i.Own) : (relational i).Own :=
  own_bind (own_additive hi) fun lhs =>
    own_found own_relation (own_pure lhs) fun _ => own_map (own_additive hi)

theorem own_disjunction (hi : i.Own) : (disjunction i).Own :=
  own_leftAssoc _ (own_leftAssoc _ (own_relational hi))

theorem inner_own (room : Nat) : (inner room).Own := by
  induction room with
  | zero =>
    have htooDeep : tooDeep.Own := own_read_bind fun _ => own_want _
    exact ⟨htooDeep, htooDeep, htooDeep, htooDeep, htooDeep⟩
  | succ room ih =>
    exact ⟨own_disjunction ih, ih.expression, own_power ih, own_unary ih, own_operand ih⟩

/-! ### Arguments -/

theorem own_expression : Arguments.expression.Own :=
  own_read_bind fun _ => (inner_own _).expression

theorem own_filterChain : filterChain.Own :=
  own_read_bind fun _ => own_bind (own_filterCall (inner_own _)) fun _ =>
    own_bind own_left fun n => own_map (own_filtersRest (inner_own _) n)

theorem own_bindings : Arguments.bindings.Own := by
  have hupTo (n : Nat) : (bindingsUpTo n).Own := by
    induction n with
    | zero => exact own_pure []
    | succ n ih =>
      refine own_bind own_peek fun t => own_bind own_peekSecond fun second => ?_
      split
      · split
        · exact own_bind (own_skip 2) fun _ => own_bind own_expression fun _ => own_map ih
        · exact own_pure []
      · exact own_pure []
  exact own_bind own_left hupTo

end Expressions

end Stencil
