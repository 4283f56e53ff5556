import Stencil.Proofs.Alike.Steps
import Stencil.Proofs.Alike.Values
import Stencil.Proofs.Alike.Likeness
import Stencil.Proofs.Reading.Expr

/-!
# Expressions at two places

Readers of arguments compared on tokens that say the same: the rules, and what the grammar reads.
-/

namespace Stencil

/-!
## Reading the same arguments at two places

A reader of arguments goes by what tokens say, and by where they stand only for what it reports. So
it does the same with tokens that say the same, wherever they stand. The rules compare two readers,
since what they do with what was read before need not be the same.
-/

section Readers

/-- Tokens that say the same. -/
abbrev SayAlike : List Token → List Token → Prop :=
  List.Forall₂ fun t t' => t.lexeme = t'.lexeme

/-- Errors that are handled in the same way. -/
def Error.SameKind (e e' : Error) : Prop := e.isLoader = e'.isLoader

/-- Surroundings in which the same can be read. -/
structure Surroundings.Alike (env env' : Surroundings) : Prop where
  filters : env.filters = env'.filters
  depthLimit : env.depthLimit = env'.depthLimit

/-- From tokens that say the same, `r` and `r'` give what `A` relates and leave tokens that say the
same, or both fail. -/
def Arguments.Pairs {α α' : Type} (r : Arguments α) (r' : Arguments α')
    (A : α → α' → Prop) : Prop :=
  ∀ env env' ts ts', env.Alike env' → SayAlike ts ts' →
    EndAlike Error.SameKind (fun a a' => A a.1 a'.1 ∧ SayAlike a.2 a'.2) (r env ts) (r' env' ts')

open Arguments

variable {α α' β β' : Type} {A A' : α → α' → Prop} {B : β → β' → Prop} {r : Arguments α}
  {r' : Arguments α'}

/-! ### Rules -/

theorem pairs_pure {a : α} {a' : α'} (ha : A a a') : Pairs (pure a) (pure a') A :=
  fun _ _ _ _ _ hts => .ok ⟨ha, hts⟩

theorem pairs_bind {f : α → Arguments β} {f' : α' → Arguments β'} (hr : r.Pairs r' A)
    (hf : ∀ a a', A a a' → (f a).Pairs (f' a') B) : (r >>= f).Pairs (r' >>= f') B := by
  intro env env' ts ts' henv hts
  have h := hr env env' ts ts' henv hts
  rw [arguments_bind, arguments_bind]
  generalize r env ts = x at h ⊢
  generalize r' env' ts' = x' at h ⊢
  cases h with
  | ok ha => exact hf _ _ ha.1 env env' _ _ henv ha.2
  | error he => exact .error he

/-- Both found something, or none of them did. -/
theorem pairs_found {r : Arguments (Option α)} {r' : Arguments (Option α')}
    {f : Option α → Arguments β} {f' : Option α' → Arguments β'} (hr : r.Pairs r' (Option.Rel A))
    (hnone : (f none).Pairs (f' none) B)
    (hsome : ∀ a a', A a a' → (f (some a)).Pairs (f' (some a')) B) :
    (r >>= f).Pairs (r' >>= f') B := by
  refine pairs_bind hr fun found found' hfound => ?_
  cases hfound with
  | none => exact hnone
  | some ha => exact hsome _ _ ha

theorem pairs_read_bind {f : Surroundings → Arguments β} {f' : Surroundings → Arguments β'}
    (hf : ∀ env env', env.Alike env' → (f env).Pairs (f' env') B) :
    Pairs (read >>= f) (read >>= f') B := fun env env' ts ts' henv hts =>
  hf env env' henv env env' ts ts' henv hts

theorem pairs_want (what what' : Wanted) :
    Pairs (want what : Arguments α) (want what' : Arguments α') A := by
  intro env env' ts ts' _ hts
  cases hts <;> exact .error rfl

theorem pairs_refuse (t t' : Token) (fault fault' : ParseFault) :
    Pairs (refuse t fault : Arguments α) (refuse t' fault' : Arguments α') A :=
  fun _ _ _ _ _ _ => .error rfl

theorem pairs_refuse_bind (t t' : Token) (fault fault' : ParseFault) {f : α → Arguments β}
    {f' : α' → Arguments β'} : Pairs (refuse t fault >>= f) (refuse t' fault' >>= f') B :=
  fun _ _ _ _ _ _ => .error rfl

theorem pairs_ite {c : Prop} [Decidable c] {m : Arguments α} {m' : Arguments α'}
    (h : c → r.Pairs r' A) (h' : ¬c → m.Pairs m' A) :
    Pairs (if c then r else m) (if c then r' else m') A := by
  split
  · exact h ‹c›
  · exact h' ‹¬c›

/-! ### Tokens -/

/-- Both are missing, or they say the same. -/
abbrev Token.AlikeIfAny : Option Token → Option Token → Prop :=
  Option.Rel fun t t' => t.lexeme = t'.lexeme

/-- What was taken and the tokens that it stood at. -/
abbrev TakenAlike (A : α → α' → Prop) (found : α × Token) (found' : α' × Token) : Prop :=
  A found.1 found'.1 ∧ found.2.lexeme = found'.2.lexeme

theorem pairs_peek : Pairs peek? peek? Token.AlikeIfAny := by
  intro env env' ts ts' _ hts
  cases hts with
  | nil => exact .ok ⟨.none, .nil⟩
  | cons ht hrest => exact .ok ⟨.some ht, .cons ht hrest⟩

theorem pairs_peekSecond : Pairs peekSecond? peekSecond? Token.AlikeIfAny := by
  intro env env' ts ts' _ hts
  cases hts with
  | nil => exact .ok ⟨.none, .nil⟩
  | cons ht hrest =>
    cases hrest with
    | nil => exact .ok ⟨.none, .cons ht .nil⟩
    | cons hsecond hrest => exact .ok ⟨.some hsecond, .cons ht (.cons hsecond hrest)⟩

theorem pairs_left : Pairs left left Eq := fun _ _ _ _ _ hts => .ok ⟨hts.length_eq, hts⟩

theorem pairs_takeAll : Pairs takeAll takeAll SayAlike := fun _ _ _ _ _ hts => .ok ⟨hts, .nil⟩

theorem pairs_skip (n : Nat) : Pairs (skip n) (skip n) fun _ _ => True :=
  fun _ _ _ _ _ hts => .ok ⟨trivial, List.forall₂_drop n hts⟩

theorem pairs_takeIf (f : Lexeme → Option α) :
    Pairs (takeIf f) (takeIf f) (Option.Rel (TakenAlike Eq)) := by
  intro env env' ts ts' _ hts
  cases hts with
  | nil => exact .ok ⟨.none, .nil⟩
  | @cons t t' _ _ ht hrest =>
    unfold takeIf
    dsimp only
    rw [← ht]
    split
    · exact .ok ⟨.some ⟨rfl, ht⟩, hrest⟩
    · exact .ok ⟨.none, .cons ht hrest⟩

/-- Whether a token was taken, and what it said. -/
theorem pairs_taken (f : Lexeme → Option α) :
    Pairs (do return (← takeIf f).map (·.2)) (do return (← takeIf f).map (·.2))
      Token.AlikeIfAny := by
  refine pairs_bind (pairs_takeIf f) fun found found' hfound => pairs_pure ?_
  cases hfound with
  | none => exact .none
  | some h => exact .some h.2

theorem pairs_symbol? (s : Symbol) : Pairs (symbol? s) (symbol? s) Token.AlikeIfAny := pairs_taken _

theorem pairs_keyword? (k : Keyword) : Pairs (keyword? k) (keyword? k) Token.AlikeIfAny :=
  pairs_taken _

theorem pairs_word? (name : String) : Pairs (word? name) (word? name) Eq := by
  refine pairs_bind (pairs_takeIf _) fun found found' hfound => pairs_pure ?_
  cases hfound <;> rfl

theorem pairs_identifier? : Pairs identifier? identifier? (Option.Rel (TakenAlike Eq)) :=
  pairs_takeIf _

theorem pairs_identifier : Pairs identifier identifier (TakenAlike Eq) :=
  pairs_found pairs_identifier? (pairs_want _ _) fun _ _ h => pairs_pure h

theorem pairs_string : Pairs Arguments.string Arguments.string (TakenAlike Eq) :=
  pairs_found (pairs_takeIf _) (pairs_want _ _) fun _ _ h => pairs_pure h

theorem pairs_symbol (s : Symbol) :
    Pairs (symbol s) (symbol s) fun t t' => t.lexeme = t'.lexeme :=
  pairs_found (pairs_symbol? s) (pairs_want _ _) fun _ _ h => pairs_pure h

theorem pairs_keyword (k : Keyword) :
    Pairs (keyword k) (keyword k) fun t t' => t.lexeme = t'.lexeme :=
  pairs_found (pairs_keyword? k) (pairs_want _ _) fun _ _ h => pairs_pure h

theorem pairs_done (tag : String) : Pairs (done tag) (done tag) fun _ _ => True :=
  pairs_found pairs_peek (pairs_pure trivial) fun _ _ _ => pairs_refuse _ _ _ _

end Readers

/-!
## Reading the same expression at two places

From tokens that say the same every production of the grammar makes expressions that are alike,
provided that positions do not count.
-/

section Grammar

open Arguments Grammar

/-- Neither names nor positions tell trees apart, and trees are alike if their parts are. -/
structure Likeness.Placeless (L : Likeness) : Prop extends L.Folds where
  name : ∀ n, L.name n
  position : ∀ p p', L.position p p'
  literal : ∀ {e e'}, L.expr e e' → e.literalString? = e'.literalString?

/-- Two levels of the grammar that read the same. -/
structure Grammar.Inner.Pairs (L : Likeness) (i i' : Inner) : Prop where
  expression : i.expression.Pairs i'.expression L.expr
  group : i.group.Pairs i'.group L.expr
  power : i.power.Pairs i'.power L.expr
  unary : i.unary.Pairs i'.unary L.expr
  operand : i.operand.Pairs i'.operand L.expr

variable {L : Likeness} (hL : L.Placeless)
include hL

/-! ### Operators -/

theorem pairs_chain (op? : Lexeme → Option BinaryOp) {next next' : Arguments Expr}
    (hnext : next.Pairs next' L.expr) (n : Nat) {lhs lhs' : Expr} (hlhs : L.expr lhs lhs') :
    (chain op? next n lhs).Pairs (chain op? next' n lhs') L.expr := by
  induction n generalizing lhs lhs' with
  | zero => exact pairs_pure hlhs
  | succ n ih =>
    refine pairs_found (pairs_takeIf op?) (pairs_pure hlhs) ?_
    rintro ⟨op, t⟩ ⟨_, t'⟩ ⟨rfl, -⟩
    exact pairs_bind hnext fun _ _ hrhs =>
      ih (hL.expr (.binary op hlhs hrhs (hL.position _ _)))

theorem pairs_leftAssoc (op? : Lexeme → Option BinaryOp) {next next' : Arguments Expr}
    (hnext : next.Pairs next' L.expr) :
    (leftAssoc op? next).Pairs (leftAssoc op? next') L.expr := by
  refine pairs_bind hnext fun lhs lhs' hlhs => pairs_bind pairs_left ?_
  rintro n _ rfl
  exact pairs_chain hL op? hnext n hlhs

/-! ### Operands -/

omit hL in
theorem pairs_listRest {item item' : Arguments Expr} (hitem : item.Pairs item' L.expr)
    (close : Symbol) (n : Nat) :
    (listRest item close n).Pairs (listRest item' close n) (List.Forall₂ L.expr) := by
  induction n with
  | zero =>
    exact pairs_bind hitem fun a a' ha => pairs_bind (pairs_symbol close) fun _ _ _ =>
      pairs_pure (.cons ha .nil)
  | succ n ih =>
    refine pairs_bind hitem fun a a' ha => pairs_found (pairs_symbol? .comma) ?_ fun _ _ _ => ?_
    · exact pairs_bind (pairs_symbol close) fun _ _ _ => pairs_pure (.cons ha .nil)
    · exact pairs_bind ih fun _ _ hrest => pairs_pure (.cons ha hrest)

omit hL in
theorem pairs_listUpTo {i i' : Inner} (hi : i.Pairs L i') (close : Symbol) :
    (listUpTo i close).Pairs (listUpTo i' close) (List.Forall₂ L.expr) := by
  refine pairs_found (pairs_symbol? close) ?_ fun _ _ _ => pairs_pure .nil
  refine pairs_bind pairs_left ?_
  rintro n _ rfl
  exact pairs_listRest hi.group close n

/-- A number without a fraction. -/
theorem pairs_integer (ds : String) (t t' : Token) :
    Pairs
      (match Integer.read? ds.toList with
        | some n => pure (.literal (.int n))
        | none => refuse t (.integerRange ds))
      (match Integer.read? ds.toList with
        | some n => pure (.literal (.int n))
        | none => refuse t' (.integerRange ds)) L.expr := by
  split
  · exact pairs_pure (hL.expr (.literal _))
  · exact pairs_refuse _ _ _ _

theorem pairs_number (ds : String) (t t' : Token) :
    (number ds t).Pairs (number ds t') L.expr := by
  have hinteger := pairs_integer hL ds t t'
  refine pairs_found pairs_peek ?_ fun point point' hpoint => ?_
  · exact pairs_bind pairs_peekSecond fun _ _ _ => hinteger
  · refine pairs_found pairs_peekSecond hinteger fun second second' hsecond => ?_
    dsimp only
    rw [hpoint, hsecond]
    split
    · exact pairs_bind (pairs_skip 2) fun _ _ _ => pairs_pure (hL.expr (.literal _))
    · exact hinteger

omit hL in
theorem pairs_memberStep : memberStep.Pairs memberStep (Segment.Congruent L) := by
  refine pairs_found pairs_peekSecond ?_ fun t t' ht => ?_
  · exact pairs_bind (pairs_skip 1) fun _ _ _ => pairs_want _ _
  · dsimp only
    rw [ht]
    split
    · exact pairs_bind (pairs_skip 2) fun _ _ _ => pairs_pure (.attr _)
    · exact pairs_bind (pairs_skip 2) fun _ _ _ => pairs_pure (.attr _)
    · split
      · exact pairs_bind (pairs_skip 2) fun _ _ _ => pairs_pure (.index _)
      · exact pairs_refuse _ _ _ _
    · exact pairs_bind (pairs_skip 1) fun _ _ _ => pairs_want _ _

omit hL in
theorem pairs_steps {i i' : Inner} (hi : i.Pairs L i') (n : Nat) :
    (steps i n).Pairs (steps i' n) (List.Forall₂ (Segment.Congruent L)) := by
  induction n with
  | zero => exact pairs_pure .nil
  | succ n ih =>
    have hmore {s s' : Segment} (hs : s.Congruent L s') :
        Pairs (do return s :: (← steps i n)) (do return s' :: (← steps i' n))
          (List.Forall₂ (Segment.Congruent L)) :=
      pairs_bind ih fun _ _ hrest => pairs_pure (.cons hs hrest)
    refine pairs_bind pairs_peek fun next next' hnext => ?_
    have hsame : next.map Token.lexeme = next'.map Token.lexeme := by
      cases hnext with
      | none => rfl
      | some ht => exact congrArg some ht
    rw [hsame]
    split
    · exact pairs_bind pairs_memberStep fun _ _ hs => hmore hs
    · refine pairs_bind (pairs_skip 1) fun _ _ _ => pairs_bind hi.group fun _ _ hkey => ?_
      exact pairs_bind (pairs_symbol _) fun _ _ _ => hmore (.subscript hkey)
    · refine pairs_bind (pairs_skip 1) fun _ _ _ => ?_
      exact pairs_bind (pairs_listUpTo hi _) fun _ _ hargs => hmore (.call hargs)
    · exact pairs_pure .nil

theorem pairs_operand {i i' : Inner} (hi : i.Pairs L i') :
    (operand i).Pairs (operand i') L.expr := by
  have hliteral (l : Literal) :
      Pairs (do skip 1; pure (.literal l)) (do skip 1; pure (.literal l)) L.expr :=
    pairs_bind (pairs_skip 1) fun _ _ _ => pairs_pure (hL.expr (.literal l))
  refine pairs_found pairs_peek (pairs_want _ _) fun t t' ht => ?_
  dsimp only
  rw [← ht]
  split
  · refine pairs_bind (pairs_skip 1) fun _ _ _ => pairs_bind hi.group fun _ _ he => ?_
    exact pairs_bind (pairs_symbol _) fun _ _ _ => pairs_pure he
  · refine pairs_bind (pairs_skip 1) fun _ _ _ => ?_
    exact pairs_bind (pairs_listUpTo hi _) fun _ _ hitems => pairs_pure (hL.expr (.array hitems))
  · exact pairs_bind (pairs_skip 1) fun _ _ _ => pairs_number hL _ _ _
  · exact hliteral _
  · exact hliteral _
  · exact hliteral _
  · refine pairs_bind (pairs_skip 1) fun _ _ _ => pairs_bind pairs_left ?_
    rintro n _ rfl
    exact pairs_bind (pairs_steps hi n) fun _ _ hsegments =>
      pairs_pure (hL.expr (.path (hL.name _) hsegments (hL.position _ _)))
  · exact pairs_refuse _ _ _ _

/-! ### Filters -/

theorem pairs_filterCall {i i' : Inner} (hi : i.Pairs L i') :
    (filterCall i).Pairs (filterCall i') (FilterCall.Congruent L) := by
  refine pairs_found pairs_identifier? (pairs_want _ _) ?_
  rintro ⟨name, t⟩ ⟨_, t'⟩ ⟨rfl, -⟩
  refine pairs_read_bind fun env env' henv => ?_
  dsimp only
  rw [henv.filters]
  split
  · exact pairs_refuse _ _ _ _
  · split
    · exact pairs_refuse _ _ _ _
    · refine pairs_found (pairs_symbol? .colon) ?_ fun _ _ _ => ?_
      · exact pairs_pure (.mk name _ .none (hL.position _ _))
      · exact pairs_bind hi.operand fun _ _ he =>
          pairs_pure (.mk name _ (.some he) (hL.position _ _))

theorem pairs_filtersRest {i i' : Inner} (hi : i.Pairs L i') (n : Nat) :
    (filtersRest i n).Pairs (filtersRest i' n) (List.Forall₂ (FilterCall.Congruent L)) := by
  induction n with
  | zero => exact pairs_pure .nil
  | succ n ih =>
    refine pairs_found (pairs_symbol? .bar) (pairs_pure .nil) fun _ _ _ => ?_
    exact pairs_bind (pairs_filterCall hL hi) fun _ _ hf => pairs_bind ih fun _ _ hrest =>
      pairs_pure (.cons hf hrest)

/-! ### Levels -/

theorem pairs_primary {i i' : Inner} (hi : i.Pairs L i') :
    (primary i).Pairs (primary i') L.expr := by
  refine pairs_bind (pairs_operand hL hi) fun e e' he => pairs_bind pairs_left ?_
  rintro n _ rfl
  refine pairs_bind (pairs_filtersRest hL hi n) fun filters filters' hfilters => ?_
  cases hfilters with
  | nil => exact pairs_pure he
  | cons hf hrest => exact pairs_pure (hL.expr (.filtered he (.cons hf hrest)))

theorem pairs_unary {i i' : Inner} (hi : i.Pairs L i') :
    (Grammar.unary i).Pairs (Grammar.unary i') L.expr := by
  refine pairs_found (pairs_takeIf _) (pairs_primary hL hi) ?_
  rintro ⟨op, t⟩ ⟨_, t'⟩ ⟨rfl, -⟩
  exact pairs_bind hi.unary fun _ _ he =>
    pairs_pure (hL.expr (.unary op he (hL.position _ _)))

theorem pairs_power {i i' : Inner} (hi : i.Pairs L i') :
    (Grammar.power i).Pairs (Grammar.power i') L.expr := by
  refine pairs_bind (pairs_unary hL hi) fun base base' hbase => ?_
  refine pairs_found (pairs_symbol? .caret) (pairs_pure hbase) fun _ _ _ => ?_
  exact pairs_bind hi.power fun _ _ he =>
    pairs_pure (hL.expr (.binary .pow hbase he (hL.position _ _)))

omit hL in
theorem pairs_relation : relation?.Pairs relation? (Option.Rel (TakenAlike Eq)) := by
  refine pairs_found pairs_peek ?_ fun t t' ht => ?_
  · exact pairs_bind pairs_peekSecond fun _ _ _ => pairs_takeIf _
  · refine pairs_found pairs_peekSecond (pairs_takeIf _) fun second second' hsecond => ?_
    unfold Token.isKeyword
    dsimp only
    rw [ht, hsecond]
    refine pairs_ite (fun _ => ?_) fun _ => pairs_takeIf _
    exact pairs_bind (pairs_skip 2) fun _ _ _ => pairs_pure (.some ⟨rfl, ht⟩)

theorem pairs_disjunction {i i' : Inner} (hi : i.Pairs L i') :
    (disjunction i).Pairs (disjunction i') L.expr := by
  have hadditive : (additive i).Pairs (additive i') L.expr :=
    pairs_leftAssoc hL _ (pairs_leftAssoc hL _ (pairs_power hL hi))
  have hrelational : (relational i).Pairs (relational i') L.expr := by
    refine pairs_bind hadditive fun lhs lhs' hlhs => ?_
    refine pairs_found pairs_relation (pairs_pure hlhs) ?_
    rintro ⟨op, t⟩ ⟨_, t'⟩ ⟨rfl, -⟩
    exact pairs_bind hadditive fun _ _ hrhs =>
      pairs_pure (hL.expr (.binary op hlhs hrhs (hL.position _ _)))
  exact pairs_leftAssoc hL _ (pairs_leftAssoc hL _ hrelational)

/-- Every level of nesting reads the same. -/
theorem pairs_inner (room : Nat) : (inner room).Pairs L (inner room) := by
  induction room with
  | zero =>
    have htooDeep : tooDeep.Pairs tooDeep L.expr :=
      pairs_read_bind fun _ _ _ => pairs_want _ _
    exact ⟨htooDeep, htooDeep, htooDeep, htooDeep, htooDeep⟩
  | succ room ih =>
    exact ⟨pairs_disjunction hL ih, ih.expression, pairs_power hL ih, pairs_unary hL ih,
      pairs_operand hL ih⟩

theorem pairs_expression : Pairs expression expression L.expr :=
  pairs_read_bind fun _ _ henv => henv.depthLimit ▸ (pairs_inner hL _).expression

theorem pairs_filterChain :
    filterChain.Pairs filterChain (List.Forall₂ (FilterCall.Congruent L)) := by
  refine pairs_read_bind fun env env' henv => ?_
  rw [henv.depthLimit]
  have hi := pairs_inner hL env'.depthLimit
  refine pairs_bind (pairs_filterCall hL hi) fun _ _ hf => pairs_bind pairs_left ?_
  rintro n _ rfl
  exact pairs_bind (pairs_filtersRest hL hi n) fun _ _ hrest => pairs_pure (.cons hf hrest)

theorem pairs_bindingsUpTo (n : Nat) :
    (bindingsUpTo n).Pairs (bindingsUpTo n) (List.Forall₂ (L.entry L.expr)) := by
  induction n with
  | zero => exact pairs_pure .nil
  | succ n ih =>
    refine pairs_found pairs_peek ?_ fun t t' ht => ?_
    · exact pairs_bind pairs_peekSecond fun _ _ _ => pairs_pure .nil
    · refine pairs_found pairs_peekSecond (pairs_pure .nil) fun second second' hsecond => ?_
      dsimp only
      rw [ht, hsecond]
      split
      · refine pairs_bind (pairs_skip 2) fun _ _ _ => pairs_bind (pairs_expression hL) ?_
        exact fun _ _ he => pairs_bind ih fun _ _ hrest =>
          pairs_pure (.cons ⟨rfl, hL.name _, he⟩ hrest)
      · exact pairs_pure .nil

theorem pairs_bindings : bindings.Pairs bindings (List.Forall₂ (L.entry L.expr)) := by
  refine pairs_bind pairs_left ?_
  rintro n _ rfl
  exact pairs_bindingsUpTo hL n

end Grammar

end Stencil
