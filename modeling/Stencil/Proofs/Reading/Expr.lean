import Stencil.Arguments
import Stencil.Expr.Grammar
import Stencil.Proofs.Rules

/-!
# What readers of expressions give

Conditions on the tokens of a template hold for what is read from them, and so the expressions that
are read obey the rules.
-/

namespace Stencil

/-!
## What readers of arguments give

A reader of arguments takes tokens from the front.  What it gives can depend on how the tokens are
worded: a filter is named behind a bar, and a tag can be followed by the name of a filter or of a
mode.  Conditions on such places hold for all tokens of a template and so for those of every tag.
-/

section Readers

/-- What tokens may say. -/
structure Wording where
  text : String → Prop := fun _ => True
  /-- The name behind a bar. -/
  filter : String → Prop := fun _ => True
  /-- The name behind the name of a tag. -/
  first : (tag name : String) → Prop := fun _ _ => True

/-- The tokens say what they may. -/
structure Wording.Fits (w : Wording) (ts : List Token) : Prop where
  text : ∀ s, Lexeme.text s ∈ ts.map Token.lexeme → w.text s
  filter : ∀ name, [.symbol .bar, .identifier name] <:+: ts.map Token.lexeme → w.filter name
  first : ∀ tag name,
    [.symbol .openTag, .identifier tag, .identifier name] <:+: ts.map Token.lexeme →
      w.first tag name

theorem Wording.Fits.of_infix {w : Wording} {ts part : List Token} (h : w.Fits ts)
    (hpart : part <:+: ts) : w.Fits part where
  text s hs := h.text s ((hpart.map _).subset hs)
  filter name hname := h.filter name (hname.trans (hpart.map _))
  first tag name hname := h.first tag name (hname.trans (hpart.map _))

theorem Wording.Fits.of_suffix {w : Wording} {ts rest : List Token} (h : w.Fits ts)
    (hrest : rest <:+ ts) : w.Fits rest := h.of_infix hrest.isInfix

namespace Arguments

/-- The name that the first token is, if it is one. -/
def firstName? (ts : List Token) : Option String := ts.head?.bind Token.name?

theorem lexeme_of_name? {t : Token} {name : String} (h : t.name? = some name) :
    t.lexeme = .identifier name := by
  unfold Token.name? at h
  split at h
  · cases h
    assumption
  · cases h

theorem firstName?_eq_some {ts : List Token} {name : String} (h : firstName? ts = some name) :
    [.identifier name] <+: ts.map Token.lexeme := by
  cases ts with
  | nil => cases h
  | cons t ts =>
    have ht : t.name? = some name := h
    exact List.cons_prefix_cons.mpr ⟨(lexeme_of_name? ht).symm, List.nil_prefix⟩

/-- From tokens of the given wording that may start with the given names, `r` gives what `A` holds
for, and leaves some of the last tokens. -/
def GivesFrom {α : Type} (env : Surroundings) (w : Wording) (first : String → Prop)
    (r : Arguments α) (A : α → Prop) : Prop :=
  ∀ ts, w.Fits ts → (∀ name ∈ firstName? ts, first name) →
    ∀ a rest, r env ts = .ok (a, rest) → A a ∧ rest <:+ ts

/-- From tokens of the given wording, `r` gives what `A` holds for, and leaves some of the last
tokens. -/
def Gives {α : Type} (env : Surroundings) (w : Wording) (r : Arguments α) (A : α → Prop) : Prop :=
  ∀ ts, w.Fits ts → ∀ a rest, r env ts = .ok (a, rest) → A a ∧ rest <:+ ts

end Arguments

open Arguments

variable {env : Surroundings} {w : Wording} {α β : Type} {A A' : α → Prop} {B : β → Prop}

/-! ### Rules -/

theorem arguments_bind (r : Arguments α) (f : α → Arguments β) (env : Surroundings)
    (ts : List Token) :
    (r >>= f) env ts =
      match r env ts with
      | .ok (a, rest) => f a env rest
      | .error e => .error e := by
  change (r env ts >>= fun p => f p.1 env p.2) = _
  rcases r env ts with _ | ⟨_, _⟩ <;> rfl

theorem Arguments.Gives.from {r : Arguments α} (h : Gives env w r A) (first : String → Prop) :
    GivesFrom env w first r A := fun ts hts _ => h ts hts

theorem Arguments.Gives.imp {r : Arguments α} (h : Gives env w r A) (hA : ∀ a, A a → A' a) :
    Gives env w r A' := fun ts hts a rest hr =>
  have ⟨ha, hrest⟩ := h ts hts a rest hr
  ⟨hA a ha, hrest⟩

theorem givesFrom_bind {first : String → Prop} {r : Arguments α} {f : α → Arguments β}
    (hr : GivesFrom env w first r A) (hf : ∀ a, A a → Gives env w (f a) B) :
    GivesFrom env w first (r >>= f) B := by
  intro ts hts hfirst b rest h
  rw [arguments_bind] at h
  split at h
  · rename_i a middle hmiddle
    obtain ⟨ha, hsuffix⟩ := hr ts hts hfirst a middle hmiddle
    obtain ⟨hb, hrest⟩ := hf a ha middle (hts.of_suffix hsuffix) b rest h
    exact ⟨hb, hrest.trans hsuffix⟩
  · cases h

theorem gives_bind {r : Arguments α} {f : α → Arguments β} (hr : Gives env w r A)
    (hf : ∀ a, A a → Gives env w (f a) B) : Gives env w (r >>= f) B := fun ts hts b rest h =>
  givesFrom_bind (hr.from fun _ => True) hf ts hts (fun _ _ => trivial) b rest h

theorem gives_pure {a : α} (ha : A a) : Gives env w (pure a) A := by
  intro ts _ b rest h
  cases h
  exact ⟨ha, List.suffix_refl _⟩

theorem gives_want (what : Wanted) : Gives env w (want what : Arguments α) A := by
  intro ts _ a rest h
  unfold want at h
  split at h <;> cases h

theorem gives_refuse (t : Token) (fault : ParseFault) :
    Gives env w (refuse t fault : Arguments α) A := by
  intro ts _ a rest h
  cases h

theorem gives_refuse_bind (t : Token) (fault : ParseFault) (f : α → Arguments β) :
    Gives env w (refuse t fault >>= f) B := gives_bind (gives_refuse t fault) fun _ => False.elim

theorem gives_ite {c : Prop} [Decidable c] {r r' : Arguments α} (h : Gives env w r A)
    (h' : Gives env w r' A) : Gives env w (if c then r else r') A := by
  split
  · exact h
  · exact h'

theorem gives_read : Gives env w (read : Arguments Surroundings) (· = env) := by
  intro ts _ a rest h
  cases h
  exact ⟨rfl, List.suffix_refl _⟩

theorem givesFrom_read_bind {first : String → Prop} {f : Surroundings → Arguments β}
    (h : GivesFrom env w first (f env) B) : GivesFrom env w first (read >>= f) B := h

/-! ### Single tokens -/

theorem gives_peek : Gives env w peek? fun _ => True := by
  intro ts _ a rest h
  cases h
  exact ⟨trivial, List.suffix_refl _⟩

theorem gives_peekSecond : Gives env w peekSecond? fun _ => True := by
  intro ts _ a rest h
  cases h
  exact ⟨trivial, List.suffix_refl _⟩

theorem gives_left : Gives env w left fun _ => True := by
  intro ts _ a rest h
  cases h
  exact ⟨trivial, List.suffix_refl _⟩

theorem gives_skip (n : Nat) : Gives env w (skip n) fun _ => True := by
  intro ts _ a rest h
  cases h
  exact ⟨trivial, List.drop_suffix n ts⟩

theorem gives_takeAll : Gives env w takeAll fun _ => True := by
  intro ts _ a rest h
  cases h
  exact ⟨trivial, List.nil_suffix⟩

theorem gives_takeIf (f : Lexeme → Option α) : Gives env w (takeIf f) fun _ => True := by
  intro ts _ a rest h
  refine ⟨trivial, ?_⟩
  unfold takeIf at h
  split at h
  · cases h
    exact List.suffix_refl _
  · split at h <;> cases h
    · exact List.suffix_cons _ _
    · exact List.suffix_refl _

theorem gives_symbol? (s : Symbol) : Gives env w (symbol? s) fun _ => True :=
  gives_bind (gives_takeIf _) fun _ _ => gives_pure trivial

theorem symbol?_eq_some {s : Symbol} {t : Token} {ts rest : List Token}
    (h : symbol? s env ts = .ok (some t, rest)) : ts = t :: rest ∧ t.lexeme = .symbol s := by
  unfold symbol? takeIf at h
  rw [arguments_bind] at h
  cases ts with
  | nil => cases h
  | cons u ts =>
    dsimp only at h
    by_cases hu : u.lexeme = .symbol s
    · rw [if_pos hu] at h
      cases h
      exact ⟨rfl, hu⟩
    · rw [if_neg hu] at h
      cases h

/-- Behind a bar stands a name that may stand there. -/
theorem gives_bar_bind {f : Option Token → Arguments β} (hnone : Gives env w (f none) B)
    (hsome : ∀ t, GivesFrom env w w.filter (f (some t)) B) :
    Gives env w (symbol? .bar >>= f) B := by
  intro ts hts b rest h
  rw [arguments_bind] at h
  split at h
  · rename_i found middle hmiddle
    have hsuffix : middle <:+ ts := (gives_symbol? .bar ts hts found middle hmiddle).2
    have hfits := hts.of_suffix hsuffix
    cases found with
    | none =>
      obtain ⟨hb, hrest⟩ := hnone middle hfits b rest h
      exact ⟨hb, hrest.trans hsuffix⟩
    | some t =>
      obtain ⟨rfl, ht⟩ := symbol?_eq_some hmiddle
      have hname : ∀ name ∈ firstName? middle, w.filter name := by
        intro name hname
        have hbar : [.symbol .bar, .identifier name] <+: (t :: middle).map Token.lexeme :=
          List.cons_prefix_cons.mpr ⟨ht.symm, firstName?_eq_some hname⟩
        exact hts.filter name hbar.isInfix
      obtain ⟨hb, hrest⟩ := hsome t middle hfits hname b rest h
      exact ⟨hb, hrest.trans hsuffix⟩
  · cases h

theorem gives_keyword? (k : Keyword) : Gives env w (keyword? k) fun _ => True :=
  gives_bind (gives_takeIf _) fun _ _ => gives_pure trivial

theorem gives_word? (name : String) : Gives env w (word? name) fun _ => True :=
  gives_bind (gives_takeIf _) fun _ _ => gives_pure trivial

theorem givesFrom_identifier? (first : String → Prop) :
    GivesFrom env w first identifier? fun found => ∀ a ∈ found, first a.1 := by
  intro ts hts hfirst found rest h
  refine ⟨?_, (gives_takeIf _ ts hts found rest h).2⟩
  unfold identifier? takeIf at h
  split at h
  · cases h
    nofun
  · rename_i t tail
    split at h <;> cases h
    · rename_i name hname
      rintro a ⟨⟩
      exact hfirst name hname
    · nofun

theorem gives_identifier? : Gives env w identifier? fun _ => True := gives_takeIf _

theorem givesFrom_identifier (first : String → Prop) :
    GivesFrom env w first identifier fun a => first a.1 := by
  refine givesFrom_bind (givesFrom_identifier? first) fun found hfound => ?_
  split
  · exact gives_pure (hfound _ rfl)
  · exact gives_want _

theorem gives_identifier : Gives env w identifier fun _ => True := by
  refine gives_bind gives_identifier? fun found _ => ?_
  split
  · exact gives_pure trivial
  · exact gives_want _

theorem gives_string : Gives env w string fun _ => True := by
  refine gives_bind (gives_takeIf _) fun found _ => ?_
  split
  · exact gives_pure trivial
  · exact gives_want _

theorem gives_symbol (s : Symbol) : Gives env w (symbol s) fun _ => True := by
  refine gives_bind (gives_symbol? s) fun found _ => ?_
  split
  · exact gives_pure trivial
  · exact gives_want _

theorem gives_keyword (k : Keyword) : Gives env w (keyword k) fun _ => True := by
  refine gives_bind (gives_keyword? k) fun found _ => ?_
  split
  · exact gives_pure trivial
  · exact gives_want _

theorem gives_done (tag : String) : Gives env w (done tag) fun _ => True := by
  refine gives_bind gives_peek fun found _ => ?_
  split
  · exact gives_pure trivial
  · exact gives_refuse _ _

end Readers

/-!
## What the grammar of expressions gives

A filter gets into an expression in one place of the grammar, and there it is looked up and refused
if it is banned. So every expression that is read obeys the rules that the registry of filters
obeys.
-/

section Grammar

open Arguments Grammar

/-- The filters that can be found and are not banned are allowed where tokens have the given
wording. -/
def Registry.Admits (filters : Registry FilterRef) (w : Wording) (r : Rules) : Prop :=
  ∀ name f, w.filter name → filters.isBanned name = false → filters.find? name = some f →
    r.filter name f

/-- What a level finds further in gives expressions that obey the rules. -/
structure Grammar.Inner.Obeys (env : Surroundings) (w : Wording) (r : Rules) (i : Grammar.Inner) :
    Prop where
  expression : Gives env w i.expression (Expr.Obeys r)
  group : Gives env w i.group (Expr.Obeys r)
  power : Gives env w i.power (Expr.Obeys r)
  unary : Gives env w i.unary (Expr.Obeys r)
  operand : Gives env w i.operand (Expr.Obeys r)

variable {env : Surroundings} {w : Wording} {r : Rules} {i : Inner}

/-! ### Lists and operators -/

theorem gives_chain {op? : Lexeme → Option BinaryOp} {next : Arguments Expr}
    (hnext : Gives env w next (Expr.Obeys r)) (n : Nat) (lhs : Expr) (hlhs : lhs.Obeys r) :
    Gives env w (chain op? next n lhs) (Expr.Obeys r) := by
  induction n generalizing lhs with
  | zero => exact gives_pure hlhs
  | succ n ih =>
    refine gives_bind (gives_takeIf op?) fun found _ => ?_
    split
    · exact gives_pure hlhs
    · exact gives_bind hnext fun rhs hrhs => ih _ (.binary hlhs hrhs)

theorem gives_leftAssoc {op? : Lexeme → Option BinaryOp} {next : Arguments Expr}
    (hnext : Gives env w next (Expr.Obeys r)) :
    Gives env w (leftAssoc op? next) (Expr.Obeys r) :=
  gives_bind hnext fun lhs hlhs => gives_bind gives_left fun n _ => gives_chain hnext n lhs hlhs

/-- All expressions of a list obey the rules. -/
def Exprs.Obey (r : Rules) (es : List Expr) : Prop := ∀ e ∈ es, e.Obeys r

theorem Exprs.Obey.nil : Exprs.Obey r [] := nofun

theorem Exprs.Obey.cons {e : Expr} {es : List Expr} (he : e.Obeys r) (hes : Exprs.Obey r es) :
    Exprs.Obey r (e :: es) := List.forall_mem_cons.mpr ⟨he, hes⟩

theorem gives_listRest {item : Arguments Expr} (hitem : Gives env w item (Expr.Obeys r))
    (close : Symbol) (n : Nat) : Gives env w (listRest item close n) (Exprs.Obey r) := by
  induction n with
  | zero =>
    refine gives_bind hitem fun e he => gives_bind (gives_symbol close) fun _ _ => ?_
    exact gives_pure (.cons he .nil)
  | succ n ih =>
    refine gives_bind hitem fun e he => gives_bind (gives_symbol? .comma) fun found _ => ?_
    split
    · exact gives_bind ih fun es hes => gives_pure (.cons he hes)
    · exact gives_bind (gives_symbol close) fun _ _ => gives_pure (.cons he .nil)

theorem gives_listUpTo (hi : i.Obeys env w r) (close : Symbol) :
    Gives env w (listUpTo i close) (Exprs.Obey r) := by
  refine gives_bind (gives_symbol? close) fun found _ => ?_
  split
  · exact gives_pure .nil
  · exact gives_bind gives_left fun n _ => gives_listRest hi.group close n

/-! ### Operands -/

theorem gives_number (ds : String) (t : Token) :
    Gives env w (number ds t) (Expr.Obeys r) := by
  refine gives_bind gives_peek fun point _ => gives_bind gives_peekSecond fun second _ => ?_
  dsimp only
  split
  · exact gives_bind (gives_skip 2) fun _ _ => gives_pure (.literal _)
  · split
    · exact gives_pure (.literal _)
    · exact gives_refuse t _

theorem gives_memberStep : Gives env w memberStep (Segment.Obeys r) := by
  refine gives_bind gives_peekSecond fun second _ => ?_
  split
  · split
    · exact gives_bind (gives_skip 2) fun _ _ => gives_pure (.attr _)
    · exact gives_bind (gives_skip 2) fun _ _ => gives_pure (.attr _)
    · split
      · exact gives_bind (gives_skip 2) fun _ _ => gives_pure (.index _)
      · exact gives_refuse _ _
    · exact gives_bind (gives_skip 1) fun _ _ => gives_want _
  · exact gives_bind (gives_skip 1) fun _ _ => gives_want _

theorem gives_steps (hi : i.Obeys env w r) (n : Nat) :
    Gives env w (steps i n) fun segments => ∀ segment ∈ segments, segment.Obeys r := by
  induction n with
  | zero => exact gives_pure nofun
  | succ n ih =>
    refine gives_bind gives_peek fun found _ => ?_
    split
    · refine gives_bind (gives_memberStep (r := r)) fun step hstep => ?_
      refine gives_bind ih fun rest hrest => ?_
      exact gives_pure (List.forall_mem_cons.mpr ⟨hstep, hrest⟩)
    · refine gives_bind (gives_skip 1) fun _ _ => gives_bind hi.group fun key hkey => ?_
      refine gives_bind (gives_symbol .closeBracket) fun _ _ => gives_bind ih fun rest hrest => ?_
      exact gives_pure (List.forall_mem_cons.mpr ⟨.subscript hkey, hrest⟩)
    · refine gives_bind (gives_skip 1) fun _ _ => ?_
      refine gives_bind (gives_listUpTo hi .closeParen) fun args hargs => ?_
      refine gives_bind ih fun rest hrest => ?_
      exact gives_pure (List.forall_mem_cons.mpr ⟨.call hargs, hrest⟩)
    · exact gives_pure nofun

theorem gives_operand (hi : i.Obeys env w r) : Gives env w (operand i) (Expr.Obeys r) := by
  refine gives_bind gives_peek fun found _ => ?_
  split
  · exact gives_want _
  · split
    · refine gives_bind (gives_skip 1) fun _ _ => gives_bind hi.group fun e he => ?_
      exact gives_bind (gives_symbol .closeParen) fun _ _ => gives_pure he
    · refine gives_bind (gives_skip 1) fun _ _ => ?_
      exact gives_bind (gives_listUpTo hi .closeBracket) fun items hitems =>
        gives_pure (.array hitems)
    · exact gives_bind (gives_skip 1) fun _ _ => gives_number _ _
    · exact gives_bind (gives_skip 1) fun _ _ => gives_pure (.literal _)
    · exact gives_bind (gives_skip 1) fun _ _ => gives_pure (.literal _)
    · exact gives_bind (gives_skip 1) fun _ _ => gives_pure (.literal _)
    · refine gives_bind (gives_skip 1) fun _ _ => gives_bind gives_left fun n _ => ?_
      exact gives_bind (gives_steps hi n) fun segments hsegments => gives_pure (.path hsegments)
    · exact gives_refuse _ _

/-! ### Filters -/

theorem givesFrom_filterCall (henv : env.filters.Admits w r) (hi : i.Obeys env w r) :
    GivesFrom env w w.filter (filterCall i) (FilterCall.Obeys r) := by
  refine givesFrom_bind (givesFrom_identifier? w.filter) fun found hfound => ?_
  split
  · exact gives_want _
  · rename_i name t
    refine gives_bind gives_read fun _ henv' => ?_
    subst henv'
    dsimp only
    split
    · exact gives_refuse _ _
    · rename_i hbanned
      split
      · exact gives_refuse _ _
      · rename_i f hf
        have hallowed : r.filter name f := henv name f (hfound _ rfl) (by simpa using hbanned) hf
        refine gives_bind (gives_symbol? .colon) fun colon _ => ?_
        split
        · refine gives_bind hi.operand fun arg harg => gives_pure (.mk hallowed ?_)
          rintro e ⟨⟩
          exact harg
        · exact gives_pure (.mk hallowed nofun)

theorem gives_filtersRest (henv : env.filters.Admits w r) (hi : i.Obeys env w r) (n : Nat) :
    Gives env w (filtersRest i n) fun filters => ∀ f ∈ filters, f.Obeys r := by
  induction n with
  | zero => exact gives_pure nofun
  | succ n ih =>
    refine gives_bar_bind (gives_pure nofun) fun _ => ?_
    refine givesFrom_bind (givesFrom_filterCall henv hi) fun f hf => ?_
    refine gives_bind ih fun rest hrest => ?_
    exact gives_pure (List.forall_mem_cons.mpr ⟨hf, hrest⟩)

/-! ### Levels -/

theorem gives_primary (henv : env.filters.Admits w r) (hi : i.Obeys env w r) :
    Gives env w (primary i) (Expr.Obeys r) := by
  refine gives_bind (gives_operand hi) fun e he => gives_bind gives_left fun n _ => ?_
  refine gives_bind (gives_filtersRest henv hi n) fun filters hfilters => ?_
  split
  · exact gives_pure he
  · exact gives_pure (.filtered he hfilters)

theorem gives_unary (henv : env.filters.Admits w r) (hi : i.Obeys env w r) :
    Gives env w (unary i) (Expr.Obeys r) := by
  refine gives_bind (gives_takeIf unaryOp?) fun found _ => ?_
  split
  · exact gives_primary henv hi
  · exact gives_bind hi.unary fun e he => gives_pure (.unary he)

theorem gives_power (henv : env.filters.Admits w r) (hi : i.Obeys env w r) :
    Gives env w (power i) (Expr.Obeys r) := by
  refine gives_bind (gives_unary henv hi) fun base hbase => ?_
  refine gives_bind (gives_symbol? .caret) fun found _ => ?_
  split
  · exact gives_pure hbase
  · exact gives_bind hi.power fun e he => gives_pure (.binary hbase he)

theorem gives_additive (henv : env.filters.Admits w r) (hi : i.Obeys env w r) :
    Gives env w (additive i) (Expr.Obeys r) :=
  gives_leftAssoc (gives_leftAssoc (gives_power henv hi))

theorem gives_relation : Gives env w relation? fun _ => True := by
  refine gives_bind gives_peek fun t _ => gives_bind gives_peekSecond fun second _ => ?_
  split
  · split
    · exact gives_bind (gives_skip 2) fun _ _ => gives_pure trivial
    · exact gives_takeIf _
  · exact gives_takeIf _

theorem gives_relational (henv : env.filters.Admits w r) (hi : i.Obeys env w r) :
    Gives env w (relational i) (Expr.Obeys r) := by
  refine gives_bind (gives_additive henv hi) fun lhs hlhs => ?_
  refine gives_bind gives_relation fun found _ => ?_
  split
  · exact gives_pure hlhs
  · exact gives_bind (gives_additive henv hi) fun rhs hrhs => gives_pure (.binary hlhs hrhs)

theorem gives_disjunction (henv : env.filters.Admits w r) (hi : i.Obeys env w r) :
    Gives env w (disjunction i) (Expr.Obeys r) :=
  gives_leftAssoc (gives_leftAssoc (gives_relational henv hi))

theorem gives_tooDeep : Gives env w tooDeep (Expr.Obeys r) :=
  gives_bind gives_read fun _ _ => gives_want _

/-- Every level of nesting gives expressions that obey the rules. -/
theorem inner_obeys (henv : env.filters.Admits w r) (room : Nat) :
    (inner room).Obeys env w r := by
  induction room with
  | zero => exact ⟨gives_tooDeep, gives_tooDeep, gives_tooDeep, gives_tooDeep, gives_tooDeep⟩
  | succ room ih =>
    exact ⟨gives_disjunction henv ih, ih.expression, gives_power henv ih, gives_unary henv ih,
      gives_operand ih⟩

/-! ### Arguments -/

theorem gives_expression (henv : env.filters.Admits w r) :
    Gives env w Arguments.expression (Expr.Obeys r) :=
  gives_bind gives_read fun _ _ => (inner_obeys henv _).expression

theorem givesFrom_filterChain (henv : env.filters.Admits w r) :
    GivesFrom env w w.filter filterChain fun filters => ∀ f ∈ filters, f.Obeys r := by
  refine givesFrom_read_bind ?_
  refine givesFrom_bind (givesFrom_filterCall henv (inner_obeys henv _)) fun f hf => ?_
  refine gives_bind gives_left fun n _ => ?_
  refine gives_bind (gives_filtersRest henv (inner_obeys henv _) n) fun rest hrest => ?_
  exact gives_pure (List.forall_mem_cons.mpr ⟨hf, hrest⟩)

theorem gives_bindings (henv : env.filters.Admits w r) :
    Gives env w Arguments.bindings fun bindings => ∀ b ∈ bindings, b.2.Obeys r := by
  have hupTo (n : Nat) :
      Gives env w (bindingsUpTo n) fun bindings => ∀ b ∈ bindings, b.2.Obeys r := by
    induction n with
    | zero => exact gives_pure nofun
    | succ n ih =>
      refine gives_bind gives_peek fun t _ => gives_bind gives_peekSecond fun second _ => ?_
      split
      · split
        · refine gives_bind (gives_skip 2) fun _ _ => ?_
          refine gives_bind (gives_expression henv) fun e he => gives_bind ih fun rest hrest => ?_
          exact gives_pure (List.forall_mem_cons.mpr ⟨he, hrest⟩)
        · exact gives_pure nofun
      · exact gives_pure nofun
  exact gives_bind gives_left fun n _ => hupTo n

end Grammar

end Stencil
