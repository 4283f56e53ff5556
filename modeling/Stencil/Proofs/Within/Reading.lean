import Stencil.Expr.Grammar
import Stencil.Proofs.Keeping
import Stencil.Proofs.Reading.Expr
import Stencil.Proofs.Reading.Draft
import Stencil.Proofs.Table
import Stencil.Proofs.Within.Vocabulary

/-!
# Reading within a vocabulary

Where tokens stand at positions of a vocabulary, readers of arguments and of drafts give what is
within it, or fail within it.
-/

namespace Stencil

/-!
## Arguments within a vocabulary

The positions in an expression are those of the tokens it was read from, and what a reader refuses
it reports at a token or at the closing delimiter. So if these stand where the vocabulary says, all
that is read is within it, and so are the errors.
-/

section Expressions

/-- What stands here may fail when it is read and when it is executed. -/
def Vocabulary.Spot (V : Vocabulary) (p : Position) : Prop := V.position p ∧ V.unread p

/-- All tokens stand where something may fail. -/
def Vocabulary.Spots (V : Vocabulary) (ts : List Token) : Prop := ∀ t ∈ ts, V.Spot t.position

/-- From tokens at positions of the vocabulary `r` gives what `A` holds for and leaves such tokens,
or it fails within the vocabulary. -/
def Arguments.Stays {α : Type} (V : Vocabulary) (r : Arguments α) (A : α → Prop) : Prop :=
  ∀ env ts, V.Spot env.close → V.Spots ts →
    match r env ts with
    | .ok (a, rest) => A a ∧ V.Spots rest
    | .error e => e.Unread V

open Arguments Grammar

variable {V : Vocabulary} {α β : Type} {A A' : α → Prop} {B : β → Prop} {r : Arguments α}

/-! ### Rules -/

theorem Vocabulary.Spots.of_suffix {ts rest : List Token} (h : V.Spots ts) (hrest : rest <:+ ts) :
    V.Spots rest := fun t ht => h t (hrest.subset ht)

theorem stays_pure {a : α} (ha : A a) : Stays V (pure a) A := fun _ _ _ hts => ⟨ha, hts⟩

theorem stays_bind {f : α → Arguments β} (hr : Stays V r A) (hf : ∀ a, A a → Stays V (f a) B) :
    Stays V (r >>= f) B := by
  intro env ts hclose hts
  have h := hr env ts hclose hts
  rw [arguments_bind]
  generalize r env ts = found at h ⊢
  match found with
  | .ok (a, rest) => exact hf a h.1 env rest hclose h.2
  | .error e => exact h

/-- Something was found, or nothing was. -/
theorem stays_found {r : Arguments (Option α)} {f : Option α → Arguments β}
    (hr : Stays V r fun found => ∀ a ∈ found, A a) (hnone : Stays V (f none) B)
    (hsome : ∀ a, A a → Stays V (f (some a)) B) : Stays V (r >>= f) B := by
  refine stays_bind hr fun found hfound => ?_
  cases found with
  | none => exact hnone
  | some a => exact hsome a (hfound a rfl)

theorem stays_read_bind {f : Surroundings → Arguments β} (h : ∀ env, Stays V (f env) B) :
    Stays V (read >>= f) B := fun env ts hclose hts => h env env ts hclose hts

theorem stays_want (what : Wanted) : Stays V (want what : Arguments α) A := by
  intro env ts hclose hts
  cases ts with
  | nil => exact hclose.2
  | cons t ts => exact (hts t (List.mem_cons_self ..)).2

theorem stays_refuse {t : Token} (ht : V.Spot t.position) (fault : ParseFault) :
    Stays V (refuse t fault : Arguments α) A := fun _ _ _ _ => ht.2

theorem stays_refuse_bind {t : Token} (ht : V.Spot t.position) (fault : ParseFault)
    (f : α → Arguments β) : Stays V (refuse t fault >>= f) B := fun _ _ _ _ => ht.2

theorem stays_ite {c : Prop} [Decidable c] {r r' : Arguments α} (h : Stays V r A)
    (h' : Stays V r' A) : Stays V (if c then r else r') A := by
  split
  · exact h
  · exact h'

/-! ### Single tokens -/

/-- The token, if there is one, stands where something may fail. -/
abbrev Token.Spotted (V : Vocabulary) (found : Option Token) : Prop :=
  ∀ t ∈ found, V.Spot t.position

/-- What was taken, if anything was, stood where something may fail. -/
abbrev Token.Taken (V : Vocabulary) (found : Option (α × Token)) : Prop :=
  ∀ a ∈ found, V.Spot a.2.position

theorem stays_peek : Stays V peek? (Token.Spotted V) := fun _ _ _ hts =>
  ⟨fun t ht => hts t (List.mem_of_mem_head? ht), hts⟩

theorem stays_peekSecond : Stays V peekSecond? (Token.Spotted V) := fun _ _ _ hts =>
  ⟨fun t ht => hts t (List.mem_of_mem_tail (List.mem_of_mem_head? ht)), hts⟩

theorem stays_left : Stays V left fun _ => True := fun _ _ _ hts => ⟨trivial, hts⟩

theorem stays_skip (n : Nat) : Stays V (skip n) fun _ => True := fun _ ts _ hts =>
  ⟨trivial, hts.of_suffix (List.drop_suffix n ts)⟩

theorem stays_takeAll : Stays V takeAll V.Spots := fun _ _ _ hts => ⟨hts, nofun⟩

theorem stays_takeIf (f : Lexeme → Option α) : Stays V (takeIf f) (Token.Taken V) := by
  intro env ts hclose hts
  cases ts with
  | nil => exact ⟨nofun, hts⟩
  | cons t ts =>
    obtain ⟨ht, hrest⟩ := List.forall_mem_cons.mp hts
    unfold takeIf
    dsimp only
    cases f t.lexeme with
    | none => exact ⟨nofun, hts⟩
    | some a => exact ⟨fun | _, rfl => ht, hrest⟩

theorem stays_taken (f : Lexeme → Option α) :
    Stays V (do return (← takeIf f).map (·.2)) (Token.Spotted V) := by
  refine stays_bind (stays_takeIf f) fun found hfound => stays_pure fun t ht => ?_
  obtain ⟨a, ha, rfl⟩ := Option.map_eq_some_iff.mp ht
  exact hfound a ha

theorem stays_symbol? (s : Symbol) : Stays V (symbol? s) (Token.Spotted V) := stays_taken _

theorem stays_keyword? (k : Keyword) : Stays V (keyword? k) (Token.Spotted V) := stays_taken _

theorem stays_word? (name : String) : Stays V (word? name) fun _ => True :=
  stays_bind (stays_takeIf _) fun _ _ => stays_pure trivial

theorem stays_identifier? : Stays V identifier? (Token.Taken V) := stays_takeIf _

theorem stays_identifier : Stays V identifier fun a => V.Spot a.2.position :=
  stays_found stays_identifier? (stays_want _) fun _ ha => stays_pure ha

theorem stays_string : Stays V string fun a => V.Spot a.2.position :=
  stays_found (stays_takeIf _) (stays_want _) fun _ ha => stays_pure ha

theorem stays_symbol (s : Symbol) : Stays V (symbol s) fun t => V.Spot t.position :=
  stays_found (stays_symbol? s) (stays_want _) fun _ ht => stays_pure ht

theorem stays_keyword (k : Keyword) : Stays V (keyword k) fun t => V.Spot t.position :=
  stays_found (stays_keyword? k) (stays_want _) fun _ ht => stays_pure ht

theorem stays_done (tag : String) : Stays V (done tag) fun _ => True :=
  stays_found stays_peek (stays_pure trivial) fun _ ht => stays_refuse ht _

/-! ### Lists and operators -/

/-- What a level finds further in gives expressions within the vocabulary. -/
structure Grammar.Inner.Stays (V : Vocabulary) (i : Grammar.Inner) : Prop where
  expression : Arguments.Stays V i.expression (Expr.Within V)
  group : Arguments.Stays V i.group (Expr.Within V)
  power : Arguments.Stays V i.power (Expr.Within V)
  unary : Arguments.Stays V i.unary (Expr.Within V)
  operand : Arguments.Stays V i.operand (Expr.Within V)

variable {i : Inner}

theorem stays_chain {op? : Lexeme → Option BinaryOp} {next : Arguments Expr}
    (hnext : Stays V next (Expr.Within V)) (n : Nat) {lhs : Expr} (hlhs : lhs.Within V) :
    Stays V (chain op? next n lhs) (Expr.Within V) := by
  induction n generalizing lhs with
  | zero => exact stays_pure hlhs
  | succ n ih =>
    refine stays_bind (stays_takeIf op?) fun found hfound => ?_
    split
    · exact stays_pure hlhs
    · exact stays_bind hnext fun rhs hrhs => ih (.binary hlhs hrhs (hfound _ rfl).1)

theorem stays_leftAssoc {op? : Lexeme → Option BinaryOp} {next : Arguments Expr}
    (hnext : Stays V next (Expr.Within V)) : Stays V (leftAssoc op? next) (Expr.Within V) :=
  stays_bind hnext fun _ hlhs => stays_bind stays_left fun n _ => stays_chain hnext n hlhs

/-- All expressions of a list are within the vocabulary. -/
abbrev Exprs.Within (V : Vocabulary) (es : List Expr) : Prop := ∀ e ∈ es, e.Within V

theorem stays_listRest {item : Arguments Expr} (hitem : Stays V item (Expr.Within V))
    (close : Symbol) (n : Nat) : Stays V (listRest item close n) (Exprs.Within V) := by
  have hlast {e : Expr} (he : e.Within V) :
      Stays V (do let _ ← symbol close; pure [e]) (Exprs.Within V) :=
    stays_bind (stays_symbol close) fun _ _ => stays_pure (List.forall_mem_singleton.mpr he)
  induction n with
  | zero => exact stays_bind hitem fun _ he => hlast he
  | succ n ih =>
    refine stays_bind hitem fun e he => stays_bind (stays_symbol? .comma) fun found _ => ?_
    split
    · exact stays_bind ih fun es hes => stays_pure (List.forall_mem_cons.mpr ⟨he, hes⟩)
    · exact hlast he

theorem stays_listUpTo (hi : i.Stays V) (close : Symbol) :
    Stays V (listUpTo i close) (Exprs.Within V) := by
  refine stays_bind (stays_symbol? close) fun found _ => ?_
  split
  · exact stays_pure nofun
  · exact stays_bind stays_left fun n _ => stays_listRest hi.group close n

/-! ### Operands -/

theorem stays_number (ds : String) {t : Token} (ht : V.Spot t.position) :
    Stays V (number ds t) (Expr.Within V) := by
  refine stays_bind stays_peek fun point _ => stays_bind stays_peekSecond fun second _ => ?_
  dsimp only
  split
  · exact stays_bind (stays_skip 2) fun _ _ => stays_pure (.literal _)
  · split
    · exact stays_pure (.literal _)
    · exact stays_refuse ht _

theorem stays_memberStep : Stays V memberStep (Segment.Within V) := by
  have hstep {segment : Segment} (h : segment.Within V) :
      Stays V (do skip 2; pure segment) (Segment.Within V) :=
    stays_bind (stays_skip 2) fun _ _ => stays_pure h
  have hnone : Stays V (do skip 1; want .nameOrIndex) (Segment.Within V) :=
    stays_bind (stays_skip 1) fun _ _ => stays_want _
  refine stays_bind stays_peekSecond fun second hsecond => ?_
  split
  · split
    · exact hstep (.attr _)
    · exact hstep (.attr _)
    · split
      · exact hstep (.index _)
      · exact stays_refuse (hsecond _ rfl) _
    · exact hnone
  · exact hnone

theorem stays_steps (hi : i.Stays V) (n : Nat) :
    Stays V (steps i n) fun segments => ∀ segment ∈ segments, segment.Within V := by
  induction n with
  | zero => exact stays_pure nofun
  | succ n ih =>
    have hmore {segment : Segment} (h : segment.Within V) : Stays V
        (do return segment :: (← steps i n)) fun segments => ∀ s ∈ segments, s.Within V :=
      stays_bind ih fun _ hrest => stays_pure (List.forall_mem_cons.mpr ⟨h, hrest⟩)
    refine stays_bind stays_peek fun found _ => ?_
    split
    · exact stays_bind stays_memberStep fun _ hstep => hmore hstep
    · refine stays_bind (stays_skip 1) fun _ _ => stays_bind hi.group fun key hkey => ?_
      exact stays_bind (stays_symbol .closeBracket) fun _ _ => hmore (.subscript hkey)
    · refine stays_bind (stays_skip 1) fun _ _ => ?_
      exact stays_bind (stays_listUpTo hi .closeParen) fun _ hargs => hmore (.call hargs)
    · exact stays_pure nofun

section Wide

variable (hV : V.Wide)
include hV

theorem stays_operand (hi : i.Stays V) : Stays V (operand i) (Expr.Within V) := by
  refine stays_bind stays_peek fun found hfound => ?_
  split
  · exact stays_want _
  · rename_i t
    have ht : V.Spot t.position := hfound t rfl
    split
    · refine stays_bind (stays_skip 1) fun _ _ => stays_bind hi.group fun e he => ?_
      exact stays_bind (stays_symbol .closeParen) fun _ _ => stays_pure he
    · refine stays_bind (stays_skip 1) fun _ _ => ?_
      exact stays_bind (stays_listUpTo hi .closeBracket) fun items hitems =>
        stays_pure (.array hitems)
    · exact stays_bind (stays_skip 1) fun _ _ => stays_number _ ht
    · exact stays_bind (stays_skip 1) fun _ _ => stays_pure (.literal _)
    · exact stays_bind (stays_skip 1) fun _ _ => stays_pure (.literal _)
    · exact stays_bind (stays_skip 1) fun _ _ => stays_pure (.literal _)
    · refine stays_bind (stays_skip 1) fun _ _ => stays_bind stays_left fun n _ => ?_
      exact stays_bind (stays_steps hi n) fun segments hsegments =>
        stays_pure (.path (hV.name _) hsegments ht.1)
    · exact stays_refuse ht _

omit hV

/-! ### Filters -/

theorem stays_filterCall (hi : i.Stays V) : Stays V (filterCall i) (FilterCall.Within V) := by
  refine stays_bind stays_identifier? fun found hfound => ?_
  split
  · exact stays_want _
  · rename_i name t
    have ht : V.Spot t.position := hfound _ rfl
    refine stays_read_bind fun env => ?_
    dsimp only
    split
    · exact stays_refuse ht _
    · split
      · exact stays_refuse ht _
      · refine stays_bind (stays_symbol? .colon) fun colon _ => ?_
        split
        · refine stays_bind hi.operand fun arg harg => stays_pure (.mk ?_ ht.1)
          rintro _ ⟨⟩
          exact harg
        · refine stays_pure (.mk ?_ ht.1)
          rintro _ ⟨⟩

theorem stays_filtersRest (hi : i.Stays V) (n : Nat) :
    Stays V (filtersRest i n) fun filters => ∀ f ∈ filters, f.Within V := by
  induction n with
  | zero => exact stays_pure nofun
  | succ n ih =>
    refine stays_bind (stays_symbol? .bar) fun found _ => ?_
    split
    · exact stays_pure nofun
    · refine stays_bind (stays_filterCall hi) fun f hf => stays_bind ih fun rest hrest => ?_
      exact stays_pure (List.forall_mem_cons.mpr ⟨hf, hrest⟩)

include hV

/-! ### Levels -/

theorem stays_primary (hi : i.Stays V) : Stays V (primary i) (Expr.Within V) := by
  refine stays_bind (stays_operand hV hi) fun e he => stays_bind stays_left fun n _ => ?_
  refine stays_bind (stays_filtersRest hi n) fun filters hfilters => ?_
  split
  · exact stays_pure he
  · exact stays_pure (.filtered he hfilters)

theorem stays_unary (hi : i.Stays V) : Stays V (unary i) (Expr.Within V) := by
  refine stays_bind (stays_takeIf unaryOp?) fun found hfound => ?_
  split
  · exact stays_primary hV hi
  · exact stays_bind hi.unary fun e he => stays_pure (.unary he (hfound _ rfl).1)

theorem stays_power (hi : i.Stays V) : Stays V (power i) (Expr.Within V) := by
  refine stays_bind (stays_unary hV hi) fun base hbase => ?_
  refine stays_bind (stays_symbol? .caret) fun found hfound => ?_
  split
  · exact stays_pure hbase
  · exact stays_bind hi.power fun e he => stays_pure (.binary hbase he (hfound _ rfl).1)

theorem stays_additive (hi : i.Stays V) : Stays V (additive i) (Expr.Within V) :=
  stays_leftAssoc (stays_leftAssoc (stays_power hV hi))

omit hV in
theorem stays_relation : Stays V relation? (Token.Taken V) := by
  refine stays_bind stays_peek fun t ht => stays_bind stays_peekSecond fun second _ => ?_
  split
  · split
    · exact stays_bind (stays_skip 2) fun _ _ => stays_pure fun | _, rfl => ht _ rfl
    · exact stays_takeIf _
  · exact stays_takeIf _

theorem stays_relational (hi : i.Stays V) : Stays V (relational i) (Expr.Within V) := by
  refine stays_bind (stays_additive hV hi) fun lhs hlhs => ?_
  refine stays_bind stays_relation fun found hfound => ?_
  split
  · exact stays_pure hlhs
  · exact stays_bind (stays_additive hV hi) fun rhs hrhs =>
      stays_pure (.binary hlhs hrhs (hfound _ rfl).1)

theorem stays_disjunction (hi : i.Stays V) : Stays V (disjunction i) (Expr.Within V) :=
  stays_leftAssoc (stays_leftAssoc (stays_relational hV hi))

/-- Every level of nesting gives expressions within the vocabulary. -/
theorem inner_stays (room : Nat) : (inner room).Stays V := by
  induction room with
  | zero =>
    have htooDeep : Stays V tooDeep (Expr.Within V) := stays_read_bind fun _ => stays_want _
    exact ⟨htooDeep, htooDeep, htooDeep, htooDeep, htooDeep⟩
  | succ room ih =>
    exact ⟨stays_disjunction hV ih, ih.expression, stays_power hV ih, stays_unary hV ih,
      stays_operand hV ih⟩

/-! ### Arguments -/

theorem stays_expression : Stays V Arguments.expression (Expr.Within V) :=
  stays_read_bind fun _ => (inner_stays hV _).expression

theorem stays_filterChain : Stays V filterChain fun filters => ∀ f ∈ filters, f.Within V := by
  refine stays_read_bind fun env => stays_bind (stays_filterCall (inner_stays hV _)) fun f hf => ?_
  refine stays_bind stays_left fun n _ => ?_
  refine stays_bind (stays_filtersRest (inner_stays hV _) n) fun rest hrest => ?_
  exact stays_pure (List.forall_mem_cons.mpr ⟨hf, hrest⟩)

theorem stays_bindings :
    Stays V Arguments.bindings fun bindings => ∀ b ∈ bindings, b.2.Within V := by
  have hupTo (n : Nat) : Stays V (bindingsUpTo n) fun bindings => ∀ b ∈ bindings, b.2.Within V := by
    induction n with
    | zero => exact stays_pure nofun
    | succ n ih =>
      refine stays_bind stays_peek fun t _ => stays_bind stays_peekSecond fun second _ => ?_
      split
      · split
        · refine stays_bind (stays_skip 2) fun _ _ =>
            stays_bind (stays_expression hV) fun e he => ?_
          refine stays_bind ih fun rest hrest => ?_
          exact stays_pure (List.forall_mem_cons.mpr ⟨he, hrest⟩)
        · exact stays_pure nofun
      · exact stays_pure nofun
  exact stays_bind stays_left fun n _ => hupTo n

end Wide

end Expressions

/-!
## Drafts within a vocabulary

Where a template is read from tokens at positions of a vocabulary, what is read and noted on the way
is within it, and so is the error if the reader fails. What a template links to is so if the
templates that are loaded are.
-/

section Drafts

/-- A computation that was halted by an error within the vocabulary, or exhausted. -/
def Halt.Within (V : Vocabulary) : Halt → Prop
  | .error e => e.Within V
  | .exhausted => True

/-- Reading that was halted by an error where the vocabulary says, or exhausted. -/
def Halt.Unread (V : Vocabulary) : Halt → Prop
  | .error e => e.Unread V
  | .exhausted => True

/-- What was read so far is within the vocabulary. -/
structure Draft.Within (V : Vocabulary) (known : Library → Prop) (d : Draft) : Prop where
  tokens : V.Spots d.tokens
  parent : ∀ parent ∈ d.parent, parent.Within V
  blocks : ∀ b ∈ d.blocks, Body.Within V b.2
  macros : ∀ m ∈ d.macros, m.2.Within V
  library : known d.library

/-- The surroundings in which a template is read lead to nothing outside of the vocabulary. -/
structure DraftScope.Within (V : Vocabulary) (known : Library → Prop) (scope : DraftScope) :
    Prop where
  /-- The tags of the host are honest, unless it does not matter what they make. -/
  honest : (∀ statement : Statement, statement.Within V) ∨
    ∀ tag t, scope.catalog.tags.find? tag = some (.custom t) → t.Honest
  load : ∀ name l, known l →
    known ((scope.load name).run l).2 ∧
      Ends (fun found => ∀ t ∈ found, V.Links t) (Halt.Unread V) ((scope.load name).run l).1

namespace Drafting

/-- Run on the draft `d`, if that is within the vocabulary, `m` gives what `A` holds for or fails
within the vocabulary, and leaves a draft that is within it. -/
def AbidesAt {α : Type} (V : Vocabulary) (known : Library → Prop) (scope : DraftScope) (d : Draft)
    (m : Drafting α) (A : α → Prop) : Prop :=
  d.Within V known → (m scope d).2.Within V known ∧ Ends A (Halt.Unread V) (m scope d).1

/-- Run on any draft within the vocabulary, `m` gives what `A` holds for or fails within it. -/
def Abides {α : Type} (V : Vocabulary) (known : Library → Prop) (scope : DraftScope)
    (m : Drafting α) (A : α → Prop) : Prop := ∀ d, AbidesAt V known scope d m A

end Drafting

open Drafting

variable {V : Vocabulary} {known : Library → Prop} {scope : DraftScope} {d : Draft} {α β : Type}
  {A A' : α → Prop} {B : β → Prop}

/-! ### Rules -/

section Rules

variable {m m' : Drafting α} {f : α → Drafting β}

theorem abides_pure {a : α} (ha : A a) : Abides V known scope (pure a) A := fun _ hd => ⟨hd, ha⟩

theorem abides_throw {h : Halt} (hh : h.Unread V) :
    Abides V known scope (throw h : Drafting α) A := fun _ hd => ⟨hd, hh⟩

theorem abidesAt_bind (hm : AbidesAt V known scope d m A)
    (hf : ∀ a, A a → Abides V known scope (f a) B) : AbidesAt V known scope d (m >>= f) B := by
  intro hd
  obtain ⟨hd', hresult⟩ := hm hd
  rw [run_bind]
  generalize m scope d = out at hd' hresult ⊢
  obtain ⟨_ | a, d'⟩ := out
  · exact ⟨hd', hresult⟩
  · exact hf a hresult d' hd'

theorem abides_bind (hm : Abides V known scope m A)
    (hf : ∀ a, A a → Abides V known scope (f a) B) : Abides V known scope (m >>= f) B :=
  fun d => abidesAt_bind (hm d) hf

theorem abides_read_bind {f : DraftScope → Drafting β} (h : Abides V known scope (f scope) B) :
    Abides V known scope (read >>= f) B := h

theorem abidesAt_read_bind {f : DraftScope → Drafting β}
    (h : AbidesAt V known scope d (f scope) B) : AbidesAt V known scope d (read >>= f) B := h

/-- What is done with the draft is done with this draft, which is within the vocabulary. -/
theorem abides_get_bind {f : Draft → Drafting β}
    (h : ∀ d, d.Within V known → AbidesAt V known scope d (f d) B) :
    Abides V known scope (get >>= f) B := fun d hd => h d hd hd

theorem abidesAt_set_bind {d' : Draft} {f : PUnit → Drafting β} (hd' : d'.Within V known)
    (hf : AbidesAt V known scope d' (f ⟨⟩) B) : AbidesAt V known scope d (set d' >>= f) B :=
  fun _ => hf hd'

theorem abides_modify_bind {f : Draft → Draft} {k : PUnit → Drafting β}
    (hf : ∀ d : Draft, d.Within V known → (f d).Within V known)
    (hk : Abides V known scope (k ⟨⟩) B) : Abides V known scope (modify f >>= k) B :=
  fun d hd => hk (f d) (hf d hd)

theorem abidesAt_ite {c : Prop} [Decidable c] (h : AbidesAt V known scope d m A)
    (h' : AbidesAt V known scope d m' A) : AbidesAt V known scope d (if c then m else m') A := by
  split
  · exact h
  · exact h'

end Rules

/-! ### Steps -/

section Steps

theorem abides_refuse {p : Position} (hp : V.Spot p) (fault : ParseFault) :
    Abides V known scope (refuse p fault : Drafting α) A := abides_throw hp.2

theorem abides_refuse_bind {p : Position} (hp : V.Spot p) (fault : ParseFault)
    (f : α → Drafting β) : Abides V known scope (refuse p fault >>= f) B := abides_throw hp.2

theorem abides_arguments {close : Position} {ts : List Token} {r : Arguments α}
    (hclose : V.Spot close) (hts : V.Spots ts) (hr : Arguments.Stays V r A) :
    Abides V known scope (Drafting.arguments close ts r) fun a => A a.1 ∧ V.Spots a.2 := by
  refine abides_read_bind ?_
  have h := hr
    { filters := scope.catalog.filters, close, depthLimit := scope.settings.maxExpressionDepth } ts
    hclose hts
  generalize r _ ts = result at h ⊢
  match result with
  | .ok (a, rest) => exact abides_pure h
  | .error e => exact abides_throw h

theorem abides_argumentsOf {tag : String} {close : Position} {ts : List Token} {r : Arguments α}
    (hclose : V.Spot close) (hts : V.Spots ts) (hr : Arguments.Stays V r A) :
    Abides V known scope (argumentsOf tag close ts r) A := by
  have hdone : Arguments.Stays V (do let a ← r; Arguments.done tag; pure a) A :=
    stays_bind hr fun a ha => stays_bind (stays_done tag) fun _ _ => stays_pure ha
  exact abides_bind (abides_arguments hclose hts hdone) fun a ha => abides_pure ha.1

theorem abides_content {opening : Position} (hopening : V.Spot opening)
    (openSymbol closeSymbol : Symbol) :
    Abides V known scope (content opening openSymbol closeSymbol) fun a =>
      V.Spots a.1 ∧ V.Spot a.2 := by
  refine abides_get_bind fun d hd => ?_
  dsimp only
  split
  · exact abides_refuse hopening _ d
  · rename_i close rest hdrop
    have hbehind : close :: rest <:+ d.tokens := hdrop ▸ List.drop_suffix _ _
    obtain ⟨hclose, hrest⟩ := List.forall_mem_cons.mp (hd.tokens.of_suffix hbehind)
    split
    · split
      · refine abidesAt_set_bind { hd with tokens := hrest } (abides_pure ⟨?_, hclose⟩ _)
        exact fun t ht => hd.tokens t ((List.takeWhile_prefix _).subset ht)
      · exact abides_refuse hclose _ d
    · exact abides_refuse hopening _ d

theorem abides_load (hscope : scope.Within V known) (name : String) {t : Token}
    (ht : V.Spot t.position) :
    Abides V known scope (Drafting.load name t) fun found => ∀ t ∈ found, V.Links t := by
  refine abides_read_bind (abides_get_bind fun d hd => ?_)
  obtain ⟨hlibrary, hresult⟩ := hscope.load name d.library hd.library
  generalize (scope.load name).run d.library = out at hlibrary hresult ⊢
  obtain ⟨result, library⟩ := out
  refine abidesAt_set_bind { hd with library := hlibrary } ?_
  split
  · exact fun hd => ⟨hd, hresult⟩
  · split
    · exact fun hd => ⟨hd, ht.2⟩
    · exact fun hd => ⟨hd, hresult⟩
  · exact fun hd => ⟨hd, hresult⟩

theorem abides_registerBlock {name : String} {body : Body} {t : Token} (ht : V.Spot t.position)
    (hbody : Body.Within V body) :
    Abides V known scope (registerBlock name body t) fun _ => True := by
  refine abides_get_bind fun d hd => ?_
  split
  · exact abides_refuse ht _ d
  · exact fun _ => ⟨{ hd with
      blocks := Table.forall_mem_insert (p := Body.Within V) hd.blocks hbody }, trivial⟩

theorem abides_registerMacro {m : Macro} {t : Token} (ht : V.Spot t.position) (hm : m.Within V) :
    Abides V known scope (registerMacro m t) fun _ => True := by
  refine abides_get_bind fun d hd => ?_
  split
  · exact abides_refuse ht _ d
  · exact fun _ => ⟨{ hd with
      macros := Table.forall_mem_insert (p := Macro.Within V) hd.macros hm }, trivial⟩

end Steps

end Drafts

end Stencil
