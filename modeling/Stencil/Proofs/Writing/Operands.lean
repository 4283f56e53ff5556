import Stencil.Proofs.Writing.Levels

/-!
# Reading operands back

An operand is read back with its steps and its filters where the expressions inside of it are, and
in brackets every such expression is an operand.
-/

namespace Stencil

open Arguments Grammar

/-! ## Integers -/

/-- A number reads as the integer that was written. -/
theorem Integer.read?_repr {n : Int} (hn : Integer.Plain n) :
    Integer.read? n.toNat.repr.toList = some n := by
  obtain ⟨h0, hle⟩ := hn
  have hfits : Integer.fits n = true := Integer.fits_iff.mpr ⟨Int.le_trans (by decide) h0, hle⟩
  rw [(Integer.spells_repr n.toNat).read?_eq, Int.toNat_of_nonneg h0, Integer.checked_of_fits hfits]

/-! ## What can be read back -/

/-- An expression is read back where `i` is what is further in. If its operator chains, more can be
chained to it. -/
structure Expr.ReadBack (env : Surroundings) (i : Inner) (e : Expr) : Prop where
  takes : Takes env e.bare (Loose e.level) (e.level.reader i) e.Alike
  starts : e.level.Chains →
    Starts env e.level.op? (e.level.right.reader i) e.bare (Loose e.level.right) e.Alike

/-- An expression is read back wherever it does not nest too deep. -/
def Expr.Readable (env : Surroundings) (e : Expr) : Prop :=
  ∀ room, e.depth ≤ room → e.ReadBack env (inner room)

/-- A step of a path is read back in front of the steps behind it. -/
def Segment.Readable (env : Surroundings) (s : Segment) : Prop :=
  ∀ room, s.depth ≤ room → ∀ n ls C, Takes env ls (Loose .operand) (steps (inner room) n) C →
    Takes env (s.written ++ ls) (Loose .operand) (steps (inner room) (n + 1)) fun found =>
      ∃ s' more, found = s' :: more ∧ s'.unplaced = s.unplaced ∧ C more

/-- A filter is read back with its argument. -/
def FilterCall.Readable (env : Surroundings) (f : FilterCall) : Prop :=
  ∀ room, f.depth ≤ room →
    Takes env f.written (Loose .operand) (filterCall (inner room))
      fun f' => f'.unplaced = f.unplaced

variable {env : Surroundings} {l : Level} {filters : Registry FilterRef} {e : Expr} {room : Nat}

/-! ## The first lexeme -/

/-- The lexemes with which an expression can start. -/
def Lexeme.begins : Lexeme → Bool
  | .number _ | .string _ | .identifier _ | .keyword .kwTrue | .keyword .kwFalse | .keyword .kwNot
  | .symbol .openBracket | .symbol .openParen | .symbol .plus | .symbol .minus => true
  | _ => false

theorem begins_bare {e : Expr} (he : e.Plain filters) :
    ∃ x rest, e.bare = x :: rest ∧ x.begins = true := by
  cases he with
  | literal hv =>
    cases hv with
    | bool b => cases b <;> exact ⟨_, _, rfl, rfl⟩
    | int | string => exact ⟨_, _, rfl, rfl⟩
  | array | path => exact ⟨_, _, rfl, rfl⟩
  | @unary op => cases op <;> exact ⟨_, _, rfl, rfl⟩
  | binary ha =>
    obtain ⟨x, rest, hbare, hx⟩ := begins_bare ha
    unfold Expr.bare bracketed
    split
    · exact ⟨_, _, rfl, rfl⟩
    · rw [hbare]
      exact ⟨_, _, rfl, hx⟩
  | filtered he =>
    obtain ⟨x, rest, hbare, hx⟩ := begins_bare he
    unfold Expr.bare bracketed
    split
    · exact ⟨_, _, rfl, rfl⟩
    · rw [hbare]
      exact ⟨_, _, rfl, hx⟩

theorem BinaryOp.level_lt_unary (op : BinaryOp) : op.level < .unary := by
  cases op <;> decide

theorem upfront_of_operand (he : e.Plain filters) (hlevel : ¬ e.level < .operand) :
    Upfront e.bare := by
  cases he with
  | literal hv =>
    cases hv with
    | bool b => cases b <;> exact ⟨_, _, rfl, rfl⟩
    | int | string => exact ⟨_, _, rfl, rfl⟩
  | array | path => exact ⟨_, _, rfl, rfl⟩
  | @binary op => exact absurd (Nat.lt_trans op.level_lt_unary (by decide)) hlevel
  | unary => exact absurd (by decide : Level.unary < Level.operand) hlevel
  | filtered => exact absurd (by decide : Level.filtered < Level.operand) hlevel

theorem upfront_bare (he : e.Plain filters) (hlevel : .unary < e.level) : Upfront e.bare := by
  have hplain := he
  cases he with
  | unary => exact absurd hlevel (Nat.lt_irrefl _)
  | @binary op => exact absurd hlevel (Nat.lt_asymm op.level_lt_unary)
  | @filtered e calls he =>
    unfold Expr.bare bracketed
    split
    · exact ⟨_, _, rfl, rfl⟩
    · obtain ⟨x, rest, hbare, hx⟩ := upfront_of_operand he ‹_›
      exact ⟨x, rest ++ writtenFilters calls, by rw [hbare]; rfl, hx⟩
  | literal | array | path => exact upfront_of_operand hplain (Nat.lt_irrefl _)

/-! ## Brackets -/

theorem takes_group (hplain : e.Plain filters) (he : e.Readable env) (hroom : e.depth + 2 ≤ room) :
    Takes env e.bare (Loose .disjunction) (inner room).group e.Alike := by
  obtain ⟨r, rfl⟩ : ∃ r, room = r + 2 := ⟨room - 2, by omega⟩
  exact takes_looser (Nat.zero_le _) (he r (by omega)).takes (upfront_bare hplain)

theorem takes_brackets {F : Lexeme → Prop} (hplain : e.Plain filters) (he : e.Readable env)
    (hroom : e.depth + 2 ≤ room) :
    Takes env (.symbol .openParen :: (e.bare ++ [.symbol .closeParen])) F (operand (inner room))
      e.Alike := by
  refine takes_peek_bind fun t ht => ?_
  simp only [ht]
  refine takes_skip_one (takes_bind (takes_group hplain he hroom) (fun a ha => ?_)
    (loose_of_joins rfl _))
  exact takes_symbol_bind fun _ => takes_pure ha

/-- An expression is read back from the way it is written at any level. -/
theorem takes_written (hplain : e.Plain filters) (he : e.Readable env) (l : Level)
    (hroom : bracketedDepth l e.level e.depth ≤ room) :
    Takes env (e.written l) (Loose l) (l.reader (inner room)) e.Alike := by
  unfold bracketedDepth at hroom
  unfold Expr.written bracketed
  split
  · rename_i hlevel
    rw [if_pos hlevel] at hroom
    have hl : l ≤ .operand := by cases l <;> decide
    exact takes_looser hl (takes_brackets hplain he hroom) fun _ => ⟨_, _, rfl, rfl⟩
  · rename_i hlevel
    rw [if_neg hlevel] at hroom
    exact takes_looser (Nat.le_of_not_lt hlevel) (he room hroom).takes (upfront_bare hplain)

/-- More can be chained to an expression that is written at the level of the chain. -/
theorem starts_written (hplain : e.Plain filters) (he : e.Readable env) (hl : l.Chains)
    (hroom : bracketedDepth l e.level e.depth ≤ room) :
    Starts env l.op? (l.right.reader (inner room)) (e.written l) (Loose l.right) e.Alike := by
  unfold bracketedDepth at hroom
  by_cases hlevel : e.level = l
  · have hlt : ¬ e.level < e.level := Nat.lt_irrefl _
    subst hlevel
    rw [if_neg hlt] at hroom
    unfold Expr.written bracketed
    rw [if_neg hlt]
    exact (he room hroom).starts hl
  · -- At any other level the operand is written as if it stood on the right.
    have hsame : (e.level < l) = (e.level < l.right) := by
      revert hlevel
      generalize e.level = own
      cases l <;> first | exact hl.elim | (cases own <;> decide)
    have hwritten : e.written l = e.written l.right := by
      unfold Expr.written bracketed
      simp only [hsame]
    simp only [hsame] at hroom
    rw [hwritten]
    exact starts_of_takes (takes_written hplain he l.right hroom)

/-! ## Lists -/

theorem length_le_writtenMore (es : List Expr) : es.length ≤ (writtenMore es).length := by
  induction es with
  | nil => exact Nat.le_refl _
  | cons e es ih =>
    simp only [writtenMore, List.length_cons, List.length_append]
    omega

theorem depth_le_depthItems {es : List Expr} (he : e ∈ es) : e.depth + 2 ≤ depthItems es := by
  induction es with
  | nil => cases he
  | cons e' es ih =>
    unfold depthItems
    rcases List.mem_cons.mp he with rfl | he
    · omega
    · have := ih he
      omega

section Lists

variable {F : Lexeme → Prop} {close : Symbol} (hclose : (Lexeme.symbol close).joins = none)
  (hcomma : Lexeme.symbol close ≠ .symbol .comma)
include hclose hcomma

theorem takes_listRest {item : Arguments Expr} (es : List Expr) (e : Expr)
    (hitem : ∀ a ∈ e :: es, Takes env a.bare (Loose .disjunction) item a.Alike) (n : Nat)
    (hn : es.length ≤ n) :
    Takes env (e.bare ++ (writtenMore es ++ [.symbol close])) F (listRest item close n)
      fun found => unplacedItems found = unplacedItems (e :: es) := by
  have hone (a e : Expr) (ha : e.Alike a) : unplacedItems [a] = unplacedItems [e] := by
    simp only [unplacedItems]
    rw [ha]
  induction es generalizing e n with
  | nil =>
    have he : Takes env e.bare (Loose .disjunction) item e.Alike := hitem e List.mem_cons_self
    cases n with
    | zero =>
      refine takes_bind he (fun a ha => ?_) (loose_of_joins hclose _)
      exact takes_symbol_bind fun _ => takes_pure (hone a e ha)
    | succ n =>
      refine takes_bind he (fun a ha => ?_) (loose_of_joins hclose _)
      refine takes_symbol?_bind_none hcomma ?_
      exact takes_symbol_bind fun _ => takes_pure (hone a e ha)
  | cons e' es ih =>
    have he : Takes env e.bare (Loose .disjunction) item e.Alike := hitem e List.mem_cons_self
    cases n with
    | zero => cases hn
    | succ n =>
      refine takes_bind he (fun a ha => ?_) (loose_of_joins (x := .symbol .comma) rfl _)
      have hmore : writtenMore (e' :: es) ++ [.symbol close] =
          .symbol .comma :: (e'.bare ++ (writtenMore es ++ [.symbol close])) := by
        simp [writtenMore]
      rw [hmore]
      refine takes_symbol?_bind fun _ => takes_bind_pure (ih e' (fun a ha =>
        hitem a (List.mem_cons_of_mem _ ha)) n (Nat.le_of_succ_le_succ hn)) fun found hfound => ?_
      unfold unplacedItems
      rw [hfound, ha]

/-- The expressions of a list are read back in brackets. -/
theorem takes_listUpTo (hbegins : (Lexeme.symbol close).begins = false) {items : List Expr}
    (hplain : ∀ e ∈ items, e.Plain filters) (hitems : ∀ e ∈ items, e.Readable env)
    (hroom : depthItems items ≤ room) :
    Takes env (writtenItems items ++ [.symbol close]) F (listUpTo (inner room) close)
      fun found => unplacedItems found = unplacedItems items := by
  cases items with
  | nil => exact takes_symbol?_bind fun _ => takes_pure rfl
  | cons e es =>
    have hgroup : ∀ a ∈ e :: es,
        Takes env a.bare (Loose .disjunction) (inner room).group a.Alike :=
      fun a ha => takes_group (hplain a ha) (hitems a ha)
        (Nat.le_trans (depth_le_depthItems ha) hroom)
    obtain ⟨x, rest, hbare, hx⟩ := begins_bare (hplain e List.mem_cons_self)
    have hne : x ≠ .symbol close := by
      rintro rfl
      rw [hbegins] at hx
      cases hx
    have hrest (n : Nat) (hn : es.length ≤ n) :=
      takes_listRest (F := F) hclose hcomma es e hgroup n hn
    have hlength := length_le_writtenMore es
    unfold writtenItems
    rw [List.append_assoc]
    rw [hbare, List.cons_append] at hrest ⊢
    refine takes_symbol?_bind_none hne (takes_left_bind fun n hn => hrest n ?_)
    simp only [List.length_cons, List.length_append] at hn
    omega

end Lists

/-! ## Operands -/

theorem number_of_loose {n : Int} (hn : Integer.Plain n) (t : Token) {rest : List Token}
    (hrest : Followed (Loose .operand) rest) :
    number n.toNat.repr t env rest = .ok (.literal (.int n), rest) := by
  have hread := Integer.read?_repr hn
  unfold number
  match rest, hrest with
  | [], _ =>
    simp only [arguments_bind, peek?, peekSecond?, List.head?_nil, List.tail_nil, hread]
    rfl
  | [point], _ =>
    simp only [arguments_bind, peek?, peekSecond?, List.head?_cons, List.tail_cons, List.head?_nil,
      hread]
    rfl
  | point :: second :: rest, hrest =>
    have hpoint : point.lexeme ≠ .symbol .dot := by
      intro h
      have hloose : Loose .operand point.lexeme := hrest point rfl
      rw [h] at hloose
      exact absurd hloose (by decide)
    simp only [arguments_bind, peek?, peekSecond?, List.head?_cons, List.tail_cons]
    split
    · exact absurd ‹_› hpoint
    · rw [hread]
      rfl

theorem takes_literal {v : Literal} (hv : v.Plain) (i : Inner) :
    Takes env v.written (Loose .operand) (operand i) (· = .literal v) := by
  cases hv with
  | bool b =>
    cases b <;>
    · refine takes_peek_bind fun t ht => ?_
      simp only [ht]
      exact takes_skip_one (takes_pure rfl)
  | string s =>
    refine takes_peek_bind fun t ht => ?_
    simp only [ht]
    exact takes_skip_one (takes_pure rfl)
  | int hn =>
    refine takes_peek_bind fun t ht => ?_
    simp only [ht, Integer.written]
    refine takes_skip_one fun ts rest hts hrest => ?_
    rw [List.map_eq_nil_iff.mp hts]
    exact ⟨_, number_of_loose hn t hrest, rfl⟩

/-! ## Paths -/

theorem Token.ofWord_eq (name : String) :
    (∃ k : Keyword, Token.ofWord name.toList = .keyword k ∧ k.spelling = name) ∨
      Token.ofWord name.toList = .identifier name := by
  unfold Token.ofWord Keyword.ofSpelling?
  rw [String.ofList_toList]
  split
  · rename_i k hk
    exact .inl ⟨k, rfl, by simpa using List.find?_some hk⟩
  · exact .inr rfl

theorem takes_member (name : String) {F : Lexeme → Prop} :
    Takes env [.symbol .dot, Token.ofWord name.toList] F memberStep (· = .attr name) := by
  refine takes_peekSecond_bind fun t ht => ?_
  rcases Token.ofWord_eq name with ⟨k, hk, rfl⟩ | hname
  · simp only [ht, hk]
    exact takes_skip_two (takes_pure rfl)
  · simp only [ht, hname]
    exact takes_skip_two (takes_pure rfl)

theorem takes_index {n : Int} (hn : Integer.Plain n) {F : Lexeme → Prop} :
    Takes env [.symbol .dot, Integer.written n] F memberStep (· = .index n) := by
  refine takes_peekSecond_bind fun t ht => ?_
  simp only [ht, Integer.written, Integer.read?_repr hn]
  exact takes_skip_two (takes_pure rfl)

/-- What a point starts is read as one step. -/
theorem readable_of_memberStep {s : Segment} {y : Lexeme} (hwritten : s.written = [.symbol .dot, y])
    (hs : Takes env [.symbol .dot, y] anyLexeme memberStep (· = s)) : s.Readable env := by
  intro room _ n ls C h
  rw [hwritten]
  refine takes_peek_bind fun t ht => ?_
  simp only [Option.map_some, ht]
  refine takes_bind hs ?_ (leads_any ls)
  rintro _ rfl
  exact takes_bind_pure h fun more hmore => ⟨_, more, rfl, rfl, hmore⟩

theorem readable_subscript (hplain : e.Plain filters) (he : e.Readable env) :
    (Segment.subscript e).Readable env := by
  intro room hroom n ls C h
  unfold Segment.depth at hroom
  have hwritten : (Segment.subscript e).written ++ ls =
      .symbol .openBracket :: (e.bare ++ (.symbol .closeBracket :: ls)) := by
    simp [Segment.written]
  rw [hwritten]
  refine takes_peek_bind fun t ht => ?_
  simp only [Option.map_some, ht]
  refine takes_skip_one (takes_bind (takes_group hplain he hroom) (fun key hkey => ?_)
    (loose_of_joins rfl _))
  refine takes_symbol_bind fun _ => takes_bind_pure h fun more hmore => ?_
  refine ⟨.subscript key, more, rfl, ?_, hmore⟩
  unfold Segment.unplaced
  rw [hkey]

theorem readable_call {args : List Expr} (hplain : ∀ e ∈ args, e.Plain filters)
    (hargs : ∀ e ∈ args, e.Readable env) : (Segment.call args).Readable env := by
  intro room hroom n ls C h
  unfold Segment.depth at hroom
  refine takes_peek_bind fun t ht => ?_
  simp only [Option.map_some, ht]
  have hlist : Takes env (writtenItems args ++ [.symbol .closeParen]) anyLexeme
      (listUpTo (inner room) .closeParen) fun found => unplacedItems found = unplacedItems args :=
    takes_listUpTo rfl (by decide) rfl hplain hargs hroom
  refine takes_skip_one (takes_bind hlist (fun found hfound => ?_) (leads_any ls))
  refine takes_bind_pure h fun more hmore => ⟨.call found, more, rfl, ?_, hmore⟩
  unfold Segment.unplaced
  rw [hfound]

theorem takes_steps_nil (i : Inner) (n : Nat) :
    Takes env [] (Loose .operand) (steps i n) (· = []) := by
  intro ts rest hts hrest
  rw [List.map_eq_nil_iff.mp hts, List.nil_append]
  refine ⟨[], ?_, rfl⟩
  cases n with
  | zero => rfl
  | succ n =>
    unfold steps
    rw [arguments_bind]
    cases rest with
    | nil => rfl
    | cons t rest =>
      have hloose : Loose .operand t.lexeme := hrest t rfl
      simp only [peek?, List.head?_cons, Option.map_some]
      generalize t.lexeme = x at hloose
      cases x with
      | symbol s => cases s <;> first | rfl | exact absurd hloose (by decide)
      | _ => rfl

theorem takes_steps {segments : List Segment}
    (hsegments : ∀ s ∈ segments, s.Readable env) (hroom : depthSegments segments ≤ room) (n : Nat)
    (hn : segments.length ≤ n) :
    Takes env (writtenSegments segments) (Loose .operand) (steps (inner room) n)
      fun found => unplacedSegments found = unplacedSegments segments := by
  induction segments generalizing n with
  | nil => exact (takes_steps_nil _ n).imp fun found hfound => by rw [hfound]
  | cons s segments ih =>
    cases n with
    | zero => cases hn
    | succ n =>
      unfold depthSegments at hroom
      have hmore := ih (fun s' hs' => hsegments s' (List.mem_cons_of_mem _ hs')) (by omega) n
        (Nat.le_of_succ_le_succ hn)
      refine (hsegments s List.mem_cons_self room (by omega) n _ _ hmore).imp ?_
      rintro _ ⟨s', more, rfl, hs', hfound⟩
      unfold unplacedSegments
      rw [hs', hfound]

theorem length_le_writtenSegments (segments : List Segment) :
    segments.length ≤ (writtenSegments segments).length := by
  induction segments with
  | nil => exact Nat.le_refl _
  | cons s segments ih =>
    have hs : 1 ≤ s.written.length := by
      cases s <;> simp [Segment.written]
    simp only [writtenSegments, List.length_cons, List.length_append]
    omega

theorem takes_path {name : String} {segments : List Segment} {p : Position}
    (hsegments : ∀ s ∈ segments, s.Readable env) (hroom : depthSegments segments ≤ room) :
    Takes env (Expr.path name segments p).bare (Loose .operand) (operand (inner room))
      (Expr.path name segments p).Alike := by
  refine takes_peek_bind fun t ht => ?_
  simp only [ht]
  refine takes_skip_one (takes_left_bind fun n hn => ?_)
  have hlength := length_le_writtenSegments segments
  refine takes_bind_pure (takes_steps hsegments hroom n (by omega)) fun found hfound => ?_
  unfold Expr.Alike Expr.unplaced
  rw [hfound]

theorem takes_array {items : List Expr} {F : Lexeme → Prop} (hplain : ∀ e ∈ items, e.Plain filters)
    (hitems : ∀ e ∈ items, e.Readable env) (hroom : depthItems items ≤ room) :
    Takes env (Expr.array items).bare F (operand (inner room)) (Expr.array items).Alike := by
  refine takes_peek_bind fun t ht => ?_
  simp only [ht]
  have hlist : Takes env (writtenItems items ++ [.symbol .closeBracket]) F
      (listUpTo (inner room) .closeBracket) fun found =>
        unplacedItems found = unplacedItems items :=
    takes_listUpTo rfl (by decide) rfl hplain hitems hroom
  refine takes_skip_one (takes_bind_pure hlist fun found hfound => ?_)
  unfold Expr.Alike Expr.unplaced
  rw [hfound]

/-! ## Filters -/

theorem readable_filterCall {name : String} {arg : Option Expr} {p : Position} {f : FilterRef}
    (hallowed : env.filters.isBanned name = false) (hf : env.filters.find? name = some f)
    (hplain : ∀ e ∈ arg, e.Plain filters) (harg : ∀ e ∈ arg, e.Readable env) :
    (FilterCall.mk name arg p f).Readable env := by
  intro room hroom
  unfold FilterCall.written filterCall
  cases arg with
  | none =>
    refine takes_identifier?_bind fun t => takes_read_bind ?_
    simp only [hallowed, hf]
    rw [if_neg Bool.false_ne_true]
    refine takes_bind_end (takes_symbol?_none (by decide)) ?_
    rintro _ rfl
    exact takes_pure rfl
  | some e =>
    unfold FilterCall.depth at hroom
    refine takes_identifier?_bind fun t => takes_read_bind ?_
    simp only [hallowed, hf]
    rw [if_neg Bool.false_ne_true]
    obtain ⟨r, rfl⟩ : ∃ r, room = r + 1 := ⟨room - 1, by omega⟩
    have hoperand : Takes env (e.written .operand) (Loose .operand) (Grammar.inner (r + 1)).operand
        e.Alike :=
      takes_written (hplain e rfl) (harg e rfl) .operand (by omega)
    refine takes_symbol?_bind fun _ => takes_bind_pure hoperand fun e' he' => ?_
    unfold FilterCall.unplaced
    rw [he']

theorem takes_filtersRest {calls : List FilterCall} (hcalls : ∀ f ∈ calls, f.Readable env)
    (hroom : depthFilters calls ≤ room) (n : Nat) (hn : calls.length ≤ n) :
    Takes env (writtenFilters calls) (Loose .filtered) (filtersRest (inner room) n)
      fun found => unplacedFilters found = unplacedFilters calls := by
  induction calls generalizing n with
  | nil => exact (takes_filtersRest_nil n).imp fun found hfound => by rw [hfound]
  | cons f calls ih =>
    cases n with
    | zero => cases hn
    | succ n =>
      unfold depthFilters at hroom
      have hmore := ih (fun f' hf' => hcalls f' (List.mem_cons_of_mem _ hf')) (by omega) n
        (Nat.le_of_succ_le_succ hn)
      have hfollow : Leads (Loose .operand) (writtenFilters calls) (Loose .filtered) := by
        cases calls with
        | nil => exact fun x hx => hx.mono (by decide)
        | cons f' calls => exact (by decide : Loose .operand (.symbol .bar))
      refine takes_symbol?_bind fun _ =>
        takes_bind (hcalls f List.mem_cons_self room (by omega)) (fun f' hf' => ?_) hfollow
      refine takes_bind_pure hmore fun found hfound => ?_
      unfold unplacedFilters
      rw [hf', hfound]

theorem length_le_writtenFilters (calls : List FilterCall) :
    calls.length ≤ (writtenFilters calls).length := by
  induction calls with
  | nil => exact Nat.le_refl _
  | cons f calls ih =>
    simp only [writtenFilters, List.length_cons, List.length_append]
    omega

end Stencil
