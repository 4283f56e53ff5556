import Stencil.Proofs.Writing.Operands

/-!
# Reading expressions back

The grammar reads an expression back from the way it is written.
-/

namespace Stencil

open Arguments Grammar

variable {env : Surroundings} {filters : Registry FilterRef} {e : Expr} {room : Nat}

/-! ## Operators -/

theorem alike_binary {a b a' b' : Expr} (op : BinaryOp) (p p' : Position) (ha : a.Alike a')
    (hb : b.Alike b') : (Expr.binary op a b p).Alike (.binary op a' b' p') := by
  unfold Expr.Alike Expr.unplaced
  rw [ha, hb]

/-- An operator that chains is one lexeme, which belongs to its level. -/
theorem BinaryOp.written_of_chains {op : BinaryOp} (h : op.level.Chains) :
    op.level.left = op.level ∧ Level.rank op.level ≤ Level.rank op.level.right ∧
      ∃ x, op.written = [x] ∧ op.level.op? x = some op ∧ Loose op.level.right x := by
  cases op <;> first
    | exact h.elim
    | exact ⟨rfl, by decide, _, rfl, rfl, by decide⟩

theorem takes_relation {op : BinaryOp} (h : op.level = .relation) :
    Takes env op.written anyLexeme relation? fun found => ∃ t, found = some (op, t) := by
  have hone (x : Lexeme) (hx : relationalOp? x = some op) (hnot : x ≠ .keyword .kwNot) :
      Takes env [x] anyLexeme relation? fun found => ∃ t, found = some (op, t) := by
    intro ts rest hts hrest
    have htake : Takes env [x] anyLexeme (takeIf relationalOp?) _ := takes_takeIf hx
    obtain ⟨found, hread, hfound⟩ := htake ts rest hts hrest
    refine ⟨found, ?_, hfound⟩
    obtain ⟨t, ts', rfl, ht, hts'⟩ := List.map_eq_cons_iff.mp hts
    rw [List.map_eq_nil_iff.mp hts'] at hread ⊢
    cases rest with
    | nil => exact hread
    | cons u rest =>
      have hkeyword : t.isKeyword .kwNot = false := by
        unfold Token.isKeyword
        rw [beq_eq_false_iff_ne, ht]
        exact hnot
      unfold relation?
      simp only [List.cons_append, List.nil_append, arguments_bind, peek?, peekSecond?,
        List.head?_cons, List.tail_cons, hkeyword, Bool.false_and]
      exact hread
  cases op with
  | notIn =>
    refine takes_peek_bind fun t ht => takes_peekSecond_bind fun u hu => ?_
    have hkeywords : (t.isKeyword .kwNot && u.isKeyword .kwIn) = true := by
      simp only [Token.isKeyword, ht, hu]
      decide
    simp only [hkeywords]
    exact takes_skip_two (takes_pure ⟨t, rfl⟩)
  | eq | ne | lt | le | gt | ge | isIn => exact hone _ rfl (by decide)
  | or | and | add | sub | mul | div | mod | pow => cases h

section Operators

variable {a b : Expr} {op : BinaryOp} {p : Position} (hpa : a.Plain filters) (ha : a.Readable env)
  (hpb : b.Plain filters) (hb : b.Readable env)
include hpa ha hpb hb

theorem starts_binary (hop : op.level.Chains) (hroom : (Expr.binary op a b p).depth ≤ room) :
    Starts env op.level.op? (op.level.right.reader (inner room)) (Expr.binary op a b p).bare
      (Loose op.level.right) (Expr.binary op a b p).Alike := by
  obtain ⟨hleft, -, x, hwritten, hx, hloose⟩ := op.written_of_chains hop
  unfold Expr.depth at hroom
  rw [hleft] at hroom
  unfold Expr.bare
  rw [hleft, hwritten]
  exact starts_append (starts_written hpa ha hop (by omega)) hx hloose
    (takes_written hpb hb _ (by omega)) fun a' b' p' ha' hb' => alike_binary op p p' ha' hb'

theorem takes_comparison (hop : op.level = .relation)
    (hroom : (Expr.binary op a b p).depth ≤ room) :
    Takes env (Expr.binary op a b p).bare (Loose .relation) (relational (inner room))
      (Expr.binary op a b p).Alike := by
  unfold Expr.depth at hroom
  simp only [hop, Level.left, Level.right, Level.next] at hroom
  unfold Expr.bare
  rw [hop]
  have hlhs : Takes env (a.written .sum) (Loose .sum) (additive (inner room)) a.Alike :=
    takes_written hpa ha .sum (by omega)
  have hrhs : Takes env (b.written .sum) (Loose .sum) (additive (inner room)) b.Alike :=
    takes_written hpb hb .sum (by omega)
  have hfollow : Leads (Loose .sum) (op.written ++ b.written .sum) (Loose .relation) := by
    obtain ⟨x, rest, hwritten, hx⟩ : ∃ x rest, op.written = x :: rest ∧ Loose .sum x := by
      cases op <;> first | exact ⟨_, _, rfl, by decide⟩ | cases hop
    rw [hwritten]
    exact hx
  refine takes_bind hlhs (fun a' ha' => takes_bind (takes_relation hop) ?_ (leads_any _)) hfollow
  rintro _ ⟨t, rfl⟩
  exact takes_bind_pure (hrhs.mono fun x hx => hx.mono (by decide)) fun b' hb' =>
    alike_binary op p _ ha' hb'

theorem takes_power (hroom : (Expr.binary .pow a b p).depth ≤ room) :
    Takes env (Expr.binary .pow a b p).bare (Loose .power) (power (inner room))
      (Expr.binary .pow a b p).Alike := by
  unfold Expr.depth at hroom
  rw [if_pos rfl] at hroom
  obtain ⟨r, rfl⟩ : ∃ r, room = r + 1 := ⟨room - 1, by omega⟩
  have hbase : Takes env (a.written .unary) (Loose .unary) (unary (inner (r + 1))) a.Alike :=
    takes_written hpa ha .unary (by simp only [BinaryOp.level, Level.left] at hroom; omega)
  have hexponent : Takes env (b.written .power) (Loose .power) (Grammar.inner (r + 1)).power
      b.Alike :=
    takes_written hpb hb .power (by simp only [BinaryOp.level, Level.right] at hroom; omega)
  refine takes_bind hbase (fun a' ha' => ?_) (by decide : Loose .unary (.symbol .caret))
  exact takes_symbol?_bind fun t => takes_bind_pure hexponent fun b' hb' =>
    alike_binary .pow p _ ha' hb'

theorem readable_binary : (Expr.binary op a b p).Readable env := by
  intro room hroom
  by_cases hop : op.level.Chains
  · have hstarts := starts_binary hpa ha hpb hb hop hroom
    refine ⟨?_, fun _ => hstarts⟩
    have hreader := Level.reader_of_chains hop (inner room)
    have hle : op.level ≤ op.level.right := (op.written_of_chains hop).2.1
    change Takes env _ (Loose op.level) (op.level.reader (inner room)) _
    rw [hreader]
    exact takes_of_starts hstarts (fun x hx => hx.mono hle) fun x hx => Level.op?_of_loose hx
  · refine ⟨?_, fun h => absurd h hop⟩
    by_cases hrelation : op.level = .relation
    · have h := takes_comparison hpa ha hpb hb hrelation hroom
      change Takes env _ (Loose op.level) (op.level.reader (inner room)) _
      rw [hrelation]
      exact h
    · cases op with
      | pow => exact takes_power hpa ha hpb hb hroom
      | or | and | add | sub | mul | div | mod => exact absurd trivial hop
      | eq | ne | lt | le | gt | ge | isIn | notIn => exact absurd rfl hrelation

end Operators

theorem readable_unary {op : UnaryOp} {p : Position} (hplain : e.Plain filters)
    (he : e.Readable env) : (Expr.unary op e p).Readable env := by
  intro room hroom
  refine ⟨?_, False.elim⟩
  unfold Expr.depth at hroom
  obtain ⟨r, rfl⟩ : ∃ r, room = r + 1 := ⟨room - 1, by omega⟩
  have hoperand : Takes env (e.written .unary) (Loose .unary) (Grammar.inner (r + 1)).unary
      e.Alike :=
    takes_written hplain he .unary (by omega)
  have hop : unaryOp? op.written = some op := by cases op <;> rfl
  refine takes_cons_bind (takes_takeIf hop) ?_
  rintro _ ⟨t, rfl⟩
  refine takes_bind_pure hoperand fun e' he' => ?_
  unfold Expr.Alike Expr.unplaced
  rw [he']

theorem readable_filtered {calls : List FilterCall} (hplain : e.Plain filters)
    (he : e.Readable env) (hne : calls ≠ []) (hcalls : ∀ f ∈ calls, f.Readable env) :
    (Expr.filtered e calls).Readable env := by
  intro room hroom
  refine ⟨?_, False.elim⟩
  unfold Expr.depth at hroom
  have hoperand : Takes env (e.written .operand) (Loose .operand) (operand (inner room)) e.Alike :=
    takes_written hplain he .operand (by omega)
  have hfollow : Leads (Loose .operand) (writtenFilters calls) (Loose .filtered) := by
    cases calls with
    | nil => exact absurd rfl hne
    | cons f calls => exact (by decide : Loose .operand (.symbol .bar))
  refine takes_bind hoperand (fun e' he' => takes_left_bind fun n hn => ?_) hfollow
  have hlength := length_le_writtenFilters calls
  refine takes_bind_end (takes_filtersRest hcalls (by omega) n (by omega)) fun found hfound => ?_
  cases found with
  | nil =>
    cases calls with
    | nil => exact absurd rfl hne
    | cons f calls => cases hfound
  | cons f' found =>
    refine takes_pure ?_
    unfold Expr.Alike Expr.unplaced
    rw [he', hfound]

/-! ## Plain expressions -/

mutual

theorem Expr.Plain.readable {a : Expr} : a.Plain env.filters → a.Readable env
  | .literal hv => fun room _ => ⟨(takes_literal hv _).imp fun _ h => by rw [h]; rfl, False.elim⟩
  | .array hitems => fun room hroom =>
    ⟨takes_array hitems (fun e he => (hitems e he).readable) hroom, False.elim⟩
  | .path hsegments => fun room hroom =>
    ⟨takes_path (fun s hs => (hsegments s hs).readable) hroom, False.elim⟩
  | .unary he => readable_unary he he.readable
  | .binary ha hb => readable_binary ha ha.readable hb hb.readable
  | .filtered he hne hcalls =>
    readable_filtered he he.readable hne fun f hf => (hcalls f hf).readable

theorem Segment.Plain.readable {s : Segment} : s.Plain env.filters → s.Readable env
  | .attr name => readable_of_memberStep rfl (takes_member name)
  | .index hn => readable_of_memberStep rfl (takes_index hn)
  | .subscript hkey => readable_subscript hkey hkey.readable
  | .call hargs => readable_call hargs fun e he => (hargs e he).readable

theorem FilterCall.Plain.readable {f : FilterCall} : f.Plain env.filters → f.Readable env
  | .mk hallowed hf harg => readable_filterCall hallowed hf harg fun e he => (harg e he).readable

end

/-- An expression is read back in front of whatever does not go on with it. -/
theorem takes_expression (he : e.Plain env.filters) (hdepth : e.depth < env.depthLimit) :
    Takes env (e.written .disjunction) (Loose .disjunction) Arguments.expression e.Alike := by
  obtain ⟨room, hroom⟩ : ∃ room, env.depthLimit = room + 1 := ⟨env.depthLimit - 1, by omega⟩
  refine takes_read_bind ?_
  rw [hroom]
  refine takes_written he he.readable .disjunction ?_
  have hlevel : ¬ e.level < .disjunction := Nat.not_lt_zero _
  unfold bracketedDepth
  rw [if_neg hlevel]
  omega

/-- Every expression is read back from the way it is written, wherever its tokens stand, if its
nesting is within the limit. -/
theorem expression_written (e : Expr) (env : Surroundings) (he : e.Plain env.filters) :
    ∃ depth, ∀ limit ≥ depth, ∀ ts : List Token, ts.map Token.lexeme = e.written .disjunction →
      ∃ e', Arguments.expression { env with depthLimit := limit } ts = .ok (e', []) ∧
        e'.unplaced = e.unplaced := by
  refine ⟨e.depth + 1, fun limit hlimit ts hts => ?_⟩
  have htakes : Takes { env with depthLimit := limit } (e.written .disjunction) (Loose .disjunction)
      Arguments.expression e.Alike := takes_expression he hlimit
  obtain ⟨e', hread, he'⟩ := htakes ts [] hts .nil
  rw [List.append_nil] at hread
  exact ⟨e', hread, he'⟩

/-- A set of filters with one filter. -/
private def oneFilter : Registry FilterRef := { entries := [("default", .builtin .orDefault)] }

/-- The path `row.in.0["k"]` with a filter whose argument is negative. -/
private def keyedPath : Expr :=
  .filtered (.path "row" [.attr "in", .index 0, .subscript (.literal (.string "k"))] default)
    [.mk "default" (some (.unary .minus (.literal (.int 2)) default)) default (.builtin .orDefault)]

/-- A negated membership test between a difference and a tower of powers. -/
private def mixed : Expr :=
  .unary .negation
    (.binary .notIn
      (.binary .sub (.literal (.int 1)) (.binary .sub (.array []) (.literal (.bool true)) default)
        default)
      (.binary .pow keyedPath
        (.binary .pow (.literal (.int 3)) (.path "f" [.call [.literal (.int 4)]] default) default)
        default)
      default)
    default

private theorem plain_int (n : Int) (hn : Integer.Plain n) :
    Expr.Plain oneFilter (.literal (.int n)) := .literal (.int hn)

private theorem plain_keyedPath : keyedPath.Plain oneFilter := by
  refine .filtered (.path ?_) (List.cons_ne_nil _ _) ?_
  · simp only [List.forall_mem_cons]
    exact ⟨.attr _, .index (by decide), .subscript (.literal (.string "k")), List.forall_mem_nil _⟩
  · simp only [List.forall_mem_cons]
    refine ⟨.mk (by decide) (by decide) ?_, List.forall_mem_nil _⟩
    rintro _ ⟨⟩
    exact .unary (plain_int 2 (by decide))

private theorem plain_mixed : mixed.Plain oneFilter := by
  refine .unary (.binary ?_ (.binary plain_keyedPath ?_))
  · exact .binary (plain_int 1 (by decide))
      (.binary (.array (List.forall_mem_nil _)) (.literal (.bool true)))
  · refine .binary (plain_int 3 (by decide)) (.path ?_)
    simp only [List.forall_mem_cons]
    refine ⟨.call ?_, List.forall_mem_nil _⟩
    simp only [List.forall_mem_cons]
    exact ⟨plain_int 4 (by decide), List.forall_mem_nil _⟩

/-- The lexemes of `not (1 - ([] - true) not in row.in.0["k"]|default:(-2) ^ 3 ^ f(4))`. -/
private def mixedLexemes : List Lexeme :=
  [.keyword .kwNot, .symbol .openParen, .number "1", .symbol .minus, .symbol .openParen,
    .symbol .openBracket, .symbol .closeBracket, .symbol .minus, .keyword .kwTrue,
    .symbol .closeParen, .keyword .kwNot, .keyword .kwIn, .identifier "row", .symbol .dot,
    .keyword .kwIn, .symbol .dot, .number "0", .symbol .openBracket, .string "k",
    .symbol .closeBracket, .symbol .bar, .identifier "default", .symbol .colon, .symbol .openParen,
    .symbol .minus, .number "2", .symbol .closeParen, .symbol .caret, .number "3", .symbol .caret,
    .identifier "f", .symbol .openParen, .number "4", .symbol .closeParen, .symbol .closeParen]

theorem expression_written_mixed :
    ∃ depth, ∀ limit ≥ depth, ∀ ts : List Token, ts.map Token.lexeme = mixedLexemes →
      ∃ e', Arguments.expression ⟨oneFilter, default, limit⟩ ts = .ok (e', []) ∧
        e'.unplaced = mixed.unplaced := by
  have hwritten : mixed.written .disjunction = mixedLexemes := by decide +kernel
  rw [← hwritten]
  exact expression_written mixed ⟨oneFilter, default, 0⟩ plain_mixed

end Stencil
