import Stencil.Proofs.Writing.Drafts
import Stencil.Proofs.Writing.Grammar
import Stencil.Proofs.Writing.Nodes

/-!
# Reading the arguments of tags back

The arguments of a tag are words and expressions. The reader of the tag takes all of them, so what
is said here is said of arguments with nothing behind them.
-/

namespace Stencil

open Arguments TagReader

/-- No lexeme at all. -/
def noLexeme : Lexeme → Prop := fun _ => False

variable {env : Surroundings} {x y : Lexeme} {ls : List Lexeme} {F : Lexeme → Prop} {α : Type}
  {A : α → Prop}

theorem leads_noLexeme {G : Lexeme → Prop} : Leads G [] noLexeme := nofun

/-! ## Words -/

theorem takes_peek_end {f : Option Token → Arguments α} (h : Takes env [] noLexeme (f none) A) :
    Takes env [] noLexeme (peek? >>= f) A := by
  intro ts rest hts hrest
  cases rest with
  | nil =>
    rw [List.map_eq_nil_iff.mp hts]
    exact h [] [] rfl .nil
  | cons t rest => exact (hrest t rfl).elim

theorem takes_peekSecond_end {f : Option Token → Arguments α}
    (h : Takes env [] noLexeme (f none) A) :
    Takes env [] noLexeme (peekSecond? >>= f) A := by
  intro ts rest hts hrest
  cases rest with
  | nil =>
    rw [List.map_eq_nil_iff.mp hts]
    exact h [] [] rfl .nil
  | cons t rest => exact (hrest t rfl).elim

theorem takes_identifier_bind {name : String} {f : String × Token → Arguments α}
    (h : ∀ t, Takes env ls F (f (name, t)) A) :
    Takes env (.identifier name :: ls) F (identifier >>= f) A := by
  unfold identifier
  rw [bind_assoc]
  refine takes_identifier?_bind fun t => ?_
  rw [pure_bind]
  exact h t

theorem takes_keyword_bind {k : Keyword} {f : Token → Arguments α}
    (h : ∀ t, Takes env ls F (f t) A) :
    Takes env (.keyword k :: ls) F (keyword k >>= f) A := by
  unfold keyword keyword?
  rw [bind_assoc, bind_assoc]
  refine takes_cons_bind (takes_takeIf (a := ()) (if_pos rfl)) ?_
  rintro _ ⟨t, rfl⟩
  simp only [pure_bind, Option.map_some]
  exact h t

theorem takes_keyword? (k : Keyword) :
    Takes env [.keyword k] F (keyword? k) fun found => found.isSome = true := by
  refine takes_bind_pure (takes_takeIf (a := ()) (if_pos rfl)) ?_
  rintro _ ⟨t, rfl⟩
  rfl

theorem takes_keyword?_end (k : Keyword) :
    Takes env [] noLexeme (keyword? k) fun found => found.isSome = false := by
  refine takes_bind_pure (takes_takeIf_none fun _ => False.elim) ?_
  rintro _ rfl
  rfl

theorem takes_word?_bind {name : String} {f : Bool → Arguments α}
    (h : Takes env ls F (f true) A) :
    Takes env (.identifier name :: ls) F (word? name >>= f) A := by
  unfold word?
  rw [bind_assoc]
  refine takes_cons_bind (takes_takeIf (a := ()) (if_pos rfl)) ?_
  rintro _ ⟨t, rfl⟩
  exact h

theorem takes_word?_bind_false {name : String} {f : Bool → Arguments α}
    (hx : x ≠ .identifier name) (h : Takes env (x :: ls) F (f false) A) :
    Takes env (x :: ls) F (word? name >>= f) A := by
  unfold word?
  rw [bind_assoc]
  exact takes_takeIf_bind_none (if_neg hx) h

theorem takes_word?_end {name : String} {f : Bool → Arguments α}
    (h : Takes env [] noLexeme (f false) A) : Takes env [] noLexeme (word? name >>= f) A := by
  unfold word?
  rw [bind_assoc]
  refine takes_bind (takes_takeIf_none fun _ => False.elim) ?_ leads_noLexeme
  rintro _ rfl
  exact h

/-! ## Loops -/

theorem takes_loopWords_end (n : Nat) (found : Bool × Bool) :
    Takes env [] noLexeme (loopWords n found) (· = found) := by
  cases n with
  | zero => exact takes_pure rfl
  | succ n => exact takes_word?_end (takes_word?_end (takes_pure rfl))

theorem takes_loopWords_sorted (n : Nat) (reversed sorted : Bool)
    (hn : (writtenIf sorted (.identifier "sorted")).length ≤ n) :
    Takes env (writtenIf sorted (.identifier "sorted")) noLexeme (loopWords n (reversed, false))
      (· = (reversed, sorted)) := by
  cases sorted with
  | false => exact takes_loopWords_end n _
  | true =>
    obtain ⟨n, rfl⟩ : ∃ m, n = m + 1 := ⟨n - 1, (Nat.sub_add_cancel hn).symm⟩
    refine takes_word?_bind_false (by decide) (takes_word?_bind ?_)
    exact takes_loopWords_end n _

/-- The words behind a loop are read whether there are two of them, one or none. -/
theorem takes_loopWords (n : Nat) (reversed sorted : Bool)
    (hn : (writtenIf reversed (.identifier "reversed") ++
      writtenIf sorted (.identifier "sorted")).length ≤ n) :
    Takes env (writtenIf reversed (.identifier "reversed") ++
        writtenIf sorted (.identifier "sorted")) noLexeme (loopWords n (false, false))
      (· = (reversed, sorted)) := by
  cases reversed with
  | false => exact takes_loopWords_sorted n false sorted hn
  | true =>
    obtain ⟨n, rfl⟩ : ∃ m, n = m + 1 := ⟨n - 1, by simp [writtenIf] at hn; omega⟩
    refine takes_word?_bind (takes_loopWords_sorted n true sorted ?_)
    simp only [writtenIf, if_true, List.singleton_append, List.length_cons] at hn
    exact Nat.le_of_succ_le_succ hn

/-- What a loop goes over, and the words behind it. -/
theorem takes_loopSource_bind {source : Expr} {reversed sorted : Bool}
    {f : Expr → Bool × Bool → Arguments α} (hplain : source.Plain env.filters)
    (hdepth : source.depth < env.depthLimit)
    (hf : ∀ source', source.Alike source' →
      Takes env [] noLexeme (f source' (reversed, sorted)) A) :
    Takes env
      (.keyword .kwIn :: (source.written .disjunction ++
        (writtenIf reversed (.identifier "reversed") ++ writtenIf sorted (.identifier "sorted"))))
      noLexeme
      (do
        let _ ← keyword .kwIn
        let source' ← Arguments.expression
        let words ← loopWords (← left) (false, false)
        f source' words) A := by
  have hfollow : Leads (Loose .disjunction) (writtenIf reversed (.identifier "reversed") ++
      writtenIf sorted (.identifier "sorted")) noLexeme := by
    cases reversed with
    | true => exact loose_of_joins rfl _
    | false =>
      cases sorted with
      | true => exact loose_of_joins rfl _
      | false => exact leads_noLexeme
  refine takes_keyword_bind fun _ => takes_bind (takes_expression hplain hdepth)
    (fun source' hsource' => ?_) hfollow
  refine takes_left_bind fun n hn => takes_bind_end (takes_loopWords n reversed sorted hn) ?_
  rintro _ rfl
  exact hf source' hsource'

/-! ## Bindings -/

theorem length_le_writtenBindings (bindings : List (String × Expr)) :
    bindings.length ≤ (writtenBindings bindings).length := by
  induction bindings with
  | nil => exact Nat.le_refl _
  | cons b rest ih =>
    simp only [writtenBindings, List.length_cons, List.length_append]
    omega

theorem takes_bindingsUpTo {bindings : List (String × Expr)}
    (hplain : ∀ b ∈ bindings, b.2.Plain env.filters)
    (hdepth : ∀ b ∈ bindings, b.2.depth < env.depthLimit) (n : Nat) (hn : bindings.length ≤ n) :
    Takes env (writtenBindings bindings) noLexeme (bindingsUpTo n) fun found =>
      unplacedBindings found = unplacedBindings bindings := by
  induction bindings generalizing n with
  | nil =>
    cases n with
    | zero => exact takes_pure rfl
    | succ n => exact takes_peek_end (takes_peekSecond_end (takes_pure rfl))
  | cons b bindings ih =>
    obtain ⟨name, e⟩ := b
    cases n with
    | zero => cases hn
    | succ n =>
      simp only [List.forall_mem_cons] at hplain hdepth
      have hmore := ih hplain.2 hdepth.2 n (Nat.le_of_succ_le_succ hn)
      have hfollow : Leads (Loose .disjunction) (writtenBindings bindings) noLexeme := by
        cases bindings with
        | nil => exact leads_noLexeme
        | cons b bindings => exact loose_of_joins rfl _
      refine takes_peek_bind fun t ht => takes_peekSecond_bind fun u hu => ?_
      simp only [ht, hu]
      refine takes_skip_two (takes_bind (takes_expression hplain.1 hdepth.1) (fun e' he' => ?_)
        hfollow)
      refine takes_bind_pure hmore fun found hfound => ?_
      unfold unplacedBindings at hfound ⊢
      rw [List.map_cons, List.map_cons, hfound, he']

theorem takes_bindings {bindings : List (String × Expr)}
    (hplain : ∀ b ∈ bindings, b.2.Plain env.filters)
    (hdepth : ∀ b ∈ bindings, b.2.depth < env.depthLimit) :
    Takes env (writtenBindings bindings) noLexeme Arguments.bindings fun found =>
      unplacedBindings found = unplacedBindings bindings := by
  have hlength := length_le_writtenBindings bindings
  exact takes_left_bind fun n hn => takes_bindingsUpTo hplain hdepth n (Nat.le_trans hlength hn)

/-- Where no equals sign follows a name there are no bindings. -/
theorem takes_bindings_bind_nil {f : List (String × Expr) → Arguments α} (hy : y ≠ .symbol .equal)
    (h : Takes env (x :: y :: ls) F (f []) A) :
    Takes env (x :: y :: ls) F (Arguments.bindings >>= f) A := by
  unfold Arguments.bindings
  rw [bind_assoc]
  refine takes_left_bind fun n _ => ?_
  cases n with
  | zero =>
    rw [bindingsUpTo, pure_bind]
    exact h
  | succ n =>
    unfold bindingsUpTo
    rw [bind_assoc]
    refine takes_peek_bind fun t ht => ?_
    rw [bind_assoc]
    refine takes_peekSecond_bind fun u hu => ?_
    simp only [ht, hu]
    split
    · exact absurd rfl hy
    · rw [pure_bind]
      exact h

/-- What is bound alone can stand in front of its name. -/
theorem takes_bindings_bind_behind {e : Expr} {name : String}
    {f : List (String × Expr) → Arguments α}
    (h : Takes env (e.written .disjunction ++ [.keyword .kwAs, .identifier name]) F (f []) A) :
    Takes env (e.written .disjunction ++ [.keyword .kwAs, .identifier name]) F
      (Arguments.bindings >>= f) A := by
  have hequal : .symbol .equal ∉ e.written .disjunction := fun hmem => inner_written e _ _ hmem
  cases hwritten : e.written .disjunction with
  | nil =>
    rw [hwritten] at h
    exact takes_bindings_bind_nil nofun h
  | cons x ls =>
    rw [hwritten] at h hequal
    cases ls with
    | nil => exact takes_bindings_bind_nil nofun h
    | cons y ls =>
      refine takes_bindings_bind_nil ?_ h
      rintro rfl
      exact hequal (List.mem_cons_of_mem _ List.mem_cons_self)

/-- What `with` binds is read in both ways in which it is written. -/
theorem takes_with (style : Style) {bindings : List (String × Expr)} (hne : bindings ≠ [])
    (hplain : ∀ b ∈ bindings, b.2.Plain env.filters)
    (hdepth : ∀ b ∈ bindings, b.2.depth < env.depthLimit) :
    Takes env (style.bindings bindings) noLexeme
      (do
        match ← Arguments.bindings with
        | [] =>
          let e ← Arguments.expression
          let _ ← Arguments.keyword .kwAs
          let (name, _) ← Arguments.identifier
          pure [(name, e)]
        | found => pure found)
      fun found => unplacedBindings found = unplacedBindings bindings := by
  by_cases hbehind : ∃ name e, bindings = [(name, e)] ∧ style.bindsBehind name = true
  · obtain ⟨name, e, rfl, hname⟩ := hbehind
    have hwritten : style.bindings [(name, e)] =
        e.written .disjunction ++ [.keyword .kwAs, .identifier name] := if_pos hname
    rw [hwritten]
    have he : e.Plain env.filters := hplain (name, e) List.mem_cons_self
    have hlimit : e.depth < env.depthLimit := hdepth (name, e) List.mem_cons_self
    refine takes_bindings_bind_behind (takes_bind (takes_expression he hlimit) (fun e' he' => ?_)
      (loose_of_joins rfl _))
    refine takes_keyword_bind fun _ => takes_identifier_bind fun _ => takes_pure ?_
    unfold unplacedBindings
    rw [List.map_singleton, List.map_singleton, he']
  · have hwritten : style.bindings bindings = writtenBindings bindings := by
      unfold Style.bindings
      split
      · exact if_neg fun hname => hbehind ⟨_, _, rfl, hname⟩
      · rfl
    rw [hwritten]
    refine takes_bind_end (takes_bindings hplain hdepth) fun found hfound => ?_
    cases found with
    | nil =>
      cases bindings with
      | nil => exact absurd rfl hne
      | cons b rest => cases hfound
    | cons b found => exact takes_pure hfound

/-! ## Filters -/

theorem takes_filterChain {calls : List FilterCall} (hne : calls ≠ [])
    (hplain : ∀ f ∈ calls, f.Plain env.filters) (hdepth : depthFilters calls ≤ env.depthLimit) :
    Takes env (writtenChain calls) noLexeme Arguments.filterChain fun found =>
      unplacedFilters found = unplacedFilters calls := by
  cases calls with
  | nil => exact absurd rfl hne
  | cons f calls =>
    unfold depthFilters at hdepth
    have hreadable (f' : FilterCall) (hf' : f' ∈ f :: calls) : f'.Readable env :=
      (hplain f' hf').readable
    have hfollow : Leads (Loose .operand) (writtenFilters calls) noLexeme := by
      cases calls with
      | nil => exact leads_noLexeme
      | cons f calls => exact (by decide : Loose .operand (.symbol .bar))
    have hlength := length_le_writtenFilters calls
    refine takes_read_bind (takes_bind (hreadable f List.mem_cons_self _ (by omega))
      (fun f' hf' => ?_) hfollow)
    refine takes_left_bind fun n hn => ?_
    have hmore : Takes env (writtenFilters calls) noLexeme
        (Grammar.filtersRest (Grammar.inner env.depthLimit) n) fun found =>
          unplacedFilters found = unplacedFilters calls :=
      (takes_filtersRest (fun f' h => hreadable f' (List.mem_cons_of_mem _ h)) (by omega) n
        (by omega)).mono fun _ => False.elim
    refine takes_bind_pure hmore fun found hfound => ?_
    unfold unplacedFilters
    rw [hf', hfound]

/-! ## Parameters -/

/-- The default of a parameter is read if there is one. -/
theorem takes_default_bind {default? : Option Expr} {g : Option Expr → Arguments α}
    (hplain : ∀ e ∈ default?, e.Plain env.filters)
    (hdepth : ∀ e ∈ default?, e.depth < env.depthLimit)
    (hloose : Loose .disjunction y) (hy : y ≠ .symbol .equal)
    (h : ∀ found, found.map Expr.unplaced = default?.map Expr.unplaced →
      Takes env (y :: ls) F (g found) A) :
    Takes env (writtenDefault default? ++ y :: ls) F
      (do match ← symbol? .equal with
          | some _ => do let e ← Arguments.expression; let found ← pure (some e); g found
          | none => do let found ← pure none; g found) A := by
  cases default? with
  | none => exact takes_symbol?_bind_none hy (h none rfl)
  | some e =>
    refine takes_symbol?_bind fun _ => takes_bind (takes_expression (hplain e rfl) (hdepth e rfl))
      (fun e' he' => h (some e') ?_) hloose
    rw [Option.map_some, Option.map_some, he']

/-- No name stands twice, so none of the parameters before is refused again. -/
theorem any_eq_false_of_nodup {before : List (String × Option Expr)} {name : String}
    {names : List String} (h : (before.map Prod.fst ++ name :: names).Nodup) :
    (before.any fun p => p.1 == name) = false := by
  rw [List.any_eq_false]
  intro p hp
  rw [List.nodup_append] at h
  have hne := h.2.2 _ (List.mem_map_of_mem hp) _ List.mem_cons_self
  simpa using hne

theorem any_isSome_eq_false {before rest : List (String × Option Expr)} {name : String}
    (h : DefaultsLast (before ++ (name, none) :: rest)) :
    (before.any fun p => p.2.isSome) = false := by
  rw [List.any_eq_false]
  intro p hp hsome
  unfold DefaultsLast at h
  rw [List.map_append, List.pairwise_append] at h
  have hnone := h.2.2 _ (List.mem_map_of_mem hp) _ List.mem_cons_self hsome
  exact Bool.false_ne_true hnone

/-- A parameter is read as one if it is not refused for the parameters before it. -/
theorem takes_parameter {before rest : List (String × Option Expr)} {default? : Option Expr}
    {name tag : String} {n : Nat} {B : List (String × Option Expr) → Prop}
    (hplain : ∀ e ∈ default?, e.Plain env.filters)
    (hdepth : ∀ e ∈ default?, e.depth < env.depthLimit)
    (hnames : (before.map Prod.fst ++ ((name, default?) :: rest).map Prod.fst).Nodup)
    (horder : DefaultsLast (before ++ (name, default?) :: rest)) (hloose : Loose .disjunction y)
    (hy : y ≠ .symbol .equal)
    (h : ∀ found, found.map Expr.unplaced = default?.map Expr.unplaced →
      Takes env (y :: ls) F
        (do match ← symbol? .closeParen with
            | some _ => pure (before ++ [(name, found)])
            | none => do
              let _ ← symbol .comma
              parameters tag n (before ++ [(name, found)])) B) :
    Takes env (.identifier name :: (writtenDefault default? ++ y :: ls)) F
      (parameters tag (n + 1) before) B := by
  have hordered (found : Option Expr)
      (hfound : found.map Expr.unplaced = default?.map Expr.unplaced) :
      (found.isNone && before.any fun p => p.2.isSome) = false := by
    cases default? with
    | none => rw [any_isSome_eq_false horder, Bool.and_false]
    | some e =>
      cases found with
      | none => cases hfound
      | some e' => rfl
  refine takes_identifier_bind fun t => ?_
  simp only [any_eq_false_of_nodup hnames]
  rw [if_neg Bool.false_ne_true]
  refine takes_default_bind hplain hdepth hloose hy fun found hfound => ?_
  simp only [hordered found hfound]
  rw [if_neg Bool.false_ne_true]
  exact h found hfound

theorem takes_parameters {params : List (String × Option Expr)} (hne : params ≠ [])
    (hplain : ∀ p ∈ params, ∀ e ∈ p.2, e.Plain env.filters)
    (hdepth : ∀ p ∈ params, ∀ e ∈ p.2, e.depth < env.depthLimit) (tag : String)
    (before : List (String × Option Expr))
    (hnames : (before.map Prod.fst ++ params.map Prod.fst).Nodup)
    (horder : DefaultsLast (before ++ params)) (n : Nat) (hn : params.length ≤ n) :
    Takes env (writtenParameters params) F (parameters tag n before) fun found =>
      unplacedParameters found = unplacedParameters (before ++ params) := by
  induction params generalizing before n with
  | nil => exact absurd rfl hne
  | cons p rest ih =>
    obtain ⟨name, default?⟩ := p
    cases n with
    | zero => cases hn
    | succ n =>
      simp only [List.forall_mem_cons] at hplain hdepth
      cases rest with
      | nil =>
        refine takes_parameter hplain.1 hdepth.1 hnames horder (by decide) (by decide)
          fun found hfound => takes_symbol?_bind fun _ => takes_pure ?_
        simp only [unplacedParameters, List.map_append, List.map_cons, hfound]
      | cons q rest =>
        refine takes_parameter hplain.1 hdepth.1 hnames horder (by decide) (by decide)
          fun found hfound => ?_
        have hsome : found.isSome = default?.isSome := by
          have h := congrArg Option.isSome hfound
          rwa [Option.isSome_map, Option.isSome_map] at h
        have hmore := ih (List.cons_ne_nil _ _) hplain.2 hdepth.2 (before ++ [(name, found)])
          (by simpa using hnames)
          (by simpa [DefaultsLast, hsome] using horder) n (Nat.le_of_succ_le_succ hn)
        refine takes_symbol?_bind_none (by decide) (takes_symbol_bind fun _ => ?_)
        refine hmore.imp fun all hall => hall.trans ?_
        simp only [unplacedParameters, List.map_append, List.map_cons, hfound, List.append_assoc,
          List.singleton_append]

theorem length_le_writtenParameters (params : List (String × Option Expr)) :
    params.length ≤ (writtenParameters params).length := by
  induction params with
  | nil => exact Nat.zero_le _
  | cons p rest ih =>
    cases rest with
    | nil => exact Nat.le_add_left 1 _
    | cons q rest =>
      simp only [writtenParameters, List.length_cons, List.length_append] at ih ⊢
      omega

theorem takes_exported (exported : Bool) :
    Takes env (writtenIf exported (.keyword .kwExport)) noLexeme (keyword? .kwExport)
      fun found => found.isSome = exported := by
  cases exported with
  | true => exact takes_keyword? .kwExport
  | false => exact takes_keyword?_end .kwExport

/-- The name of a macro, its parameters, and the word for its export. -/
theorem takes_define {params : List (String × Option Expr)}
    (hparams : Parameters.Plain env.filters params)
    (hdepth : ∀ p ∈ params, ∀ e ∈ p.2, e.depth < env.depthLimit) (name : String)
    (exported : Bool) :
    Takes env (.identifier name :: .symbol .openParen ::
        (writtenParameters params ++ writtenIf exported (.keyword .kwExport))) noLexeme
      (do
        let (name, _) ← Arguments.identifier
        let _ ← Arguments.symbol .openParen
        let params ←
          match ← Arguments.symbol? .closeParen with
          | some _ => pure []
          | none => parameters name ((← Arguments.left) + 1) []
        let exported ← Arguments.keyword? .kwExport
        pure (name, params, exported.isSome))
      fun found => found.1 = name ∧ unplacedParameters found.2.1 = unplacedParameters params ∧
        found.2.2 = exported := by
  have hend (found : List (String × Option Expr))
      (hfound : unplacedParameters found = unplacedParameters params) :
      Takes env (writtenIf exported (.keyword .kwExport)) noLexeme
        (do
          let exported ← Arguments.keyword? .kwExport
          pure (name, found, exported.isSome))
        fun found => found.1 = name ∧ unplacedParameters found.2.1 = unplacedParameters params ∧
          found.2.2 = exported :=
    takes_bind_pure (takes_exported exported) fun _ hexported => ⟨rfl, hfound, hexported⟩
  refine takes_identifier_bind fun t => takes_symbol_bind fun _ => ?_
  cases params with
  | nil => exact takes_symbol?_bind fun _ => hend [] rfl
  | cons p rest =>
    have hread (n : Nat) (hn : (p :: rest).length ≤ n) :
        Takes env (writtenParameters (p :: rest)) anyLexeme (parameters name n []) fun found =>
          unplacedParameters found = unplacedParameters (p :: rest) :=
      takes_parameters (List.cons_ne_nil _ _) hparams.defaults hdepth name [] hparams.names
        hparams.order n hn
    have hlength := length_le_writtenParameters (p :: rest)
    obtain ⟨ls, hwritten⟩ : ∃ ls, writtenParameters (p :: rest) = .identifier p.1 :: ls := by
      cases rest <;> exact ⟨_, rfl⟩
    rw [hwritten] at hread hlength ⊢
    refine takes_symbol?_bind_none nofun (takes_left_bind fun n hn => ?_)
    have hn' : (Lexeme.identifier p.1 :: ls).length ≤ n := by
      refine Nat.le_trans ?_ hn
      simp only [List.length_cons, List.append_eq, List.length_append]
      omega
    refine takes_bind (hread (n + 1) (by omega)) (fun found hfound => ?_) (leads_any _)
    exact hend found hfound

/-! ## Ends of blocks -/

/-- The tag that ends a block can name it. -/
theorem takes_endName (name : String) (written : Bool) :
    Takes env (writtenIf written (.identifier name)) noLexeme
      (do
        match ← identifier? with
        | some (found, t) =>
          if found == name then pure () else refuse t (.endOfOtherBlock found name)
        | none => pure ()) fun _ => True := by
  cases written with
  | true =>
    refine takes_identifier?_bind fun t => ?_
    simp only [beq_self_eq_true, if_true]
    exact takes_pure trivial
  | false =>
    refine takes_bind (takes_takeIf_none fun _ => False.elim) ?_ leads_noLexeme
    rintro _ rfl
    exact takes_pure trivial

end Stencil
