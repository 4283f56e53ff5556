import Stencil.Proofs.Twins.Draft

/-!
# Reading the same tags at two places

From arguments that say the same, and with readers of bodies that go on alike, each built-in tag
reads statements that are alike. Three tags load a template, whose name stands in their arguments as
a string.
-/

namespace Stencil

open Drafting

/-- Sections that are alike. -/
structure Section.Alike (L : Likeness) (part part' : Section) : Prop where
  nodes : L.body part.nodes part'.nodes
  ending : part.ending.lexeme = part'.ending.lexeme
  args : SayAlike part.args part'.args

/-- Readers of bodies that go on alike, provided that no built-in tag ends a body. -/
structure SectionReader.Twins (g : Twinning) (scope scope' : DraftScope)
    (wrap wrap' : SectionReader) : Prop where
  reads : ∀ ends, (∀ tag : Tag, tag.name ∉ ends) → ∀ opener opener' : Token,
    opener.lexeme = opener'.lexeme →
      Drafting.Twins g scope scope' (wrap ends opener) (wrap' ends opener')
        (Section.Alike g.likeness)
  shrinks : wrap.Shrinks scope
  shrinks' : wrap'.Shrinks scope'

/-- Tags of one name with arguments that are related by `R`. -/
structure TagScope.Alike (g : Twinning) (scope scope' : DraftScope)
    (R : List Token → List Token → Prop) (s s' : TagScope) : Prop where
  start : s.start.lexeme = s'.start.lexeme
  args : R s.args s'.args
  names : ∀ name ∈ quoted s.args, g.name name
  top : s.top = s'.top
  wrap : s.wrap.Twins g scope scope' s'.wrap

/-- Readers of tags that go on alike. -/
abbrev TagReader.Twins (g : Twinning) (scope scope' : DraftScope)
    (r r' : Drafting (Statement × List Token)) : Prop :=
  Drafting.Twins g scope scope' r r' fun found found' =>
    found.1.Congruent g.likeness found'.1 ∧ SayAlike found.2 found'.2

section Readers

variable {g : Twinning} {scope scope' : DraftScope} {s s' : TagScope}
  (hL : g.likeness.Placeless) (hscope : scope.Alike g scope')
  (hs : s.Alike g scope scope' SayAlike s')

/-! ## Bodies -/

include hscope in
theorem twins_body {part part' : Section} (hpart : part.Alike g.likeness part') :
    Drafting.Twins g scope scope' part.body part'.body g.likeness.body := by
  refine twins_bind (A := fun _ _ => True) ?_ fun _ _ _ => twins_pure hpart.nodes
  rw [value_eq hpart.ending]
  exact twins_argumentsOf hscope _ hpart.args (pairs_pure trivial)

include hscope hs in
theorem twins_bodyUpTo (ending : String) (hending : ∀ tag : Tag, tag.name ∉ [ending]) :
    Drafting.Twins g scope scope' (TagReader.bodyUpTo s ending) (TagReader.bodyUpTo s' ending)
      g.likeness.body :=
  twins_bind (hs.wrap.reads _ hending _ _ hs.start) fun _ _ => twins_body hscope

include hscope hs in
theorem twins_bodies (middle ending : String) (hmiddle : ∀ tag : Tag, tag.name ∉ [middle, ending]) :
    Drafting.Twins g scope scope' (TagReader.bodies s middle ending)
      (TagReader.bodies s' middle ending) fun found found' =>
        g.likeness.body found.1 found'.1 ∧ Option.Rel g.likeness.body found.2 found'.2 := by
  have hending : ∀ tag : Tag, tag.name ∉ [ending] := fun tag h =>
    hmiddle tag (List.mem_cons_of_mem _ h)
  refine twins_bind (hs.wrap.reads _ hmiddle _ _ hs.start) fun first first' hfirst => ?_
  refine twins_bind (twins_body hscope hfirst) fun body body' hbody => ?_
  rw [value_eq hfirst.ending]
  refine twins_ite (fun _ => ?_) fun _ => twins_pure ⟨hbody, .none⟩
  exact twins_bind (twins_bodyUpTo hscope hs ending hending) fun _ _ hother =>
    twins_pure ⟨hbody, .some hother⟩

/-! ## Control flow -/

include hL hscope hs in
theorem twins_branches (n : Nat) {condition condition' : Expr}
    (hcondition : g.likeness.expr condition condition') :
    Drafting.Twins g scope scope' (TagReader.branches s n condition)
      (TagReader.branches s' n condition') fun found found' =>
        List.Forall₂ (fun b b' => g.likeness.expr b.1 b'.1 ∧ g.likeness.body b.2 b'.2)
          found.1 found'.1 ∧ Option.Rel g.likeness.body found.2 found'.2 := by
  induction n generalizing condition condition' with
  | zero => exact twins_refuse _ _ _ _
  | succ n ih =>
    have hends : ∀ tag : Tag, tag.name ∉ ["elif", "else", "endif"] := fun tag => by
      cases tag <;> decide
    have hend : ∀ tag : Tag, tag.name ∉ ["endif"] := fun tag h =>
      hends tag (List.mem_cons_of_mem _ (List.mem_cons_of_mem _ h))
    refine twins_bind (hs.wrap.reads _ hends _ _ hs.start) fun part part' hpart => ?_
    rw [value_eq hpart.ending]
    split
    · refine twins_bind (twins_argumentsOf hscope _ hpart.args (pairs_expression hL)) ?_
      exact fun _ _ hnext => twins_bind (ih hnext) fun _ _ hmore =>
        twins_pure ⟨.cons ⟨hcondition, hpart.nodes⟩ hmore.1, hmore.2⟩
    · refine twins_bind (twins_body hscope hpart) fun _ _ hbody => ?_
      exact twins_bind (twins_bodyUpTo hscope hs _ hend) fun _ _ hother =>
        twins_pure ⟨.cons ⟨hcondition, hbody⟩ .nil, .some hother⟩
    · exact twins_bind (twins_body hscope hpart) fun _ _ hbody =>
        twins_pure ⟨.cons ⟨hcondition, hbody⟩ .nil, .none⟩

include hL hscope hs in
theorem twins_branch : TagReader.Twins g scope scope' (TagReader.branch s)
    (TagReader.branch s') := by
  refine twins_bind (twins_arguments hscope hs.args (pairs_expression hL)) ?_
  rintro ⟨condition, rest⟩ ⟨condition', rest'⟩ ⟨hcondition, hrest⟩ d d' hd
  -- The bounds on the branches may differ, so both are raised to one that is enough for both.
  have hread := twins_branches hL hscope hs
    (d.tokens.length + d'.tokens.length + 1) hcondition d d' hd
  refine twinsAt_get_bind (twinsAt_bind (hread.of_eq ?_ ?_) fun _ _ hparts =>
    twins_pure ⟨.branch hparts.1 hparts.2, hrest⟩)
  · exact branches_bound hs.wrap.shrinks (by omega) (by omega)
  · exact branches_bound hs.wrap.shrinks' (by omega) (by omega)

include hL hscope hs in
theorem twins_compare (negated : Bool) : TagReader.Twins g scope scope'
    (TagReader.compare negated s) (TagReader.compare negated s') := by
  refine twins_bind (twins_arguments (A := fun a a' => g.likeness.expr a.1 a'.1 ∧
    g.likeness.expr a.2 a'.2) hscope hs.args (pairs_bind (pairs_expression hL) fun _ _ hlhs =>
      pairs_bind (pairs_expression hL) fun _ _ hrhs => pairs_pure ⟨hlhs, hrhs⟩)) ?_
  rintro ⟨⟨lhs, rhs⟩, rest⟩ ⟨⟨lhs', rhs'⟩, rest'⟩ ⟨⟨hlhs, hrhs⟩, hrest⟩
  refine twins_bind (twins_bodies hscope hs _ _ fun tag => ?_) fun _ _ hbodies =>
    twins_pure ⟨.compare _ hlhs hrhs hbodies.1 hbodies.2, hrest⟩
  cases negated <;> cases tag <;> decide

theorem pairs_loopWords (n : Nat) (found : Bool × Bool) :
    (TagReader.loopWords n found).Pairs (TagReader.loopWords n found) Eq := by
  induction n generalizing found with
  | zero => exact pairs_pure rfl
  | succ n ih =>
    refine pairs_bind (pairs_word? _) ?_
    rintro taken _ rfl
    refine pairs_ite (fun _ => ih _) fun _ => pairs_bind (pairs_word? _) ?_
    rintro taken _ rfl
    exact pairs_ite (fun _ => ih _) fun _ => pairs_pure rfl

include hL in
/-- What is read behind the variables of a loop. -/
theorem pairs_loopRest (first : String) (second : Option String) :
    Arguments.Pairs
      (do
        let _ ← Arguments.keyword .kwIn
        let source ← Arguments.expression
        let (reversed, sorted) ← TagReader.loopWords (← Arguments.left) (false, false)
        pure (first, second, source, reversed, sorted))
      (do
        let _ ← Arguments.keyword .kwIn
        let source ← Arguments.expression
        let (reversed, sorted) ← TagReader.loopWords (← Arguments.left) (false, false)
        pure (first, second, source, reversed, sorted))
      fun a a' => a.1 = a'.1 ∧ a.2.1 = a'.2.1 ∧ g.likeness.expr a.2.2.1 a'.2.2.1 ∧
        a.2.2.2 = a'.2.2.2 := by
  refine pairs_bind (pairs_keyword _) fun _ _ _ => pairs_bind (pairs_expression hL) ?_
  refine fun source source' hsource => pairs_bind pairs_left ?_
  rintro n _ rfl
  refine pairs_bind (pairs_loopWords n _) ?_
  rintro words _ rfl
  exact pairs_pure ⟨rfl, rfl, hsource, rfl⟩

include hL hscope hs in
theorem twins_loop : TagReader.Twins g scope scope' (TagReader.loop s) (TagReader.loop s') := by
  refine twins_bind (twins_arguments (A := fun a a' => a.1 = a'.1 ∧ a.2.1 = a'.2.1 ∧
    g.likeness.expr a.2.2.1 a'.2.2.1 ∧ a.2.2.2 = a'.2.2.2) hscope hs.args
      (pairs_bind pairs_identifier ?_)) ?_
  · rintro ⟨first, t⟩ ⟨_, t'⟩ ⟨rfl, -⟩
    refine pairs_found (pairs_symbol? _) (pairs_loopRest hL first none) fun _ _ _ => ?_
    refine pairs_bind pairs_identifier ?_
    rintro ⟨second, t⟩ ⟨_, t'⟩ ⟨rfl, -⟩
    exact pairs_loopRest hL first (some second)
  · rintro ⟨⟨first, second, source, words⟩, rest⟩ ⟨⟨_, _, source', _⟩, rest'⟩
      ⟨⟨rfl, rfl, hsource, rfl⟩, hrest⟩
    refine twins_bind (twins_bodies hscope hs _ _ fun tag => by cases tag <;> decide) ?_
    exact fun _ _ hbodies => twins_pure ⟨.loop _ _ (hL.name _) (fun _ _ => hL.name _) (hL.name _)
      hsource hbodies.1 hbodies.2, hrest⟩

include hL in
theorem pairs_cycleValues (n : Nat) :
    (TagReader.cycleValues n).Pairs (TagReader.cycleValues n) fun a a' =>
      List.Forall₂ g.likeness.expr a.1 a'.1 ∧ a.2 = a'.2 := by
  induction n with
  | zero => exact pairs_pure ⟨.nil, rfl⟩
  | succ n ih =>
    refine pairs_found pairs_peek (pairs_pure ⟨.nil, rfl⟩) fun _ _ _ => ?_
    refine pairs_found (pairs_keyword? _) ?_ fun _ _ _ => pairs_bind pairs_identifier ?_
    · refine pairs_bind (pairs_expression hL) fun e e' he => ?_
      exact pairs_bind (pairs_symbol? _) fun _ _ _ => pairs_bind ih fun _ _ hmore =>
        pairs_pure ⟨.cons he hmore.1, hmore.2⟩
    · rintro ⟨target, t⟩ ⟨_, t'⟩ ⟨rfl, -⟩
      refine pairs_bind (pairs_word? _) ?_
      rintro silent _ rfl
      exact pairs_pure ⟨.nil, rfl⟩

include hL hscope hs in
theorem twins_cycle : TagReader.Twins g scope scope' (TagReader.cycle s) (TagReader.cycle s') := by
  refine twins_bind (twins_arguments (A := fun a a' => List.Forall₂ g.likeness.expr a.1 a'.1 ∧
    a.2 = a'.2) hscope hs.args (pairs_bind pairs_left ?_)) ?_
  · rintro n _ rfl
    refine pairs_bind (pairs_cycleValues hL n) ?_
    rintro ⟨values, _⟩ ⟨values', _⟩ ⟨hvalues, rfl⟩
    cases hvalues with
    | nil => exact pairs_want _ _
    | cons he hmore => exact pairs_pure ⟨.cons he hmore, rfl⟩
  · rintro ⟨⟨values, target, silent⟩, rest⟩ ⟨⟨values', _⟩, rest'⟩ ⟨⟨hvalues, rfl⟩, hrest⟩
    exact twins_pure ⟨.cycle _ (hL.name _) hvalues fun _ _ => hL.name _, hrest⟩

include hL in
theorem pairs_expressions (n : Nat) :
    (TagReader.expressions n).Pairs (TagReader.expressions n)
      (List.Forall₂ g.likeness.expr) := by
  induction n with
  | zero => exact pairs_pure .nil
  | succ n ih =>
    refine pairs_found pairs_peek (pairs_pure .nil) fun _ _ _ => ?_
    exact pairs_bind (pairs_expression hL) fun _ _ he => pairs_bind ih fun _ _ hmore =>
      pairs_pure (.cons he hmore)

include hL hscope hs in
theorem twins_firstOf : TagReader.Twins g scope scope' (TagReader.firstOf s)
    (TagReader.firstOf s') := by
  refine twins_bind (twins_arguments (A := List.Forall₂ g.likeness.expr) hscope hs.args
    (pairs_bind pairs_left ?_)) ?_
  · rintro n _ rfl
    refine pairs_bind (pairs_expressions hL n) fun values values' hvalues => ?_
    cases hvalues with
    | nil => exact pairs_want _ _
    | cons he hmore => exact pairs_pure (.cons he hmore)
  · exact fun _ _ h => twins_pure ⟨.firstOf h.1, h.2⟩

/-! ## Inheritance and composition -/

include hscope hs in
theorem twins_block : TagReader.Twins g scope scope' (TagReader.block s) (TagReader.block s') := by
  refine twins_bind (twins_arguments hscope hs.args pairs_identifier) ?_
  rintro ⟨⟨name, t⟩, rest⟩ ⟨⟨_, t'⟩, rest'⟩ ⟨⟨rfl, -⟩, hrest⟩
  refine twins_bind (hs.wrap.reads _ (fun tag => by cases tag <;> decide) _ _ hs.start) ?_
  refine fun part part' hpart => twins_bind (A := fun _ _ => True) ?_ fun _ _ _ => ?_
  · refine twins_argumentsOf hscope _ hpart.args ?_
    refine pairs_found pairs_identifier? (pairs_pure trivial) ?_
    rintro ⟨found, t⟩ ⟨_, t'⟩ ⟨rfl, -⟩
    exact pairs_ite (fun _ => pairs_pure trivial) fun _ => pairs_refuse _ _ _ _
  · exact twins_bind (twins_registerBlock _ hpart.nodes _ _) fun _ _ _ =>
      twins_pure ⟨.block _ hpart.nodes, hrest⟩

/-- Drafts whose parents are alike are left. -/
theorem twins_parent {parent parent' : Parent} {rest rest' : List Token}
    (hparent : parent.Congruent g.likeness g.base parent') (hrest : SayAlike rest rest') :
    TagReader.Twins g scope scope'
      (do
        modify fun draft => { draft with parent := some parent }
        pure (Statement.nothing, rest))
      (do
        modify fun draft => { draft with parent := some parent' }
        pure (Statement.nothing, rest')) :=
  twins_bind (twins_modify fun _ _ hd => { hd with parent := .some hparent }) fun _ _ _ =>
    twins_pure ⟨.nothing, hrest⟩

include hL hscope hs in
theorem twins_extending : TagReader.Twins g scope scope' (TagReader.extending s)
    (TagReader.extending s') := by
  have hquotes : ∀ env a rest, Arguments.expression env s.args = .ok (a, rest) →
      ∀ name ∈ a.literalString?, g.name name := fun env a rest h name hname =>
    hs.names name (quotes_expression s.args env a rest h name hname)
  refine fun d d' hd => twinsAt_get_bind ?_
  rw [isSome_eq hd.parent, hd.seenContent, hs.top]
  refine twinsAt_ite (fun _ => twinsAt_refuse_bind _ _ _ _) fun _ => ?_
  refine twinsAt_ite (fun _ => twinsAt_refuse_bind _ _ _ _) fun _ => ?_
  refine twinsAt_bind (twins_arguments_of hscope hs.args (pairs_expression hL) hquotes d d' hd) ?_
  rintro ⟨e, rest⟩ ⟨e', rest'⟩ ⟨he, hrest, hnames⟩
  dsimp only at he hrest hnames ⊢
  rw [← hL.literal he]
  cases hliteral : e.literalString? with
  | none => exact twins_parent (.named he (hL.position _ _)) hrest
  | some name =>
    refine twins_bind (twins_load hscope (hnames name hliteral) _ _) fun loaded loaded' h => ?_
    cases h with
    | none => exact fun _ _ _ => twinsAt_refuse_bind _ _ _ _
    | some ht => exact twins_parent (.linked ht.template) hrest

/-- What follows the name in an include. -/
structure IncludeWordsAlike (L : Likeness) (found found' : List (String × Expr) × Bool × Bool) :
    Prop where
  bindings : List.Forall₂ (L.entry L.expr) found.1 found'.1
  flags : found.2 = found'.2

include hL in
theorem pairs_includeWords (n : Nat) {found found' : List (String × Expr) × Bool × Bool}
    (h : IncludeWordsAlike g.likeness found found') :
    (TagReader.includeWords n found).Pairs (TagReader.includeWords n found')
      (IncludeWordsAlike g.likeness) := by
  induction n generalizing found found' with
  | zero => exact pairs_pure h
  | succ n ih =>
    obtain ⟨bindings, only, ifExists⟩ := found
    obtain ⟨bindings', _⟩ := found'
    obtain ⟨hbindings, rfl⟩ := h
    refine pairs_bind (pairs_word? _) ?_
    rintro taken _ rfl
    refine pairs_ite (fun _ => ih ⟨hbindings, rfl⟩) fun _ => pairs_bind (pairs_word? _) ?_
    rintro taken _ rfl
    refine pairs_ite (fun _ => ih ⟨hbindings, rfl⟩) fun _ => pairs_bind (pairs_word? _) ?_
    rintro taken _ rfl
    refine pairs_ite (fun _ => pairs_bind (pairs_bindings hL) ?_) fun _ =>
      pairs_pure ⟨hbindings, rfl⟩
    intro more more' hmore
    cases hmore with
    | nil => exact pairs_want _ _
    | cons hb hmore => exact ih ⟨List.rel_append hbindings (.cons hb hmore), rfl⟩

include hscope in
/-- Includes of targets that are alike. -/
theorem twins_includes {target target' : Target}
    (htarget : target.Congruent g.likeness g.base target')
    {found found' : List (String × Expr) × Bool × Bool}
    (h : IncludeWordsAlike g.likeness found found') {rest rest' : List Token}
    (hrest : SayAlike rest rest') :
    TagReader.Twins g scope scope'
      (do pure (Statement.includes target (← read).name found.1 found.2.1 found.2.2, rest))
      (do pure (Statement.includes target' (← read).name found'.1 found'.2.1 found'.2.2,
        rest')) := by
  refine twins_read_bind ?_
  rw [hscope.name, hscope.name', ← h.flags]
  exact twins_pure ⟨.includes _ _ htarget h.bindings, hrest⟩

include hL hscope hs in
theorem twins_including : TagReader.Twins g scope scope' (TagReader.including s)
    (TagReader.including s') := by
  refine twins_bind (twins_arguments_of hscope (A := fun a a' => g.likeness.expr a.1 a'.1 ∧
    IncludeWordsAlike g.likeness a.2 a'.2) hs.args (P := fun a => ∀ name ∈ a.1.literalString?,
      g.name name) (pairs_bind (pairs_expression hL) ?_) fun env a rest h name hname => ?_) ?_
  · refine fun e e' he => pairs_bind pairs_left ?_
    rintro n _ rfl
    exact pairs_bind (pairs_includeWords hL n ⟨.nil, rfl⟩) fun _ _ hwords => pairs_pure ⟨he, hwords⟩
  · exact hs.names name (mem_quoted_of_include h name hname)
  · rintro ⟨⟨e, bindings, only, ifExists⟩, rest⟩ ⟨⟨e', bindings', _⟩, rest'⟩
      ⟨⟨he, hbindings, rfl⟩, hrest, hnames⟩
    dsimp only at he hbindings hrest hnames ⊢
    have hwords : IncludeWordsAlike g.likeness (bindings, only, ifExists)
        (bindings', only, ifExists) := ⟨hbindings, rfl⟩
    have hnamed := twins_includes hscope (.named he) hwords hrest
    rw [← hL.literal he]
    cases hliteral : e.literalString? with
    | none => exact hnamed
    | some name =>
      cases ifExists with
      | true => exact hnamed
      | false =>
        refine twins_bind (twins_load hscope (hnames name hliteral) _ _) fun loaded loaded' h => ?_
        cases h with
        | none => exact hnamed
        | some ht => exact twins_includes hscope (.linked ht.template) hwords hrest

include hL in
/-- What is read behind the name of an imported macro. -/
theorem pairs_afterImport (target : String) {m m' : Macro} (hm : g.likeness.callee m m')
    {more more' : Arguments (List (String × Macro))}
    (hmore : more.Pairs more' (List.Forall₂ (g.likeness.entry g.likeness.callee))) :
    Arguments.Pairs
      (do
        match ← Arguments.symbol? .comma with
        | some _ => return (target, m) :: (← more)
        | none => pure [(target, m)])
      (do
        match ← Arguments.symbol? .comma with
        | some _ => return (target, m') :: (← more')
        | none => pure [(target, m')])
      (List.Forall₂ (g.likeness.entry g.likeness.callee)) :=
  pairs_found (pairs_symbol? _) (pairs_pure (.cons ⟨rfl, hL.name _, hm⟩ .nil)) fun _ _ _ =>
    pairs_bind hmore fun _ _ hmore => pairs_pure (.cons ⟨rfl, hL.name _, hm⟩ hmore)

include hL in
/-- From templates that are alike the same macros are imported. -/
theorem pairs_importNames (file : String) {t t' : Template} (ht : t.Twins g.likeness t') (n : Nat) :
    (TagReader.importNames file t n).Pairs (TagReader.importNames file t' n)
      (List.Forall₂ (g.likeness.entry g.likeness.callee)) := by
  induction n with
  | zero => exact pairs_want _ _
  | succ n ih =>
    have hmore (target : String) {m m' : Macro} (hm : g.likeness.callee m m') :=
      pairs_afterImport hL target hm ih
    refine pairs_bind pairs_identifier ?_
    rintro ⟨name, at_⟩ ⟨_, at'⟩ ⟨rfl, -⟩
    have hmacro := ht.macros name
    dsimp only
    generalize t.macro? name = found at hmacro ⊢
    generalize t'.macro? name = found' at hmacro ⊢
    cases hmacro with
    | none => exact pairs_refuse _ _ _ _
    | some hm =>
      refine pairs_found (pairs_keyword? _) (hmore name hm) fun _ _ _ => ?_
      refine pairs_bind pairs_identifier ?_
      rintro ⟨target, at_⟩ ⟨_, at'⟩ ⟨rfl, -⟩
      exact hmore target hm

include hL hscope hs in
theorem twins_importing : TagReader.Twins g scope scope' (TagReader.importing s)
    (TagReader.importing s') := by
  refine twins_bind (twins_arguments_of hscope hs.args pairs_string (P := fun a => g.name a.1)
    fun env a rest h => hs.names _ (mem_quoted_of_string h)) ?_
  rintro ⟨⟨file, at_⟩, rest⟩ ⟨⟨_, at'⟩, rest'⟩ ⟨⟨rfl, -⟩, hrest, hname⟩
  refine twins_bind (twins_load hscope hname _ _) fun loaded loaded' h => ?_
  cases h with
  | none => exact twins_refuse _ _ _ _
  | some ht =>
    refine twins_bind (twins_arguments (A := List.Forall₂ (g.likeness.entry g.likeness.callee))
      hscope hrest (pairs_bind pairs_left ?_)) ?_
    · rintro n _ rfl
      exact pairs_importNames hL file ht (n + 1)
    · exact fun _ _ hmacros => twins_pure ⟨.imports hmacros.1, hmacros.2⟩

/-! ## Scopes -/

include hL hscope hs in
theorem twins_with : TagReader.Twins g scope scope' (TagReader.bind s) (TagReader.bind s') := by
  refine twins_bind (twins_arguments (A := List.Forall₂ (g.likeness.entry g.likeness.expr)) hscope
    hs.args (pairs_bind (pairs_bindings hL) fun bindings bindings' h => ?_)) ?_
  · cases h with
    | nil =>
      refine pairs_bind (pairs_expression hL) fun e e' he => pairs_bind (pairs_keyword _) ?_
      refine fun _ _ _ => pairs_bind pairs_identifier ?_
      rintro ⟨name, t⟩ ⟨_, t'⟩ ⟨rfl, -⟩
      exact pairs_pure (.cons ⟨rfl, hL.name _, he⟩ .nil)
    | cons hb hmore => exact pairs_pure (.cons hb hmore)
  · rintro ⟨bindings, rest⟩ ⟨bindings', rest'⟩ ⟨hbindings, hrest⟩
    refine twins_bind (twins_bodyUpTo hscope hs _ fun tag => by cases tag <;> decide) ?_
    exact fun _ _ hbody => twins_pure ⟨.bind hbindings hbody, hrest⟩

include hL hscope hs in
theorem twins_assign : TagReader.Twins g scope scope' (TagReader.assign s)
    (TagReader.assign s') := by
  refine twins_bind (twins_arguments (A := fun a a' => a.1 = a'.1 ∧ g.likeness.expr a.2 a'.2) hscope
    hs.args (pairs_bind pairs_identifier ?_)) ?_
  · rintro ⟨name, t⟩ ⟨_, t'⟩ ⟨rfl, -⟩
    exact pairs_bind (pairs_symbol _) fun _ _ _ => pairs_bind (pairs_expression hL) fun _ _ he =>
      pairs_pure ⟨rfl, he⟩
  · rintro ⟨⟨name, e⟩, rest⟩ ⟨⟨_, e'⟩, rest'⟩ ⟨⟨rfl, he⟩, hrest⟩
    exact twins_pure ⟨.assign (hL.name _) he, hrest⟩

theorem any_isSome_eq {before before' : List (String × Option Expr)}
    (hbefore : List.Forall₂ (g.likeness.entry (Option.Rel g.likeness.expr)) before before') :
    (before.any fun p => p.2.isSome) = before'.any fun p => p.2.isSome := by
  induction hbefore with
  | nil => rfl
  | cons h _ ih => rw [List.any_cons, List.any_cons, ih, isSome_eq h.2.2]

include hL in
/-- What is read behind the name of a parameter and its default. -/
theorem pairs_afterParameter {tag name : String} {n : Nat} (at_ at' : Token)
    {before before' : List (String × Option Expr)}
    (hbefore : List.Forall₂ (g.likeness.entry (Option.Rel g.likeness.expr)) before before')
    (hmore : ∀ {params params'},
      List.Forall₂ (g.likeness.entry (Option.Rel g.likeness.expr)) params params' →
        (TagReader.parameters tag n params).Pairs (TagReader.parameters tag n params')
          (List.Forall₂ (g.likeness.entry (Option.Rel g.likeness.expr))))
    {value? value'? : Option Expr} (hvalue : Option.Rel g.likeness.expr value? value'?) :
    Arguments.Pairs
      (do
        if value?.isNone && before.any fun p => p.2.isSome then
          Arguments.refuse at_ (.parameterOrder name)
        match ← Arguments.symbol? .closeParen with
        | some _ => pure (before ++ [(name, value?)])
        | none =>
          let _ ← Arguments.symbol .comma
          TagReader.parameters tag n (before ++ [(name, value?)]))
      (do
        if value'?.isNone && before'.any fun p => p.2.isSome then
          Arguments.refuse at' (.parameterOrder name)
        match ← Arguments.symbol? .closeParen with
        | some _ => pure (before' ++ [(name, value'?)])
        | none =>
          let _ ← Arguments.symbol .comma
          TagReader.parameters tag n (before' ++ [(name, value'?)]))
      (List.Forall₂ (g.likeness.entry (Option.Rel g.likeness.expr))) := by
  have hparams : List.Forall₂ (g.likeness.entry (Option.Rel g.likeness.expr))
      (before ++ [(name, value?)]) (before' ++ [(name, value'?)]) :=
    List.rel_append hbefore (.cons ⟨rfl, hL.name _, hvalue⟩ .nil)
  have hmissing : value?.isNone = value'?.isNone := by
    cases hvalue <;> rfl
  rw [hmissing, any_isSome_eq hbefore]
  refine pairs_ite (fun _ => pairs_refuse_bind _ _ _ _) fun _ => ?_
  refine pairs_found (pairs_symbol? _) ?_ fun _ _ _ => pairs_pure hparams
  exact pairs_bind (pairs_symbol _) fun _ _ _ => hmore hparams

include hL in
theorem pairs_parameters (tag : String) (n : Nat) {before before' : List (String × Option Expr)}
    (hbefore : List.Forall₂ (g.likeness.entry (Option.Rel g.likeness.expr)) before before') :
    (TagReader.parameters tag n before).Pairs (TagReader.parameters tag n before')
      (List.Forall₂ (g.likeness.entry (Option.Rel g.likeness.expr))) := by
  induction n generalizing before before' with
  | zero => exact pairs_want _ _
  | succ n ih =>
    refine pairs_bind pairs_identifier ?_
    rintro ⟨name, at_⟩ ⟨_, at'⟩ ⟨rfl, -⟩
    have hknown : (before.any fun p => p.1 == name) = before'.any fun p => p.1 == name :=
      has_eq (hbefore.imp fun _ _ h => ⟨h.1, h.2.2⟩) name
    dsimp only
    rw [hknown]
    refine pairs_ite (fun _ => pairs_refuse_bind _ _ _ _) fun _ => ?_
    refine pairs_found (pairs_symbol? _) ?_ fun _ _ _ => ?_
    · exact pairs_afterParameter hL at_ at' hbefore ih .none
    · exact pairs_bind (pairs_expression hL) fun _ _ he =>
        pairs_afterParameter hL at_ at' hbefore ih (.some he)

include hL hscope hs in
theorem twins_define : TagReader.Twins g scope scope' (TagReader.define s)
    (TagReader.define s') := by
  have hpair (name : String) {params params' : List (String × Option Expr)}
      (hparams : List.Forall₂ (g.likeness.entry (Option.Rel g.likeness.expr)) params params') :
      Arguments.Pairs
        (do
          let exported ← Arguments.keyword? .kwExport
          pure (name, params, exported.isSome))
        (do
          let exported ← Arguments.keyword? .kwExport
          pure (name, params', exported.isSome))
        fun a a' => a.1 = a'.1 ∧ a.2.2 = a'.2.2 ∧
          List.Forall₂ (g.likeness.entry (Option.Rel g.likeness.expr)) a.2.1 a'.2.1 :=
    pairs_bind (pairs_keyword? _) fun _ _ hexported =>
      pairs_pure ⟨rfl, isSome_eq hexported, hparams⟩
  refine twins_bind (twins_arguments (A := fun a a' => a.1 = a'.1 ∧ a.2.2 = a'.2.2 ∧
    List.Forall₂ (g.likeness.entry (Option.Rel g.likeness.expr)) a.2.1 a'.2.1) hscope hs.args
      (pairs_bind pairs_identifier ?_)) ?_
  · rintro ⟨name, t⟩ ⟨_, t'⟩ ⟨rfl, -⟩
    refine pairs_bind (pairs_symbol _) fun _ _ _ => ?_
    refine pairs_found (pairs_symbol? _) ?_ fun _ _ _ => hpair name .nil
    refine pairs_bind pairs_left ?_
    rintro n _ rfl
    exact pairs_bind (pairs_parameters hL name (n + 1) .nil) fun _ _ hparams => hpair name hparams
  · rintro ⟨⟨name, params, exported⟩, rest⟩ ⟨⟨_, params', _⟩, rest'⟩ ⟨⟨rfl, rfl, hparams⟩, hrest⟩
    dsimp only at hparams hrest ⊢
    refine twins_bind (twins_bodyUpTo hscope hs _ fun tag => by cases tag <;> decide) ?_
    intro body body' hbody
    have hm : g.likeness.callee ⟨name, params, body, exported⟩ ⟨name, params', body', exported⟩ :=
      hL.callee ⟨rfl, hparams, hbody⟩
    have hdefine : TagReader.Twins g scope scope'
        (pure (.define ⟨name, params, body, exported⟩, rest))
        (pure (.define ⟨name, params', body', exported⟩, rest')) :=
      twins_pure ⟨.define (hL.name _) hm, hrest⟩
    refine twins_ite (fun _ => ?_) fun _ => hdefine
    exact twins_bind (twins_registerMacro hm rfl _ _) fun _ _ _ => hdefine

include hscope hs in
theorem twins_autoescape : TagReader.Twins g scope scope' (TagReader.autoescape s)
    (TagReader.autoescape s') := by
  refine twins_bind (twins_arguments (A := Eq) hscope hs.args (pairs_bind pairs_identifier ?_)) ?_
  · rintro ⟨mode, t⟩ ⟨_, t'⟩ ⟨rfl, -⟩
    dsimp only
    split
    · exact pairs_pure rfl
    · exact pairs_pure rfl
    · exact pairs_refuse _ _ _ _
  · rintro ⟨enabled, rest⟩ ⟨_, rest'⟩ ⟨rfl, hrest⟩
    refine twins_bind (twins_bodyUpTo hscope hs _ fun tag => by cases tag <;> decide) ?_
    exact fun _ _ hbody => twins_pure ⟨.escaping _ hbody, hrest⟩

include hL hscope hs in
theorem twins_filtering : TagReader.Twins g scope scope' (TagReader.filtering s)
    (TagReader.filtering s') := by
  refine twins_bind (twins_arguments hscope hs.args (pairs_filterChain hL)) fun found found' h => ?_
  refine twins_bind (twins_bodyUpTo hscope hs _ fun tag => by cases tag <;> decide) ?_
  exact fun _ _ hbody => twins_pure ⟨.filtering h.1 hbody, h.2⟩

/-! ## Text -/

include hscope hs in
theorem twins_spaceless : TagReader.Twins g scope scope' (TagReader.spaceless s)
    (TagReader.spaceless s') :=
  twins_bind (twins_bodyUpTo hscope hs _ fun tag => by cases tag <;> decide) fun _ _ hbody =>
    twins_pure ⟨.spaceless hbody, hs.args⟩

include hscope hs in
theorem twins_comment : TagReader.Twins g scope scope' (TagReader.comment s)
    (TagReader.comment s') :=
  twins_bind (twins_bodyUpTo hscope hs _ fun tag => by cases tag <;> decide) fun _ _ _ =>
    twins_pure ⟨.nothing, hs.args⟩

include hscope hs in
theorem twins_now : TagReader.Twins g scope scope' (TagReader.now s) (TagReader.now s') := by
  refine twins_bind (twins_arguments (A := Eq) hscope hs.args (pairs_bind pairs_string ?_)) ?_
  · rintro ⟨format, t⟩ ⟨_, t'⟩ ⟨rfl, -⟩
    refine pairs_ite (fun _ => pairs_refuse_bind _ _ _ _) fun _ => pairs_bind (pairs_word? _) ?_
    rintro fake _ rfl
    exact pairs_pure rfl
  · rintro ⟨⟨format, fake⟩, rest⟩ ⟨_, rest'⟩ ⟨rfl, hrest⟩
    exact twins_pure ⟨.now _ _, hrest⟩

include hscope hs in
theorem twins_templatetag : TagReader.Twins g scope scope' (TagReader.templatetag s)
    (TagReader.templatetag s') := by
  refine twins_bind (twins_arguments (A := Eq) hscope hs.args (pairs_bind pairs_identifier ?_)) ?_
  · rintro ⟨name, t⟩ ⟨_, t'⟩ ⟨rfl, -⟩
    dsimp only
    split
    · exact pairs_pure rfl
    · exact pairs_refuse _ _ _ _
  · rintro ⟨text, rest⟩ ⟨_, rest'⟩ ⟨rfl, hrest⟩
    exact twins_pure ⟨.write _, hrest⟩

include hL hscope hs in
theorem twins_widthratio : TagReader.Twins g scope scope' (TagReader.widthratio s)
    (TagReader.widthratio s') := by
  refine twins_bind (twins_arguments (A := fun a a' => g.likeness.expr a.1 a'.1 ∧
    g.likeness.expr a.2.1 a'.2.1 ∧ g.likeness.expr a.2.2.1 a'.2.2.1 ∧ a.2.2.2 = a'.2.2.2) hscope
      hs.args (pairs_bind (pairs_expression hL) fun value value' hvalue => ?_)) ?_
  · refine pairs_bind (pairs_expression hL) fun most most' hmost => ?_
    refine pairs_bind (pairs_expression hL) fun width width' hwidth => ?_
    refine pairs_found (pairs_keyword? _) (pairs_pure ⟨hvalue, hmost, hwidth, rfl⟩) fun _ _ _ => ?_
    refine pairs_bind pairs_identifier ?_
    rintro ⟨target, t⟩ ⟨_, t'⟩ ⟨rfl, -⟩
    exact pairs_pure ⟨hvalue, hmost, hwidth, rfl⟩
  · rintro ⟨⟨value, most, width, target⟩, rest⟩ ⟨⟨value', most', width', _⟩, rest'⟩
      ⟨⟨hvalue, hmost, hwidth, rfl⟩, hrest⟩
    exact twins_pure ⟨.ratio hvalue hmost hwidth fun _ _ => hL.name _, hrest⟩

/-! ## All tags -/

include hL hscope hs in
/-- From arguments that say the same a built-in tag reads statements that are alike. -/
theorem twins_builtin (tag : Tag) : TagReader.Twins g scope scope' (TagReader.builtin tag s)
    (TagReader.builtin tag s') := by
  cases tag with
  | branch => exact twins_branch hL hscope hs
  | compareEqual => exact twins_compare hL hscope hs false
  | compareUnequal => exact twins_compare hL hscope hs true
  | loop => exact twins_loop hL hscope hs
  | cycle => exact twins_cycle hL hscope hs
  | firstOf => exact twins_firstOf hL hscope hs
  | block => exact twins_block hscope hs
  | extending => exact twins_extending hL hscope hs
  | including => exact twins_including hL hscope hs
  | importing => exact twins_importing hL hscope hs
  | bind => exact twins_with hL hscope hs
  | assign => exact twins_assign hL hscope hs
  | define => exact twins_define hL hscope hs
  | autoescape => exact twins_autoescape hscope hs
  | filtering => exact twins_filtering hL hscope hs
  | spaceless => exact twins_spaceless hscope hs
  | comment => exact twins_comment hscope hs
  | now => exact twins_now hscope hs
  | templatetag => exact twins_templatetag hscope hs
  | widthratio => exact twins_widthratio hL hscope hs

/-! ### Tags of the host -/

include hscope hs in
theorem twins_sections {ends : List String} (hends : ∀ tag : Tag, tag.name ∉ ends) (n : Nat) :
    Drafting.Twins g scope scope' (TagReader.sections s ends n) (TagReader.sections s' ends n)
      (List.Forall₂ fun s s' => g.likeness.body s.1 s'.1 ∧ s.2.lexeme = s'.2.lexeme) := by
  induction n with
  | zero => exact twins_refuse _ _ _ _
  | succ n ih =>
    refine twins_bind (hs.wrap.reads _ hends _ _ hs.start) fun part part' hpart => ?_
    refine twins_bind (twins_body hscope hpart) fun body body' hbody => ?_
    rw [value_eq hpart.ending]
    refine twins_ite (fun _ => twins_pure (.cons ⟨hbody, hpart.ending⟩ .nil)) fun _ => ?_
    exact twins_bind ih fun _ _ hmore => twins_pure (.cons ⟨hbody, hpart.ending⟩ hmore)

include hL hscope hs in
theorem twins_custom {tag : CustomTag} (htag : tag.Uniform) : TagReader.Twins g scope scope'
    (TagReader.custom tag s) (TagReader.custom tag s') := by
  refine twins_bind (twins_arguments (A := fun a a' => Option.Rel g.likeness.expr a.1 a'.1 ∧
    SayAlike a.2 a'.2) hscope hs.args ?_) ?_
  · cases tag.arguments with
    | none => exact pairs_pure ⟨.none, .nil⟩
    | expression => exact pairs_bind (pairs_expression hL) fun _ _ he => pairs_pure ⟨.some he, .nil⟩
    | tokens => exact pairs_bind pairs_takeAll fun _ _ hts => pairs_pure ⟨.none, hts⟩
    | refusal text => exact pairs_want _ _
  · rintro ⟨⟨value, tokens⟩, rest⟩ ⟨⟨value', tokens'⟩, rest'⟩ ⟨⟨hvalue, htokens⟩, hrest⟩
    have hbuilt {parts parts' : List (Body × Token)}
        (hparts : List.Forall₂
          (fun s s' => g.likeness.body s.1 s'.1 ∧ s.2.lexeme = s'.2.lexeme) parts
          parts') :
        TagReader.Twins g scope scope'
          (do
            let scope ← read
            pure (Statement.custom (tag.build
              { template := scope.name, name := s.start, value, tokens, sections := parts }), rest))
          (do
            let scope ← read
            pure (Statement.custom (tag.build
              { template := scope.name, name := s'.start, value := value', tokens := tokens'
                sections := parts' }), rest')) := by
      refine twins_read_bind (twins_pure ⟨.custom (htag.build _ hL _ _ ?_), hrest⟩)
      exact ⟨hscope.name.trans hscope.name'.symm, hs.start, hvalue, htokens, hparts⟩
    have hends := htag.ends
    dsimp only
    generalize tag.ends = ends at hends ⊢
    cases ends with
    | nil => exact twins_bind (twins_pure .nil) fun _ _ hparts => hbuilt hparts
    | cons =>
      intro d d' hd
      have hread := twins_sections hscope hs hends (d.tokens.length + d'.tokens.length + 1) d d' hd
      refine twinsAt_get_bind (twinsAt_bind (hread.of_eq ?_ ?_) fun _ _ hparts => hbuilt hparts)
      · exact sections_bound hs.wrap.shrinks _ (by omega) (by omega)
      · exact sections_bound hs.wrap.shrinks' _ (by omega) (by omega)

include hL hscope hs in
/-- From arguments that say the same a tag reads statements that are alike. -/
theorem twins_ofRef {name : String} {ref : TagRef}
    (href : scope.catalog.tags.find? name = some ref) :
    TagReader.Twins g scope scope' (TagReader.ofRef ref s) (TagReader.ofRef ref s') := by
  cases ref with
  | builtin tag => exact twins_builtin hL hscope hs tag
  | custom tag => exact twins_custom hL hscope hs (hscope.uniform name tag href)

end Readers

end Stencil
