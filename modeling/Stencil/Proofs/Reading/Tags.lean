import Stencil.Proofs.Reading.Draft

/-!
# What readers of tags give

Each tag reads its arguments, and its bodies with the reader for bodies that is one level of nesting
further in.  If the bodies obey the rules, so does the statement.
-/

namespace Stencil

open Drafting

variable {g : Regime} {scope : DraftScope} {P : Prop} {d : Draft}

/-- A section whose body obeys the rules. -/
structure Section.Obeys (g : Regime) (inner : Nat) (part : Section) : Prop where
  nodes : Body.Obeys g.rules g.blocks inner part.nodes
  args : g.wording.Fits part.args

/-- The reader of bodies gives such as obey the rules. -/
def SectionReader.Keeps (g : Regime) (scope : DraftScope) (inner : Nat) (wrap : SectionReader) :
    Prop :=
  ∀ P ends opener, Reads g scope P (wrap ends opener) (Section.Obeys g inner)

/-- The reader of a tag named `tag` finds arguments of the right wording. -/
structure TagScope.Fits (g : Regime) (tag : String) (s : TagScope) : Prop where
  args : g.wording.Fits s.args
  first : ∀ name ∈ Arguments.firstName? s.args, g.wording.first tag name

/-- What a reader of tags should give: a statement that obeys the rules, and left arguments. -/
def TagReader.Gives (g : Regime) (inner : Nat) (found : Statement × List Token) : Prop :=
  found.1.Obeys g.rules g.blocks (inner + 1) ∧ g.wording.Fits found.2

section Readers

variable (hscope : scope.Keeps g) {inner : Nat} {s : TagScope} {tag : String}
  (hwrap : s.wrap.Keeps g scope inner) (hs : P → s.Fits g tag)
include hscope

/-! ## Bodies -/

theorem reads_body {part : Section} (hpart : P → part.Obeys g inner) :
    Reads g scope P part.body (Body.Obeys g.rules g.blocks inner) := by
  refine reads_bind (A := fun _ => True) ?_ fun _ => reads_pure fun h => (hpart h.1).nodes
  exact reads_argumentsOf hscope (fun hP => (hpart hP).args) fun _ _ _ => gives_pure trivial

include hwrap in
theorem reads_bodyUpTo (ending : String) :
    Reads g scope P (TagReader.bodyUpTo s ending) (Body.Obeys g.rules g.blocks inner) :=
  reads_bind (hwrap _ _ _) fun _ => reads_body hscope fun h => h.2

include hwrap in
theorem reads_bodies (middle ending : String) :
    Reads g scope P (TagReader.bodies s middle ending) fun found =>
      Body.Obeys g.rules g.blocks inner found.1 ∧
        ∀ body ∈ found.2, Body.Obeys g.rules g.blocks inner body := by
  refine reads_bind (hwrap _ _ _) fun first => ?_
  refine reads_bind (reads_body hscope fun h => h.2) fun body => ?_
  split
  · refine reads_bind (reads_bodyUpTo hscope hwrap ending) fun other => ?_
    refine reads_pure fun h => ⟨h.1.2, ?_⟩
    rintro _ ⟨⟩
    exact h.2
  · exact reads_pure fun h => ⟨h.2, nofun⟩

include hs in
theorem reads_tagArguments {α : Type} {r : Arguments α} {A : α → Prop}
    (hr : P → ∀ env, env.filters.Admits g.wording g.rules → Arguments.Gives env g.wording r A) :
    Reads g scope P (TagReader.arguments s r) fun a => A a.1 ∧ g.wording.Fits a.2 :=
  reads_arguments hscope (fun hP => (hs hP).args) hr

/-! ## Control flow -/

include hwrap in
theorem reads_branches (n : Nat) (condition : Expr) (hcondition : P → condition.Obeys g.rules) :
    Reads g scope P (TagReader.branches s n condition) fun found =>
      (∀ b ∈ found.1, b.1.Obeys g.rules) ∧
        (∀ b ∈ found.1, Body.Obeys g.rules g.blocks inner b.2) ∧
          ∀ body ∈ found.2, Body.Obeys g.rules g.blocks inner body := by
  induction n generalizing P condition with
  | zero => exact reads_refuse hscope _ _
  | succ n ih =>
    refine reads_bind (hwrap _ _ _) fun part => ?_
    split
    · refine reads_bind (reads_argumentsOf hscope (fun h => h.2.args) fun _ env henv =>
        gives_expression henv) fun next => ?_
      refine reads_bind (ih next fun h => h.2) fun found => ?_
      refine reads_pure fun h => ⟨?_, ?_, h.2.2.2⟩
      · exact List.forall_mem_cons.mpr ⟨hcondition h.1.1.1, h.2.1⟩
      · exact List.forall_mem_cons.mpr ⟨h.1.1.2.nodes, h.2.2.1⟩
    · refine reads_bind (reads_body hscope fun h => h.2) fun body => ?_
      refine reads_bind (reads_bodyUpTo hscope hwrap "endif") fun otherwise => ?_
      refine reads_pure fun h => ⟨?_, ?_, ?_⟩
      · exact List.forall_mem_singleton.mpr (hcondition h.1.1.1)
      · exact List.forall_mem_singleton.mpr h.1.2
      · rintro _ ⟨⟩
        exact h.2
    · refine reads_bind (reads_body hscope fun h => h.2) fun body => ?_
      refine reads_pure fun h => ⟨?_, ?_, nofun⟩
      · exact List.forall_mem_singleton.mpr (hcondition h.1.1)
      · exact List.forall_mem_singleton.mpr h.2

include hwrap hs in
theorem reads_branch : Reads g scope P (TagReader.branch s) (TagReader.Gives g inner) := by
  refine reads_bind (reads_tagArguments hscope hs fun _ env henv => gives_expression henv)
    fun found => ?_
  refine reads_get_bind fun d => ?_
  refine readsAt_bind (reads_branches hscope hwrap _ _ (fun h => h.1.2.1) d) fun parts => ?_
  refine reads_pure fun h => ⟨?_, h.1.1.2.2⟩
  exact .branch (Nat.lt_succ_self inner) h.2.1 h.2.2.1 h.2.2.2

include hwrap hs in
theorem reads_compare (negated : Bool) :
    Reads g scope P (TagReader.compare negated s) (TagReader.Gives g inner) := by
  have hr : P → ∀ env, env.filters.Admits g.wording g.rules →
      Arguments.Gives env g.wording (do
        let lhs ← Arguments.expression
        return (lhs, ← Arguments.expression)) fun e => e.1.Obeys g.rules ∧ e.2.Obeys g.rules :=
    fun _ env henv => gives_bind (gives_expression henv) fun lhs hlhs =>
      gives_bind (gives_expression henv) fun rhs hrhs => gives_pure ⟨hlhs, hrhs⟩
  refine reads_bind (reads_tagArguments hscope hs hr) fun found => ?_
  refine reads_bind (reads_bodies hscope hwrap _ _) fun parts => ?_
  refine reads_pure fun h => ⟨?_, h.1.2.2⟩
  exact .compare (Nat.lt_succ_self inner) h.1.2.1.1 h.1.2.1.2 h.2.1 h.2.2

omit hscope in
theorem gives_loopWords {env : Surroundings} (n : Nat) (found : Bool × Bool) :
    Arguments.Gives env g.wording (TagReader.loopWords n found) fun _ => True := by
  induction n generalizing found with
  | zero => exact gives_pure trivial
  | succ n ih =>
    refine gives_bind (gives_word? _) fun _ _ => ?_
    split
    · exact ih _
    · refine gives_bind (gives_word? _) fun _ _ => ?_
      split
      · exact ih _
      · exact gives_pure trivial

omit hscope in
/-- What follows the variables of a loop. -/
theorem gives_loopSource {env : Surroundings} (henv : env.filters.Admits g.wording g.rules)
    (first : String) (second : Option String) :
    Arguments.Gives env g.wording (do
      let _ ← Arguments.keyword .kwIn
      let source ← Arguments.expression
      let (reversed, sorted) ← TagReader.loopWords (← Arguments.left) (false, false)
      pure (first, second, source, reversed, sorted)) fun a => a.2.2.1.Obeys g.rules := by
  refine gives_bind (gives_keyword .kwIn) fun _ _ => ?_
  refine gives_bind (gives_expression henv) fun source hsource => ?_
  refine gives_bind gives_left fun n _ => gives_bind (gives_loopWords n _) fun _ _ => ?_
  exact gives_pure hsource

include hwrap hs in
theorem reads_loop : Reads g scope P (TagReader.loop s) (TagReader.Gives g inner) := by
  refine reads_bind (reads_tagArguments hscope hs
    (A := fun a : String × Option String × Expr × Bool × Bool => a.2.2.1.Obeys g.rules)
    fun _ env henv => ?_) fun found => ?_
  · refine gives_bind gives_identifier fun first _ => ?_
    refine gives_bind (gives_symbol? .comma) fun comma _ => ?_
    split
    · refine gives_bind gives_identifier fun second _ => ?_
      exact gives_loopSource henv first.1 (some second.1)
    · exact gives_loopSource henv first.1 none
  · refine reads_bind (reads_bodies hscope hwrap _ _) fun parts => ?_
    refine reads_pure fun h => ⟨?_, h.1.2.2⟩
    exact .loop (Nat.lt_succ_self inner) h.1.2.1 h.2.1 h.2.2

include hs in
theorem reads_cycle : Reads g scope P (TagReader.cycle s) (TagReader.Gives g inner) := by
  have hvalues : ∀ env, env.filters.Admits g.wording g.rules → ∀ n,
      Arguments.Gives env g.wording (TagReader.cycleValues n) fun a => Exprs.Obey g.rules a.1 := by
    intro env henv n
    induction n with
    | zero => exact gives_pure .nil
    | succ n ih =>
      refine gives_bind gives_peek fun next _ => ?_
      split
      · exact gives_pure .nil
      · refine gives_bind (gives_keyword? .kwAs) fun found _ => ?_
        split
        · refine gives_bind gives_identifier fun target _ => ?_
          exact gives_bind (gives_word? _) fun _ _ => gives_pure .nil
        · refine gives_bind (gives_expression henv) fun e he => ?_
          refine gives_bind (gives_symbol? .comma) fun _ _ => gives_bind ih fun rest hrest => ?_
          exact gives_pure (.cons he hrest)
  refine reads_bind (reads_tagArguments hscope hs
    (A := fun a : List Expr × Option String × Bool => Exprs.Obey g.rules a.1)
    fun _ env henv => ?_) fun found => ?_
  · refine gives_bind gives_left fun n _ => gives_bind (hvalues env henv n) fun found hfound => ?_
    split
    · exact gives_want _
    · exact gives_pure hfound
  · exact reads_pure fun h => ⟨.cycle h.2.1, h.2.2⟩

include hs in
theorem reads_firstOf : Reads g scope P (TagReader.firstOf s) (TagReader.Gives g inner) := by
  have hvalues : ∀ env, env.filters.Admits g.wording g.rules → ∀ n,
      Arguments.Gives env g.wording (TagReader.expressions n) (Exprs.Obey g.rules) := by
    intro env henv n
    induction n with
    | zero => exact gives_pure .nil
    | succ n ih =>
      refine gives_bind gives_peek fun next _ => ?_
      split
      · exact gives_pure .nil
      · refine gives_bind (gives_expression henv) fun e he => gives_bind ih fun rest hrest => ?_
        exact gives_pure (.cons he hrest)
  refine reads_bind (reads_tagArguments hscope hs (A := Exprs.Obey g.rules) fun _ env henv => ?_)
    fun found => ?_
  · refine gives_bind gives_left fun n _ => gives_bind (hvalues env henv n) fun found hfound => ?_
    split
    · exact gives_want _
    · exact gives_pure hfound
  · exact reads_pure fun h => ⟨.firstOf h.2.1, h.2.2⟩

/-! ## Inheritance and composition -/

include hwrap hs in
theorem reads_block (hinner : inner ≤ g.rules.nesting) :
    Reads g scope P (TagReader.block s) (TagReader.Gives g inner) := by
  refine reads_bind (reads_tagArguments hscope hs fun _ env _ => gives_identifier) fun found => ?_
  refine reads_bind (hwrap _ _ _) fun part => ?_
  refine reads_bind (A := fun _ => True) ?_ fun _ => ?_
  · refine reads_argumentsOf hscope (fun h => h.2.args) fun _ env _ => ?_
    refine gives_bind gives_identifier? fun name _ => ?_
    split
    · split
      · exact gives_pure trivial
      · exact gives_refuse _ _
    · exact gives_pure trivial
  · refine reads_bind (reads_registerBlock hscope fun h => ?_) fun _ => ?_
    · exact h.1.2.nodes.mono hinner
    · refine reads_pure fun h => ⟨?_, h.1.1.1.2.2⟩
      exact .block (Nat.lt_succ_self inner) h.2 h.1.1.2.nodes

include hs in
theorem reads_extending : Reads g scope P (TagReader.extending s) (TagReader.Gives g inner) := by
  have hnote : ∀ (Q : Prop) (parent : Parent) (rest : List Token),
      (Q → parent.Obeys g.rules ∧ g.wording.Fits rest) →
        Reads g scope Q (do
          modify fun draft => { draft with parent := some parent }
          pure (Statement.nothing, rest)) (TagReader.Gives g inner) := by
    intro Q parent rest h
    refine reads_bind (reads_modify (fun d => ⟨List.suffix_refl _, List.Subset.refl _, id⟩)
      fun d hQ hd => { hd with parent := ?_ }) fun _ => reads_pure fun hQ => ⟨.nothing, (h hQ.1).2⟩
    rintro _ ⟨⟩
    exact (h hQ).1
  refine reads_get_bind fun d => ?_
  split
  · split <;> exact reads_refuse_bind hscope _ _ _ d
  · split
    · exact reads_refuse_bind hscope _ _ _ d
    · refine readsAt_bind (reads_tagArguments hscope (fun h => hs h.1)
        (fun _ env henv => gives_expression henv) d) fun found => ?_
      dsimp only
      split
      · refine reads_bind (reads_load hscope _ _) fun loaded => ?_
        split
        · refine hnote _ _ _ fun h => ⟨.linked (h.2 _ rfl), h.1.2.2⟩
        · exact reads_refuse_bind hscope _ _ _
      · exact hnote _ _ _ fun h => ⟨.named h.2.1, h.2.2⟩

include hs in
theorem reads_including : Reads g scope P (TagReader.including s) (TagReader.Gives g inner) := by
  have hwords : ∀ env, env.filters.Admits g.wording g.rules → ∀ n found,
      (∀ b ∈ found.1, b.2.Obeys g.rules) →
        Arguments.Gives env g.wording (TagReader.includeWords n found) fun a =>
          ∀ b ∈ a.1, b.2.Obeys g.rules := by
    intro env henv n
    induction n with
    | zero => exact fun found hfound => gives_pure hfound
    | succ n ih =>
      intro found hfound
      refine gives_bind (gives_word? _) fun _ _ => ?_
      split
      · exact ih _ hfound
      · refine gives_bind (gives_word? _) fun _ _ => ?_
        split
        · exact ih _ hfound
        · refine gives_bind (gives_word? _) fun _ _ => ?_
          split
          · refine gives_bind (gives_bindings henv) fun more hmore => ?_
            split
            · exact gives_want _
            · exact ih _ (List.forall_mem_append.mpr ⟨hfound, hmore⟩)
          · exact gives_pure hfound
  have hnamed : ∀ (Q : Prop) (target : Target) (bindings : List (String × Expr))
      (only ifExists : Bool) (rest : List Token),
      (Q → target.Obeys g.rules ∧ (∀ b ∈ bindings, b.2.Obeys g.rules) ∧ g.wording.Fits rest) →
        Reads g scope Q (do
          pure (Statement.includes target (← read).name bindings only ifExists, rest))
          (TagReader.Gives g inner) := by
    intro Q target bindings only ifExists rest h
    refine reads_read_bind (reads_pure fun hQ => ?_)
    exact ⟨.includes (h hQ).1 (h hQ).2.1, (h hQ).2.2⟩
  refine reads_bind (reads_tagArguments hscope hs
    (A := fun a : Expr × List (String × Expr) × Bool × Bool =>
      a.1.Obeys g.rules ∧ ∀ b ∈ a.2.1, b.2.Obeys g.rules) fun _ env henv => ?_) fun found => ?_
  · refine gives_bind (gives_expression henv) fun e he => gives_bind gives_left fun n _ => ?_
    exact gives_bind (hwords env henv n _ nofun) fun words hw => gives_pure ⟨he, hw⟩
  · dsimp only
    split
    · refine reads_bind (reads_load hscope _ _) fun loaded => ?_
      split
      · exact hnamed _ _ _ _ _ _ fun h => ⟨.linked (h.2 _ rfl), h.1.2.1.2, h.1.2.2⟩
      · exact hnamed _ _ _ _ _ _ fun h => ⟨.named h.1.2.1.1, h.1.2.1.2, h.1.2.2⟩
    · exact hnamed _ _ _ _ _ _ fun h => ⟨.named h.2.1.1, h.2.1.2, h.2.2⟩

omit hscope in
/-- What follows the name of an imported macro. -/
theorem gives_afterImport {env : Surroundings} {r : Rules} {w : Wording} (target : String)
    {m : Macro} (hm : m.Obeys r) {more : Arguments (List (String × Macro))}
    (hmore : Arguments.Gives env w more fun macros => ∀ m ∈ macros, m.2.Obeys r) :
    Arguments.Gives env w (do
      match ← Arguments.symbol? .comma with
      | some _ => return (target, m) :: (← more)
      | none => pure [(target, m)]) fun macros => ∀ m ∈ macros, m.2.Obeys r := by
  refine gives_bind (gives_symbol? .comma) fun comma _ => ?_
  split
  · exact gives_bind hmore fun rest hrest => gives_pure (List.forall_mem_cons.mpr ⟨hm, hrest⟩)
  · exact gives_pure (List.forall_mem_singleton.mpr hm)

omit hscope in
/-- Exported macros of a template that obeys the rules are imported. -/
theorem gives_importNames {env : Surroundings} (file : String) {t : Template}
    (ht : t.Obeys g.rules) (n : Nat) :
    Arguments.Gives env g.wording (TagReader.importNames file t n) fun macros =>
      ∀ m ∈ macros, m.2.Obeys g.rules := by
  have hexported : ∀ name m, t.macro? name = some m → m.Obeys g.rules := by
    intro name m hm
    cases ht with
    | intro _ _ _ _ _ hmacros => exact hmacros (name, m) (Table.mem_of_get? hm)
  induction n with
  | zero => exact gives_want _
  | succ n ih =>
    refine gives_bind gives_identifier fun name _ => ?_
    dsimp only
    split
    · exact gives_refuse _ _
    · rename_i m hm
      have hrest (target : String) := gives_afterImport target (hexported _ m hm) ih
      refine gives_bind (gives_keyword? .kwAs) fun found _ => ?_
      split
      · exact gives_bind gives_identifier fun target _ => hrest target.1
      · exact hrest _

include hs in
theorem reads_importing : Reads g scope P (TagReader.importing s) (TagReader.Gives g inner) := by
  refine reads_bind (reads_tagArguments hscope hs fun _ env _ => gives_string) fun found => ?_
  refine reads_bind (reads_load hscope _ _) fun loaded => ?_
  dsimp only
  split
  · exact reads_refuse hscope _ _
  · rename_i t
    refine reads_bind (reads_arguments hscope (fun h => h.1.2.2) fun h env _ =>
      gives_bind gives_left fun n _ =>
        gives_importNames found.1.1 (h.2 t rfl) (n + 1)) fun macros => ?_
    exact reads_pure fun h => ⟨.imports h.2.1, h.2.2⟩

/-! ## Scopes -/

include hwrap hs in
theorem reads_bindTag : Reads g scope P (TagReader.bind s) (TagReader.Gives g inner) := by
  refine reads_bind (reads_tagArguments hscope hs
    (A := fun bindings : List (String × Expr) => ∀ b ∈ bindings, b.2.Obeys g.rules)
    fun _ env henv => ?_) fun found => ?_
  · refine gives_bind (gives_bindings henv) fun bindings hbindings => ?_
    split
    · refine gives_bind (gives_expression henv) fun e he => ?_
      refine gives_bind (gives_keyword .kwAs) fun _ _ => ?_
      refine gives_bind gives_identifier fun name _ => ?_
      exact gives_pure (List.forall_mem_singleton.mpr he)
    · exact gives_pure hbindings
  · refine reads_bind (reads_bodyUpTo hscope hwrap _) fun body => ?_
    exact reads_pure fun h => ⟨.bind (Nat.lt_succ_self inner) h.1.2.1 h.2, h.1.2.2⟩

include hs in
theorem reads_assign : Reads g scope P (TagReader.assign s) (TagReader.Gives g inner) := by
  refine reads_bind (reads_tagArguments hscope hs
    (A := fun a : String × Expr => a.2.Obeys g.rules) fun _ env henv => ?_) fun found => ?_
  · refine gives_bind gives_identifier fun name _ => gives_bind (gives_symbol .equal) fun _ _ => ?_
    exact gives_bind (gives_expression henv) fun e he => gives_pure he
  · exact reads_pure fun h => ⟨.assign h.2.1, h.2.2⟩

omit hscope in
/-- What follows a parameter of a macro. -/
theorem gives_afterParameter {env : Surroundings} {w : Wording}
    {A : List (String × Option Expr) → Prop} {params : List (String × Option Expr)}
    (hparams : A params) {more : Arguments (List (String × Option Expr))}
    (hmore : Arguments.Gives env w more A) :
    Arguments.Gives env w (do
      match ← Arguments.symbol? .closeParen with
      | some _ => pure params
      | none =>
        let _ ← Arguments.symbol .comma
        more) A := by
  refine gives_bind (gives_symbol? .closeParen) fun found _ => ?_
  split
  · exact gives_pure hparams
  · exact gives_bind (gives_symbol .comma) fun _ _ => hmore

omit hscope in
theorem gives_parameters {env : Surroundings} (henv : env.filters.Admits g.wording g.rules)
    (tag : String) (n : Nat) (before : List (String × Option Expr))
    (hbefore : ∀ p ∈ before, ∀ e ∈ p.2, e.Obeys g.rules) :
    Arguments.Gives env g.wording (TagReader.parameters tag n before) fun params =>
      ∀ p ∈ params, ∀ e ∈ p.2, e.Obeys g.rules := by
  induction n generalizing before with
  | zero => exact gives_want _
  | succ n ih =>
    have hparams : ∀ name (default? : Option Expr), (∀ e ∈ default?, e.Obeys g.rules) →
        ∀ p ∈ before ++ [(name, default?)], ∀ e ∈ p.2, e.Obeys g.rules := fun name default? h =>
      List.forall_mem_append.mpr ⟨hbefore, List.forall_mem_singleton.mpr h⟩
    have hrest : ∀ params : List (String × Option Expr),
        (∀ p ∈ params, ∀ e ∈ p.2, e.Obeys g.rules) → _ := fun params hparams =>
      gives_afterParameter hparams (ih params hparams)
    refine gives_bind gives_identifier fun name _ => ?_
    dsimp only
    refine gives_ite (gives_refuse_bind _ _ _) ?_
    refine gives_bind (gives_symbol? .equal) fun found _ => ?_
    split
    · refine gives_bind (gives_expression henv) fun e he => ?_
      refine gives_bind (A := fun default? => ∀ e ∈ default?, e.Obeys g.rules) (gives_pure ?_)
        fun default? hdefault =>
          gives_ite (gives_refuse_bind _ _ _) (hrest _ (hparams _ _ hdefault))
      rintro _ ⟨⟩
      exact he
    · refine gives_bind (A := fun default? => ∀ e ∈ default?, e.Obeys g.rules) (gives_pure ?_)
        fun default? hdefault =>
          gives_ite (gives_refuse_bind _ _ _) (hrest _ (hparams _ _ hdefault))
      rintro _ ⟨⟩

include hwrap hs in
theorem reads_define (hinner : inner ≤ g.rules.nesting) :
    Reads g scope P (TagReader.define s) (TagReader.Gives g inner) := by
  refine reads_bind (reads_tagArguments hscope hs
    (A := fun a : String × List (String × Option Expr) × Bool =>
      ∀ p ∈ a.2.1, ∀ e ∈ p.2, e.Obeys g.rules) fun _ env henv => ?_) fun found => ?_
  · refine gives_bind gives_identifier fun name _ => ?_
    refine gives_bind (gives_symbol .openParen) fun _ _ => ?_
    refine gives_bind (gives_symbol? .closeParen) fun found _ => ?_
    dsimp only
    split
    · refine gives_bind (A := fun params => ∀ p ∈ params, ∀ e ∈ p.2, e.Obeys g.rules)
        (gives_pure nofun) fun params hparams => ?_
      exact gives_bind (gives_keyword? .kwExport) fun _ _ => gives_pure hparams
    · refine gives_bind gives_left fun n _ => ?_
      refine gives_bind (gives_parameters henv _ _ [] nofun) fun params hparams => ?_
      exact gives_bind (gives_keyword? .kwExport) fun _ _ => gives_pure hparams
  · refine reads_bind (reads_bodyUpTo hscope hwrap _) fun body => ?_
    have hm : ((P ∧ (∀ p ∈ found.1.2.1, ∀ e ∈ p.2, e.Obeys g.rules) ∧ g.wording.Fits found.2) ∧
        Body.Obeys g.rules g.blocks inner body) →
          Macro.Obeys g.rules ⟨found.1.1, found.1.2.1, body, found.1.2.2⟩ := fun h =>
      .intro g.blocks h.1.2.1 (h.2.mono hinner)
    dsimp only
    split
    · refine reads_bind (reads_registerMacro hscope hm) fun _ => ?_
      exact reads_pure fun h => ⟨.define (hm h.1), h.1.1.2.2⟩
    · exact reads_pure fun h => ⟨.define (hm h), h.1.2.2⟩

include hwrap hs in
theorem reads_autoescape (htag : scope.catalog.tags.find? tag = some (.builtin .autoescape)) :
    Reads g scope P (TagReader.autoescape s) (TagReader.Gives g inner) := by
  obtain ⟨hon, hoff⟩ := hscope.catalog.autoescape tag htag
  have hfirst : P → ∀ mode ∈ Arguments.firstName? s.args,
      mode = "off" → g.rules.escaping false := by
    rintro hP _ hmode rfl
    exact hoff ((hs hP).first "off" hmode)
  refine reads_bind (reads_arguments_from hscope (A := g.rules.escaping) (fun hP => (hs hP).args)
    hfirst fun _ env _ => ?_) fun found => ?_
  · refine givesFrom_bind (givesFrom_identifier _) fun ⟨mode, at_⟩ hmode => ?_
    dsimp only
    split
    · exact gives_pure hon
    · exact gives_pure (hmode rfl)
    · exact gives_refuse _ _
  · refine reads_bind (reads_bodyUpTo hscope hwrap _) fun body => ?_
    exact reads_pure fun h => ⟨.escaping (Nat.lt_succ_self inner) h.1.2.1 h.2, h.1.2.2⟩

include hwrap hs in
theorem reads_filtering (htag : scope.catalog.tags.find? tag = some (.builtin .filtering)) :
    Reads g scope P (TagReader.filtering s) (TagReader.Gives g inner) := by
  refine reads_bind (reads_arguments_from hscope (fun hP => (hs hP).args) ?_
    fun _ env henv => givesFrom_filterChain henv) fun found => ?_
  · exact fun hP name hname => hscope.catalog.filtering tag name htag ((hs hP).first name hname)
  · refine reads_bind (reads_bodyUpTo hscope hwrap _) fun body => ?_
    exact reads_pure fun h => ⟨.filtering (Nat.lt_succ_self inner) h.1.2.1 h.2, h.1.2.2⟩

/-! ## Text -/

include hwrap hs in
theorem reads_spaceless : Reads g scope P (TagReader.spaceless s) (TagReader.Gives g inner) :=
  reads_bind (reads_bodyUpTo hscope hwrap _) fun _ =>
    reads_pure fun h => ⟨.spaceless (Nat.lt_succ_self inner) h.2, (hs h.1).args⟩

include hwrap hs in
theorem reads_comment : Reads g scope P (TagReader.comment s) (TagReader.Gives g inner) :=
  reads_bind (reads_bodyUpTo hscope hwrap _) fun _ =>
    reads_pure fun h => ⟨.nothing, (hs h.1).args⟩

include hs in
theorem reads_now : Reads g scope P (TagReader.now s) (TagReader.Gives g inner) := by
  refine reads_bind (reads_tagArguments hscope hs (A := fun _ => True) fun _ env _ => ?_)
    fun found => reads_pure fun h => ⟨.now, h.2.2⟩
  refine gives_bind gives_string fun format _ => gives_ite (gives_refuse_bind _ _ _) ?_
  exact gives_bind (gives_word? _) fun _ _ => gives_pure trivial

include hs in
theorem reads_templatetag :
    Reads g scope P (TagReader.templatetag s) (TagReader.Gives g inner) := by
  refine reads_bind (reads_tagArguments hscope hs (A := g.rules.text) fun _ env _ => ?_)
    fun found => reads_pure fun h => ⟨.write h.2.1, h.2.2⟩
  refine gives_bind gives_identifier fun name _ => ?_
  dsimp only
  split
  · exact gives_pure (hscope.wording.delimiter _ _ ‹_›)
  · exact gives_refuse _ _

include hs in
theorem reads_widthratio : Reads g scope P (TagReader.widthratio s) (TagReader.Gives g inner) := by
  refine reads_bind (reads_tagArguments hscope hs
    (A := fun a : Expr × Expr × Expr × Option String =>
      a.1.Obeys g.rules ∧ a.2.1.Obeys g.rules ∧ a.2.2.1.Obeys g.rules) fun _ env henv => ?_)
    fun found => reads_pure fun h => ⟨.ratio h.2.1.1 h.2.1.2.1 h.2.1.2.2, h.2.2⟩
  refine gives_bind (gives_expression henv) fun value hvalue => ?_
  refine gives_bind (gives_expression henv) fun most hmost => ?_
  refine gives_bind (gives_expression henv) fun width hwidth => ?_
  refine gives_bind (gives_keyword? .kwAs) fun found _ => ?_
  split
  · exact gives_bind gives_identifier fun _ _ => gives_pure ⟨hvalue, hmost, hwidth⟩
  · exact gives_pure ⟨hvalue, hmost, hwidth⟩

/-! ## Tags of the host -/

include hwrap in
theorem reads_sections (ends : List String) (n : Nat) :
    Reads g scope P (TagReader.sections s ends n) fun parts =>
      ∀ part ∈ parts, Body.Obeys g.rules g.blocks inner part.1 := by
  induction n generalizing P with
  | zero => exact reads_refuse hscope _ _
  | succ n ih =>
    refine reads_bind (hwrap _ _ _) fun part => ?_
    refine reads_bind (reads_body hscope fun h => h.2) fun body => ?_
    split
    · exact reads_pure fun h => List.forall_mem_singleton.mpr h.2
    · refine reads_bind ih fun rest => reads_pure fun h => ?_
      exact List.forall_mem_cons.mpr ⟨h.1.2, h.2⟩

include hwrap hs in
theorem reads_custom (t : CustomTag) (htag : scope.catalog.tags.find? tag = some (.custom t)) :
    Reads g scope P (TagReader.custom t s) (TagReader.Gives g inner) := by
  obtain ⟨hcustom, honest⟩ := hscope.catalog.custom tag t htag
  have hsteps : ∀ parts : TagParts, (∀ e ∈ parts.value, e.Obeys g.rules) →
      (∀ part ∈ parts.sections, Body.Obeys g.rules g.blocks inner part.1) →
        (Statement.custom (t.build parts)).Obeys g.rules g.blocks (inner + 1) := by
    intro parts hvalue hsections
    refine .custom hcustom (Nat.lt_succ_self inner) fun step hstep => ?_
    have hfrom := honest parts step hstep
    cases step with
    | write text => exact .write
    | run body =>
      obtain ⟨part, hpart, rfl⟩ := hfrom
      exact .run (hsections part hpart)
    | captured key body =>
      obtain ⟨part, hpart, rfl⟩ := hfrom
      exact .captured (hsections part hpart)
    | shown key e => exact .shown (hvalue e hfrom)
  refine reads_bind (reads_tagArguments hscope hs
    (A := fun a : Option Expr × List Token => ∀ e ∈ a.1, e.Obeys g.rules)
    fun _ env henv => ?_) fun found => ?_
  · split
    · exact gives_pure nofun
    · refine gives_bind (gives_expression henv) fun e he => gives_pure ?_
      rintro _ ⟨⟩
      exact he
    · exact gives_bind gives_takeAll fun _ _ => gives_pure nofun
    · exact gives_want _
  · have hbuilt : ∀ (Q : Prop) (parts : List (Body × Token)),
        (Q → ((∀ e ∈ found.1.1, e.Obeys g.rules) ∧ g.wording.Fits found.2) ∧
          ∀ part ∈ parts, Body.Obeys g.rules g.blocks inner part.1) →
          Reads g scope Q (do
            let scope ← read
            pure (Statement.custom (t.build
              { template := scope.name, name := s.start, value := found.1.1, tokens := found.1.2
                sections := parts }), found.2)) (TagReader.Gives g inner) := by
      intro Q parts h
      refine reads_read_bind (reads_pure fun hQ => ?_)
      obtain ⟨⟨hvalue, hrest⟩, hsections⟩ := h hQ
      exact ⟨hsteps _ hvalue hsections, hrest⟩
    dsimp only
    split
    · refine reads_bind (A := fun parts => ∀ part ∈ parts, Body.Obeys g.rules g.blocks inner part.1)
        (reads_pure fun _ => nofun) fun parts => hbuilt _ _ fun h => ⟨h.1.2, h.2⟩
    · refine reads_get_bind fun d => ?_
      refine readsAt_bind (reads_sections hscope hwrap _ _ d) fun parts => ?_
      exact hbuilt _ _ fun h => ⟨h.1.1.2, h.2⟩

include hwrap hs in
/-- A tag that is found under its name gives statements that obey the rules. -/
theorem reads_ofRef (hinner : inner ≤ g.rules.nesting) {ref : TagRef}
    (htag : scope.catalog.tags.find? tag = some ref) :
    Reads g scope P (TagReader.ofRef ref s) (TagReader.Gives g inner) := by
  cases ref with
  | custom t => exact reads_custom hscope hwrap hs t htag
  | builtin t =>
    cases t with
    | branch => exact reads_branch hscope hwrap hs
    | compareEqual => exact reads_compare hscope hwrap hs false
    | compareUnequal => exact reads_compare hscope hwrap hs true
    | loop => exact reads_loop hscope hwrap hs
    | cycle => exact reads_cycle hscope hs
    | firstOf => exact reads_firstOf hscope hs
    | block => exact reads_block hscope hwrap hs hinner
    | extending => exact reads_extending hscope hs
    | including => exact reads_including hscope hs
    | importing => exact reads_importing hscope hs
    | bind => exact reads_bindTag hscope hwrap hs
    | assign => exact reads_assign hscope hs
    | define => exact reads_define hscope hwrap hs hinner
    | autoescape => exact reads_autoescape hscope hwrap hs htag
    | filtering => exact reads_filtering hscope hwrap hs htag
    | spaceless => exact reads_spaceless hscope hwrap hs
    | comment => exact reads_comment hscope hwrap hs
    | now => exact reads_now hscope hs
    | templatetag => exact reads_templatetag hscope hs
    | widthratio => exact reads_widthratio hscope hs

end Readers

end Stencil
