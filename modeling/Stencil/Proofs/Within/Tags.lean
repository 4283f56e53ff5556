import Stencil.Proofs.Within.Reading

/-!
# Templates within a vocabulary

The tags of a template, and then its nodes, are within the vocabulary of its tokens.
-/

namespace Stencil

/-!
## Tags within a vocabulary

Each tag reads its arguments, and its bodies with the reader for bodies that is one level of nesting
further in. If the bodies are within the vocabulary, so is the statement.
-/

section Tags

open Drafting

variable {V : Vocabulary} {known : Library → Prop} {scope : DraftScope}

/-- A section whose body is within the vocabulary. -/
structure Section.Within (V : Vocabulary) (part : Section) : Prop where
  nodes : Body.Within V part.nodes
  args : V.Spots part.args
  close : V.Spot part.close

/-- The reader of bodies gives such as are within the vocabulary. -/
def SectionReader.Abides (V : Vocabulary) (known : Library → Prop) (scope : DraftScope)
    (wrap : SectionReader) : Prop :=
  ∀ ends opener, V.Spot opener.position →
    Drafting.Abides V known scope (wrap ends opener) (Section.Within V)

/-- What the reader of a tag finds stands at positions of the vocabulary. -/
structure TagScope.Within (V : Vocabulary) (known : Library → Prop) (scope : DraftScope)
    (s : TagScope) : Prop where
  start : V.Spot s.start.position
  args : V.Spots s.args
  close : V.Spot s.close
  wrap : s.wrap.Abides V known scope

/-- What a reader of tags should give: a statement within the vocabulary, and left arguments. -/
def TagReader.Within (V : Vocabulary) (found : Statement × List Token) : Prop :=
  found.1.Within V ∧ V.Spots found.2

section Readers

variable {s : TagScope} (hs : s.Within V known scope)
include hs

/-! ### Bodies -/

omit hs in
theorem abides_body {part : Section} (hpart : part.Within V) :
    Abides V known scope part.body (Body.Within V) :=
  abides_bind (A := fun _ => True)
    (abides_argumentsOf hpart.close hpart.args (stays_pure trivial)) fun _ _ =>
      abides_pure hpart.nodes

theorem abides_bodyUpTo (ending : String) :
    Abides V known scope (TagReader.bodyUpTo s ending) (Body.Within V) :=
  abides_bind (hs.wrap _ _ hs.start) fun _ hpart => abides_body hpart

theorem abides_bodies (middle ending : String) :
    Abides V known scope (TagReader.bodies s middle ending) fun found =>
      Body.Within V found.1 ∧ ∀ body ∈ found.2, Body.Within V body := by
  refine abides_bind (hs.wrap _ _ hs.start) fun first hfirst => ?_
  refine abides_bind (abides_body hfirst) fun body hbody => ?_
  split
  · exact abides_bind (abides_bodyUpTo hs ending) fun other hother =>
      abides_pure ⟨hbody, fun | _, rfl => hother⟩
  · exact abides_pure ⟨hbody, nofun⟩

theorem abides_tagArguments {α : Type} {r : Arguments α} {A : α → Prop}
    (hr : Arguments.Stays V r A) :
    Abides V known scope (TagReader.arguments s r) fun a => A a.1 ∧ V.Spots a.2 :=
  abides_arguments hs.close hs.args hr

/-! ### Control flow -/

section Wide

variable (hV : V.Wide)
include hV

theorem abides_branches (n : Nat) {condition : Expr} (hcondition : condition.Within V) :
    Abides V known scope (TagReader.branches s n condition) fun found =>
      (∀ b ∈ found.1, b.1.Within V) ∧ (∀ b ∈ found.1, Body.Within V b.2) ∧
        ∀ body ∈ found.2, Body.Within V body := by
  induction n generalizing condition with
  | zero => exact abides_refuse hs.start _
  | succ n ih =>
    refine abides_bind (hs.wrap _ _ hs.start) fun part hpart => ?_
    split
    · refine abides_bind (abides_argumentsOf hpart.close hpart.args (stays_expression hV))
        fun next hnext => abides_bind (ih hnext) fun found hfound =>
          abides_pure ⟨?_, ?_, hfound.2.2⟩
      · exact List.forall_mem_cons.mpr ⟨hcondition, hfound.1⟩
      · exact List.forall_mem_cons.mpr ⟨hpart.nodes, hfound.2.1⟩
    · refine abides_bind (abides_body hpart) fun body hbody => ?_
      refine abides_bind (abides_bodyUpTo hs "endif") fun otherwise hotherwise => ?_
      exact abides_pure ⟨List.forall_mem_singleton.mpr hcondition,
        List.forall_mem_singleton.mpr hbody, fun | _, rfl => hotherwise⟩
    · exact abides_bind (abides_body hpart) fun body hbody => abides_pure
        ⟨List.forall_mem_singleton.mpr hcondition, List.forall_mem_singleton.mpr hbody, nofun⟩

theorem abides_branch : Abides V known scope (TagReader.branch s) (TagReader.Within V) := by
  refine abides_bind (abides_tagArguments hs (stays_expression hV)) fun found hfound => ?_
  refine abides_get_bind fun d _ => ?_
  refine abidesAt_bind (abides_branches hs hV _ hfound.1 d) fun parts hparts => ?_
  exact abides_pure ⟨.branch hparts.1 hparts.2.1 hparts.2.2, hfound.2⟩

theorem abides_compare (negated : Bool) :
    Abides V known scope (TagReader.compare negated s) (TagReader.Within V) := by
  have hr : Arguments.Stays V (do
      let lhs ← Arguments.expression
      return (lhs, ← Arguments.expression)) fun e => e.1.Within V ∧ e.2.Within V :=
    stays_bind (stays_expression hV) fun lhs hlhs =>
      stays_bind (stays_expression hV) fun rhs hrhs => stays_pure ⟨hlhs, hrhs⟩
  refine abides_bind (abides_tagArguments hs hr) fun found hfound => ?_
  refine abides_bind (abides_bodies hs _ _) fun parts hparts => ?_
  exact abides_pure ⟨.compare hfound.1.1 hfound.1.2 hparts.1 hparts.2, hfound.2⟩

omit hs hV in
theorem stays_loopWords (n : Nat) (found : Bool × Bool) :
    Arguments.Stays V (TagReader.loopWords n found) fun _ => True := by
  induction n generalizing found with
  | zero => exact stays_pure trivial
  | succ n ih =>
    refine stays_bind (stays_word? _) fun _ _ => stays_ite (ih _) ?_
    exact stays_bind (stays_word? _) fun _ _ => stays_ite (ih _) (stays_pure trivial)

omit hs in
/-- What follows the variables of a loop. -/
theorem stays_loopSource (first : String) (second : Option String) :
    Arguments.Stays V (do
      let _ ← Arguments.keyword .kwIn
      let source ← Arguments.expression
      let (reversed, sorted) ← TagReader.loopWords (← Arguments.left) (false, false)
      pure (first, second, source, reversed, sorted)) fun a => a.2.2.1.Within V := by
  refine stays_bind (stays_keyword .kwIn) fun _ _ => ?_
  refine stays_bind (stays_expression hV) fun source hsource => ?_
  refine stays_bind stays_left fun n _ => stays_bind (stays_loopWords n _) fun _ _ => ?_
  exact stays_pure hsource

theorem abides_loop : Abides V known scope (TagReader.loop s) (TagReader.Within V) := by
  refine abides_bind (abides_tagArguments hs
    (A := fun a : String × Option String × Expr × Bool × Bool => a.2.2.1.Within V) ?_)
    fun found hfound => ?_
  · refine stays_bind stays_identifier fun first _ => ?_
    refine stays_found (stays_symbol? .comma) (stays_loopSource hV first.1 none) fun _ _ => ?_
    exact stays_bind stays_identifier fun second _ => stays_loopSource hV first.1 (some second.1)
  · refine abides_bind (abides_bodies hs _ _) fun parts hparts => ?_
    exact abides_pure ⟨.loop (hV.name _) hfound.1 hparts.1 hparts.2, hfound.2⟩

omit hs in
theorem stays_cycleValues (n : Nat) :
    Arguments.Stays V (TagReader.cycleValues n) fun a => Exprs.Within V a.1 := by
  induction n with
  | zero => exact stays_pure nofun
  | succ n ih =>
    refine stays_found stays_peek (stays_pure nofun) fun _ _ => ?_
    refine stays_found (stays_keyword? .kwAs) ?_ fun _ _ => ?_
    · refine stays_bind (stays_expression hV) fun e he => ?_
      refine stays_bind (stays_symbol? .comma) fun _ _ => stays_bind ih fun rest hrest => ?_
      exact stays_pure (List.forall_mem_cons.mpr ⟨he, hrest⟩)
    · refine stays_bind stays_identifier fun target _ => ?_
      exact stays_bind (stays_word? _) fun _ _ => stays_pure nofun

theorem abides_cycle : Abides V known scope (TagReader.cycle s) (TagReader.Within V) := by
  refine abides_bind (abides_tagArguments hs
    (A := fun a : List Expr × Option String × Bool => Exprs.Within V a.1) ?_)
    fun found hfound => abides_pure ⟨.cycle (hV.name _) hfound.1, hfound.2⟩
  refine stays_bind stays_left fun n _ => stays_bind (stays_cycleValues hV n) fun found hfound => ?_
  exact stays_ite (stays_want _) (stays_pure hfound)

omit hs in
theorem stays_expressions (n : Nat) :
    Arguments.Stays V (TagReader.expressions n) (Exprs.Within V) := by
  induction n with
  | zero => exact stays_pure nofun
  | succ n ih =>
    refine stays_found stays_peek (stays_pure nofun) fun _ _ => ?_
    refine stays_bind (stays_expression hV) fun e he => stays_bind ih fun rest hrest => ?_
    exact stays_pure (List.forall_mem_cons.mpr ⟨he, hrest⟩)

theorem abides_firstOf : Abides V known scope (TagReader.firstOf s) (TagReader.Within V) := by
  refine abides_bind (abides_tagArguments hs (A := Exprs.Within V) ?_)
    fun found hfound => abides_pure ⟨.firstOf hfound.1, hfound.2⟩
  refine stays_bind stays_left fun n _ => stays_bind (stays_expressions hV n) fun found hfound => ?_
  split
  · exact stays_want _
  · exact stays_pure hfound

/-! ### Inheritance and composition -/

theorem abides_block : Abides V known scope (TagReader.block s) (TagReader.Within V) := by
  refine abides_bind (abides_tagArguments hs stays_identifier) fun found hfound => ?_
  refine abides_bind (hs.wrap _ _ hs.start) fun part hpart => ?_
  refine abides_bind (A := fun _ => True) ?_ fun _ _ => ?_
  · refine abides_argumentsOf hpart.close hpart.args ?_
    refine stays_found stays_identifier? (stays_pure trivial) fun name hname => ?_
    exact stays_ite (stays_pure trivial) (stays_refuse hname _)
  · refine abides_bind (abides_registerBlock hs.start hpart.nodes) fun _ _ => ?_
    exact abides_pure ⟨.block (hV.block _) hpart.nodes, hfound.2⟩

theorem abides_extending (hscope : scope.Within V known) :
    Abides V known scope (TagReader.extending s) (TagReader.Within V) := by
  have hnote {parent : Parent} {rest : List Token} (hparent : parent.Within V)
      (hrest : V.Spots rest) : Abides V known scope (do
        modify fun draft => { draft with parent := some parent }
        pure (Statement.nothing, rest)) (TagReader.Within V) :=
    abides_modify_bind (fun _ hd => { hd with parent := fun | _, rfl => hparent })
      (abides_pure ⟨.nothing, hrest⟩)
  refine abides_get_bind fun d _ => ?_
  split
  · split <;> exact abides_refuse_bind hs.start _ _ d
  · split
    · exact abides_refuse_bind hs.start _ _ d
    · refine abidesAt_bind (abides_tagArguments hs (stays_expression hV) d) fun found hfound => ?_
      dsimp only
      split
      · refine abides_bind (abides_load hscope _ hs.start) fun loaded hloaded => ?_
        split
        · exact hnote (.linked (hloaded _ rfl)) hfound.2
        · exact abides_refuse_bind hs.start _ _
      · exact hnote (.named hV.lookup hfound.1 hs.start.1) hfound.2

omit hs in
theorem stays_includeWords (n : Nat) {found : List (String × Expr) × Bool × Bool}
    (hfound : ∀ b ∈ found.1, b.2.Within V) :
    Arguments.Stays V (TagReader.includeWords n found) fun a => ∀ b ∈ a.1, b.2.Within V := by
  induction n generalizing found with
  | zero => exact stays_pure hfound
  | succ n ih =>
    refine stays_bind (stays_word? _) fun _ _ => stays_ite (ih hfound) ?_
    refine stays_bind (stays_word? _) fun _ _ => stays_ite (ih hfound) ?_
    refine stays_bind (stays_word? _) fun _ _ => stays_ite ?_ (stays_pure hfound)
    refine stays_bind (stays_bindings hV) fun more hmore => ?_
    split
    · exact stays_want _
    · exact ih (List.forall_mem_append.mpr ⟨hfound, hmore⟩)

theorem abides_including (hscope : scope.Within V known) :
    Abides V known scope (TagReader.including s) (TagReader.Within V) := by
  have hincludes {target : Target} {bindings : List (String × Expr)} {only ifExists : Bool}
      {rest : List Token} (htarget : target.Within V) (hbindings : ∀ b ∈ bindings, b.2.Within V)
      (hrest : V.Spots rest) : Abides V known scope (do
        pure (Statement.includes target (← read).name bindings only ifExists, rest))
        (TagReader.Within V) :=
    abides_read_bind (abides_pure ⟨.includes htarget hbindings, hrest⟩)
  refine abides_bind (abides_tagArguments hs
    (A := fun a : Expr × List (String × Expr) × Bool × Bool =>
      a.1.Within V ∧ ∀ b ∈ a.2.1, b.2.Within V) ?_) fun found hfound => ?_
  · refine stays_bind (stays_expression hV) fun e he => stays_bind stays_left fun n _ => ?_
    exact stays_bind (stays_includeWords hV n nofun) fun words hwords => stays_pure ⟨he, hwords⟩
  · obtain ⟨⟨he, hbindings⟩, hrest⟩ := hfound
    dsimp only
    split
    · refine abides_bind (abides_load hscope _ hs.start) fun loaded hloaded => ?_
      split
      · exact hincludes (.linked (hloaded _ rfl)) hbindings hrest
      · exact hincludes (.named hV.lookup he) hbindings hrest
    · exact hincludes (.named hV.lookup he) hbindings hrest

omit hs hV in
/-- What follows the name of an imported macro. -/
theorem stays_afterImport (target : String) {m : Macro} (hm : ¬V.imported m → m.Within V)
    {more : Arguments (List (String × Macro))}
    (hmore : Arguments.Stays V more fun macros => ∀ m ∈ macros, ¬V.imported m.2 → m.2.Within V) :
    Arguments.Stays V (do
      match ← Arguments.symbol? .comma with
      | some _ => return (target, m) :: (← more)
      | none => pure [(target, m)]) fun macros =>
        ∀ m ∈ macros, ¬V.imported m.2 → m.2.Within V :=
  stays_found (stays_symbol? .comma) (stays_pure (List.forall_mem_singleton.mpr hm)) fun _ _ =>
    stays_bind hmore fun _ hrest => stays_pure (List.forall_mem_cons.mpr ⟨hm, hrest⟩)

omit hs in
theorem stays_importNames (file : String) {t : Template} (ht : V.Links t) (n : Nat) :
    Arguments.Stays V (TagReader.importNames file t n) fun macros =>
      ∀ m ∈ macros, ¬V.imported m.2 → m.2.Within V := by
  induction n with
  | zero => exact stays_want _
  | succ n ih =>
    refine stays_bind stays_identifier fun name hname => ?_
    dsimp only
    split
    · exact stays_refuse hname _
    · rename_i m hm
      have hmem := Table.mem_of_get? (t := t.macros) hm
      have hm (hfree : ¬V.imported m) : m.Within V :=
        (ht fun hlinked => hfree (hV.imported t hlinked _ hmem)).macros _ hmem
      refine stays_found (stays_keyword? .kwAs) (stays_afterImport _ hm ih) fun _ _ => ?_
      exact stays_bind stays_identifier fun target _ => stays_afterImport target.1 hm ih

theorem abides_importing (hscope : scope.Within V known) :
    Abides V known scope (TagReader.importing s) (TagReader.Within V) := by
  refine abides_bind (abides_tagArguments hs stays_string) fun found hfound => ?_
  refine abides_bind (abides_load hscope _ hs.start) fun loaded hloaded => ?_
  dsimp only
  split
  · exact abides_refuse hfound.1 _
  · refine abides_bind (abides_arguments hs.close hfound.2 (stays_bind stays_left fun n _ =>
      stays_importNames hV found.1.1 (hloaded _ rfl) (n + 1))) fun macros hmacros => ?_
    exact abides_pure ⟨.imports hmacros.1, hmacros.2⟩

/-! ### Scopes -/

theorem abides_bindTag : Abides V known scope (TagReader.bind s) (TagReader.Within V) := by
  refine abides_bind (abides_tagArguments hs
    (A := fun bindings : List (String × Expr) => ∀ b ∈ bindings, b.2.Within V) ?_)
    fun found hfound => abides_bind (abides_bodyUpTo hs _) fun body hbody =>
      abides_pure ⟨.bind hfound.1 hbody, hfound.2⟩
  refine stays_bind (stays_bindings hV) fun bindings hbindings => ?_
  split
  · refine stays_bind (stays_expression hV) fun e he => ?_
    refine stays_bind (stays_keyword .kwAs) fun _ _ => stays_bind stays_identifier fun name _ => ?_
    exact stays_pure (List.forall_mem_singleton.mpr he)
  · exact stays_pure hbindings

theorem abides_assign : Abides V known scope (TagReader.assign s) (TagReader.Within V) := by
  refine abides_bind (abides_tagArguments hs (A := fun a : String × Expr => a.2.Within V) ?_)
    fun found hfound => abides_pure ⟨.assign hfound.1, hfound.2⟩
  refine stays_bind stays_identifier fun name _ => stays_bind (stays_symbol .equal) fun _ _ => ?_
  exact stays_bind (stays_expression hV) fun e he => stays_pure he

/-- The defaults of parameters are within the vocabulary. -/
abbrev Params.Within (V : Vocabulary) (params : List (String × Option Expr)) : Prop :=
  ∀ p ∈ params, ∀ e ∈ p.2, e.Within V

omit hs hV in
/-- What follows a parameter of a macro. -/
theorem stays_afterParameter {params : List (String × Option Expr)}
    (hparams : Params.Within V params) {more : Arguments (List (String × Option Expr))}
    (hmore : Arguments.Stays V more (Params.Within V)) :
    Arguments.Stays V (do
      match ← Arguments.symbol? .closeParen with
      | some _ => pure params
      | none =>
        let _ ← Arguments.symbol .comma
        more) (Params.Within V) :=
  stays_found (stays_symbol? .closeParen)
    (stays_bind (stays_symbol .comma) fun _ _ => hmore) fun _ _ => stays_pure hparams

omit hs in
theorem stays_parameters (tag : String) (n : Nat) {before : List (String × Option Expr)}
    (hbefore : Params.Within V before) :
    Arguments.Stays V (TagReader.parameters tag n before) (Params.Within V) := by
  induction n generalizing before with
  | zero => exact stays_want _
  | succ n ih =>
    refine stays_bind stays_identifier fun name hname => ?_
    have hparam {default? : Option Expr} (hdefault : ∀ e ∈ default?, e.Within V) :
        Params.Within V (before ++ [(name.1, default?)]) :=
      List.forall_mem_append.mpr ⟨hbefore, List.forall_mem_singleton.mpr hdefault⟩
    have hmore {params : List (String × Option Expr)} (hparams : Params.Within V params) :=
      stays_afterParameter hparams (ih hparams)
    dsimp only
    refine stays_ite (stays_refuse_bind hname _ _) ?_
    refine stays_bind (stays_symbol? .equal) fun found _ => ?_
    split
    · refine stays_bind (stays_expression hV) fun e he => ?_
      refine stays_bind (A := fun default? => ∀ e ∈ default?, e.Within V) (stays_pure ?_)
        fun default? hdefault =>
          stays_ite (stays_refuse_bind hname _ _) (hmore (hparam hdefault))
      rintro _ ⟨⟩
      exact he
    · refine stays_bind (A := fun default? => ∀ e ∈ default?, e.Within V) (stays_pure ?_)
        fun default? hdefault =>
          stays_ite (stays_refuse_bind hname _ _) (hmore (hparam hdefault))
      rintro _ ⟨⟩

theorem abides_define : Abides V known scope (TagReader.define s) (TagReader.Within V) := by
  have hafter (name : String) {params : List (String × Option Expr)} (h : Params.Within V params) :
      Arguments.Stays V (do
        let exported ← Arguments.keyword? .kwExport
        pure (name, params, exported.isSome)) fun a => Params.Within V a.2.1 :=
    stays_bind (stays_keyword? .kwExport) fun _ _ => stays_pure h
  refine abides_bind (abides_tagArguments hs
    (A := fun a : String × List (String × Option Expr) × Bool => Params.Within V a.2.1) ?_)
    fun found hfound => ?_
  · refine stays_bind stays_identifier fun name _ => ?_
    refine stays_bind (stays_symbol .openParen) fun _ _ => ?_
    refine stays_found (stays_symbol? .closeParen) ?_ fun _ _ => hafter _ nofun
    refine stays_bind stays_left fun n _ => ?_
    exact stays_bind (stays_parameters hV _ _ nofun) fun params hparams => hafter _ hparams
  · refine abides_bind (abides_bodyUpTo hs _) fun body hbody => ?_
    have hm : Macro.Within V ⟨found.1.1, found.1.2.1, body, found.1.2.2⟩ := .intro hfound.1 hbody
    dsimp only
    split
    · exact abides_bind (abides_registerMacro hs.start hm) fun _ _ =>
        abides_pure ⟨.define hm, hfound.2⟩
    · exact abides_pure ⟨.define hm, hfound.2⟩

omit hV in
theorem abides_autoescape : Abides V known scope (TagReader.autoescape s) (TagReader.Within V) := by
  refine abides_bind (abides_tagArguments hs (A := fun _ => True) ?_) fun found hfound =>
    abides_bind (abides_bodyUpTo hs _) fun body hbody => abides_pure ⟨.escaping hbody, hfound.2⟩
  refine stays_bind stays_identifier fun mode hmode => ?_
  dsimp only
  split
  · exact stays_pure trivial
  · exact stays_pure trivial
  · exact stays_refuse hmode _

theorem abides_filtering : Abides V known scope (TagReader.filtering s) (TagReader.Within V) :=
  abides_bind (abides_tagArguments hs (stays_filterChain hV)) fun _ hfound =>
    abides_bind (abides_bodyUpTo hs _) fun _ hbody =>
      abides_pure ⟨.filtering hfound.1 hbody, hfound.2⟩

/-! ### Text -/

omit hV

theorem abides_spaceless : Abides V known scope (TagReader.spaceless s) (TagReader.Within V) :=
  abides_bind (abides_bodyUpTo hs _) fun _ hbody => abides_pure ⟨.spaceless hbody, hs.args⟩

theorem abides_comment : Abides V known scope (TagReader.comment s) (TagReader.Within V) :=
  abides_bind (abides_bodyUpTo hs _) fun _ _ => abides_pure ⟨.nothing, hs.args⟩

theorem abides_now : Abides V known scope (TagReader.now s) (TagReader.Within V) := by
  refine abides_bind (abides_tagArguments hs (A := fun _ => True) ?_)
    fun found hfound => abides_pure ⟨.now _ _, hfound.2⟩
  refine stays_bind stays_string fun format hformat => stays_ite (stays_refuse_bind hformat _ _) ?_
  exact stays_bind (stays_word? _) fun _ _ => stays_pure trivial

theorem abides_templatetag :
    Abides V known scope (TagReader.templatetag s) (TagReader.Within V) := by
  refine abides_bind (abides_tagArguments hs (A := fun _ => True) ?_)
    fun found hfound => abides_pure ⟨.write _, hfound.2⟩
  refine stays_bind stays_identifier fun name hname => ?_
  dsimp only
  split
  · exact stays_pure trivial
  · exact stays_refuse hname _

include hV

theorem abides_widthratio : Abides V known scope (TagReader.widthratio s) (TagReader.Within V) := by
  refine abides_bind (abides_tagArguments hs
    (A := fun a : Expr × Expr × Expr × Option String =>
      a.1.Within V ∧ a.2.1.Within V ∧ a.2.2.1.Within V) ?_)
    fun found hfound => abides_pure ⟨.ratio hfound.1.1 hfound.1.2.1 hfound.1.2.2, hfound.2⟩
  refine stays_bind (stays_expression hV) fun value hvalue => ?_
  refine stays_bind (stays_expression hV) fun most hmost => ?_
  refine stays_bind (stays_expression hV) fun width hwidth => ?_
  have hall (target : Option String) : Arguments.Stays V (pure (value, most, width, target))
      fun a => a.1.Within V ∧ a.2.1.Within V ∧ a.2.2.1.Within V :=
    stays_pure ⟨hvalue, hmost, hwidth⟩
  refine stays_found (stays_keyword? .kwAs) (hall none) fun _ _ => ?_
  exact stays_bind stays_identifier fun _ _ => hall _

/-! ### Tags of the host -/

omit hV in
theorem abides_sections (ends : List String) (n : Nat) :
    Abides V known scope (TagReader.sections s ends n) fun parts =>
      ∀ part ∈ parts, Body.Within V part.1 := by
  induction n with
  | zero => exact abides_refuse hs.start _
  | succ n ih =>
    refine abides_bind (hs.wrap _ _ hs.start) fun part hpart => ?_
    refine abides_bind (abides_body hpart) fun body hbody => ?_
    split
    · exact abides_pure (List.forall_mem_singleton.mpr hbody)
    · exact abides_bind ih fun rest hrest => abides_pure (List.forall_mem_cons.mpr ⟨hbody, hrest⟩)

omit hs hV in
/-- What a tag of the host makes of parts within the vocabulary is within it. -/
theorem CustomTag.Honest.within {t : CustomTag} (ht : t.Honest) {parts : TagParts}
    (hvalue : ∀ e ∈ parts.value, e.Within V)
    (hsections : ∀ part ∈ parts.sections, Body.Within V part.1) :
    (Statement.custom (t.build parts)).Within V := by
  refine .custom fun step hstep => ?_
  have hfrom := ht parts step hstep
  cases step with
  | write text => exact .write text
  | run body =>
    obtain ⟨part, hpart, rfl⟩ := hfrom
    exact .run (hsections part hpart)
  | captured key body =>
    obtain ⟨part, hpart, rfl⟩ := hfrom
    exact .captured (hsections part hpart)
  | shown key e => exact .shown (hvalue e hfrom)

theorem abides_custom {t : CustomTag}
    (ht : (∀ statement : Statement, statement.Within V) ∨ t.Honest) :
    Abides V known scope (TagReader.custom t s) (TagReader.Within V) := by
  refine abides_bind (abides_tagArguments hs
    (A := fun a : Option Expr × List Token => ∀ e ∈ a.1, e.Within V) ?_) fun found hfound => ?_
  · split
    · exact stays_pure nofun
    · exact stays_bind (stays_expression hV) fun e he => stays_pure fun | _, rfl => he
    · exact stays_bind stays_takeAll fun _ _ => stays_pure nofun
    · exact stays_want _
  · have hbuilt {parts : List (Body × Token)} (hparts : ∀ part ∈ parts, Body.Within V part.1) :
        Abides V known scope (do
          let scope ← read
          pure (Statement.custom (t.build
            { template := scope.name, name := s.start, value := found.1.1, tokens := found.1.2
              sections := parts }), found.2)) (TagReader.Within V) :=
      abides_read_bind (abides_pure
        ⟨ht.elim (fun h => h _) fun ht => ht.within hfound.1 hparts, hfound.2⟩)
    dsimp only
    split
    · exact abides_bind (A := fun parts => ∀ part ∈ parts, Body.Within V part.1)
        (abides_pure nofun) fun parts hparts => hbuilt hparts
    · refine abides_get_bind fun d _ => ?_
      exact abidesAt_bind (abides_sections hs _ _ d) fun parts hparts => hbuilt hparts

/-- A tag that is found under its name gives statements within the vocabulary. -/
theorem abides_ofRef (hscope : scope.Within V known) {tag : String} {ref : TagRef}
    (htag : scope.catalog.tags.find? tag = some ref) :
    Abides V known scope (TagReader.ofRef ref s) (TagReader.Within V) := by
  cases ref with
  | custom t => exact abides_custom hs hV (hscope.honest.imp_right fun h => h tag t htag)
  | builtin t =>
    cases t with
    | branch => exact abides_branch hs hV
    | compareEqual => exact abides_compare hs hV false
    | compareUnequal => exact abides_compare hs hV true
    | loop => exact abides_loop hs hV
    | cycle => exact abides_cycle hs hV
    | firstOf => exact abides_firstOf hs hV
    | block => exact abides_block hs hV
    | extending => exact abides_extending hs hV hscope
    | including => exact abides_including hs hV hscope
    | importing => exact abides_importing hs hV hscope
    | bind => exact abides_bindTag hs hV
    | assign => exact abides_assign hs hV
    | define => exact abides_define hs hV
    | autoescape => exact abides_autoescape hs
    | filtering => exact abides_filtering hs hV
    | spaceless => exact abides_spaceless hs
    | comment => exact abides_comment hs
    | now => exact abides_now hs
    | templatetag => exact abides_templatetag hs
    | widthratio => exact abides_widthratio hs hV

end Wide

end Readers

end Tags

/-!
## Nodes within a vocabulary

The reader of nodes is built one level of nesting at a time, and so is the proof that it gives nodes
within the vocabulary.
-/

section Nodes

open Drafting

variable {V : Vocabulary} {known : Library → Prop} {scope : DraftScope} {d : Draft}

theorem abides_upTo {node : Drafting Node} (hnode : Abides V known scope node (Node.Within V))
    (ends : List String) {opener : Token} (hopener : V.Spot opener.position) (n : Nat)
    {acc : List Node} (hacc : Body.Within V acc) :
    Abides V known scope (Section.upTo node ends opener n acc) (Section.Within V) := by
  induction n generalizing acc with
  | zero => exact abides_refuse hopener _
  | succ n ih =>
    refine abides_get_bind fun d hd => ?_
    split
    · exact abides_refuse hopener _ d
    · rename_i t tail htokens
      have ht : V.Spot t.position := hd.tokens t (htokens ▸ List.mem_cons_self ..)
      dsimp only
      split
      · rename_i ending rest hending
        have hrest : rest <:+ d.tokens := by
          rw [htokens]
          split at hending
          · split at hending <;> cases hending
            exact (List.suffix_cons _ _).trans (List.suffix_cons _ _)
          · cases hending
        refine abidesAt_set_bind { hd with tokens := hd.tokens.of_suffix hrest } ?_
        refine abidesAt_bind (abides_content ht _ _ _) fun found hfound => abides_pure ?_
        exact ⟨fun m hm => hacc m (List.mem_reverse.mp hm), hfound.1, hfound.2⟩
      · exact abidesAt_bind (hnode d) fun m hm => ih (List.forall_mem_cons.mpr ⟨hm, hacc⟩)

theorem abides_tooDeep : Section.tooDeep.Abides V known scope :=
  fun _ _ hopener => abides_read_bind (abides_refuse hopener _)

section Readers

variable (hV : V.Wide)
include hV

theorem abides_output {opening : Position} (hopening : V.Spot opening) :
    Abides V known scope (Node.readOutput opening) (Node.Within V) := by
  refine abides_bind (abides_content hopening _ _) fun found hfound => ?_
  dsimp only
  split
  · exact abides_refuse_bind hopening _ _
  · refine abides_bind (abides_argumentsOf hfound.2 hfound.1 (stays_expression hV)) fun e he => ?_
    exact abides_modify_bind (fun _ hd => { hd with }) (abides_pure (.output hopening.1 he))

variable (hscope : scope.Within V known)
include hscope

theorem abides_tag {top : Bool} {wrap : SectionReader} (hwrap : wrap.Abides V known scope)
    {opening : Position} (hopening : V.Spot opening) :
    Abides V known scope (Node.readTag top wrap opening) (Node.Within V) := by
  refine abides_get_bind fun d hd => ?_
  split
  · exact abides_refuse hopening _ d
  · rename_i start rest htokens
    obtain ⟨hstart, hrest⟩ := List.forall_mem_cons.mp (htokens ▸ hd.tokens)
    split
    · exact abides_refuse hopening _ d
    · refine abidesAt_read_bind (abidesAt_ite (abides_refuse_bind hstart _ _ d) ?_)
      split
      · exact abides_refuse hstart _ d
      · rename_i ref href
        refine abidesAt_set_bind { hd with tokens := hrest } ?_
        refine abidesAt_bind (abides_content hopening _ _ _) fun content hcontent => ?_
        obtain ⟨args, close⟩ := content
        have hs : TagScope.Within V known scope ⟨start, args, close, top, wrap⟩ :=
          ⟨hstart, hcontent.1, hcontent.2, hwrap⟩
        refine abides_bind (abides_ofRef hs hV hscope href) fun found hfound => ?_
        refine abides_bind (A := fun _ => True)
          (abides_argumentsOf hcontent.2 hfound.2 (stays_pure trivial)) fun _ _ => ?_
        exact abides_modify_bind (fun _ hd => { hd with }) (abides_pure (.tag hstart.1 hfound.1))

theorem abides_with {top : Bool} {wrap : SectionReader} (hwrap : wrap.Abides V known scope) :
    Abides V known scope (Node.readWith top wrap) (Node.Within V) := by
  refine abides_get_bind fun d hd => ?_
  split
  · exact abides_pure (.text "") d
  · rename_i t rest htokens
    obtain ⟨ht, hrest⟩ := List.forall_mem_cons.mp (htokens ▸ hd.tokens)
    split
    · exact abidesAt_set_bind { hd with tokens := hrest } (abides_pure (.text _) _)
    · exact abidesAt_set_bind { hd with tokens := hrest } (abides_output hV ht _)
    · exact abidesAt_set_bind { hd with tokens := hrest } (abides_tag hV hscope hwrap ht _)
    · exact abides_refuse ht _ d

theorem abides_node (room : Nat) (top : Bool) :
    Abides V known scope (Node.read room top) (Node.Within V) := by
  induction room generalizing top with
  | zero => exact abides_with hV hscope abides_tooDeep
  | succ room ih =>
    refine abides_with hV hscope fun ends opener hopener => abides_get_bind fun d _ => ?_
    exact abides_upTo (ih false) ends hopener _ (List.forall_mem_nil _) d

/-- The nodes of a template are within the vocabulary, and so is what is noted while they are read.
-/
theorem abides_all (room n : Nat) {acc : List Node} (hacc : Body.Within V acc) :
    Abides V known scope (Node.readAll room n acc) (Body.Within V) := by
  have hreverse : Body.Within V acc.reverse := fun m hm => hacc m (List.mem_reverse.mp hm)
  induction n generalizing acc with
  | zero => exact abides_pure hreverse
  | succ n ih =>
    refine abides_get_bind fun d _ => ?_
    split
    · exact abides_pure hreverse d
    · refine abidesAt_bind (abides_node hV hscope room true d) fun m hm => ?_
      have hacc' : Body.Within V (m :: acc) := List.forall_mem_cons.mpr ⟨hm, hacc⟩
      exact ih hacc' fun n hn => hacc' n (List.mem_reverse.mp hn)

end Readers

end Nodes

end Stencil
