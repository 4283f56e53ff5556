import Stencil.Proofs.Reading.Compile
import Stencil.Proofs.Serial.Draft

/-!
# Templates without serial numbers

Tags, nodes and templates are read in one way but for the numbers of the templates that are loaded.
-/

namespace Stencil

/-!
## Tags without serial numbers

Each tag reads its arguments, in which no template has a part, and its bodies with the reader for
bodies. Three tags load a template, whose name stands in their arguments as a string.
-/

section Tags

open Drafting

variable {q : Answers} {scope : DraftScope} {d : Draft}

/-- The section with no number in the templates that stand in it. -/
def Section.unnumbered (part : Section) : Section :=
  { part with nodes := unnumberedNodes part.nodes }

/-- What a reader of tags gives, without numbers. -/
def TagReader.unnumbered (found : Statement × List Token) : Statement × List Token :=
  (found.1.unnumbered, found.2)

/-- Templates have a part in what a reader of bodies gives only by their numbers. -/
def SectionReader.Mirrors (q : Answers) (scope : DraftScope) (wrap : SectionReader) : Prop :=
  ∀ ends opener, Drafting.Mirrors q scope (fun _ => True) Section.unnumbered (wrap ends opener)
    (wrap ends opener)

/-- Templates have a part in what a reader of tags gives only by their numbers. -/
abbrev TagReader.Mirrors (q : Answers) (scope : DraftScope)
    (r : Drafting (Statement × List Token)) :
    Prop :=
  Drafting.Mirrors q scope (fun _ => True) TagReader.unnumbered r r

section Readers

variable {s : TagScope} (hwrap : s.wrap.Mirrors q scope)

/-! ### Bodies -/

theorem mirrors_body (part : Section) :
    Mirrors q scope (fun _ => True) unnumberedNodes part.body part.unnumbered.body :=
  repeats_bind repeats_argumentsOf fun _ _ => mirrors_pure trivial rfl

include hwrap in
theorem mirrors_bodyUpTo (ending : String) :
    Mirrors q scope (fun _ => True) unnumberedNodes (TagReader.bodyUpTo s ending)
      (TagReader.bodyUpTo s ending) :=
  mirrors_bind (hwrap _ _) fun part _ => mirrors_body part

include hwrap in
theorem mirrors_bodies (middle ending : String) :
    Mirrors q scope (fun _ => True)
      (fun found => (unnumberedNodes found.1, unnumberedOptional found.2))
      (TagReader.bodies s middle ending) (TagReader.bodies s middle ending) := by
  refine mirrors_bind (hwrap _ _) fun first _ => mirrors_bind (mirrors_body first) fun body _ => ?_
  refine mirrors_ite (fun _ => ?_) fun _ => mirrors_pure trivial rfl
  exact mirrors_bind (mirrors_bodyUpTo hwrap ending) fun other _ => mirrors_pure trivial rfl

/-! ### Control flow -/

include hwrap in
theorem mirrors_branches (n : Nat) (condition : Expr) :
    Mirrors q scope (fun _ => True)
      (fun found => (unnumberedBranches found.1, unnumberedOptional found.2))
      (TagReader.branches s n condition) (TagReader.branches s n condition) := by
  induction n generalizing condition with
  | zero => exact mirrors_refuse _ _
  | succ n ih =>
    refine mirrors_bind (hwrap _ _) fun part _ => ?_
    have hending : part.unnumbered.ending = part.ending := rfl
    dsimp only [Section.unnumbered]
    split
    · refine repeats_bind repeats_argumentsOf fun next _ => ?_
      exact mirrors_bind (ih next) fun found _ => mirrors_pure trivial rfl
    · refine mirrors_bind (mirrors_body part) fun body _ => ?_
      exact mirrors_bind (mirrors_bodyUpTo hwrap _) fun otherwise _ => mirrors_pure trivial rfl
    · exact mirrors_bind (mirrors_body part) fun body _ => mirrors_pure trivial rfl

include hwrap in
theorem mirrors_branch : TagReader.Mirrors q scope (TagReader.branch s) := by
  refine repeats_bind repeats_arguments fun found _ => fun d => mirrorsAt_get_bind fun _ => ?_
  exact mirrorsAt_bind (mirrors_branches hwrap _ _ d) fun parts _ => mirrors_pure trivial rfl

include hwrap in
theorem mirrors_compare (negated : Bool) :
    TagReader.Mirrors q scope (TagReader.compare negated s) :=
  repeats_bind repeats_arguments fun _ _ =>
    mirrors_bind (mirrors_bodies hwrap _ _) fun _ _ => mirrors_pure trivial rfl

include hwrap in
theorem mirrors_loop : TagReader.Mirrors q scope (TagReader.loop s) :=
  repeats_bind repeats_arguments fun _ _ =>
    mirrors_bind (mirrors_bodies hwrap _ _) fun _ _ => mirrors_pure trivial rfl

/-! ### Inheritance and composition -/

include hwrap in
theorem mirrors_block : TagReader.Mirrors q scope (TagReader.block s) := by
  refine repeats_bind repeats_arguments fun found _ => mirrors_bind (hwrap _ _) fun part _ => ?_
  refine repeats_bind repeats_argumentsOf fun _ _ => ?_
  exact mirrors_bind (mirrors_registerBlock _ _ _) fun _ _ => mirrors_pure trivial rfl

section Loading

variable (hscope : scope.Gives q) (hargs : ∀ name ∈ quoted s.args, q.name name)
include hscope hargs

theorem mirrors_extending : TagReader.Mirrors q scope (TagReader.extending s) := by
  have hnote (parent : Parent) (rest : List Token) :
      Mirrors q scope (fun _ => True) TagReader.unnumbered
        (do
          modify fun draft => { draft with parent := some parent }
          pure (Statement.nothing, rest))
        (do
          modify fun draft => { draft with parent := some parent.unnumbered }
          pure (Statement.nothing, rest)) :=
    fun d hd => ⟨⟨hd.names, hd.library⟩, trivial, rfl⟩
  have hquotes : ∀ env a rest, Arguments.expression env s.args = .ok (a, rest) →
      ∀ name ∈ a.literalString?, q.name name :=
    fun env a rest h name hname => hargs name (quotes_expression s.args env a rest h name hname)
  intro d
  refine mirrorsAt_get_bind fun _ => ?_
  have hparent : (d.unnumbered q).parent.isSome = d.parent.isSome := by
    unfold Draft.unnumbered
    rw [unnumberedParent_eq, Option.isSome_map]
  rw [hparent]
  refine mirrorsAt_ite (fun _ => mirrors_refuse_bind _ _ _ _ d) fun _ => ?_
  refine mirrorsAt_ite (fun _ => mirrors_refuse_bind _ _ _ _ d) fun _ => ?_
  refine mirrorsAt_bind (repeats_arguments_of hquotes d) fun found hfound => ?_
  obtain ⟨e, rest⟩ := found
  dsimp only at hfound ⊢
  cases hliteral : e.literalString? with
  | none => exact hnote (.named e s.start.position) rest
  | some name =>
    refine mirrors_bind (mirrors_load hscope (hfound name hliteral) s.start) fun loaded _ => ?_
    cases loaded with
    | none => exact mirrors_refuse_bind _ _ _ _
    | some t => exact hnote (.linked t) rest

theorem mirrors_including : TagReader.Mirrors q scope (TagReader.including s) := by
  have hnamed (target : Target) (bindings : List (String × Expr)) (only ifExists : Bool)
      (rest : List Token) :
      Mirrors q scope (fun _ => True) TagReader.unnumbered
        (do pure (Statement.includes target (← read).name bindings only ifExists, rest))
        (do pure (Statement.includes target.unnumbered (← read).name bindings only ifExists,
          rest)) :=
    mirrors_read_bind (mirrors_pure trivial rfl)
  refine mirrors_bind (repeats_arguments_of (A := fun a => ∀ name ∈ a.1.literalString?,
    q.name name) fun env a rest h name hname => ?_) fun found hfound => ?_
  · exact hargs name (mem_quoted_of_include h name hname)
  · obtain ⟨⟨e, bindings, only, ifExists⟩, rest⟩ := found
    dsimp only at hfound ⊢
    cases hliteral : e.literalString? with
    | none => exact hnamed (.named e) bindings only ifExists rest
    | some name =>
      cases ifExists with
      | true => exact hnamed (.named e) bindings only true rest
      | false =>
        refine mirrors_bind (mirrors_load hscope (hfound name hliteral) s.start) fun loaded _ => ?_
        cases loaded with
        | none => exact hnamed (.named e) bindings only false rest
        | some t => exact hnamed (.linked t) bindings only false rest

omit hscope hargs in
/-- The names of macros are looked up in a template without regard to numbers. -/
theorem maps_importNames (file : String) (t : Template) (n : Nat) :
    (TagReader.importNames file t n).Maps unnumberedMacros
      (TagReader.importNames file t.unnumbered n) := by
  induction n with
  | zero => exact maps_want _
  | succ n ih =>
    refine maps_same_bind fun found => ?_
    obtain ⟨name, at_⟩ := found
    dsimp only
    rw [macro?_unnumbered]
    cases t.macro? name with
    | none => exact maps_refuse _ _
    | some m =>
      refine maps_same_bind fun alias? => ?_
      cases alias? with
      | none =>
        refine maps_same_bind fun target => maps_same_bind fun comma => ?_
        cases comma with
        | none => exact maps_pure _
        | some _ => exact maps_bind ih fun more => maps_pure _
      | some _ =>
        refine maps_same_bind fun found => maps_same_bind fun target => ?_
        refine maps_same_bind fun comma => ?_
        cases comma with
        | none => exact maps_pure _
        | some _ => exact maps_bind ih fun more => maps_pure _

theorem mirrors_importing : TagReader.Mirrors q scope (TagReader.importing s) := by
  refine mirrors_bind (repeats_arguments_of (A := fun a => q.name a.1) fun env a rest h => ?_)
    fun found hfound => ?_
  · exact hargs _ (mem_quoted_of_string h)
  · obtain ⟨⟨file, at_⟩, rest⟩ := found
    refine mirrors_bind (mirrors_load hscope hfound s.start) fun loaded _ => ?_
    cases loaded with
    | none => exact mirrors_refuse _ _
    | some t =>
      refine mirrors_bind (mirrors_arguments (maps_same_bind fun n => ?_)) fun macros _ =>
        mirrors_pure trivial rfl
      exact maps_importNames file t (n + 1)

end Loading

/-! ### Scopes -/

include hwrap in
theorem mirrors_define : TagReader.Mirrors q scope (TagReader.define s) := by
  refine repeats_bind repeats_arguments fun found _ => ?_
  refine mirrors_bind (mirrors_bodyUpTo hwrap "endmacro") fun body _ => ?_
  refine mirrors_ite (fun _ => ?_) fun _ => mirrors_pure trivial rfl
  exact mirrors_bind (mirrors_registerMacro _ _) fun _ _ => mirrors_pure trivial rfl

/-! ### All tags -/

include hwrap in
/-- What a built-in tag reads depends on templates only up to their numbers. -/
theorem mirrors_builtin (hscope : scope.Gives q) (hargs : ∀ name ∈ quoted s.args, q.name name)
    (tag : Tag) : TagReader.Mirrors q scope (TagReader.builtin tag s) := by
  cases tag with
  | branch => exact mirrors_branch hwrap
  | compareEqual => exact mirrors_compare hwrap false
  | compareUnequal => exact mirrors_compare hwrap true
  | loop => exact mirrors_loop hwrap
  | block => exact mirrors_block hwrap
  | extending => exact mirrors_extending hscope hargs
  | including => exact mirrors_including hscope hargs
  | importing => exact mirrors_importing hscope hargs
  | define => exact mirrors_define hwrap
  | cycle | firstOf | assign | now | templatetag | widthratio =>
    exact repeats_bind repeats_arguments fun _ _ => mirrors_pure trivial rfl
  | bind | autoescape | filtering =>
    exact repeats_bind repeats_arguments fun _ _ =>
      mirrors_bind (mirrors_bodyUpTo hwrap _) fun _ _ => mirrors_pure trivial rfl
  | spaceless | comment =>
    exact mirrors_bind (mirrors_bodyUpTo hwrap _) fun _ _ => mirrors_pure trivial rfl

end Readers

end Tags

/-!
## Nodes without serial numbers

The reader of nodes is built one level of nesting at a time, and so is the proof that the numbers of
templates have no part in what it gives.
-/

section Nodes

open Drafting

variable {q : Answers} {scope : DraftScope}

theorem mirrors_upTo {node : Drafting Node}
    (hnode : Mirrors q scope (fun _ => True) Node.unnumbered node node) (ends : List String)
    (opener : Token) (n : Nat) (acc : List Node) :
    Mirrors q scope (fun _ => True) Section.unnumbered (Section.upTo node ends opener n acc)
      (Section.upTo node ends opener n (unnumberedNodes acc)) := by
  induction n generalizing acc with
  | zero => exact mirrors_refuse _ _
  | succ n ih =>
    refine fun d => mirrorsAt_get_bind fun hd => ?_
    dsimp only [Draft.unnumbered]
    split
    · exact mirrors_refuse _ _ d
    · rename_i t tail htokens
      split
      · rename_i ending rest hending
        have hrest : rest ⊆ d.tokens := by
          rw [htokens]
          split at hending
          · split at hending <;> cases hending
            exact List.Subset.trans (List.subset_cons_self ..) (List.subset_cons_self ..)
          · cases hending
        refine mirrorsAt_set_bind { d with tokens := rest }
          (fun hd => hd.of_subset hrest _) ?_
        refine mirrorsAt_bind (repeats_content _ _ _ _) fun found _ => mirrors_pure trivial ?_
        unfold Section.unnumbered
        rw [unnumberedNodes_eq, unnumberedNodes_eq, List.map_reverse]
      · exact mirrorsAt_bind (hnode d) fun m _ => ih (m :: acc)

theorem mirrors_tooDeep : Section.tooDeep.Mirrors q scope :=
  fun _ _ => mirrors_read_bind (mirrors_refuse _ _)

theorem mirrors_output (opening : Position) :
    Mirrors q scope (fun _ => True) Node.unnumbered (Node.readOutput opening)
      (Node.readOutput opening) := by
  refine repeats_bind (repeats_content _ _ _) fun found _ => ?_
  refine mirrors_ite (fun _ => mirrors_refuse_bind _ _ _ _) fun _ => ?_
  refine repeats_bind repeats_argumentsOf fun e _ => ?_
  refine repeats_bind (repeats_modify (fun d hd => ⟨hd.names, hd.library⟩) fun _ => rfl)
    fun _ _ => mirrors_pure trivial rfl

theorem mirrors_tag (hscope : scope.Gives q) {top : Bool} {wrap : SectionReader}
    (hwrap : wrap.Mirrors q scope) (opening : Position) :
    Mirrors q scope (fun _ => True) Node.unnumbered (Node.readTag top wrap opening)
      (Node.readTag top wrap opening) := by
  refine fun d => mirrorsAt_get_bind fun hd => ?_
  dsimp only [Draft.unnumbered]
  split
  · exact mirrors_refuse _ _ d
  · rename_i start rest htokens
    split
    · exact mirrors_refuse _ _ d
    · rename_i name hname
      refine mirrorsAt_read_bind
        (mirrorsAt_ite (fun _ => mirrors_refuse_bind _ _ _ _ d) fun _ => ?_)
      dsimp only [DraftScope.answered]
      split
      · exact mirrors_refuse _ _ d
      · rename_i ref href
        obtain ⟨tag, rfl⟩ := hscope.tags name ref href
        have hrest : rest ⊆ d.tokens := htokens ▸ List.subset_cons_self start rest
        refine mirrorsAt_set_bind { d with tokens := rest }
          (fun hd => hd.of_subset hrest _) ?_
        refine mirrorsAt_bind (repeats_content _ _ _ _) fun content hargs => ?_
        refine mirrors_bind (mirrors_builtin hwrap hscope hargs tag) fun found _ => ?_
        refine repeats_bind repeats_argumentsOf fun _ _ => ?_
        exact repeats_bind (repeats_modify (fun d hd => ⟨hd.names, hd.library⟩) fun _ => rfl)
          fun _ _ => mirrors_pure trivial rfl

theorem mirrors_with (hscope : scope.Gives q) {top : Bool} {wrap : SectionReader}
    (hwrap : wrap.Mirrors q scope) :
    Mirrors q scope (fun _ => True) Node.unnumbered (Node.readWith top wrap)
      (Node.readWith top wrap) := by
  refine fun d => mirrorsAt_get_bind fun hd => ?_
  dsimp only [Draft.unnumbered]
  split
  · exact mirrorsAt_pure trivial rfl
  · rename_i t rest htokens
    have hrest : rest ⊆ d.tokens := htokens ▸ List.subset_cons_self t rest
    split
    · rename_i s hs
      refine mirrorsAt_set_bind { d with
        tokens := rest, seenContent := d.seenContent || !s.toList.all Text.isBlank }
        (fun hd => hd.of_subset hrest _) (mirrorsAt_pure trivial rfl)
    · refine mirrorsAt_set_bind { d with tokens := rest }
        (fun hd => hd.of_subset hrest _) (mirrors_output _ _)
    · refine mirrorsAt_set_bind { d with tokens := rest }
        (fun hd => hd.of_subset hrest _) (mirrors_tag hscope hwrap _ _)
    · exact mirrors_refuse _ _ d

theorem mirrors_node (hscope : scope.Gives q) (room : Nat) (top : Bool) :
    Mirrors q scope (fun _ => True) Node.unnumbered (Node.read room top) (Node.read room top) := by
  induction room generalizing top with
  | zero => exact mirrors_with hscope mirrors_tooDeep
  | succ room ih =>
    refine mirrors_with hscope fun ends opener d => mirrorsAt_get_bind fun _ => ?_
    exact mirrors_upTo (ih false) ends opener _ [] d

/-- What is read of a template depends on the templates that it names only up to their numbers. -/
theorem mirrors_all (hscope : scope.Gives q) (room n : Nat) (acc : List Node) :
    Mirrors q scope (fun _ => True) unnumberedNodes (Node.readAll room n acc)
      (Node.readAll room n (unnumberedNodes acc)) := by
  have hreverse (acc : List Node) :
      (unnumberedNodes acc).reverse = unnumberedNodes acc.reverse := by
    rw [unnumberedNodes_eq, unnumberedNodes_eq, List.map_reverse]
  induction n generalizing acc with
  | zero => exact mirrors_pure trivial (hreverse acc)
  | succ n ih =>
    refine fun d => mirrorsAt_get_bind fun _ => ?_
    dsimp only [Draft.unnumbered]
    split
    · exact mirrorsAt_pure trivial (hreverse acc)
    · exact mirrorsAt_bind (mirrors_node hscope room true d) fun m _ => ih (m :: acc)

end Nodes

/-!
## Compiling without serial numbers

A template is compiled to the same tree in any two sets that load the same for the names in it, but
for serial numbers.
-/

section Templates

open Library

/-- Names lead to the answers. -/
def Answers.link (q : Answers) : Linker := fun name _ _ l => (q.answer name, l)

/-- What a source is compiled to where names lead to the answers. -/
def Answers.template (q : Answers) (name source : String) : Except Halt Template :=
  (compileWith q.link name source [] q.library).1.map fun t => { t with serial := 0 }

/-- A set in which templates are read as the answers have it, and which they leave so. -/
structure Library.Fits (q : Answers) (l : Library) : Prop where
  settings : l.settings = q.library.settings
  catalog : l.catalog = q.library.catalog
  begin : q.keeps { l with compiledAny := true }
  count : ∀ l', q.keeps l' → ∀ n, q.keeps { l' with serial := n }
  kept : ∀ l', q.keeps l' → l'.settings = q.library.settings

/-- What a source is compiled to depends on what the names in it lead to, and on that only up to
serial numbers. -/
theorem compileWith_answers {q : Answers} {link : Linker} {name source : String}
    {underway : List String} {l : Library} (hl : l.Fits q)
    (hscope : DraftScope.Gives q ⟨name, l.catalog, l.settings,
      fun other => link other (some name) underway⟩)
    (hnames : ∀ tokens, Token.tokenize q.library.settings.trimming name source = .ok tokens →
      ∀ s ∈ quoted tokens, q.name s) :
    q.keeps (compileWith link name source underway l).2 ∧
      (compileWith link name source underway l).1.map Template.unnumbered =
        q.template name source := by
  have htrimming : l.settings.trimming = q.library.settings.trimming := by rw [hl.settings]
  have hroom : l.settings.maxNestingDepth = q.library.settings.maxNestingDepth := by
    rw [hl.settings]
  unfold Answers.template
  rw [compileWith_eq, compileWith_eq, htrimming, hroom]
  cases htokens : Token.tokenize q.library.settings.trimming name source with
  | error e => exact ⟨hl.begin, rfl⟩
  | ok tokens =>
    obtain ⟨hleft, -, hmirror⟩ := mirrors_all hscope q.library.settings.maxNestingDepth
      (tokens.length + 1) [] { tokens, library := { l with compiledAny := true } }
      ⟨hnames tokens htokens, hl.begin⟩
    have hanswered : DraftScope.answered q ⟨name, l.catalog, l.settings,
        fun other => link other (some name) underway⟩ =
          ⟨name, q.library.catalog, q.library.settings,
            fun other => q.link other (some name) []⟩ := by
      rw [hl.settings, hl.catalog]
      rfl
    rw [hanswered] at hmirror
    dsimp only [Draft.unnumbered, unnumberedParent, unnumberedBlocks, unnumberedMacros,
      unnumberedNodes] at hmirror ⊢
    rw [hmirror]
    generalize Node.readAll _ _ _ _ { tokens, library := { l with compiledAny := true } } = out
      at hleft ⊢
    obtain ⟨result, draft⟩ := out
    refine ⟨hl.count _ hleft.library _, ?_⟩
    cases result with
    | error h => rfl
    | ok nodes =>
      have hsettings := hl.kept _ hleft.library
      dsimp only at hsettings
      dsimp only [Except.map, Template.unnumbered]
      rw [hsettings]
      cases draft.parent with
      | none => rfl
      | some parent =>
        cases parent with
        | named => rfl
        | linked t =>
          cases t
          rfl

end Templates

end Stencil
