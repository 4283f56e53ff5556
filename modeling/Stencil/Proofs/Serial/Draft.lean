import Stencil.Proofs.Keeping
import Stencil.Proofs.Reading.Quotes
import Stencil.Proofs.Table
import Stencil.Template
import Stencil.Template.Draft

/-!
# Trees and readers without serial numbers

The numbers of templates are in their trees, and the readers of templates make nothing of them.
-/

namespace Stencil

/-!
## Trees without serial numbers

Every template has the number of the compilation that produced it, and so have the templates that
stand in its tree. Nothing but that number tells two templates apart that were compiled from one
source in one way.
-/

mutual

/-- The node with no number in the templates that stand in it. -/
def Node.unnumbered : Node → Node
  | .text s => .text s
  | .output p e => .output p e
  | .tag name p statement => .tag name p statement.unnumbered

/-- The statement with no number in the templates that stand in it. -/
def Statement.unnumbered : Statement → Statement
  | .branch branches otherwise =>
    .branch (unnumberedBranches branches) (unnumberedOptional otherwise)
  | .compare lhs rhs negated body otherwise =>
    .compare lhs rhs negated (unnumberedNodes body) (unnumberedOptional otherwise)
  | .loop first second source reversed sorted body empty =>
    .loop first second source reversed sorted (unnumberedNodes body) (unnumberedOptional empty)
  | .cycle values target silent => .cycle values target silent
  | .firstOf values => .firstOf values
  | .block name body => .block name (unnumberedNodes body)
  | .includes target base bindings only ifExists =>
    .includes target.unnumbered base bindings only ifExists
  | .imports macros => .imports (unnumberedMacros macros)
  | .bind bindings body => .bind bindings (unnumberedNodes body)
  | .assign name value => .assign name value
  | .define m => .define m.unnumbered
  | .escaping enabled body => .escaping enabled (unnumberedNodes body)
  | .filtering filters body => .filtering filters (unnumberedNodes body)
  | .spaceless body => .spaceless (unnumberedNodes body)
  | .nothing => .nothing
  | .now format fake => .now format fake
  | .write text => .write text
  | .ratio value most width target => .ratio value most width target
  | .custom steps => .custom (unnumberedSteps steps)

/-- The step with no number in the templates that stand in it. -/
def Step.unnumbered : Step → Step
  | .write text => .write text
  | .run body => .run (unnumberedNodes body)
  | .captured key body => .captured key (unnumberedNodes body)
  | .shown key value => .shown key value

/-- The target with no number in the template that it names. -/
def Target.unnumbered : Target → Target
  | .linked t => .linked t.unnumbered
  | .named name => .named name

/-- The parent with no number in its template. -/
def Parent.unnumbered : Parent → Parent
  | .linked t => .linked t.unnumbered
  | .named name position => .named name position

/-- The macro with no number in the templates that stand in it. -/
def Macro.unnumbered : Macro → Macro
  | ⟨name, params, body, exported⟩ => ⟨name, params, unnumberedNodes body, exported⟩

/-- The template with no number of its own and none in the templates that stand in it. -/
def Template.unnumbered : Template → Template
  | ⟨name, source, tokens, nodes, parent, blocks, macros, level, options, _⟩ =>
    ⟨name, source, tokens, unnumberedNodes nodes, unnumberedParent parent, unnumberedBlocks blocks,
      unnumberedMacros macros, level, options, 0⟩

/-- The nodes without numbers. -/
def unnumberedNodes : List Node → List Node
  | [] => []
  | n :: ns => n.unnumbered :: unnumberedNodes ns

/-- The body that may be missing, without numbers. -/
def unnumberedOptional : Option (List Node) → Option (List Node)
  | none => none
  | some body => some (unnumberedNodes body)

/-- The parent that may be missing, without numbers. -/
def unnumberedParent : Option Parent → Option Parent
  | none => none
  | some parent => some parent.unnumbered

/-- The branches without numbers. -/
def unnumberedBranches : List (Expr × List Node) → List (Expr × List Node)
  | [] => []
  | ⟨condition, body⟩ :: branches =>
    (condition, unnumberedNodes body) :: unnumberedBranches branches

/-- The steps without numbers. -/
def unnumberedSteps : List Step → List Step
  | [] => []
  | step :: steps => step.unnumbered :: unnumberedSteps steps

/-- The named bodies without numbers. -/
def unnumberedBlocks : List (String × List Node) → List (String × List Node)
  | [] => []
  | ⟨name, body⟩ :: blocks => (name, unnumberedNodes body) :: unnumberedBlocks blocks

/-- The named macros without numbers. -/
def unnumberedMacros : List (String × Macro) → List (String × Macro)
  | [] => []
  | ⟨name, m⟩ :: macros => (name, m.unnumbered) :: unnumberedMacros macros

end

/-! ### Lists -/

theorem unnumberedNodes_eq (ns : List Node) : unnumberedNodes ns = ns.map Node.unnumbered := by
  induction ns with
  | nil => rfl
  | cons n ns ih => rw [unnumberedNodes, ih, List.map_cons]

theorem unnumberedParent_eq (parent : Option Parent) :
    unnumberedParent parent = parent.map Parent.unnumbered := by
  cases parent <;> rfl

theorem unnumberedBlocks_eq (blocks : Table Body) :
    unnumberedBlocks blocks = Table.change unnumberedNodes blocks := by
  induction blocks with
  | nil => rfl
  | cons b blocks ih =>
    rw [unnumberedBlocks, ih]
    rfl

theorem unnumberedMacros_eq (macros : Table Macro) :
    unnumberedMacros macros = Table.change Macro.unnumbered macros := by
  induction macros with
  | nil => rfl
  | cons m macros ih =>
    rw [unnumberedMacros, ih]
    rfl

theorem unnumberedBranches_eq (branches : List (Expr × List Node)) :
    unnumberedBranches branches = branches.map fun b => (b.1, unnumberedNodes b.2) := by
  induction branches with
  | nil => rfl
  | cons b branches ih => rw [unnumberedBranches, ih, List.map_cons]

theorem unnumberedSteps_eq (steps : List Step) :
    unnumberedSteps steps = steps.map Step.unnumbered := by
  induction steps with
  | nil => rfl
  | cons step steps ih => rw [unnumberedSteps, ih, List.map_cons]

theorem block?_unnumbered (t : Template) (name : String) :
    t.unnumbered.block? name = (t.block? name).map unnumberedNodes := by
  obtain ⟨_, _, _, _, _, blocks, _⟩ := t
  change (unnumberedBlocks blocks).lookup name = _
  rw [unnumberedBlocks_eq]
  exact Table.get?_change _ blocks name

theorem macro?_unnumbered (t : Template) (name : String) :
    t.unnumbered.macro? name = (t.macro? name).map Macro.unnumbered := by
  obtain ⟨_, _, _, _, _, _, macros⟩ := t
  change (unnumberedMacros macros).lookup name = _
  rw [unnumberedMacros_eq]
  exact Table.get?_change _ macros name

theorem options_unnumbered (t : Template) : t.unnumbered.options = t.options := by
  cases t
  rfl

/-!
## Reading without serial numbers

What a reader of templates gives depends on what is loaded for the names that it reads, and not on
the numbers of the templates that are loaded. So a reader can be followed by itself in surroundings
where the loaded templates have no numbers: it ends in the same way, and what it gives and what it
leaves behind are the same but for numbers.
-/

section Readers

/-- What names lead to while a template is read, apart from the numbers of templates. -/
structure Answers where
  /-- The names that may be loaded. -/
  name : String → Prop
  answer : String → Except Halt (Option Template)
  /-- What holds for the set all the while. -/
  keeps : Library → Prop
  /-- The set that the template is read for where templates have no numbers. -/
  library : Library

/-- The draft as it is where templates have no numbers. -/
def Draft.unnumbered (q : Answers) (d : Draft) : Draft :=
  { d with
    parent := unnumberedParent d.parent
    blocks := unnumberedBlocks d.blocks
    macros := unnumberedMacros d.macros
    library := { q.library with compiledAny := true } }

/-- The draft names only what may be loaded. -/
structure Draft.Asks (q : Answers) (d : Draft) : Prop where
  names : ∀ s ∈ quoted d.tokens, q.name s
  library : q.keeps d.library

/-- The surroundings where templates have no numbers. -/
def DraftScope.answered (q : Answers) (scope : DraftScope) : DraftScope :=
  { scope with load := fun name l => (q.answer name, l) }

/-- The surroundings have built-in tags only, and the names in the templates have the answers that
are given. -/
structure DraftScope.Gives (q : Answers) (scope : DraftScope) : Prop where
  tags : ∀ name ref, scope.catalog.tags.find? name = some ref → ∃ t, ref = .builtin t
  load : ∀ name, q.name name → ∀ l, q.keeps l →
    q.keeps ((scope.load name).run l).2 ∧
      ((scope.load name).run l).1.map (Option.map Template.unnumbered) = q.answer name

/-- What `r'` gives is what `f` makes of what `r` gives. -/
def Arguments.Maps {α β : Type} (f : α → β) (r : Arguments α) (r' : Arguments β) : Prop :=
  ∀ env ts, r' env ts = (r env ts).map fun a => (f a.1, a.2)

namespace Drafting

/-- Run on the draft `d`, `m` gives what `A` holds for, and `m'` gives what `f` makes of it where
templates have no numbers. -/
def MirrorsAt {α β : Type} (q : Answers) (scope : DraftScope) (d : Draft) (A : α → Prop)
    (f : α → β) (m : Drafting α) (m' : Drafting β) : Prop :=
  d.Asks q → (m scope d).2.Asks q ∧ Ends A (fun _ => True) (m scope d).1 ∧
    m' (scope.answered q) (d.unnumbered q) = ((m scope d).1.map f, (m scope d).2.unnumbered q)

/-- Run on any draft, `m` gives what `A` holds for, and `m'` gives what `f` makes of it where
templates have no numbers. -/
def Mirrors {α β : Type} (q : Answers) (scope : DraftScope) (A : α → Prop) (f : α → β)
    (m : Drafting α) (m' : Drafting β) : Prop :=
  ∀ d, MirrorsAt q scope d A f m m'

/-- Templates have no part in what `m` gives. -/
abbrev Repeats {α : Type} (q : Answers) (scope : DraftScope) (A : α → Prop) (m : Drafting α) :
    Prop :=
  Mirrors q scope A (fun a => a) m m

end Drafting

open Drafting

variable {q : Answers} {scope : DraftScope} {d : Draft} {α β γ δ : Type} {A : α → Prop}
  {B : β → Prop}

/-! ### Rules -/

section Rules

variable {f : α → γ} {g : β → δ}

theorem mirrorsAt_pure {a : α} {c : γ} (ha : A a) (hc : c = f a) :
    MirrorsAt q scope d A f (pure a) (pure c) := by
  subst hc
  exact fun hd => ⟨hd, ha, rfl⟩

theorem mirrors_pure {a : α} {c : γ} (ha : A a) (hc : c = f a) :
    Mirrors q scope A f (pure a) (pure c) := fun _ => mirrorsAt_pure ha hc

theorem mirrors_throw (h : Halt) : Mirrors q scope A f (throw h) (throw h) :=
  fun _ hd => ⟨hd, trivial, rfl⟩

theorem mirrors_refuse (p : Position) (fault : ParseFault) :
    Mirrors q scope A f (refuse p fault) (refuse p fault) := mirrors_throw _

theorem mirrorsAt_bind {m : Drafting α} {m' : Drafting γ} {k : α → Drafting β}
    {k' : γ → Drafting δ} (hm : MirrorsAt q scope d A f m m')
    (hk : ∀ a, A a → Mirrors q scope B g (k a) (k' (f a))) :
    MirrorsAt q scope d B g (m >>= k) (m' >>= k') := by
  intro hd
  obtain ⟨hleft, hends, hmirror⟩ := hm hd
  rw [run_bind, run_bind, hmirror]
  cases hresult : (m scope d).1 with
  | error h => exact ⟨hleft, trivial, rfl⟩
  | ok a =>
    rw [hresult] at hends
    exact hk a hends _ hleft

theorem mirrors_bind {m : Drafting α} {m' : Drafting γ} {k : α → Drafting β} {k' : γ → Drafting δ}
    (hm : Mirrors q scope A f m m') (hk : ∀ a, A a → Mirrors q scope B g (k a) (k' (f a))) :
    Mirrors q scope B g (m >>= k) (m' >>= k') := fun d => mirrorsAt_bind (hm d) hk

theorem repeats_bind {m : Drafting α} {k : α → Drafting β} {k' : α → Drafting δ}
    (hm : Repeats q scope A m) (hk : ∀ a, A a → Mirrors q scope B g (k a) (k' a)) :
    Mirrors q scope B g (m >>= k) (m >>= k') := mirrors_bind hm hk

theorem mirrors_refuse_bind (p : Position) (fault : ParseFault) (k : α → Drafting β)
    (k' : α → Drafting δ) :
    Mirrors q scope B g (refuse p fault >>= k) (refuse p fault >>= k') :=
  mirrors_throw _

theorem mirrorsAt_ite {c : Prop} [Decidable c] {m n : Drafting α} {m' n' : Drafting γ}
    (h : c → MirrorsAt q scope d A f m m') (h' : ¬c → MirrorsAt q scope d A f n n') :
    MirrorsAt q scope d A f (if c then m else n) (if c then m' else n') := by
  split
  · exact h ‹c›
  · exact h' ‹¬c›

theorem mirrors_ite {c : Prop} [Decidable c] {m n : Drafting α} {m' n' : Drafting γ}
    (h : c → Mirrors q scope A f m m') (h' : ¬c → Mirrors q scope A f n n') :
    Mirrors q scope A f (if c then m else n) (if c then m' else n') :=
  fun d => mirrorsAt_ite (fun hc => h hc d) fun hc => h' hc d

theorem mirrorsAt_read_bind {k : DraftScope → Drafting β} {k' : DraftScope → Drafting δ}
    (h : MirrorsAt q scope d B g (k scope) (k' (scope.answered q))) :
    MirrorsAt q scope d B g (read >>= k) (read >>= k') := h

theorem mirrors_read_bind {k : DraftScope → Drafting β} {k' : DraftScope → Drafting δ}
    (h : Mirrors q scope B g (k scope) (k' (scope.answered q))) :
    Mirrors q scope B g (read >>= k) (read >>= k') := h

theorem mirrorsAt_get_bind {k : Draft → Drafting β} {k' : Draft → Drafting δ}
    (h : d.Asks q → MirrorsAt q scope d B g (k d) (k' (d.unnumbered q))) :
    MirrorsAt q scope d B g (get >>= k) (get >>= k') := fun hd => h hd hd

theorem mirrorsAt_set (d' : Draft) (hd' : d.Asks q → d'.Asks q) :
    MirrorsAt q scope d (fun _ => True) (fun a => a) (set d' : Drafting PUnit)
      (set (d'.unnumbered q)) := fun hd => ⟨hd' hd, trivial, rfl⟩

theorem mirrorsAt_set_bind (d' : Draft) {k : PUnit → Drafting β} {k' : PUnit → Drafting δ}
    (hd' : d.Asks q → d'.Asks q) (hk : MirrorsAt q scope d' B g (k ⟨⟩) (k' ⟨⟩)) :
    MirrorsAt q scope d B g (set d' >>= k) (set (d'.unnumbered q) >>= k') := fun hd =>
  hk (hd' hd)

theorem repeats_modify {f : Draft → Draft} (hasks : ∀ d : Draft, d.Asks q → (f d).Asks q)
    (hf : ∀ d : Draft, f (d.unnumbered q) = (f d).unnumbered q) :
    Repeats q scope (fun _ => True) (modify f : Drafting PUnit) := by
  intro d hd
  refine ⟨hasks d hd, trivial, ?_⟩
  change (Except.ok PUnit.unit, f (d.unnumbered q)) = _
  rw [hf]
  rfl

theorem maps_pure (a : α) : Arguments.Maps f (pure a) (pure (f a)) := fun _ _ => rfl

theorem maps_want (what : Wanted) :
    Arguments.Maps f (Arguments.want what) (Arguments.want what) := by
  intro env ts
  cases ts <;> rfl

theorem maps_refuse (t : Token) (fault : ParseFault) :
    Arguments.Maps f (Arguments.refuse t fault) (Arguments.refuse t fault) := fun _ _ => rfl

theorem maps_bind {r : Arguments α} {r' : Arguments γ} {k : α → Arguments β}
    {k' : γ → Arguments δ} (hr : r.Maps f r') (hk : ∀ a, (k a).Maps g (k' (f a))) :
    (r >>= k).Maps g (r' >>= k') := by
  intro env ts
  rw [arguments_bind, arguments_bind, hr]
  cases r env ts with
  | error e => rfl
  | ok a => exact hk a.1 env a.2

/-- Both read alike first. -/
theorem maps_same_bind {r : Arguments α} {k : α → Arguments β} {k' : α → Arguments δ}
    (hk : ∀ a, (k a).Maps g (k' a)) : (r >>= k).Maps g (r >>= k') := by
  refine maps_bind (f := fun a => a) (fun env ts => ?_) hk
  cases r env ts <;> rfl

end Rules

/-! ### Steps -/

theorem Draft.Asks.of_subset (hd : d.Asks q) {rest : List Token} (h : rest ⊆ d.tokens)
    (seenContent : Bool) : Draft.Asks q { d with tokens := rest, seenContent } where
  names s hs := hd.names s (quoted_subset h hs)
  library := hd.library

theorem repeats_ofExcept {r : Except Error α} (hr : ∀ a, r = .ok a → A a) :
    Repeats q scope A (Halt.ofExcept r : Drafting α) := by
  cases r with
  | ok a => exact mirrors_pure (hr a rfl) rfl
  | error e => exact mirrors_throw _

theorem repeats_arguments_of {close : Position} {ts : List Token} {r : Arguments α}
    (hr : ∀ env a rest, r env ts = .ok (a, rest) → A a) :
    Repeats q scope (fun a => A a.1) (Drafting.arguments close ts r) :=
  mirrors_read_bind (repeats_ofExcept fun a ha => hr _ a.1 a.2 ha)

theorem repeats_arguments {close : Position} {ts : List Token} {r : Arguments α} :
    Repeats q scope (fun _ => True) (Drafting.arguments close ts r) :=
  repeats_arguments_of (A := fun _ => True) fun _ _ _ _ => trivial

theorem repeats_argumentsOf {tag : String} {close : Position} {ts : List Token} {r : Arguments α} :
    Repeats q scope (fun _ => True) (argumentsOf tag close ts r) :=
  repeats_bind repeats_arguments fun _ _ => mirrors_pure trivial rfl

/-- A reader of arguments that gives what has no numbers from what has none. -/
theorem mirrors_arguments {f : α → β} {close : Position} {ts : List Token} {r : Arguments α}
    {r' : Arguments β} (hr : r.Maps f r') :
    Mirrors q scope (fun _ => True) (fun a => (f a.1, a.2)) (Drafting.arguments close ts r)
      (Drafting.arguments close ts r') := by
  refine mirrors_read_bind ?_
  unfold DraftScope.answered
  rw [hr]
  cases r _ ts with
  | ok a => exact mirrors_pure trivial rfl
  | error e => exact mirrors_throw _

/-- The content of a tag consists of tokens that the draft had. -/
theorem repeats_content (opening : Position) (openSymbol closeSymbol : Symbol) :
    Repeats q scope (fun a => ∀ s ∈ quoted a.1, q.name s)
      (content opening openSymbol closeSymbol) := by
  intro d
  refine mirrorsAt_get_bind fun hd => ?_
  dsimp only [Draft.unnumbered]
  split
  · exact mirrors_refuse _ _ d
  · rename_i close rest hdrop
    have hrest : rest ⊆ d.tokens := by
      refine List.Subset.trans (List.subset_cons_self close rest) ?_
      rw [← hdrop]
      exact List.drop_subset _ _
    split
    · split
      · refine mirrorsAt_set_bind { d with tokens := rest }
          (fun hd => hd.of_subset hrest _) (mirrorsAt_pure (fun s hs => hd.names s ?_) rfl)
        exact quoted_subset (List.takeWhile_subset _) hs
      · exact mirrors_refuse _ _ d
    · exact mirrors_refuse _ _ d

theorem mirrors_load (hscope : scope.Gives q) {name : String} (hname : q.name name) (t : Token) :
    Mirrors q scope (fun _ => True) (Option.map Template.unnumbered) (Drafting.load name t)
      (Drafting.load name t) := by
  refine mirrors_read_bind fun d => mirrorsAt_get_bind fun hd => ?_
  obtain ⟨hkeeps, hanswer⟩ := hscope.load name hname d.library hd.library
  have hanswered : ((scope.answered q).load name).run (d.unnumbered q).library =
      (q.answer name, (d.unnumbered q).library) := rfl
  rw [hanswered, ← hanswer]
  generalize (scope.load name).run d.library = out at hkeeps ⊢
  obtain ⟨result, library⟩ := out
  refine mirrorsAt_set_bind { d with library } (fun hd => ⟨hd.names, hkeeps⟩) ?_
  rcases result with (e | _) | found
  · by_cases he : e.isLoader = true
    · simp only [Except.map, if_pos he]
      exact mirrors_throw _ _
    · simp only [Except.map, if_neg he]
      exact mirrors_throw _ _
  · exact mirrors_throw _ _
  · exact mirrorsAt_pure trivial rfl

theorem mirrors_registerBlock (name : String) (body : Body) (t : Token) :
    Mirrors q scope (fun _ => True) (fun a => a) (registerBlock name body t)
      (registerBlock name (unnumberedNodes body) t) := by
  intro d
  have hhas : (d.unnumbered q).blocks.has name = d.blocks.has name := by
    unfold Draft.unnumbered
    rw [unnumberedBlocks_eq, Table.has_change]
  have hinsert : (d.unnumbered q).blocks.insert name (unnumberedNodes body) =
      unnumberedBlocks (d.blocks.insert name body) := by
    unfold Draft.unnumbered
    rw [unnumberedBlocks_eq, unnumberedBlocks_eq, Table.insert_change]
  refine mirrorsAt_get_bind fun _ => ?_
  rw [hhas, hinsert]
  split
  · exact mirrors_refuse _ _ d
  · exact mirrorsAt_set { d with blocks := d.blocks.insert name body }
      fun hd => ⟨hd.names, hd.library⟩

theorem mirrors_registerMacro (m : Macro) (t : Token) :
    Mirrors q scope (fun _ => True) (fun a => a) (registerMacro m t)
      (registerMacro m.unnumbered t) := by
  intro d
  have hname : m.unnumbered.name = m.name := by
    cases m
    rfl
  have hhas : (d.unnumbered q).macros.has m.name = d.macros.has m.name := by
    unfold Draft.unnumbered
    rw [unnumberedMacros_eq, Table.has_change]
  have hinsert : (d.unnumbered q).macros.insert m.name m.unnumbered =
      unnumberedMacros (d.macros.insert m.name m) := by
    unfold Draft.unnumbered
    rw [unnumberedMacros_eq, unnumberedMacros_eq, Table.insert_change]
  refine mirrorsAt_get_bind fun _ => ?_
  rw [hname, hhas, hinsert]
  split
  · exact mirrors_refuse _ _ d
  · exact mirrorsAt_set { d with macros := d.macros.insert m.name m }
      fun hd => ⟨hd.names, hd.library⟩

end Readers

end Stencil
