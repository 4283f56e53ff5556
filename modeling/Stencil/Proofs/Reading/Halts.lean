import Stencil.Proofs.Reading.Compile
import Stencil.Proofs.Reading.Own

/-!
# How loading fails

A template that is read names others, and loading these can fail as well. Such a failure is reported
at the tag that names the template, so it never is an error of a loader: only the name that a set is
asked for itself can lead to one.
-/

namespace Stencil

/-- A halt that is no error of a loader. It is for want of depth only where `spent` says so. -/
def Halt.Own (spent : Prop) : Halt → Prop
  | .error e => e.isLoader = false
  | .exhausted => spent

/-!
## Drafts

What a template names is loaded into the set of the draft. `known` says which sets these are.
-/

section Drafts

/-- Loading leaves a known set, and it lacks depth only where `spent` says so. -/
def DraftScope.Loads (known : Library → Prop) (spent : Prop) (scope : DraftScope) : Prop :=
  ∀ name l, known l → known ((scope.load name).run l).2 ∧
    (∀ why, ((scope.load name).run l).1 = .error (@Halt.exhausted why) → spent)

namespace Drafting

/-- Run on the draft `d`, `m` leaves a known set, and it fails for reasons of its own. -/
def HaltsAt {α : Type} (known : Library → Prop) (spent : Prop) (scope : DraftScope) (d : Draft)
    (m : Drafting α) : Prop :=
  known d.library →
    known (m scope d).2.library ∧ Ends (fun _ => True) (Halt.Own spent) (m scope d).1

/-- Run on any draft, `m` leaves a known set, and it fails for reasons of its own. -/
def Halts {α : Type} (known : Library → Prop) (spent : Prop) (scope : DraftScope)
    (m : Drafting α) : Prop := ∀ d, HaltsAt known spent scope d m

end Drafting

open Drafting

variable {known : Library → Prop} {spent : Prop} {scope : DraftScope} {d : Draft} {α β : Type}

/-! ### Rules -/

section Rules

variable {m m' : Drafting α} {f : α → Drafting β}

theorem halts_pure (a : α) : Halts known spent scope (pure a) := fun _ hd => ⟨hd, trivial⟩

theorem halts_throw {h : Halt} (hh : h.Own spent) :
    Halts known spent scope (throw h : Drafting α) := fun _ hd => ⟨hd, hh⟩

theorem haltsAt_bind (hm : HaltsAt known spent scope d m)
    (hf : ∀ a, Halts known spent scope (f a)) : HaltsAt known spent scope d (m >>= f) := by
  intro hd
  obtain ⟨hd', hresult⟩ := hm hd
  rw [run_bind]
  generalize m scope d = out at hd' hresult ⊢
  obtain ⟨_ | a, d'⟩ := out
  · exact ⟨hd', hresult⟩
  · exact hf a d' hd'

theorem halts_bind (hm : Halts known spent scope m) (hf : ∀ a, Halts known spent scope (f a)) :
    Halts known spent scope (m >>= f) := fun d => haltsAt_bind (hm d) hf

theorem halts_map {f : α → β} (hm : Halts known spent scope m) :
    Halts known spent scope (do return f (← m)) := halts_bind hm fun _ => halts_pure _

theorem halts_read_bind {f : DraftScope → Drafting β} (h : Halts known spent scope (f scope)) :
    Halts known spent scope (read >>= f) := h

theorem haltsAt_read_bind {f : DraftScope → Drafting β}
    (h : HaltsAt known spent scope d (f scope)) : HaltsAt known spent scope d (read >>= f) := h

/-- What is done with the draft is done with this draft. -/
theorem halts_get_bind {f : Draft → Drafting β} (h : ∀ d, HaltsAt known spent scope d (f d)) :
    Halts known spent scope (get >>= f) := h

theorem haltsAt_set_bind {d' : Draft} {f : PUnit → Drafting β} (hd' : d'.library = d.library)
    (hf : Halts known spent scope (f ⟨⟩)) : HaltsAt known spent scope d (set d' >>= f) :=
  fun hd => hf d' (hd' ▸ hd)

theorem halts_modify_bind {f : Draft → Draft} {k : PUnit → Drafting β}
    (hf : ∀ d, (f d).library = d.library) (hk : Halts known spent scope (k ⟨⟩)) :
    Halts known spent scope (modify f >>= k) := fun d hd => hk (f d) (hf d ▸ hd)

theorem haltsAt_ite {c : Prop} [Decidable c] (h : HaltsAt known spent scope d m)
    (h' : HaltsAt known spent scope d m') : HaltsAt known spent scope d (if c then m else m') := by
  split
  · exact h
  · exact h'

theorem halts_ite {c : Prop} [Decidable c] (h : Halts known spent scope m)
    (h' : Halts known spent scope m') : Halts known spent scope (if c then m else m') :=
  fun d => haltsAt_ite (h d) (h' d)

end Rules

/-! ### Steps -/

section Steps

theorem halts_refuse (p : Position) (fault : ParseFault) :
    Halts known spent scope (refuse p fault : Drafting α) := halts_throw rfl

theorem halts_refuse_bind (p : Position) (fault : ParseFault) (f : α → Drafting β) :
    Halts known spent scope (refuse p fault >>= f) := fun _ hd => ⟨hd, rfl⟩

theorem halts_arguments (close : Position) (ts : List Token) {r : Arguments α} (hr : r.Own) :
    Halts known spent scope (Drafting.arguments close ts r) := by
  refine halts_read_bind ?_
  have h := hr
    { filters := scope.catalog.filters, close, depthLimit := scope.settings.maxExpressionDepth } ts
  generalize r _ ts = result at h ⊢
  cases result with
  | ok a => exact halts_pure a
  | error e => exact halts_throw (h e rfl)

theorem halts_argumentsOf (tag : String) (close : Position) (ts : List Token) {r : Arguments α}
    (hr : r.Own) : Halts known spent scope (argumentsOf tag close ts r) :=
  halts_map (halts_arguments close ts
    (own_bind hr fun _ => own_bind (own_done tag) fun _ => own_pure _))

theorem halts_content (opening : Position) (openSymbol closeSymbol : Symbol) :
    Halts known spent scope (content opening openSymbol closeSymbol) := by
  refine halts_get_bind fun d => ?_
  dsimp only
  split
  · exact halts_refuse _ _ d
  · split
    · split
      · exact haltsAt_set_bind rfl (halts_pure _)
      · exact halts_refuse _ _ d
    · exact halts_refuse _ _ d

/-- Where a template that is named was not found, the reader refuses the tag that names it. -/
theorem halts_load (hscope : scope.Loads known spent) (name : String) (t : Token) :
    Halts known spent scope (Drafting.load name t) := by
  refine halts_read_bind (halts_get_bind fun d hd => ?_)
  obtain ⟨hlibrary, hspent⟩ := hscope name d.library hd
  generalize (scope.load name).run d.library = out at hlibrary hspent ⊢
  obtain ⟨result, library⟩ := out
  match result with
  | .ok found => exact ⟨hlibrary, trivial⟩
  | .error (@Halt.exhausted why) => exact ⟨hlibrary, hspent why rfl⟩
  | .error (.error e) =>
    have hstep : Halts known spent scope (if e.isLoader then
        throw (.error (.parse t.position (.cannotLoad name e.message) (some e)))
      else throw (.error e) : Drafting (Option Template)) := by
      split
      · exact halts_throw rfl
      · rename_i hown
        exact halts_throw (Bool.eq_false_iff.mpr hown)
    exact hstep { d with library } hlibrary

theorem halts_registerBlock (name : String) (body : Body) (t : Token) :
    Halts known spent scope (registerBlock name body t) := by
  refine halts_get_bind fun d => ?_
  split
  · exact halts_refuse _ _ d
  · exact fun hd => ⟨hd, trivial⟩

theorem halts_registerMacro (m : Macro) (t : Token) :
    Halts known spent scope (registerMacro m t) := by
  refine halts_get_bind fun d => ?_
  split
  · exact halts_refuse _ _ d
  · exact fun hd => ⟨hd, trivial⟩

end Steps

end Drafts

/-!
## Tags

Each tag reads its arguments, and its bodies with the reader for bodies that is one level of nesting
further in.
-/

section Tags

open Drafting

variable {known : Library → Prop} {spent : Prop} {scope : DraftScope} {α : Type}

/-- The reader of bodies fails for reasons of its own. -/
def SectionReader.Halts (known : Library → Prop) (spent : Prop) (scope : DraftScope)
    (wrap : SectionReader) : Prop :=
  ∀ ends opener, Drafting.Halts known spent scope (wrap ends opener)

/-! ### Lists of arguments -/

theorem own_loopWords (n : Nat) (found : Bool × Bool) : (TagReader.loopWords n found).Own := by
  induction n generalizing found with
  | zero => exact own_pure found
  | succ n ih =>
    refine own_bind (own_word? _) fun _ => own_ite (ih _) ?_
    exact own_bind (own_word? _) fun _ => own_ite (ih _) (own_pure _)

/-- What follows the variables of a loop. -/
theorem own_loopSource (first : String) (second : Option String) :
    Arguments.Own (do
      let _ ← Arguments.keyword .kwIn
      let source ← Arguments.expression
      let (reversed, sorted) ← TagReader.loopWords (← Arguments.left) (false, false)
      pure (first, second, source, reversed, sorted)) :=
  own_bind (own_keyword .kwIn) fun _ => own_bind own_expression fun _ =>
    own_bind own_left fun n => own_bind (own_loopWords n _) fun _ => own_pure _

theorem own_cycleValues (n : Nat) : (TagReader.cycleValues n).Own := by
  induction n with
  | zero => exact own_pure _
  | succ n ih =>
    refine own_found own_peek (own_pure _) fun _ => own_found (own_keyword? .kwAs) ?_ fun _ => ?_
    · exact own_bind own_expression fun _ => own_bind (own_symbol? .comma) fun _ => own_map ih
    · exact own_bind own_identifier fun _ => own_map (own_word? _)

theorem own_expressions (n : Nat) : (TagReader.expressions n).Own := by
  induction n with
  | zero => exact own_pure []
  | succ n ih =>
    exact own_found own_peek (own_pure []) fun _ => own_bind own_expression fun _ => own_map ih

theorem own_includeWords (n : Nat) (found : List (String × Expr) × Bool × Bool) :
    (TagReader.includeWords n found).Own := by
  induction n generalizing found with
  | zero => exact own_pure found
  | succ n ih =>
    refine own_bind (own_word? _) fun _ => own_ite (ih _) ?_
    refine own_bind (own_word? _) fun _ => own_ite (ih _) ?_
    refine own_bind (own_word? _) fun _ => own_ite ?_ (own_pure _)
    refine own_bind own_bindings fun more => ?_
    split
    · exact own_want _
    · exact ih _

/-- What follows the name of an imported macro. -/
theorem own_afterImport (target : String) (m : Macro) {more : Arguments (List (String × Macro))}
    (hmore : more.Own) :
    Arguments.Own (do
      match ← Arguments.symbol? .comma with
      | some _ => return (target, m) :: (← more)
      | none => pure [(target, m)]) :=
  own_found (own_symbol? .comma) (own_pure _) fun _ => own_map hmore

theorem own_importNames (file : String) (t : Template) (n : Nat) :
    (TagReader.importNames file t n).Own := by
  induction n with
  | zero => exact own_want _
  | succ n ih =>
    refine own_bind own_identifier fun name => ?_
    dsimp only
    split
    · exact own_refuse _ _
    · refine own_found (own_keyword? .kwAs) (own_afterImport _ _ ih) fun _ => ?_
      exact own_bind own_identifier fun target => own_afterImport target.1 _ ih

/-- What follows a parameter. -/
theorem own_afterParameter (params : List (String × Option Expr))
    {more : Arguments (List (String × Option Expr))} (hmore : more.Own) :
    Arguments.Own (do
      match ← Arguments.symbol? .closeParen with
      | some _ => pure params
      | none =>
        let _ ← Arguments.symbol .comma
        more) :=
  own_found (own_symbol? .closeParen) (own_bind (own_symbol .comma) fun _ => hmore)
    fun _ => own_pure params

theorem own_parameters (tag : String) (n : Nat) (before : List (String × Option Expr)) :
    (TagReader.parameters tag n before).Own := by
  induction n generalizing before with
  | zero => exact own_want _
  | succ n ih =>
    have hmore (params : List (String × Option Expr)) := own_afterParameter params (ih params)
    refine own_bind own_identifier fun name => ?_
    dsimp only
    refine own_ite (own_refuse_bind _ _ _) (own_found (own_symbol? .equal) ?_ fun _ => ?_)
    · exact own_bind (own_pure none) fun _ => own_ite (own_refuse_bind _ _ _) (hmore _)
    · refine own_bind own_expression fun e => own_bind (own_pure (some e)) fun _ => ?_
      exact own_ite (own_refuse_bind _ _ _) (hmore _)

/-! ### Bodies -/

section Readers

variable {s : TagScope} (hwrap : s.wrap.Halts known spent scope)

theorem halts_body (part : Section) : Halts known spent scope part.body :=
  halts_bind (halts_argumentsOf _ _ _ (own_pure ())) fun _ => halts_pure _

theorem halts_tagArguments {r : Arguments α} (hr : r.Own) :
    Halts known spent scope (TagReader.arguments s r) := halts_arguments _ _ hr

include hwrap

theorem halts_bodyUpTo (ending : String) : Halts known spent scope (TagReader.bodyUpTo s ending) :=
  halts_bind (hwrap _ _) halts_body

theorem halts_bodies (middle ending : String) :
    Halts known spent scope (TagReader.bodies s middle ending) := by
  refine halts_bind (hwrap _ _) fun first => halts_bind (halts_body first) fun body => ?_
  exact halts_ite (halts_map (halts_bodyUpTo hwrap ending)) (halts_pure _)

/-! ### Control flow -/

theorem halts_branches (n : Nat) (condition : Expr) :
    Halts known spent scope (TagReader.branches s n condition) := by
  induction n generalizing condition with
  | zero => exact halts_refuse _ _
  | succ n ih =>
    refine halts_bind (hwrap _ _) fun part => ?_
    split
    · exact halts_bind (halts_argumentsOf _ _ _ own_expression) fun next => halts_map (ih next)
    · exact halts_bind (halts_body part) fun _ => halts_map (halts_bodyUpTo hwrap "endif")
    · exact halts_map (halts_body part)

theorem halts_branch : Halts known spent scope (TagReader.branch s) := by
  refine halts_bind (halts_tagArguments own_expression) fun found => halts_get_bind fun d => ?_
  exact haltsAt_bind (halts_branches hwrap _ _ d) fun _ => halts_pure _

theorem halts_compare (negated : Bool) : Halts known spent scope (TagReader.compare negated s) :=
  halts_bind (halts_tagArguments (own_bind own_expression fun _ => own_map own_expression))
    fun _ => halts_map (halts_bodies hwrap _ _)

theorem halts_loop : Halts known spent scope (TagReader.loop s) := by
  refine halts_bind (halts_tagArguments ?_) fun _ => halts_map (halts_bodies hwrap _ _)
  refine own_bind own_identifier fun first => ?_
  refine own_found (own_symbol? .comma) (own_loopSource first.1 none) fun _ => ?_
  exact own_bind own_identifier fun second => own_loopSource first.1 (some second.1)

omit hwrap in
theorem halts_cycle : Halts known spent scope (TagReader.cycle s) := by
  refine halts_bind (halts_tagArguments ?_) fun _ => halts_pure _
  refine own_bind own_left fun n => own_bind (own_cycleValues n) fun found => ?_
  exact own_ite (own_want _) (own_pure found)

omit hwrap in
theorem halts_firstOf : Halts known spent scope (TagReader.firstOf s) := by
  refine halts_bind (halts_tagArguments ?_) fun _ => halts_pure _
  refine own_bind own_left fun n => own_bind (own_expressions n) fun found => ?_
  split
  · exact own_want _
  · exact own_pure found

/-! ### Inheritance and composition -/

theorem halts_block : Halts known spent scope (TagReader.block s) := by
  refine halts_bind (halts_tagArguments own_identifier) fun found => ?_
  refine halts_bind (hwrap _ _) fun part => halts_bind (halts_argumentsOf _ _ _ ?_) fun _ => ?_
  · exact own_found own_identifier? (own_pure ()) fun _ => own_ite (own_pure ()) (own_refuse _ _)
  · exact halts_bind (halts_registerBlock _ _ _) fun _ => halts_pure _

omit hwrap in
theorem halts_extending (hscope : scope.Loads known spent) :
    Halts known spent scope (TagReader.extending s) := by
  have hnote (parent : Parent) (rest : List Token) : Halts known spent scope (do
      modify fun draft => { draft with parent := some parent }
      pure (Statement.nothing, rest)) := halts_modify_bind (fun _ => rfl) (halts_pure _)
  refine halts_get_bind fun d => ?_
  split
  · split <;> exact halts_refuse_bind _ _ _ d
  · split
    · exact halts_refuse_bind _ _ _ d
    · refine haltsAt_bind (halts_tagArguments own_expression d) fun found => ?_
      dsimp only
      split
      · refine halts_bind (halts_load hscope _ _) fun loaded => ?_
        split
        · exact hnote _ _
        · exact halts_refuse_bind _ _ _
      · exact hnote _ _

omit hwrap in
theorem halts_including (hscope : scope.Loads known spent) :
    Halts known spent scope (TagReader.including s) := by
  have hincludes (target : Target) (bindings : List (String × Expr)) (only ifExists : Bool)
      (rest : List Token) : Halts known spent scope (do
        pure (Statement.includes target (← read).name bindings only ifExists, rest)) :=
    halts_read_bind (halts_pure _)
  refine halts_bind (halts_tagArguments ?_) fun found => ?_
  · refine own_bind own_expression fun _ => own_bind own_left fun n => ?_
    exact own_map (own_includeWords n _)
  · dsimp only
    split
    · refine halts_bind (halts_load hscope _ _) fun loaded => ?_
      split <;> exact hincludes _ _ _ _ _
    · exact hincludes _ _ _ _ _

omit hwrap in
theorem halts_importing (hscope : scope.Loads known spent) :
    Halts known spent scope (TagReader.importing s) := by
  refine halts_bind (halts_tagArguments own_string) fun found => ?_
  refine halts_bind (halts_load hscope _ _) fun loaded => ?_
  dsimp only
  split
  · exact halts_refuse _ _
  · exact halts_map (halts_arguments _ _ (own_bind own_left fun n => own_importNames _ _ _))

/-! ### Scopes -/

theorem halts_bindTag : Halts known spent scope (TagReader.bind s) := by
  refine halts_bind (halts_tagArguments ?_) fun _ => halts_map (halts_bodyUpTo hwrap _)
  refine own_bind own_bindings fun bindings => ?_
  split
  · exact own_bind own_expression fun _ => own_bind (own_keyword .kwAs) fun _ =>
      own_map own_identifier
  · exact own_pure _

omit hwrap in
theorem halts_assign : Halts known spent scope (TagReader.assign s) :=
  halts_map (halts_tagArguments (own_bind own_identifier fun _ =>
    own_bind (own_symbol .equal) fun _ => own_map own_expression))

theorem halts_define : Halts known spent scope (TagReader.define s) := by
  have hafter (name : String) (params : List (String × Option Expr)) : Arguments.Own (do
      let exported ← Arguments.keyword? .kwExport
      pure (name, params, exported.isSome)) := own_map (own_keyword? .kwExport)
  refine halts_bind (halts_tagArguments ?_) fun found => ?_
  · refine own_bind own_identifier fun name => own_bind (own_symbol .openParen) fun _ => ?_
    refine own_found (own_symbol? .closeParen) ?_ fun _ => hafter _ _
    exact own_bind own_left fun n => own_bind (own_parameters _ _ _) fun params => hafter _ params
  · refine halts_bind (halts_bodyUpTo hwrap _) fun body => ?_
    dsimp only
    split
    · exact halts_bind (halts_registerMacro _ _) fun _ => halts_pure _
    · exact halts_pure _

theorem halts_autoescape : Halts known spent scope (TagReader.autoescape s) := by
  refine halts_bind (halts_tagArguments ?_) fun _ => halts_map (halts_bodyUpTo hwrap _)
  refine own_bind own_identifier fun mode => ?_
  dsimp only
  split
  · exact own_pure _
  · exact own_pure _
  · exact own_refuse _ _

theorem halts_filtering : Halts known spent scope (TagReader.filtering s) :=
  halts_bind (halts_tagArguments own_filterChain) fun _ => halts_map (halts_bodyUpTo hwrap _)

/-! ### Text -/

theorem halts_spaceless : Halts known spent scope (TagReader.spaceless s) :=
  halts_map (halts_bodyUpTo hwrap _)

theorem halts_comment : Halts known spent scope (TagReader.comment s) :=
  halts_bind (halts_bodyUpTo hwrap _) fun _ => halts_pure _

omit hwrap in
theorem halts_now : Halts known spent scope (TagReader.now s) := by
  refine halts_map (halts_tagArguments (own_bind own_string fun format => ?_))
  exact own_ite (own_refuse_bind _ _ _) (own_map (own_word? _))

omit hwrap in
theorem halts_templatetag : Halts known spent scope (TagReader.templatetag s) := by
  refine halts_map (halts_tagArguments (own_bind own_identifier fun name => ?_))
  dsimp only
  split
  · exact own_pure _
  · exact own_refuse _ _

omit hwrap in
theorem halts_widthratio : Halts known spent scope (TagReader.widthratio s) := by
  refine halts_map (halts_tagArguments (own_bind own_expression fun _ => ?_))
  refine own_bind own_expression fun _ => own_bind own_expression fun _ => ?_
  exact own_found (own_keyword? .kwAs) (own_pure _) fun _ => own_map own_identifier

/-! ### Tags of the host -/

theorem halts_sections (ends : List String) (n : Nat) :
    Halts known spent scope (TagReader.sections s ends n) := by
  induction n with
  | zero => exact halts_refuse _ _
  | succ n ih =>
    refine halts_bind (hwrap _ _) fun part => halts_bind (halts_body part) fun body => ?_
    exact halts_ite (halts_pure _) (halts_map ih)

theorem halts_custom (t : CustomTag) : Halts known spent scope (TagReader.custom t s) := by
  refine halts_bind (halts_tagArguments ?_) fun found => ?_
  · split
    · exact own_pure _
    · exact own_map own_expression
    · exact own_map own_takeAll
    · exact own_want _
  · have hbuilt (parts : List (Body × Token)) : Halts known spent scope (do
        let scope ← read
        pure (Statement.custom (t.build
          { template := scope.name, name := s.start, value := found.1.1, tokens := found.1.2
            sections := parts }), found.2)) := halts_read_bind (halts_pure _)
    dsimp only
    split
    · exact halts_bind (halts_pure _) hbuilt
    · exact halts_get_bind fun d => haltsAt_bind (halts_sections hwrap _ _ d) hbuilt

theorem halts_ofRef (hscope : scope.Loads known spent) (ref : TagRef) :
    Halts known spent scope (TagReader.ofRef ref s) := by
  cases ref with
  | custom t => exact halts_custom hwrap t
  | builtin t =>
    cases t with
    | branch => exact halts_branch hwrap
    | compareEqual => exact halts_compare hwrap false
    | compareUnequal => exact halts_compare hwrap true
    | loop => exact halts_loop hwrap
    | cycle => exact halts_cycle
    | firstOf => exact halts_firstOf
    | block => exact halts_block hwrap
    | extending => exact halts_extending hscope
    | including => exact halts_including hscope
    | importing => exact halts_importing hscope
    | bind => exact halts_bindTag hwrap
    | assign => exact halts_assign
    | define => exact halts_define hwrap
    | autoescape => exact halts_autoescape hwrap
    | filtering => exact halts_filtering hwrap
    | spaceless => exact halts_spaceless hwrap
    | comment => exact halts_comment hwrap
    | now => exact halts_now
    | templatetag => exact halts_templatetag
    | widthratio => exact halts_widthratio

end Readers

end Tags

/-!
## Nodes

The reader of nodes is built one level of nesting at a time, and so is the proof that it fails for
reasons of its own.
-/

section Nodes

open Drafting

variable {known : Library → Prop} {spent : Prop} {scope : DraftScope}

theorem halts_upTo {node : Drafting Node} (hnode : Halts known spent scope node)
    (ends : List String) (opener : Token) (n : Nat) (acc : List Node) :
    Halts known spent scope (Section.upTo node ends opener n acc) := by
  induction n generalizing acc with
  | zero => exact halts_refuse _ _
  | succ n ih =>
    refine halts_get_bind fun d => ?_
    split
    · exact halts_refuse _ _ d
    · dsimp only
      split
      · exact haltsAt_set_bind rfl (halts_map (halts_content _ _ _))
      · exact haltsAt_bind (hnode d) fun _ => ih _

theorem halts_tooDeep : Section.tooDeep.Halts known spent scope :=
  fun _ _ => halts_read_bind (halts_refuse _ _)

theorem halts_output (opening : Position) : Halts known spent scope (Node.readOutput opening) := by
  refine halts_bind (halts_content opening _ _) fun found => ?_
  dsimp only
  refine halts_ite (halts_refuse_bind _ _ _) ?_
  refine halts_bind (halts_argumentsOf _ _ _ own_expression) fun _ => ?_
  exact halts_modify_bind (fun _ => rfl) (halts_pure _)

section Readers

variable (hscope : scope.Loads known spent)
include hscope

theorem halts_tag (top : Bool) {wrap : SectionReader} (hwrap : wrap.Halts known spent scope)
    (opening : Position) : Halts known spent scope (Node.readTag top wrap opening) := by
  refine halts_get_bind fun d => ?_
  split
  · exact halts_refuse _ _ d
  · split
    · exact halts_refuse _ _ d
    · refine haltsAt_read_bind (haltsAt_ite (halts_refuse_bind _ _ _ d) ?_)
      split
      · exact halts_refuse _ _ d
      · rename_i ref _
        refine haltsAt_set_bind rfl (halts_bind (halts_content _ _ _) fun content => ?_)
        obtain ⟨args, close⟩ := content
        refine halts_bind (halts_ofRef (s := ⟨_, args, close, top, wrap⟩) hwrap hscope ref)
          fun found => halts_bind (halts_argumentsOf _ _ _ (own_pure ())) fun _ => ?_
        exact halts_modify_bind (fun _ => rfl) (halts_pure _)

theorem halts_with (top : Bool) {wrap : SectionReader} (hwrap : wrap.Halts known spent scope) :
    Halts known spent scope (Node.readWith top wrap) := by
  refine halts_get_bind fun d => ?_
  split
  · exact halts_pure _ d
  · split
    · exact haltsAt_set_bind rfl (halts_pure _)
    · exact haltsAt_set_bind rfl (halts_output _)
    · exact haltsAt_set_bind rfl (halts_tag hscope top hwrap _)
    · exact halts_refuse _ _ d

theorem halts_node (room : Nat) (top : Bool) : Halts known spent scope (Node.read room top) := by
  induction room generalizing top with
  | zero => exact halts_with hscope top halts_tooDeep
  | succ room ih =>
    refine halts_with hscope top fun ends opener => halts_get_bind fun d => ?_
    exact halts_upTo (ih false) ends opener _ _ d

/-- Where the nodes of a template cannot be read, that is for reasons of its own. -/
theorem halts_all (room n : Nat) (acc : List Node) :
    Halts known spent scope (Node.readAll room n acc) := by
  induction n generalizing acc with
  | zero => exact halts_pure _
  | succ n ih =>
    refine halts_get_bind fun d => ?_
    split
    · exact halts_pure _ d
    · exact haltsAt_bind (halts_node hscope room true d) fun _ => ih _

end Readers

end Nodes

end Stencil
