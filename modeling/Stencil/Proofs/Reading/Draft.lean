import Stencil.Proofs.Keeping
import Stencil.Proofs.Reading.Expr
import Stencil.Proofs.Table
import Stencil.Template.Draft

/-!
# What readers of templates keep

A draft only uses up tokens and gains blocks. Whatever is read from it obeys the rules, and so do
the blocks, the macros and the parent that are noted on the way and the templates that are loaded,
also if the reader fails. What a block may be is said about the blocks of the finished template, so
what a reader gives is judged by a table of blocks that has all blocks that are there when it is
done.
-/

namespace Stencil

/-- What holds while a template is read. -/
structure Regime where
  wording : Wording
  rules : Rules
  /-- The blocks of the finished template. -/
  blocks : Table Body
  library : Library → Prop
  /-- How readers may fail. -/
  halt : Halt → Prop

/-- The draft `d'` can come out of the draft `d`. -/
structure Draft.Before (d d' : Draft) : Prop where
  tokens : d'.tokens <:+ d.tokens
  blocks : d.blocks ⊆ d'.blocks
  distinct : d.blocks.keys.Nodup → d'.blocks.keys.Nodup

/-- What was read so far obeys the rules. -/
structure Draft.Obeys (g : Regime) (d : Draft) : Prop where
  tokens : g.wording.Fits d.tokens
  parent : ∀ parent ∈ d.parent, parent.Obeys g.rules
  bodies : ∀ b ∈ d.blocks, Body.Obeys g.rules g.blocks g.rules.nesting b.2
  macros : ∀ m ∈ d.macros, m.2.Obeys g.rules
  library : g.library d.library

/-- A tag of the host takes its bodies and its expression from what was read for it. -/
def CustomTag.Honest (t : CustomTag) : Prop :=
  ∀ parts, ∀ step ∈ t.build parts,
    match step with
    | .write _ => True
    | .run body | .captured _ body => ∃ part ∈ parts.sections, part.1 = body
    | .shown _ e => parts.value = some e

/-- What can be found in a catalog and is not banned is allowed where tokens have the given wording.
-/
structure Catalog.Admits (c : Catalog) (w : Wording) (r : Rules) : Prop where
  filters : c.filters.Admits w r
  tag : ∀ name ref, c.tags.isBanned name = false → c.tags.find? name = some ref → r.tag name
  filtering : ∀ tag name, c.tags.find? tag = some (.builtin .filtering) → w.first tag name →
    w.filter name
  autoescape : ∀ tag, c.tags.find? tag = some (.builtin .autoescape) →
    r.escaping true ∧ (w.first tag "off" → r.escaping false)
  custom : ∀ tag t, c.tags.find? tag = some (.custom t) → r.custom ∧ t.Honest

/-- The texts that a template can write are allowed where its tokens have the given wording. -/
structure Wording.Allowed (w : Wording) (r : Rules) : Prop where
  text : ∀ s, w.text s → r.text s
  empty : r.text ""
  delimiter : ∀ name text, TagReader.delimiter? name = some text → r.text text

/-- The surroundings in which a template is read keep to the regime. -/
structure DraftScope.Keeps (g : Regime) (scope : DraftScope) : Prop where
  catalog : scope.catalog.Admits g.wording g.rules
  wording : g.wording.Allowed g.rules
  nesting : scope.settings.maxNestingDepth < g.rules.nesting
  block : ∀ b ∈ g.blocks, g.rules.block g.blocks b.1 b.2
  error : ∀ e, g.halt (.error e)
  load : ∀ name l, g.library l →
    g.library ((scope.load name).run l).2 ∧
      Ends (fun found => ∀ t ∈ found, t.Obeys g.rules) g.halt ((scope.load name).run l).1

namespace Draft.Before

variable {d d' d'' : Draft}

theorem refl (d : Draft) : d.Before d := ⟨List.suffix_refl _, List.Subset.refl _, id⟩

theorem trans (h : d.Before d') (h' : d'.Before d'') : d.Before d'' where
  tokens := h'.tokens.trans h.tokens
  blocks := List.Subset.trans h.blocks h'.blocks
  distinct hd := h'.distinct (h.distinct hd)

end Draft.Before

namespace Drafting

/-- Run on the draft `d`, `m` gives what `A` holds for and leaves a draft that obeys the rules, if
the premise `P` holds. -/
def ReadsAt {α : Type} (g : Regime) (scope : DraftScope) (P : Prop) (d : Draft) (m : Drafting α)
    (A : α → Prop) : Prop :=
  d.Before (m scope d).2 ∧
    (P → d.Obeys g → (m scope d).2.blocks ⊆ g.blocks →
      (m scope d).2.Obeys g ∧ Ends A g.halt (m scope d).1)

/-- Run on any draft, `m` gives what `A` holds for and leaves a draft that obeys the rules, if the
premise `P` holds. -/
def Reads {α : Type} (g : Regime) (scope : DraftScope) (P : Prop) (m : Drafting α)
    (A : α → Prop) : Prop :=
  ∀ d, ReadsAt g scope P d m A

end Drafting

open Drafting

variable {g : Regime} {scope : DraftScope} {P Q : Prop} {d : Draft} {α β : Type} {A A' : α → Prop}
  {B : β → Prop}

/-! ## Rules -/

section Rules

theorem readsAt_pure {a : α} (ha : P → A a) : ReadsAt g scope P d (pure a) A :=
  ⟨.refl d, fun hP hd _ => ⟨hd, ha hP⟩⟩

theorem reads_pure {a : α} (ha : P → A a) : Reads g scope P (pure a) A := fun _ => readsAt_pure ha

theorem reads_throw {h : Halt} (hh : P → g.halt h) : Reads g scope P (throw h : Drafting α) A :=
  fun d => ⟨.refl d, fun hP hd _ => ⟨hd, hh hP⟩⟩

theorem readsAt_bind {m : Drafting α} {f : α → Drafting β} (hm : ReadsAt g scope P d m A)
    (hf : ∀ a, Reads g scope (P ∧ A a) (f a) B) : ReadsAt g scope P d (m >>= f) B := by
  unfold ReadsAt
  rw [run_bind]
  split
  · rename_i a ha
    obtain ⟨hbefore, hrest⟩ := hf a (m scope d).2
    refine ⟨hm.1.trans hbefore, fun hP hd hblocks => ?_⟩
    obtain ⟨hd', hA⟩ := hm.2 hP hd (List.Subset.trans hbefore.blocks hblocks)
    rw [ha] at hA
    exact hrest ⟨hP, hA⟩ hd' hblocks
  · rename_i h hh
    refine ⟨hm.1, fun hP hd hblocks => ?_⟩
    obtain ⟨hd', hA⟩ := hm.2 hP hd hblocks
    rw [hh] at hA
    exact ⟨hd', hA⟩

theorem reads_bind {m : Drafting α} {f : α → Drafting β} (hm : Reads g scope P m A)
    (hf : ∀ a, Reads g scope (P ∧ A a) (f a) B) : Reads g scope P (m >>= f) B :=
  fun d => readsAt_bind (hm d) hf

theorem readsAt_read_bind {f : DraftScope → Drafting β} (h : ReadsAt g scope P d (f scope) B) :
    ReadsAt g scope P d (read >>= f) B := h

theorem readsAt_ite {c : Prop} [Decidable c] {m m' : Drafting α}
    (h : c → ReadsAt g scope P d m A) (h' : ¬c → ReadsAt g scope P d m' A) :
    ReadsAt g scope P d (if c then m else m') A := by
  split
  · exact h ‹c›
  · exact h' ‹¬c›

theorem reads_read_bind {f : DraftScope → Drafting β} (h : Reads g scope P (f scope) B) :
    Reads g scope P (read >>= f) B := h

/-- What is done with the draft is done with this draft, which obeys the rules. -/
theorem readsAt_get_bind {f : Draft → Drafting β} (h : ReadsAt g scope (P ∧ d.Obeys g) d (f d) B) :
    ReadsAt g scope P d (get >>= f) B :=
  ⟨h.1, fun hP hd => h.2 ⟨hP, hd⟩ hd⟩

theorem reads_get_bind {f : Draft → Drafting β}
    (h : ∀ d, ReadsAt g scope (P ∧ d.Obeys g) d (f d) B) : Reads g scope P (get >>= f) B :=
  fun d => readsAt_get_bind (h d)

theorem readsAt_set {d' : Draft} (hbefore : d.Before d')
    (hd' : P → d.Obeys g → d'.blocks ⊆ g.blocks → d'.Obeys g) :
    ReadsAt g scope P d (set d' : Drafting PUnit) fun _ => True :=
  ⟨hbefore, fun hP hd hblocks => ⟨hd' hP hd hblocks, trivial⟩⟩

theorem readsAt_set_bind {d' : Draft} {f : PUnit → Drafting β} (hbefore : d.Before d')
    (hd' : P → d.Obeys g → d'.Obeys g) (hf : ReadsAt g scope P d' (f ⟨⟩) B) :
    ReadsAt g scope P d (set d' >>= f) B :=
  ⟨hbefore.trans hf.1, fun hP hd => hf.2 hP (hd' hP hd)⟩

theorem reads_modify {f : Draft → Draft} (hbefore : ∀ d : Draft, d.Before (f d))
    (hf : ∀ d, P → d.Obeys g → (f d).Obeys g) :
    Reads g scope P (modify f : Drafting PUnit) fun _ => True :=
  fun d => ⟨hbefore d, fun hP hd _ => ⟨hf d hP hd, trivial⟩⟩

end Rules

/-! ## Steps -/

section Steps

variable (hscope : scope.Keeps g)
include hscope

theorem reads_refuse (p : Position) (fault : ParseFault) :
    Reads g scope P (refuse p fault : Drafting α) A := reads_throw fun _ => hscope.error _

theorem reads_refuse_bind (p : Position) (fault : ParseFault) (f : α → Drafting β) :
    Reads g scope P (refuse p fault >>= f) B := reads_throw fun _ => hscope.error _

theorem reads_ofExcept {r : Except Error α} (hr : ∀ a, P → r = .ok a → A a) :
    Reads g scope P (Halt.ofExcept r : Drafting α) A := by
  cases r with
  | ok a => exact reads_pure fun hP => hr a hP rfl
  | error e => exact reads_throw fun _ => hscope.error e

theorem reads_arguments_from {close : Position} {ts : List Token} {r : Arguments α}
    {first : String → Prop} (hts : P → g.wording.Fits ts)
    (hfirst : P → ∀ name ∈ Arguments.firstName? ts, first name)
    (hr : P → ∀ env, env.filters.Admits g.wording g.rules →
      Arguments.GivesFrom env g.wording first r A) :
    Reads g scope P (Drafting.arguments close ts r) fun a => A a.1 ∧ g.wording.Fits a.2 := by
  refine reads_read_bind ?_
  refine reads_ofExcept hscope fun a hP ha => ?_
  obtain ⟨hA, hrest⟩ := hr hP _ hscope.catalog.filters ts (hts hP) (hfirst hP) a.1 a.2 ha
  exact ⟨hA, (hts hP).of_suffix hrest⟩

theorem reads_arguments {close : Position} {ts : List Token} {r : Arguments α}
    (hts : P → g.wording.Fits ts)
    (hr : P → ∀ env, env.filters.Admits g.wording g.rules → Arguments.Gives env g.wording r A) :
    Reads g scope P (Drafting.arguments close ts r) fun a => A a.1 ∧ g.wording.Fits a.2 :=
  reads_arguments_from hscope hts (fun _ _ _ => trivial) fun hP env henv =>
    (hr hP env henv).from fun _ => True

theorem reads_argumentsOf {tag : String} {close : Position} {ts : List Token} {r : Arguments α}
    (hts : P → g.wording.Fits ts)
    (hr : P → ∀ env, env.filters.Admits g.wording g.rules → Arguments.Gives env g.wording r A) :
    Reads g scope P (argumentsOf tag close ts r) A := by
  have hdone : P → ∀ env, env.filters.Admits g.wording g.rules →
      Arguments.Gives env g.wording (do let a ← r; Arguments.done tag; pure a) A :=
    fun hP env henv => gives_bind (hr hP env henv) fun a ha =>
      gives_bind (gives_done tag) fun _ _ => gives_pure ha
  exact reads_bind (reads_arguments hscope hts hdone) fun a => reads_pure fun h => h.2.1

theorem readsAt_content (opening : Position) (openSymbol closeSymbol : Symbol) :
    ReadsAt g scope P d (content opening openSymbol closeSymbol) fun a => a.1 <+: d.tokens := by
  refine readsAt_get_bind ?_
  dsimp only
  split
  · exact reads_refuse hscope _ _ d
  · rename_i close rest hdrop
    have hrest : rest <:+ d.tokens := by
      refine List.IsSuffix.trans (List.suffix_cons close rest) ?_
      rw [← hdrop]
      exact List.drop_suffix _ _
    split
    · split
      · refine readsAt_set_bind ⟨hrest, List.Subset.refl _, id⟩
          (fun _ hd => { hd with tokens := hd.tokens.of_suffix hrest }) ?_
        exact readsAt_pure fun _ => List.takeWhile_prefix _
      · exact reads_refuse hscope _ _ d
    · exact reads_refuse hscope _ _ d

theorem reads_content (opening : Position) (openSymbol closeSymbol : Symbol) :
    Reads g scope P (content opening openSymbol closeSymbol) fun a => g.wording.Fits a.1 := by
  intro d
  obtain ⟨hbefore, h⟩ := readsAt_content (P := P) (d := d) hscope opening openSymbol closeSymbol
  refine ⟨hbefore, fun hP hd hblocks => ?_⟩
  obtain ⟨hd', hresult⟩ := h hP hd hblocks
  exact ⟨hd', hresult.imp fun a ha => hd.tokens.of_infix ha.isInfix⟩

theorem reads_load (name : String) (t : Token) :
    Reads g scope P (Drafting.load name t) fun found => ∀ t ∈ found, t.Obeys g.rules := by
  refine reads_read_bind (reads_get_bind fun d => ?_)
  have hload := hscope.load name d.library
  generalize (scope.load name).run d.library = out at hload ⊢
  obtain ⟨result, library⟩ := out
  refine readsAt_set_bind ⟨List.suffix_refl _, List.Subset.refl _, id⟩
    (fun hP hd => { hd with library := (hload hd.library).1 }) ?_
  split
  · exact readsAt_pure fun hP => (hload hP.2.library).2
  · split
    · exact reads_throw (fun _ => hscope.error _) _
    · exact reads_throw (fun _ => hscope.error _) _
  · exact reads_throw (fun hP => (hload hP.2.library).2) _

theorem reads_registerBlock {name : String} {body : Body} {t : Token}
    (hbody : P → Body.Obeys g.rules g.blocks g.rules.nesting body) :
    Reads g scope P (registerBlock name body t) fun _ => g.rules.block g.blocks name body := by
  refine reads_get_bind fun d => ?_
  split
  · exact reads_refuse hscope _ _ d
  · rename_i hnew
    have hnew : d.blocks.has name = false := by simpa using hnew
    have hinsert : d.blocks.insert name body = d.blocks ++ [(name, body)] :=
      Table.insert_of_not_has hnew
    refine ⟨⟨List.suffix_refl _, ?_, Table.nodup_keys_insert_of_not_has hnew⟩,
      fun hP hd hblocks => ⟨?_, ?_⟩⟩
    · exact hinsert ▸ List.subset_append_left _ _
    · exact { hd with bodies := Table.forall_mem_insert hd.bodies (hbody hP.1) }
    · refine hscope.block (name, body) (hblocks (hinsert ▸ ?_))
      exact List.mem_append_right _ (List.mem_singleton_self _)

theorem reads_registerMacro {m : Macro} {t : Token} (hm : P → m.Obeys g.rules) :
    Reads g scope P (registerMacro m t) fun _ => True := by
  refine reads_get_bind fun d => ?_
  split
  · exact reads_refuse hscope _ _ d
  · refine readsAt_set ⟨List.suffix_refl _, List.Subset.refl _, id⟩ fun hP hd _ => ?_
    exact { hd with macros := Table.forall_mem_insert hd.macros (hm hP.1) }

end Steps

end Stencil
