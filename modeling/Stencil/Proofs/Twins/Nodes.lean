import Stencil.Proofs.Reading.Sections
import Stencil.Proofs.Serial.Nodes
import Stencil.Proofs.Twins.Tags

/-!
# Reading the same template at two places

From sources that say the same but where they need not, nodes are read that are alike, and templates
are compiled that are alike.
-/

namespace Stencil

/-!
## Reading the same nodes at two places

From tokens that say the same but where they need not the reader of nodes reads nodes that are
alike, if the tags there are read alike.
-/

section Nodes

open Drafting

variable {g : Twinning} {scope scope' : DraftScope} {d d' : Draft}

/-- The tags at the spots are read alike. -/
def Twinning.SpotsTwin (g : Twinning) (scope scope' : DraftScope) : Prop :=
  ∀ (tag : Tag) (ref : TagRef) (s s' : TagScope), scope.catalog.tags.find? tag.name = some ref →
    s.Alike g scope scope' (g.spot tag) s' →
      TagReader.Twins g scope scope' (TagReader.ofRef ref s) (TagReader.ofRef ref s')

/-- The tags of which nothing need be the same behind their names are read alike. -/
def Twinning.VoidsTwin (g : Twinning) (scope scope' : DraftScope) : Prop :=
  ∀ (room : Nat) (top : Bool) (tag : Tag) (o o' n n' : Token) (part part' rest rest' : List Token)
    (d d' : Draft), o.lexeme = .symbol .openTag → o'.lexeme = .symbol .openTag →
    n.lexeme = .identifier tag.name → n'.lexeme = .identifier tag.name →
    g.void tag part part' rest → d.tokens = o :: n :: (part ++ rest) →
    d'.tokens = o' :: n' :: (part' ++ rest') →
      d.Alike g (fun _ _ => Recast g.toRewording rest rest') d' →
      TwinsAt g scope scope' d d' (Node.read room top) (Node.read room top)
        (Node.Congruent g.likeness)

/-- No two built-in tags have one name. -/
theorem Tag.eq_of_name_eq {tag tag' : Tag} (h : tag.name = tag'.name) : tag = tag' := by
  have hfind (tag : Tag) : Tag.all.find? (fun t => t.name == tag.name) = some tag := by
    cases tag <;> decide
  have htags := hfind tag
  rw [h, hfind tag'] at htags
  exact (Option.some.inj htags).symm

section Readers

variable (hL : g.likeness.Placeless) (hscope : scope.Alike g scope')
  (hspots : g.SpotsTwin scope scope')

include hL hscope in
theorem twinsAt_output (opening opening' : Position)
    (hd : d.Alike g (Recast.Within g.toRewording SayAlike) d') :
    TwinsAt g scope scope' d d' (Node.readOutput opening) (Node.readOutput opening')
      (Node.Congruent g.likeness) := by
  refine twinsAt_bind (twinsAt_content _ _ _ _ hd) ?_
  rintro ⟨args, close⟩ ⟨args', close'⟩ ⟨hargs, -⟩
  have hempty : args.isEmpty = args'.isEmpty := by
    cases hargs <;> rfl
  dsimp only
  rw [hempty]
  refine twins_ite (fun _ _ _ _ => twinsAt_refuse_bind _ _ _ _) fun _ => ?_
  refine twins_bind (twins_argumentsOf hscope _ hargs (pairs_expression hL)) fun _ _ he => ?_
  refine twins_bind (twins_modify fun d d' hd => { hd with seenContent := rfl }) fun _ _ _ => ?_
  exact twins_pure (.output (hL.position _ _) he)

include hL hscope in
/-- A tag whose arguments are related by `R`, if its reader is followed on such arguments. -/
theorem twinsAt_tag_of {R : List Token → List Token → Prop} {top : Bool}
    {wrap wrap' : SectionReader} (hwrap : wrap.Twins g scope scope' wrap')
    (opening opening' : Position) {start start' : Token} {rest rest' : List Token}
    (htokens : d.tokens = start :: rest) (htokens' : d'.tokens = start' :: rest')
    (hstart : start.lexeme = start'.lexeme)
    (hrest : (∃ name, start.name? = some name) →
      Draft.Alike g (Recast.Within g.toRewording R) { d with tokens := rest }
        { d' with tokens := rest' })
    (hread : ∀ name ref s s', start.name? = some name →
      scope.catalog.tags.find? name = some ref → s.Alike g scope scope' R s' →
        TagReader.Twins g scope scope' (TagReader.ofRef ref s) (TagReader.ofRef ref s')) :
    TwinsAt g scope scope' d d' (Node.readTag top wrap opening) (Node.readTag top wrap' opening')
      (Node.Congruent g.likeness) := by
  refine twinsAt_get_bind ?_
  rw [htokens, htokens']
  dsimp only
  rw [← name?_eq hstart]
  cases hname : start.name? with
  | none => exact twinsAt_refuse _ _ _ _
  | some name =>
    refine twinsAt_read_bind ?_
    rw [← hscope.catalog]
    refine twinsAt_ite (fun _ => twinsAt_refuse_bind _ _ _ _) fun _ => ?_
    cases hfind : scope.catalog.tags.find? name with
    | none => exact twinsAt_refuse _ _ _ _
    | some ref =>
      refine twinsAt_set_bind (twinsAt_bind (twinsAt_content _ _ _ _ (hrest ⟨_, hname⟩)) ?_) rfl rfl
      rintro ⟨args, close⟩ ⟨args', close'⟩ ⟨hargs, hnames⟩
      refine twins_bind (hread name ref _ _ hname hfind ⟨hstart, hargs, hnames, rfl, hwrap⟩) ?_
      rintro ⟨statement, left⟩ ⟨statement', left'⟩ ⟨hstatement, hleft⟩
      refine twins_bind (A := fun _ _ => True)
        (twins_argumentsOf hscope _ hleft (pairs_pure trivial)) fun _ _ _ => ?_
      refine twins_bind (twins_modify fun d d' hd => { hd with seenContent := rfl }) fun _ _ _ => ?_
      exact twins_pure (.tag _ (hL.position _ _) hstatement)

include hL hscope in
theorem twinsAt_tag {top : Bool} {wrap wrap' : SectionReader}
    (hwrap : wrap.Twins g scope scope' wrap') (opening opening' : Position)
    (hd : d.Alike g (Recast.Within g.toRewording SayAlike) d') :
    TwinsAt g scope scope' d d' (Node.readTag top wrap opening) (Node.readTag top wrap' opening')
      (Node.Congruent g.likeness) := by
  have hwithin := hd.tokens
  have hhead := hwithin.head?
  generalize htokens : d.tokens = ts at hwithin hhead
  generalize htokens' : d'.tokens = ts' at hwithin hhead
  cases ts with
  | nil =>
    cases ts' with
    | nil =>
      refine twinsAt_get_bind ?_
      rw [htokens, htokens']
      exact twinsAt_refuse _ _ _ _
    | cons => cases hhead
  | cons start rest =>
    cases ts' with
    | nil => cases hhead
    | cons start' rest' =>
      cases hhead with
      | some hstart =>
        refine twinsAt_tag_of hL hscope hwrap opening opening' htokens htokens' hstart ?_
          fun _ _ s s' _ href hs => twins_ofRef hL hscope hs href
        rintro ⟨name, hname⟩
        exact hd.withTokens (hwithin.tail (not_closes_of_name? hname))
          (htokens ▸ List.subset_cons_self start rest)

include hL hscope hspots in
theorem twins_node {top : Bool} {wrap wrap' : SectionReader}
    (hwrap : wrap.Twins g scope scope' wrap')
    (hvoids : ∀ (tag : Tag) (o o' n n' : Token) (part part' rest rest' : List Token) (d d' : Draft),
      o.lexeme = .symbol .openTag → o'.lexeme = .symbol .openTag →
      n.lexeme = .identifier tag.name → n'.lexeme = .identifier tag.name →
      g.void tag part part' rest → d.tokens = o :: n :: (part ++ rest) →
      d'.tokens = o' :: n' :: (part' ++ rest') →
      d.Alike g (fun _ _ => Recast g.toRewording rest rest') d' →
        TwinsAt g scope scope' d d' (Node.readWith top wrap) (Node.readWith top wrap')
          (Node.Congruent g.likeness)) :
    Twins g scope scope' (Node.readWith top wrap) (Node.readWith top wrap')
      (Node.Congruent g.likeness) := by
  intro d d' hd
  have hstart := hd.tokens.start
  generalize htokens : d.tokens = ts at hstart
  generalize htokens' : d'.tokens = ts' at hstart
  have hsubset {rest : List Token} {t : Token} (h : ts = t :: rest) : rest ⊆ d.tokens := by
    rw [htokens, h]
    exact List.subset_cons_self t rest
  cases hstart with
  | nil =>
    refine twinsAt_get_bind ?_
    rw [htokens, htokens']
    exact twinsAt_pure (.text _) hd
  | text s h h' hrest =>
    refine twinsAt_get_bind ?_
    rw [htokens, htokens']
    dsimp only
    rw [h, h', hd.seenContent]
    exact twinsAt_set_bind (twinsAt_pure (.text s)
      { hd.withTokens hrest (hsubset rfl) with seenContent := rfl }) rfl rfl
  | opening s hopens h h' hrest =>
    have hd' := hd.withTokens hrest (hsubset rfl)
    refine twinsAt_get_bind ?_
    rw [htokens, htokens']
    dsimp only
    rw [h, h']
    cases s with
    | openOutput => exact twinsAt_set_bind (twinsAt_output hL hscope _ _ hd') rfl rfl
    | openTag => exact twinsAt_set_bind (twinsAt_tag hL hscope hwrap _ _ hd') rfl rfl
    | _ => cases hopens
  | @spot tag t t' n n' ts ts' h h' hn hn' hrest =>
    have hname : n.name? = some tag.name := by
      unfold Token.name?
      rw [hn]
    have hsubset' : ts ⊆ n :: ts := List.subset_cons_self n ts
    refine twinsAt_get_bind ?_
    rw [htokens, htokens']
    dsimp only
    rw [h, h']
    refine twinsAt_set_bind (twinsAt_tag_of hL hscope hwrap _ _ rfl rfl (hn.trans hn'.symm)
      (fun _ => hd.withTokens hrest (List.Subset.trans hsubset' (hsubset rfl)))
      fun name ref s s' htag href hs => ?_) rfl rfl
    rw [hname] at htag
    cases htag
    exact hspots tag ref s s' href hs
  | void h h' hn hn' hvoid hrest =>
    exact hvoids _ _ _ _ _ _ _ _ _ d d' h h' hn hn' hvoid htokens htokens'
      { hd with tokens := hrest }
  | @other t t' ts ts' hlexeme htext hopens =>
    refine twinsAt_get_bind ?_
    rw [htokens, htokens']
    dsimp only
    rw [← hlexeme]
    split
    · exact absurd ‹_› (htext _)
    · cases hopens _ ‹_›
    · cases hopens _ ‹_›
    · exact twinsAt_refuse _ _ _ _

/-! ### Bodies -/

theorem subset_of_ending? {ends : List String} {ts rest : List Token} {t : Token}
    (h : ending? ends ts = some (t, rest)) : rest ⊆ ts := by
  unfold ending? at h
  split at h
  · cases h
  · split at h
    · split at h <;> cases h
      exact List.Subset.trans (List.subset_cons_self ..) (List.subset_cons_self ..)
    · cases h

theorem ending?_of_not_open {ends : List String} {t : Token} (h : t.lexeme ≠ .symbol .openTag)
    (rest : List Token) : ending? ends (t :: rest) = none := by
  have hopen : t.isSymbol .openTag = false := beq_eq_false_iff_ne.mpr h
  simp only [ending?, hopen]

theorem ending?_of_open {ends : List String} {t : Token} (h : t.lexeme = .symbol .openTag)
    (name : Token) (rest : List Token) : ending? ends (t :: name :: rest) =
      if name.name?.any ends.contains then some (name, rest) else none := by
  have hopen : t.isSymbol .openTag = true := beq_iff_eq.mpr h
  simp only [ending?, hopen]

theorem ending?_single (ends : List String) (t : Token) : ending? ends [t] = none := by
  cases h : t.isSymbol .openTag <;> simp only [ending?, h]

/-- A tag ends a body in both sources or in none. -/
theorem Recast.Start.ending? {r : Rewording} {ends : List String}
    (hends : ∀ tag : Tag, tag.name ∉ ends) {ts ts' : List Token} (h : Recast.Start r ts ts') :
    Option.Rel (fun e e' => e.1.lexeme = e'.1.lexeme ∧ Recast.Within r SayAlike e.2 e'.2)
      (Stencil.ending? ends ts) (Stencil.ending? ends ts') := by
  have hnone {t t' : Token} {ts ts' : List Token} (h : t.lexeme ≠ .symbol .openTag)
      (h' : t'.lexeme ≠ .symbol .openTag) :
      Option.Rel (fun e e' => e.1.lexeme = e'.1.lexeme ∧ Recast.Within r SayAlike e.2 e'.2)
        (Stencil.ending? ends (t :: ts)) (Stencil.ending? ends (t' :: ts')) := by
    rw [ending?_of_not_open h, ending?_of_not_open h']
    exact .none
  have hpassed {tag : Tag} {t t' n n' : Token} {ts ts' : List Token}
      (h : t.lexeme = .symbol .openTag) (h' : t'.lexeme = .symbol .openTag)
      (hn : n.lexeme = .identifier tag.name) (hn' : n'.lexeme = .identifier tag.name) :
      Option.Rel (fun e e' => e.1.lexeme = e'.1.lexeme ∧ Recast.Within r SayAlike e.2 e'.2)
        (Stencil.ending? ends (t :: n :: ts)) (Stencil.ending? ends (t' :: n' :: ts')) := by
    have hname (n : Token) (hn : n.lexeme = .identifier tag.name) :
        n.name?.any ends.contains = false := by
      unfold Token.name?
      rw [hn]
      simpa using hends tag
    rw [ending?_of_open h, ending?_of_open h', hname n hn, hname n' hn']
    exact .none
  cases h with
  | nil => exact .none
  | text s h h' => exact hnone (by rw [h]; nofun) (by rw [h']; nofun)
  | @other t t' _ _ hlexeme _ hopens =>
    have hopen : t.lexeme ≠ .symbol .openTag := fun h => nomatch hopens .openTag h
    exact hnone hopen (hlexeme ▸ hopen)
  | spot h h' hn hn' => exact hpassed h h' hn hn'
  | void h h' hn hn' => exact hpassed h h' hn hn'
  | @opening t t' ts ts' s hopens h h' hrest =>
    have hhead := hrest.head?
    cases s with
    | openOutput => exact hnone (by rw [h]; nofun) (by rw [h']; nofun)
    | openTag =>
      cases ts with
      | nil =>
        cases ts' with
        | nil =>
          rw [ending?_single, ending?_single]
          exact .none
        | cons => cases hhead
      | cons n rest =>
        cases ts' with
        | nil => cases hhead
        | cons n' rest' =>
          cases hhead with
          | some hn =>
            rw [ending?_of_open h, ending?_of_open h', ← name?_eq hn]
            split
            · rename_i hname
              obtain ⟨name, hname, -⟩ := (Option.any_eq_true _ _).mp hname
              exact .some ⟨hn, hrest.tail (not_closes_of_name? hname)⟩
            · exact .none
    | _ => cases hopens

include hL in
theorem twins_upTo {node node' : Drafting Node}
    (hnode : Twins g scope scope' node node' (Node.Congruent g.likeness)) {ends : List String}
    (hends : ∀ tag : Tag, tag.name ∉ ends) (opener opener' : Token) (n : Nat)
    {acc acc' : List Node} (hacc : List.Forall₂ (Node.Congruent g.likeness) acc acc') :
    Twins g scope scope' (Section.upTo node ends opener n acc)
      (Section.upTo node' ends opener' n acc') (Section.Alike g.likeness) := by
  induction n generalizing acc acc' with
  | zero => exact twins_refuse _ _ _ _
  | succ n ih =>
    have hmore {d d' : Draft} (hd : d.Alike g (Recast g.toRewording) d') :
        TwinsAt g scope scope' d d' (do Section.upTo node ends opener n ((← node) :: acc))
          (do Section.upTo node' ends opener' n ((← node') :: acc')) (Section.Alike g.likeness) :=
      twinsAt_bind (hnode d d' hd) fun _ _ hn => ih (.cons hn hacc)
    rw [upTo_succ, upTo_succ]
    refine fun d d' hd => twinsAt_get_bind ?_
    have hstart := hd.tokens.start
    have hending := hstart.ending? hends
    generalize htokens : d.tokens = ts at hstart hending
    generalize htokens' : d'.tokens = ts' at hstart hending
    cases ts with
    | nil =>
      cases hstart
      exact twinsAt_refuse _ _ _ _
    | cons t rest =>
      cases ts' with
      | nil => cases hstart
      | cons t' rest' =>
        dsimp only
        generalize hfound : ending? ends (t :: rest) = found at hending ⊢
        generalize ending? ends (t' :: rest') = found' at hending ⊢
        cases hending with
        | none => exact hmore hd
        | some he =>
          have hsubset := subset_of_ending? hfound
          refine twinsAt_set_bind (twinsAt_bind
            (twinsAt_content _ _ _ _ (hd.withTokens he.2 (htokens ▸ hsubset))) ?_) rfl rfl
          rintro ⟨args, close⟩ ⟨args', close'⟩ ⟨hargs, -⟩
          exact twins_pure ⟨hL.body (List.rel_reverse hacc), he.1, hargs⟩

theorem twins_tooDeep : Section.tooDeep.Twins g scope scope' Section.tooDeep where
  reads _ _ _ _ _ := twins_read_bind (twins_refuse _ _ _ _)
  shrinks := shrinks_tooDeep
  shrinks' := shrinks_tooDeep

/-! ### Templates -/

section Voids

variable (hvoids : g.VoidsTwin scope scope')
include hL hscope hspots hvoids

theorem twins_read (room : Nat) (top : Bool) :
    Twins g scope scope' (Node.read room top) (Node.read room top) (Node.Congruent g.likeness) := by
  induction room generalizing top with
  | zero => exact twins_node hL hscope hspots twins_tooDeep (hvoids 0 top)
  | succ room ih =>
    refine twins_node hL hscope hspots ⟨fun ends hends opener opener' _ d d' hd => ?_,
      shrinks_reader room, shrinks_reader room⟩ (hvoids (room + 1) top)
    -- The bounds on the nodes may differ, so both are raised to one that is enough for both.
    have hread := twins_upTo hL (ih false) hends opener opener'
      (d.tokens.length + d'.tokens.length + 1) .nil d d' hd
    refine twinsAt_get_bind (hread.of_eq ?_ ?_)
    · exact upTo_bound (shrinks_node room false) ends opener (by omega) (by omega)
    · exact upTo_bound (shrinks_node room false) ends opener' (by omega) (by omega)

/-- From sources that say the same but where they need not nodes are read that are alike. -/
theorem twins_all (room n : Nat) {acc acc' : List Node}
    (hacc : List.Forall₂ (Node.Congruent g.likeness) acc acc') :
    Twins g scope scope' (Node.readAll room n acc) (Node.readAll room n acc')
      (List.Forall₂ (Node.Congruent g.likeness)) := by
  induction n generalizing acc acc' with
  | zero => exact twins_pure (List.rel_reverse hacc)
  | succ n ih =>
    refine fun d d' hd => twinsAt_get_bind ?_
    have hstart := hd.tokens.start
    generalize htokens : d.tokens = ts at hstart
    generalize htokens' : d'.tokens = ts' at hstart
    cases ts with
    | nil =>
      cases hstart
      exact twinsAt_pure (List.rel_reverse hacc) hd
    | cons t rest =>
      cases ts' with
      | nil => cases hstart
      | cons t' rest' =>
        exact twinsAt_bind (twins_read hL hscope hspots hvoids room true d d' hd) fun _ _ hn =>
          ih (.cons hn hacc)

end Voids

end Readers

end Nodes

/-!
## Compiling two sources that say the same

Two sources that say the same but where they need not are compiled to templates that are alike, or
both of them cannot be compiled, or what is read there makes the first one fail.
-/

section Templates

open Drafting Library

/-- The surroundings in which the template `base` is read where names lead to the answers. -/
def Answers.scope (q : Answers) (base : String) : DraftScope :=
  ⟨base, q.library.catalog, q.library.settings, fun other => q.link other (some base) []⟩

/-- Answers to the names in a source from which the same is made. -/
structure Answers.Alike (g : Twinning) (q q' : Answers) : Prop where
  catalog : q.library.catalog = q'.library.catalog
  settings : q.library.settings = q'.library.settings
  uniform : q.library.catalog.Uniform
  answer : ∀ name, g.name name →
    EndAlike (Halt.Alike Error.SameKind) (Option.Rel (Template.Twins g.likeness)) (q.answer name)
      (q'.answer name)

variable {g : Twinning} {q q' : Answers} {source source' : String}

theorem Answers.Alike.scope (h : q.Alike g q') :
    DraftScope.Alike g (q.scope g.base) (q'.scope g.base) where
  name := rfl
  name' := rfl
  catalog := h.catalog
  settings := h.settings
  uniform := h.uniform
  load name hname _ _ hl := ⟨h.answer name hname, hl⟩

/-- Templates made of parts that are alike. -/
structure Template.PartsAlike (L : Likeness) (t t' : Template) : Prop where
  name : t.name = t'.name
  nodes : List.Forall₂ (Node.Congruent L) t.nodes t'.nodes
  parent : Option.Rel (Parent.Congruent L t.name) t.parent t'.parent
  blocks : List.Forall₂ (fun b b' => b.1 = b'.1 ∧ L.body b.2 b'.2) t.blocks t'.blocks
  macros : List.Forall₂ (fun m m' => m.1 = m'.1 ∧ L.callee m.2 m'.2) t.macros t'.macros
  options : t.options = t'.options

theorem Template.PartsAlike.twins {L : Likeness} (hL : L.Placeless) {t t' : Template}
    (h : t.PartsAlike L t') : t.Twins L t' where
  template := hL.template ⟨h.name, hL.body h.nodes, h.parent, rel_lookup h.blocks⟩
  macros := rel_lookup h.macros
  options := h.options

/-- Two sources are compiled alike where the names in them lead to templates that are alike. -/
theorem twins_compileWith {link link' : Linker} {underway underway' : List String} {l l' : Library}
    (hL : g.likeness.Placeless) (hl : g.library l l')
    (hscope : DraftScope.Alike g
      ⟨g.base, l.catalog, l.settings, fun other => link other (some g.base) underway⟩
      ⟨g.base, l'.catalog, l'.settings, fun other => link' other (some g.base) underway'⟩)
    (hspots : g.SpotsTwin
      ⟨g.base, l.catalog, l.settings, fun other => link other (some g.base) underway⟩
      ⟨g.base, l'.catalog, l'.settings, fun other => link' other (some g.base) underway'⟩)
    (hvoids : g.VoidsTwin
      ⟨g.base, l.catalog, l.settings, fun other => link other (some g.base) underway⟩
      ⟨g.base, l'.catalog, l'.settings, fun other => link' other (some g.base) underway'⟩)
    (htokens : EndAlike Error.SameKind (Recast g.toRewording)
      (Token.tokenize l.settings.trimming g.base source)
      (Token.tokenize l'.settings.trimming g.base source'))
    (hnames : ∀ tokens, Token.tokenize l.settings.trimming g.base source = .ok tokens →
      ∀ s ∈ quoted tokens, g.name s) :
    EndAlike (Halt.Alike Error.SameKind) (Template.PartsAlike g.likeness)
        (compileWith link g.base source underway l).1
        (compileWith link' g.base source' underway' l').1 ∧
        g.library (compileWith link g.base source underway l).2
          (compileWith link' g.base source' underway' l').2 ∨
      ∃ h, g.lost h ∧ (compileWith link g.base source underway l).1 = .error h := by
  have hsettings := g.settings hl
  have hbegun := g.counts hl true true l.serial l'.serial
  rw [compileWith_eq, compileWith_eq]
  generalize Token.tokenize l.settings.trimming g.base source = found at htokens hnames ⊢
  generalize Token.tokenize l'.settings.trimming g.base source' = found' at htokens ⊢
  cases htokens with
  | error he => exact .inl ⟨.error (.error he), hbegun⟩
  | @ok tokens tokens' htokens =>
    have hd : Draft.Alike g (Recast g.toRewording)
      { tokens, library := { l with compiledAny := true } }
        { tokens := tokens', library := { l' with compiledAny := true } } :=
      ⟨htokens, hnames tokens rfl, rfl, .none, .nil, .nil, hbegun⟩
    have hall := twins_all hL hscope hspots hvoids l.settings.maxNestingDepth
      (tokens.length + tokens'.length + 1) .nil _ _ hd hbegun
    have hbound (scope : DraftScope) (ts : List Token) (l : Library) (n : Nat) (h : ts.length < n) :
        Node.readAll scope.settings.maxNestingDepth (ts.length + 1) [] scope
            { tokens := ts, library := l } =
          Node.readAll scope.settings.maxNestingDepth n [] scope { tokens := ts, library := l } :=
      readAll_bound _ (Nat.lt_succ_self _) h
    have hread := hbound
      ⟨g.base, l.catalog, l.settings, fun other => link other (some g.base) underway⟩ tokens
      { l with compiledAny := true } (tokens.length + tokens'.length + 1) (by omega)
    have hread' := hbound
      ⟨g.base, l'.catalog, l'.settings, fun other => link' other (some g.base) underway'⟩ tokens'
      { l' with compiledAny := true } (tokens.length + tokens'.length + 1) (by omega)
    dsimp only at hread hread' ⊢
    rw [hread, hread']
    rw [← hsettings] at hall ⊢
    generalize Node.readAll _ _ [] _ { tokens, library := _ } = out at hall ⊢
    generalize Node.readAll _ _ [] _ { tokens := tokens', library := _ } = out' at hall ⊢
    cases hall with
    | error hh hleft => exact .inl ⟨.error hh, g.counts hleft _ _ _ _⟩
    | lost hlost => exact .inr ⟨_, hlost, rfl⟩
    | ok hnodes hd =>
      refine .inl ⟨.ok ⟨rfl, hnodes, hd.parent, hd.blocks, hd.macros, ?_⟩,
        g.counts hd.library _ _ _ _⟩
      exact congrArg Settings.renderOptions (g.settings hd.library)

/-- Two sources are compiled alike where the answers to the names in them are alike. -/
theorem twins_template (hL : g.likeness.Placeless) (hq : q.Alike g q')
    (hl : g.library q.library q'.library)
    (hspots : g.SpotsTwin (q.scope g.base) (q'.scope g.base))
    (hvoids : g.VoidsTwin (q.scope g.base) (q'.scope g.base))
    (htokens : EndAlike Error.SameKind (Recast g.toRewording)
      (Token.tokenize q.library.settings.trimming g.base source)
      (Token.tokenize q'.library.settings.trimming g.base source'))
    (hnames : ∀ tokens, Token.tokenize q.library.settings.trimming g.base source = .ok tokens →
      ∀ s ∈ quoted tokens, g.name s) :
    EndAlike (Halt.Alike Error.SameKind) (Template.Twins g.likeness) (q.template g.base source)
        (q'.template g.base source') ∨
      ∃ h, g.lost h ∧ q.template g.base source = .error h := by
  unfold Answers.template
  rcases twins_compileWith hL hl hq.scope hspots hvoids htokens hnames with
    ⟨hresult, -⟩ | ⟨h, hlost, hh⟩
  · exact .inl (hresult.map fun _ _ ht => Template.PartsAlike.twins hL { ht with })
  · exact .inr ⟨h, hlost, by rw [hh]; rfl⟩

end Templates

end Stencil
