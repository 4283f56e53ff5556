import Stencil.Library.Compile
import Stencil.Proofs.Reading.Tags

/-!
# Nodes and sets that obey the rules

The nodes of a template obey the rules, and with them all that a set compiles and loads.
-/

namespace Stencil

/-!
## What readers of nodes give

A tag is found under its name and refused if that is banned. The reader of nodes is built one level
of nesting at a time, and so is the proof that it gives nodes that obey the rules.
-/

section Nodes

open Drafting

variable {g : Regime} {scope : DraftScope} {P : Prop} {d : Draft}

section Readers

variable (hscope : scope.Keeps g)
include hscope

theorem reads_upTo {node : Drafting Node} {inner : Nat}
    (hnode : ∀ P, Reads g scope P node (Node.Obeys g.rules g.blocks inner)) (ends : List String)
    (opener : Token) (n : Nat) (acc : List Node)
    (hacc : P → Body.Obeys g.rules g.blocks inner acc) :
    Reads g scope P (Section.upTo node ends opener n acc) (Section.Obeys g inner) := by
  induction n generalizing P acc with
  | zero => exact reads_refuse hscope _ _
  | succ n ih =>
    refine reads_get_bind fun d => ?_
    split
    · exact reads_refuse hscope _ _ d
    · rename_i t tail htokens
      dsimp only
      split
      · rename_i ending rest hending
        have hrest : rest <:+ d.tokens := by
          rw [htokens]
          split at hending
          · split at hending <;> cases hending
            exact (List.suffix_cons _ _).trans (List.suffix_cons _ _)
          · cases hending
        refine readsAt_set_bind ⟨hrest, List.Subset.refl _, id⟩
          (fun _ hd => { hd with tokens := hd.tokens.of_suffix hrest }) ?_
        refine readsAt_bind (reads_content hscope _ _ _ _) fun found => reads_pure fun h => ?_
        exact ⟨fun m hm => hacc h.1.1 m (List.mem_reverse.mp hm), h.2⟩
      · refine readsAt_bind (hnode _ d) fun m => ih _ fun h => ?_
        exact List.forall_mem_cons.mpr ⟨h.2, hacc h.1.1⟩

theorem reads_tooDeep (inner : Nat) : Section.tooDeep.Keeps g scope inner :=
  fun _ _ _ => reads_read_bind (reads_refuse hscope _ _)

theorem reads_output (opening : Position) (room : Nat) :
    Reads g scope P (Node.readOutput opening) (Node.Obeys g.rules g.blocks room) := by
  refine reads_bind (reads_content hscope _ _ _) fun found => ?_
  dsimp only
  split
  · exact reads_refuse_bind hscope _ _ _
  · refine reads_bind (reads_argumentsOf hscope (fun h => h.2) fun _ env henv =>
      gives_expression henv) fun e => ?_
    refine reads_bind (reads_modify (fun d => ⟨List.suffix_refl _, List.Subset.refl _, id⟩)
      fun d _ hd => { hd with }) fun _ => reads_pure fun h => ?_
    exact .output h.1.2

theorem readsAt_tag {top : Bool} {wrap : SectionReader} {inner : Nat}
    (hinner : inner ≤ g.rules.nesting) (hwrap : wrap.Keeps g scope inner) {opening : Position}
    {t : Token} (ht : t.lexeme = .symbol .openTag) (hfits : P → g.wording.Fits (t :: d.tokens)) :
    ReadsAt g scope P d (Node.readTag top wrap opening)
      (Node.Obeys g.rules g.blocks (inner + 1)) := by
  refine readsAt_get_bind ?_
  split
  · exact reads_refuse hscope _ _ d
  · rename_i start rest htokens
    split
    · exact reads_refuse hscope _ _ d
    · rename_i name hname
      refine readsAt_read_bind (readsAt_ite (fun _ => reads_refuse_bind hscope _ _ _ d)
        fun hbanned => ?_)
      split
      · exact reads_refuse hscope _ _ d
      · rename_i ref href
        have hrest : rest <:+ d.tokens := htokens ▸ List.suffix_cons start rest
        refine readsAt_set_bind ⟨hrest, List.Subset.refl _, id⟩
          (fun _ hd => { hd with tokens := hd.tokens.of_suffix hrest }) ?_
        refine readsAt_bind (readsAt_content hscope _ _ _) fun content => ?_
        obtain ⟨args, close⟩ := content
        have hs : (((P ∧ d.Obeys g) ∧ args <+: rest) →
            TagScope.Fits g name ⟨start, args, close, top, wrap⟩) := by
          rintro ⟨⟨hP, hd⟩, hargs⟩
          refine ⟨hd.tokens.of_infix (hargs.isInfix.trans hrest.isInfix), fun word hword => ?_⟩
          refine (hfits hP).first name word (List.IsPrefix.isInfix ?_)
          have hword : [.identifier word] <+: rest.map Token.lexeme :=
            (Arguments.firstName?_eq_some hword).trans (hargs.map _)
          rw [htokens, List.map_cons, List.map_cons, ht, Arguments.lexeme_of_name? hname]
          exact List.cons_prefix_cons.mpr ⟨rfl, List.cons_prefix_cons.mpr ⟨rfl, hword⟩⟩
        refine reads_bind (reads_ofRef hscope hwrap hs hinner href) fun found => ?_
        refine reads_bind (reads_argumentsOf hscope (A := fun _ => True) (fun h => h.2.2)
          fun _ _ _ => gives_pure trivial) fun _ => ?_
        refine reads_bind (reads_modify (fun d => ⟨List.suffix_refl _, List.Subset.refl _, id⟩)
          fun d _ hd => { hd with }) fun _ => reads_pure fun h => ?_
        exact .tag (hscope.catalog.tag name ref (by simpa using hbanned) href) h.1.1.2.1

theorem reads_with {top : Bool} {wrap : SectionReader} {inner : Nat}
    (hinner : inner ≤ g.rules.nesting) (hwrap : wrap.Keeps g scope inner) :
    Reads g scope P (Node.readWith top wrap) (Node.Obeys g.rules g.blocks (inner + 1)) := by
  refine reads_get_bind fun d => ?_
  split
  · exact readsAt_pure fun _ => .text hscope.wording.empty
  · rename_i t rest htokens
    have hrest : rest <:+ d.tokens := htokens ▸ List.suffix_cons t rest
    have hbefore (seen : Bool) : d.Before { d with tokens := rest, seenContent := seen } :=
      ⟨hrest, List.Subset.refl _, id⟩
    have hkeeps (seen : Bool) : d.Obeys g →
        Draft.Obeys g { d with tokens := rest, seenContent := seen } :=
      fun hd => { hd with tokens := hd.tokens.of_suffix hrest }
    split
    · rename_i s hs
      refine readsAt_set_bind (hbefore _) (fun _ hd => hkeeps _ hd) (readsAt_pure fun h => ?_)
      refine .text (hscope.wording.text s (h.2.tokens.text s ?_))
      rw [htokens, ← hs]
      exact List.mem_map_of_mem (List.mem_cons_self ..)
    · refine readsAt_set_bind (hbefore _) (fun _ hd => hkeeps _ hd) ?_
      exact reads_output hscope _ _ _
    · refine readsAt_set_bind (hbefore _) (fun _ hd => hkeeps _ hd) ?_
      refine readsAt_tag hscope hinner hwrap ‹_› fun h => ?_
      exact htokens ▸ h.2.tokens
    · exact reads_refuse hscope _ _ d

theorem reads_node (room : Nat) (hroom : room ≤ g.rules.nesting) (top : Bool) :
    Reads g scope P (Node.read room top) (Node.Obeys g.rules g.blocks (room + 1)) := by
  induction room generalizing top P with
  | zero => exact reads_with hscope (Nat.zero_le _) (reads_tooDeep hscope 0)
  | succ room ih =>
    refine reads_with hscope hroom fun Q ends opener => reads_get_bind fun d => ?_
    exact reads_upTo hscope (fun _ => ih (Nat.le_of_succ_le hroom) false) _ _ _ [] nofun d

/-- The nodes of a template obey the rules, and so does what is noted while they are read. -/
theorem reads_all (room : Nat) (hroom : room < g.rules.nesting) (n : Nat) (acc : List Node)
    (hacc : P → Body.Obeys g.rules g.blocks g.rules.nesting acc) :
    Reads g scope P (Node.readAll room n acc) (Body.Obeys g.rules g.blocks g.rules.nesting) := by
  have hreverse : P → Body.Obeys g.rules g.blocks g.rules.nesting acc.reverse :=
    fun hP m hm => hacc hP m (List.mem_reverse.mp hm)
  induction n generalizing P acc with
  | zero => exact reads_pure hreverse
  | succ n ih =>
    refine reads_get_bind fun d => ?_
    split
    · exact readsAt_pure fun h => hreverse h.1
    · refine readsAt_bind (reads_node hscope room (Nat.le_of_lt hroom) true d) fun m => ?_
      have hacc' : (P ∧ d.Obeys g) ∧ m.Obeys g.rules g.blocks (room + 1) →
          Body.Obeys g.rules g.blocks g.rules.nesting (m :: acc) :=
        fun h => List.forall_mem_cons.mpr ⟨h.2.mono hroom, hacc h.1.1⟩
      exact ih _ hacc' fun h m hm => hacc' h m (List.mem_reverse.mp hm)

end Readers

end Nodes

/-!
## What compiling and loading keep

A compilation changes nothing of a set but its cache and its counters.  If the tokens of all sources
have the right wording, what it gives obeys the rules, and so does what it leaves in the cache, also
when it fails on the way.
-/

section Sets

/-- The set `l'` can come out of the set `l` by compilations that leave in the cache what obeys the
rules. -/
structure Library.Loads (r : Rules) (l l' : Library) : Prop where
  name : l'.name = l.name
  settings : l'.settings = l.settings
  catalog : l'.catalog = l.catalog
  loaders : l'.loaders = l.loaders
  disk : l'.disk = l.disk
  globals : l'.globals = l.globals
  /-- Nothing changes before a compilation is begun. -/
  begun : l'.compiledAny = true ∨ l' = l
  cache : ∀ e ∈ l'.cache, e.2.Obeys r

/-- The tokens of the source under its name have the given wording. -/
def Library.Words (w : Wording) (l : Library) (name source : String) : Prop :=
  ∀ ts, Token.tokenize l.settings.trimming name source = .ok ts → w.Fits ts

/-- Where anything may be said, all sources have the right wording. -/
theorem words_any (l : Library) (name source : String) : l.Words {} name source :=
  fun _ _ => ⟨fun _ _ => trivial, fun _ _ => trivial, fun _ _ _ => trivial⟩

/-- What can be loaded into the set has the given wording, and what can be found in it is allowed.
-/
structure Library.Admits (w : Wording) (r : Rules) (l : Library) : Prop where
  catalog : l.catalog.Admits w r
  wording : w.Allowed r
  escaping : r.escaping l.settings.autoescape
  nesting : l.settings.maxNestingDepth < r.nesting
  block : ∀ blocks : Table Body, blocks.keys.Nodup → ∀ b ∈ blocks, r.block blocks b.1 b.2
  sources : ∀ referrer name path source, l.open? referrer name = .ok (path, source) →
    l.Words w path source

namespace Library

variable {w : Wording} {r : Rules} {l l' l'' : Library}

/-- What a set opens depends on its loaders and on the files that they see. -/
theorem open?_congr (hloaders : l'.loaders = l.loaders) (hdisk : l'.disk = l.disk)
    (referrer : Option String) (name : String) :
    l'.open? referrer name = l.open? referrer name := by
  unfold open?
  rw [hloaders]
  generalize (Except.error (Error.loader name .noLoader) : Except Error (String × String)) = failure
  induction l.loaders generalizing failure with
  | nil => rfl
  | cons loader rest ih =>
    unfold open?.go
    rw [hdisk]
    dsimp only
    split
    · rfl
    · exact ih _

namespace Loads

theorem refl (h : ∀ e ∈ l.cache, e.2.Obeys r) : l.Loads r l :=
  ⟨rfl, rfl, rfl, rfl, rfl, rfl, .inr rfl, h⟩

theorem trans (h : l.Loads r l') (h' : l'.Loads r l'') : l.Loads r l'' where
  name := h'.name.trans h.name
  settings := h'.settings.trans h.settings
  catalog := h'.catalog.trans h.catalog
  loaders := h'.loaders.trans h.loaders
  disk := h'.disk.trans h.disk
  globals := h'.globals.trans h.globals
  begun := by
    rcases h'.begun with hbegun | rfl
    · exact .inl hbegun
    · exact h.begun
  cache := h'.cache

theorem compiledAny (h : l.Loads r l') (hl : l.compiledAny = true) : l'.compiledAny = true := by
  rcases h.begun with hbegun | rfl
  · exact hbegun
  · exact hl

theorem begin (h : ∀ e ∈ l.cache, e.2.Obeys r) : l.Loads r { l with compiledAny := true } :=
  ⟨rfl, rfl, rfl, rfl, rfl, rfl, .inl rfl, h⟩

theorem count (h : l.Loads r l') (hl' : l'.compiledAny = true) (n : Nat) :
    l.Loads r { l' with serial := n } := { h with begun := .inl hl' }

theorem keep (h : l.Loads r l') (hl' : l'.compiledAny = true) (path : String) {t : Template}
    (ht : t.Obeys r) : l.Loads r { l' with cache := l'.cache.insert path t } :=
  { h with begun := .inl hl', cache := Table.forall_mem_insert h.cache ht }

theorem open?_eq (h : l.Loads r l') (referrer : Option String) (name : String) :
    l'.open? referrer name = l.open? referrer name :=
  open?_congr h.loaders h.disk referrer name

theorem words (h : l.Loads r l') {name source : String} (hwords : l.Words w name source) :
    l'.Words w name source := by
  unfold Words
  rw [h.settings]
  exact hwords

theorem admits (h : l.Loads r l') (hl : l.Admits w r) : l'.Admits w r where
  catalog := h.catalog ▸ hl.catalog
  wording := hl.wording
  escaping := h.settings ▸ hl.escaping
  nesting := h.settings ▸ hl.nesting
  block := hl.block
  sources referrer name path source hopen :=
    h.words (hl.sources referrer name path source (h.open?_eq referrer name ▸ hopen))

end Loads

/-- Run on the set `l`, `m` gives what `A` holds for or halts in a way for which `H` holds, and
loads nothing that breaks the rules. -/
def LoadsAt {α : Type} (r : Rules) (H : Halt → Prop) (l : Library) (m : Keeping Library α)
    (A : α → Prop) : Prop :=
  l.Loads r (m l).2 ∧ Ends A H (m l).1

end Library

open Library

variable {w : Wording} {r : Rules} {H : Halt → Prop} {l : Library} {α β : Type} {A : α → Prop}
  {B : β → Prop}

/-! ### Rules -/

theorem loadsAt_pure (hl : ∀ e ∈ l.cache, e.2.Obeys r) {a : α} (ha : A a) :
    LoadsAt r H l (pure a) A := ⟨.refl hl, ha⟩

theorem loadsAt_throw (hl : ∀ e ∈ l.cache, e.2.Obeys r) {h : Halt} (hh : H h) :
    LoadsAt r H l (throw h : Keeping Library α) A := ⟨.refl hl, hh⟩

theorem loadsAt_get_bind {f : Library → Keeping Library β} (h : LoadsAt r H l (f l) B) :
    LoadsAt r H l (get >>= f) B := h

theorem loadsAt_ofExcept_bind (hl : ∀ e ∈ l.cache, e.2.Obeys r) (hH : ∀ e, H (.error e))
    {result : Except Error α} {f : α → Keeping Library β}
    (hf : ∀ a, result = .ok a → LoadsAt r H l (f a) B) :
    LoadsAt r H l (Halt.ofExcept result >>= f) B := by
  cases result with
  | ok a => exact hf a rfl
  | error e => exact loadsAt_throw hl (hH e)

theorem loadsAt_set_bind {l' : Library} (hl' : l.Loads r l') {f : PUnit → Keeping Library β}
    (hf : LoadsAt r H l' (f ⟨⟩) B) : LoadsAt r H l (set l' >>= f) B :=
  ⟨hl'.trans hf.1, hf.2⟩

theorem loadsAt_modify_bind {f : Library → Library} {m : PUnit → Keeping Library β}
    (hf : l.Loads r (f l)) (hm : LoadsAt r H (f l) (m ⟨⟩) B) :
    LoadsAt r H l (modify f >>= m) B := ⟨hf.trans hm.1, hm.2⟩

/-! ### Compiling -/

section Compile

variable (hH : ∀ e, H (.error e)) {link : Linker} {name source : String} {underway : List String}
include hH

variable (name) in
/-- What is read from the tokens of a source makes a template that obeys the rules. -/
theorem readAll_obeys (hl : l.Admits w r) (hcache : ∀ e ∈ l.cache, e.2.Obeys r) {ts : List Token}
    (hts : w.Fits ts) (n : Nat) {load : String → Keeping Library (Option Template)}
    (hload : ∀ other l', l.Loads r l' →
      LoadsAt r H l' (load other) fun found => ∀ t ∈ found, t.Obeys r) :
    let out := Node.readAll l.settings.maxNestingDepth n []
      ⟨name, l.catalog, l.settings, load⟩ { tokens := ts, library := l }
    l.Loads r out.2.library ∧
      Ends (fun nodes => ∀ name source tokens level options serial, r.escaping options.autoescape →
        Template.Obeys r
          { name, source, tokens, nodes, parent := out.2.parent, blocks := out.2.blocks
            macros := out.2.macros, level, options, serial }) H out.1 := by
  intro out
  have hkeeps (blocks : Table Body) (hblocks : ∀ b ∈ blocks, r.block blocks b.1 b.2) :
      DraftScope.Keeps ⟨w, r, blocks, l.Loads r, H⟩ ⟨name, l.catalog, l.settings, load⟩ :=
    ⟨hl.catalog, hl.wording, hl.nesting, hblocks, hH, fun other l' hl' =>
      have ⟨hloads, hresult⟩ := hload other l' hl'
      ⟨hl'.trans hloads, hresult⟩⟩
  have hstart (blocks : Table Body) :
      Draft.Obeys ⟨w, r, blocks, l.Loads r, H⟩ { tokens := ts, library := l } :=
    ⟨hts, nofun, nofun, nofun, .refl hcache⟩
  -- No block is noted twice, whatever the blocks of the finished template are.
  have hdistinct : out.2.blocks.keys.Nodup :=
    (reads_all (P := True) (hkeeps [] nofun) _ hl.nesting n [] nofun _).1.distinct List.Pairwise.nil
  have hfinal := hl.block out.2.blocks hdistinct
  obtain ⟨hd, hresult⟩ := (reads_all (P := True) (hkeeps out.2.blocks hfinal) _ hl.nesting n []
    nofun { tokens := ts, library := l }).2 trivial (hstart _) (List.Subset.refl _)
  exact ⟨hd.library, hresult.imp fun nodes hnodes _ _ _ _ _ _ hescaping =>
    .intro hescaping hnodes hd.parent hfinal hd.bodies hd.macros⟩

/-- A compilation loads nothing that breaks the rules if what it links to does not, and what it
gives obeys the rules. -/
theorem loadsAt_compileWith (hl : l.Admits w r) (hcache : ∀ e ∈ l.cache, e.2.Obeys r)
    (hwords : l.Words w name source)
    (hlink : ∀ other l', l.Loads r l' → LoadsAt r H l' (link other (some name) underway)
      fun found => ∀ t ∈ found, t.Obeys r) :
    LoadsAt r H l (compileWith link name source underway) (Template.Obeys r) := by
  have hbegun : l.Loads r { l with compiledAny := true } := .begin hcache
  refine loadsAt_modify_bind hbegun (loadsAt_get_bind ?_)
  refine loadsAt_ofExcept_bind hbegun.cache hH fun ts hts => ?_
  obtain ⟨hlibrary, hresult⟩ := readAll_obeys hH name (hbegun.admits hl) hbegun.cache
    (hwords ts hts) (ts.length + 1) fun other l' hl' => hlink other l' (hbegun.trans hl')
  dsimp only [ExceptT.run, Id.run]
  generalize Node.readAll _ _ _ _ _ = out at hlibrary hresult ⊢
  obtain ⟨result, draft⟩ := out
  have hcounted := hlibrary.count (hlibrary.compiledAny rfl) (draft.library.serial + 1)
  refine loadsAt_set_bind hcounted ?_
  cases result with
  | ok nodes =>
    have hsettings : draft.library.settings = l.settings := hlibrary.settings
    exact loadsAt_pure hcounted.cache (hresult name source ts _ _ _ (hsettings ▸ hl.escaping))
  | error h => exact loadsAt_throw hcounted.cache hresult

/-- The set in which a template was compiled takes no more bans. -/
theorem compiledAny_compileWith (hl : l.Admits w r) (hcache : ∀ e ∈ l.cache, e.2.Obeys r)
    (hwords : l.Words w name source)
    (hlink : ∀ other l', l.Loads r l' → LoadsAt r H l' (link other (some name) underway)
      fun found => ∀ t ∈ found, t.Obeys r) :
    (compileWith link name source underway l).2.compiledAny = true := by
  have hbegun : l.Loads r { l with compiledAny := true } := .begin hcache
  have h := loadsAt_compileWith hH (l := { l with compiledAny := true }) (hbegun.admits hl) hcache
    hwords fun other l' hl' => hlink other l' (hbegun.trans hl')
  exact h.1.compiledAny rfl

end Compile

/-- What compiling comes down to: tokens, the nodes that are read from them, and a template of these
and of what was noted on the way. -/
theorem compileWith_eq (link : Linker) (name source : String) (underway : List String)
    (l : Library) :
    compileWith link name source underway l =
      match Token.tokenize l.settings.trimming name source with
      | .error e => (.error (.error e), { l with compiledAny := true })
      | .ok tokens =>
        let out := Node.readAll l.settings.maxNestingDepth (tokens.length + 1) []
          ⟨name, l.catalog, l.settings, fun other => link other (some name) underway⟩
          { tokens, library := { l with compiledAny := true } }
        (out.1.map fun nodes =>
          { name, source, tokens, nodes
            parent := out.2.parent
            blocks := out.2.blocks
            macros := out.2.macros
            level :=
              match out.2.parent with
              | some (.linked t) => t.level + 1
              | _ => 0
            options := out.2.library.settings.renderOptions
            serial := out.2.library.serial },
          { out.2.library with serial := out.2.library.serial + 1 }) := by
  unfold compileWith
  change (Halt.ofExcept (Token.tokenize l.settings.trimming name source) >>= _ :
    Keeping Library Template) { l with compiledAny := true } = _
  rw [keeping_ofExcept_bind]
  cases Token.tokenize l.settings.trimming name source with
  | error e => rfl
  | ok tokens =>
    dsimp only
    generalize hout : Node.readAll _ _ _ _ _ = out
    dsimp only [ExceptT.run, Id.run]
    rw [hout]
    rcases out with ⟨_ | nodes, draft⟩ <;> rfl

/-! ### Linking -/

theorem cached?_obeys (hl : ∀ e ∈ l.cache, e.2.Obeys r) {referrer : Option String} {name : String}
    {t : Template} (ht : l.cached? referrer name = some t) : t.Obeys r := by
  obtain ⟨loader, -, hget⟩ := List.exists_of_findSome?_eq_some ht
  exact hl _ (Table.mem_of_get? hget)

/-- What a name leads to: a template that is known, none if it is being compiled, or what its source
is compiled to. -/
theorem link_succ (fuel : Nat) (name : String) (referrer : Option String) (underway : List String)
    (l : Library) :
    link (fuel + 1) name referrer underway l =
      match if l.settings.debug then none else l.cached? referrer name with
      | some t => (.ok (some t), l)
      | none =>
        match l.open? referrer name with
        | .error e => (.error (.error e), l)
        | .ok (path, source) =>
          if path ∈ underway then (.ok none, l)
          else
            match compileWith (link fuel) path source (path :: underway) l with
            | (.error h, l') => (.error h, l')
            | (.ok t, l') =>
              (.ok (some t),
                if l.settings.debug then l' else { l' with cache := l'.cache.insert path t }) := by
  rw [link]
  change (get >>= _ : Keeping Library (Option Template)) l = _
  rw [keeping_get_bind]
  generalize (if l.settings.debug then none else l.cached? referrer name) = known
  cases known with
  | some t => rfl
  | none =>
    cases l.open? referrer name with
    | error e => rfl
    | ok opened =>
      obtain ⟨path, source⟩ := opened
      by_cases hpath : path ∈ underway
      · have hcontains : underway.contains path = true := List.contains_iff_mem.mpr hpath
        dsimp only
        rw [if_pos hpath]
        change (if underway.contains path = true then _ else _ : Keeping Library _) l = _
        rw [if_pos hcontains]
        rfl
      · have hcontains : ¬underway.contains path = true := fun h =>
          hpath (List.contains_iff_mem.mp h)
        dsimp only
        rw [if_neg hpath]
        change (if underway.contains path = true then _ else _ : Keeping Library _) l = _
        rw [if_neg hcontains, keeping_bind]
        rcases compileWith (link fuel) path source (path :: underway) l with ⟨_ | t, l'⟩
        · rfl
        · dsimp only
          cases l.settings.debug <;> rfl

section Link

variable (hH : ∀ e, H (.error e)) {D : Nat → List String → Prop} (hl : l.Admits w r)
  (hzero : ∀ underway, D 0 underway → H .spent)
  (hstep : ∀ fuel underway referrer name path source, D (fuel + 1) underway →
    l.open? referrer name = .ok (path, source) → path ∉ underway → D fuel (path :: underway))
include hH hl hzero hstep

/-- What names lead to obeys the rules.  `D` says for which depths and templates underway; where it
holds for no depth at all, linking may be exhausted. -/
theorem loadsAt_link (fuel : Nat) (name : String) (referrer : Option String)
    (underway : List String) (hD : D fuel underway) (l' : Library) (hl' : l.Loads r l') :
    LoadsAt r H l' (link fuel name referrer underway) fun found => ∀ t ∈ found, t.Obeys r := by
  induction fuel generalizing name referrer underway l' with
  | zero => exact loadsAt_throw hl'.cache (hzero underway hD)
  | succ fuel ih =>
    unfold LoadsAt
    rw [link_succ]
    split
    · rename_i t ht
      refine ⟨.refl hl'.cache, ?_⟩
      rintro _ ⟨⟩
      split at ht
      · cases ht
      · exact cached?_obeys hl'.cache ht
    · rw [hl'.open?_eq]
      split
      · exact ⟨.refl hl'.cache, hH _⟩
      · rename_i path source hopen
        split
        · exact ⟨.refl hl'.cache, nofun⟩
        · rename_i hnew
          have hlinks : ∀ other l'', l'.Loads r l'' →
              LoadsAt r H l'' (link fuel other (some path) (path :: underway))
                fun found => ∀ t ∈ found, t.Obeys r := fun other l'' hl'' =>
            ih other (some path) _ (hstep _ _ _ _ _ _ hD hopen hnew) l'' (hl'.trans hl'')
          have hwords := hl'.words (hl.sources _ _ _ _ hopen)
          have hloads := loadsAt_compileWith hH (hl'.admits hl) hl'.cache hwords hlinks
          have hbegun := compiledAny_compileWith hH (hl'.admits hl) hl'.cache hwords hlinks
          unfold LoadsAt at hloads
          split <;> rename_i hcompiled <;> rw [hcompiled] at hloads hbegun
          · exact hloads
          · refine ⟨?_, ?_⟩
            · split
              · exact hloads.1
              · exact hloads.1.keep hbegun path hloads.2
            · rintro _ ⟨⟩
              exact hloads.2

/-- A template is found only if one was compiled, now or before. -/
theorem compiledAny_link (fuel : Nat) (name : String) (referrer : Option String)
    (underway : List String) (hD : D fuel underway)
    (hcompiled : l.cache ≠ [] → l.compiledAny = true) (hcache : ∀ e ∈ l.cache, e.2.Obeys r)
    {t : Template} (ht : (link fuel name referrer underway l).1 = .ok (some t)) :
    (link fuel name referrer underway l).2.compiledAny = true := by
  cases fuel with
  | zero => cases ht
  | succ fuel =>
    rw [link_succ] at ht ⊢
    split
    · rename_i t ht
      split at ht
      · cases ht
      · obtain ⟨loader, -, hget⟩ := List.exists_of_findSome?_eq_some ht
        exact hcompiled (List.ne_nil_of_mem (Table.mem_of_get? hget))
    · rename_i hknown
      rw [hknown] at ht
      split
      · simp_all
      · rename_i path source hopen
        split
        · simp_all
        · rename_i hnew
          have hbegun := compiledAny_compileWith hH hl hcache (hl.sources _ _ _ _ hopen)
            fun other l' hl' => loadsAt_link hH hl hzero hstep fuel other (some path) _
              (hstep _ _ _ _ _ _ hD hopen hnew) l' hl'
          split <;> rename_i heq <;> rw [heq] at hbegun
          · exact hbegun
          · split <;> exact hbegun

end Link

/-! ### Loading -/

theorem fromFile_eq (name : String) (l : Library) :
    fromFile name l =
      match l.open? none name with
      | .error e => (.error (.error e), l)
      | .ok (path, source) => Library.compile path source l := by
  unfold fromFile Library.compile
  rw [keeping_get_bind, keeping_ofExcept_bind]
  cases l.open? none name with
  | error e => rfl
  | ok opened =>
    dsimp only
    rw [keeping_get_bind]

section Load

variable (hH : ∀ e, H (.error e)) {D : Nat → List String → Prop} (hl : l.Admits w r)
  (hzero : ∀ underway, D 0 underway → H .spent)
  (hstep : ∀ fuel underway referrer name path source, D (fuel + 1) underway →
    l.open? referrer name = .ok (path, source) → path ∉ underway → D fuel (path :: underway))
  (hdepth : ∀ underway, D l.linkDepth underway) (hcache : ∀ e ∈ l.cache, e.2.Obeys r)
include hH hl hzero hstep hdepth hcache

theorem loadsAt_compile {name source : String} (hwords : l.Words w name source) :
    LoadsAt r H l (compile name source) (Template.Obeys r) := by
  unfold compile
  exact loadsAt_get_bind (loadsAt_compileWith hH hl hcache hwords fun other l' hl' =>
    loadsAt_link hH hl hzero hstep _ other _ _ (hdepth _) l' hl')

theorem compiledAny_compile {name source : String} (hwords : l.Words w name source) :
    (compile name source l).2.compiledAny = true := by
  unfold compile
  rw [keeping_get_bind]
  exact compiledAny_compileWith hH hl hcache hwords fun other l' hl' =>
    loadsAt_link hH hl hzero hstep _ other _ _ (hdepth _) l' hl'

theorem loadsAt_fromFile (name : String) : LoadsAt r H l (fromFile name) (Template.Obeys r) := by
  unfold fromFile
  refine loadsAt_get_bind (loadsAt_ofExcept_bind hcache hH fun opened hopened => ?_)
  refine loadsAt_compileWith hH hl hcache (hl.sources _ _ _ _ hopened) fun other l' hl' => ?_
  exact loadsAt_link hH hl hzero hstep _ other _ _ (hdepth _) l' hl'

theorem compiledAny_fromFile (name : String) {t : Template} (ht : (fromFile name l).1 = .ok t) :
    (fromFile name l).2.compiledAny = true := by
  unfold fromFile at ht ⊢
  rw [keeping_get_bind, keeping_ofExcept_bind] at ht ⊢
  split
  · rename_i path hopen
    exact compiledAny_compileWith hH hl hcache (hl.sources _ _ _ _ hopen) fun other l' hl' =>
      loadsAt_link hH hl hzero hstep _ other _ _ (hdepth _) l' hl'
  · simp_all

theorem loadsAt_load (referrer : Option String) (name : String) :
    LoadsAt r H l (Library.load referrer name) (Template.Obeys r) := by
  have hlink := loadsAt_link hH hl hzero hstep l.linkDepth name referrer [] (hdepth _) l
    (.refl hcache)
  unfold LoadsAt Library.load
  rw [keeping_get_bind, keeping_bind]
  obtain ⟨hloads, hfound⟩ := hlink
  split <;> rename_i heq <;> rw [heq] at hfound
  · split
    · exact ⟨hloads, hfound _ rfl⟩
    · exact ⟨hloads, hH _⟩
  · exact ⟨hloads, hfound⟩

theorem compiledAny_load (hcompiled : l.cache ≠ [] → l.compiledAny = true)
    (referrer : Option String) (name : String) {t : Template}
    (ht : (Library.load referrer name l).1 = .ok t) :
    (Library.load referrer name l).2.compiledAny = true := by
  unfold Library.load at ht ⊢
  rw [keeping_get_bind, keeping_bind] at ht ⊢
  split at ht
  · rename_i found hfound
    cases found with
    | none => cases ht
    | some t =>
      exact compiledAny_link hH hl hzero hstep _ _ _ _ (hdepth _) hcompiled hcache hfound
  · cases ht

end Load

/-! ### However it ends

What is loaded obeys the rules also where nothing is known about the depth of links. -/

namespace Library.Admits

variable (hl : l.Admits w r) (hcache : ∀ e ∈ l.cache, e.2.Obeys r)
include hl hcache

theorem loadsAt_compile {name source : String} (hwords : l.Words w name source) :
    LoadsAt r (fun _ => True) l (compile name source) (Template.Obeys r) :=
  Stencil.loadsAt_compile (fun _ => trivial) (D := fun _ _ => True) hl (fun _ _ => trivial)
    (fun _ _ _ _ _ _ _ _ _ => trivial) (fun _ => trivial) hcache hwords

theorem compiledAny_compile {name source : String} (hwords : l.Words w name source) :
    (compile name source l).2.compiledAny = true :=
  Stencil.compiledAny_compile (H := fun _ => True) (fun _ => trivial) (D := fun _ _ => True) hl
    (fun _ _ => trivial) (fun _ _ _ _ _ _ _ _ _ => trivial) (fun _ => trivial) hcache hwords

theorem loadsAt_fromFile (name : String) :
    LoadsAt r (fun _ => True) l (fromFile name) (Template.Obeys r) :=
  Stencil.loadsAt_fromFile (fun _ => trivial) (D := fun _ _ => True) hl (fun _ _ => trivial)
    (fun _ _ _ _ _ _ _ _ _ => trivial) (fun _ => trivial) hcache name

theorem compiledAny_fromFile (name : String) {t : Template} (ht : (fromFile name l).1 = .ok t) :
    (fromFile name l).2.compiledAny = true :=
  Stencil.compiledAny_fromFile (H := fun _ => True) (fun _ => trivial) (D := fun _ _ => True) hl
    (fun _ _ => trivial) (fun _ _ _ _ _ _ _ _ _ => trivial) (fun _ => trivial) hcache name ht

theorem loadsAt_load (referrer : Option String) (name : String) :
    LoadsAt r (fun _ => True) l (Library.load referrer name) (Template.Obeys r) :=
  Stencil.loadsAt_load (fun _ => trivial) (D := fun _ _ => True) hl (fun _ _ => trivial)
    (fun _ _ _ _ _ _ _ _ _ => trivial) (fun _ => trivial) hcache referrer name

theorem compiledAny_load (hcompiled : l.cache ≠ [] → l.compiledAny = true)
    (referrer : Option String) (name : String) {t : Template}
    (ht : (Library.load referrer name l).1 = .ok t) :
    (Library.load referrer name l).2.compiledAny = true :=
  Stencil.compiledAny_load (H := fun _ => True) (fun _ => trivial) (D := fun _ _ => True) hl
    (fun _ _ => trivial) (fun _ _ _ _ _ _ _ _ _ => trivial) (fun _ => trivial) hcache hcompiled
    referrer name ht

end Library.Admits

end Sets

end Stencil
