import Stencil.Proofs.Alike.Filters
import Stencil.Proofs.Lookup
import Stencil.Proofs.Reading.Asked
import Stencil.Proofs.Scanning.Places
import Stencil.Proofs.Within.Likeness
import Stencil.Proofs.Within.Reading
import Stencil.Proofs.Within.Tags
import Stencil.Proofs.Within.Vocabulary

/-!
# Renders, sets and their texts

What a render comes to, and what a set keeps, gives and fails with, is within the vocabulary of the
texts.
-/

namespace Stencil

/-!
## Renders within a vocabulary

A render of a template within a vocabulary, on data within it, stays there as long as the host does:
values, states and loaded templates are within it, and an error is located, if it is, where the
vocabulary says (`within_execute`). A likeness that holds only inside of the vocabulary relates the
render to itself, and its laws are what has to be said of the steps.
-/

section Renders

open Render

variable {V : Vocabulary} {known : Library → Prop} {host : Host}

/-! ### States -/

/-- A state within the vocabulary, as far as a render can tell. -/
structure State.Within (V : Vocabulary) (known : Library → Prop) (s : State) : Prop where
  set : ∀ l ∈ s.set, known l
  context : Bindings.Within V s.context
  globals : Bindings.Within V s.globals
  scopes : ∀ scope ∈ s.scopes, Bindings.Within V scope
  chain : ∀ t ∈ s.chain, t.Within V
  overridden : ∀ body ∈ s.blocks.head?.getD [], Body.Within V body

theorem alike_within_iff {s s' : State} :
    s.Alike (.within V known) s' ↔ s.Same s' ∧ s.Within V known := by
  constructor
  · intro h
    obtain ⟨hset, hset'⟩ := h.set
    obtain ⟨hcontext, hcontext'⟩ := h.context
    obtain ⟨hglobals, hglobals'⟩ := h.globals
    obtain ⟨hscopes, hscopes'⟩ := forall₂_equalIn_iff.mp h.scopes
    obtain ⟨hchain, hchain'⟩ := forall₂_equalIn_iff.mp h.chain
    obtain ⟨hoverridden, hoverridden'⟩ := forall₂_equalIn_iff.mp h.overridden
    exact ⟨⟨hset, hcontext, hglobals, hscopes, h.autoescape, hchain, hoverridden, h.depth,
        h.recursionLimit⟩,
      ⟨hset', hcontext', hglobals', hscopes', hchain', hoverridden'⟩⟩
  · rintro ⟨h, h'⟩
    exact
      { set := ⟨h.set, h'.set⟩
        context := ⟨h.context, h'.context⟩
        globals := ⟨h.globals, h'.globals⟩
        scopes := forall₂_equalIn_iff.mpr ⟨h.scopes, h'.scopes⟩
        autoescape := h.autoescape
        chain := forall₂_equalIn_iff.mpr ⟨h.chain, h'.chain⟩
        overridden := forall₂_equalIn_iff.mpr ⟨h.overridden, h'.overridden⟩
        depth := h.depth
        recursionLimit := h.recursionLimit }

/-! ### Hosts -/

/-- What the host answers is what `A` holds for, or an error within the vocabulary. -/
def Vocabulary.Answers {α : Type} (V : Vocabulary) (A : α → Prop) : Except Error α → Prop
  | .ok a => A a
  | .error e => e.Within V

/-- Given what is within the vocabulary, the host answers within it, and its functions leave the
state there. -/
structure Host.Within (host : Host) (V : Vocabulary) (known : Library → Prop) : Prop where
  filter : ∀ key {v arg}, v.Within V → (∀ a ∈ arg, Value.Within V a) →
    V.Answers (Value.Within V) (host.filter key v arg)
  method : ∀ key {args}, (∀ a ∈ args, Value.Within V a) →
    V.Answers (Value.Within V) (host.method key args)
  captured : ∀ key {r}, V.Answers (fun _ => True) r →
    V.Answers (fun _ => True) (host.captured key r)
  shown : ∀ key {v}, v.Within V → V.Answers (fun _ => True) (host.shown key v)
  function : ∀ key {data args s}, data.Within V → (∀ a ∈ args, Value.Within V a) →
    s.Within V known →
    V.Answers (Value.Within V) (host.function key data args s).1 ∧
      (host.function key data args s).2.Within V known

theorem Vocabulary.Answers.endAlike {α : Type} {A : α → Prop} {x : Except Error α}
    (h : V.Answers A x) : EndAlike (EqualIn (Error.Within V)) (EqualIn A) x x := by
  cases x with
  | ok a => exact .ok ⟨rfl, h⟩
  | error e => exact .error ⟨rfl, h⟩

theorem tolerates_within (hmodest : host.Modest) (hhost : host.Within V known) :
    (Likeness.within V known).Tolerates host where
  filter := by
    rintro v _ arg arg' key ⟨rfl, hv⟩ harg
    obtain ⟨rfl, hwithin⟩ := rel_equalIn_iff.mp harg
    exact (hhost.filter key hv hwithin).endAlike
  method := by
    rintro args args' key hargs
    obtain ⟨rfl, hwithin⟩ := forall₂_equalIn_iff.mp hargs
    exact (hhost.method key hwithin).endAlike
  captured := by
    rintro _ _ key hr
    cases hr with
    | @ok text _ h =>
      obtain rfl := h
      have htext : V.Answers (fun _ => True) (.ok text) := trivial
      exact (hhost.captured key htext).endAlike.imp fun _ _ h => h.1
    | @error e _ h =>
      obtain ⟨rfl, he⟩ := h
      have herror : V.Answers (fun _ : String => True) (.error e) := he
      exact (hhost.captured key herror).endAlike.imp fun _ _ h => h.1
  shown := by
    rintro v _ key ⟨rfl, hv⟩
    exact (hhost.shown key hv).endAlike.imp fun _ _ h => h.1
  function := by
    rintro data _ args args' key ⟨rfl, hdata⟩ hargs s s' hs
    obtain ⟨rfl, hwithin⟩ := forall₂_equalIn_iff.mp hargs
    obtain ⟨hsame, hs⟩ := alike_within_iff.mp hs
    -- The two states differ in what the function cannot see, so it answers the same in both.
    obtain ⟨hresult, hleft⟩ := hmodest.same key data args s s' hsame
    obtain ⟨hanswer, hstate⟩ := hhost.function key hdata hwithin hs
    have hrests := hmodest.rests key data args s
    have hrests' := hmodest.rests key data args s'
    have halike := alike_within_iff.mpr ⟨hleft, hstate⟩
    unfold callHost
    generalize host.function key data args s = e at hresult hanswer halike hrests ⊢
    generalize host.function key data args s' = e' at hresult halike hrests' ⊢
    obtain ⟨x, t⟩ := e
    obtain ⟨x', t'⟩ := e'
    obtain rfl : x = x' := hresult
    cases x with
    | ok v => exact ⟨.ok ⟨rfl, hanswer⟩, halike, hrests, hrests'⟩
    | error e => exact ⟨.error (.error ⟨rfl, hanswer⟩), halike, hrests, hrests'⟩

theorem within_bare (now : Calendar.Moment) (V : Vocabulary) (known : Library → Prop) :
    (Host.bare now).Within V known where
  filter _ _ _ hv _ := hv
  method _ _ _ := .nil
  captured _ _ hr := hr
  shown _ _ _ := trivial
  function _ _ _ _ _ _ hs := ⟨.nil, hs⟩

/-! ### Renders -/

/-- Data are refused for the name of one of them. -/
theorem exists_of_checkNames {context : Bindings} {e : Error} (h : checkNames context = .error e) :
    ∃ entry ∈ context, Text.isName entry.1.toList = false ∧ e = .run (.contextKey entry.1) := by
  induction context with
  | nil => cases h
  | cons entry context ih =>
    have hcons : checkNames (entry :: context) =
        ((if Text.isName entry.1.toList then .ok () else .error (.run (.contextKey entry.1))) >>=
          fun _ => checkNames context) := rfl
    rw [hcons] at h
    cases hname : Text.isName entry.1.toList with
    | true =>
      rw [hname] at h
      obtain ⟨other, hother, hfound⟩ := ih h
      exact ⟨other, List.mem_cons_of_mem _ hother, hfound⟩
    | false =>
      rw [hname] at h
      cases h
      exact ⟨entry, List.mem_cons_self .., hname, rfl⟩

section Lawful

variable (hknown : V.Supplied known) (hmodest : host.Modest) (hhost : host.Within V known)
include hknown hmodest hhost

/-- No step of a render leads out of the vocabulary. -/
theorem lawful_within : (Likeness.within V known).Lawful host where
  toCoherent := coherent_within hknown
  toTolerates := tolerates_within hmodest hhost
  included h := h.elim
  extended _ h := h.elim

/-- A template within the vocabulary ends within it, on data within it. -/
theorem within_execute {t : Template} (ht : t.Within V) {set : Option Library}
    (hset : ∀ l ∈ set, known l ∧ Bindings.Within V l.globals) {context : Bindings}
    (hcontext : Bindings.Within V context) (out : Sink) :
    Ends (fun _ => True) (Halt.Within V) (t.execute host set context out).1 := by
  have hL := lawful_within hknown hmodest hhost
  have hrender : Agrees (.within V known) host (t.render (.upTo jumpDepth))
      (t.render (.upTo jumpDepth)) := agrees_render hL (agree_upTo hL jumpDepth) ⟨rfl, ht⟩
  have hstart : State.Within V known (State.start set context t.options out) := by
    refine ⟨fun l hl => (hset l hl).1, hcontext, ?_, List.forall_mem_singleton.mpr baseScope_within,
      nofun, nofun⟩
    cases set with
    | none => nofun
    | some l => exact (hset l rfl).2
  have houtcome := hrender.outcome (.same out.failure) _ _
    (alike_within_iff.mpr ⟨.refl _, hstart⟩) ⟨rfl, rfl⟩
  unfold Template.execute
  dsimp only
  cases hnames : checkNames context with
  | error e =>
    obtain ⟨_, -, -, rfl⟩ := exists_of_checkNames hnames
    exact nofun
  | ok =>
    generalize t.render (.upTo jumpDepth) host _ = e at houtcome ⊢
    cases houtcome with
    | together hend =>
      cases hend with
      | ok => trivial
      | error hh =>
        cases hh with
        | error he => exact he.2
        | exhausted => trivial
    | refused => cases out <;> trivial
    | parted h => exact h.elim

end Lawful

end Renders

/-!
## Sets within a vocabulary

What a set compiles and loads has its positions in the sources that its loaders hold and in the one
that it was handed. The same is true of the errors when it cannot.
-/

section Sets

/-- What is read from a source stands where the vocabulary says, and so does the error if it cannot
be read. -/
def Vocabulary.Covers (V : Vocabulary) (o : Trimming) (name source : String) : Prop :=
  match Token.tokenize o name source with
  | .ok ts => V.Spots ts
  | .error e => e.Unread V

/-- One of the loaders opens the source under the name. -/
def Library.Holds (l : Library) (name source : String) : Prop :=
  ∃ loader ∈ l.loaders, loader.open? l.disk name = .ok source

/-- Run on the set `l`, `m` gives what `A` holds for or fails where the vocabulary says, and leaves
a set that is known. -/
def Library.AbidesAt {α : Type} (V : Vocabulary) (known : Library → Prop) (l : Library)
    (m : Keeping Library α) (A : α → Prop) : Prop :=
  known (m l).2 ∧ Ends A (Halt.Unread V) (m l).1

open Library

variable {V : Vocabulary} {known : Library → Prop} {T : Template → Prop} {l : Library}
  {name source : String} {underway : List String}

theorem holds_of_open? {referrer : Option String} {path : String}
    (h : l.open? referrer name = .ok (path, source)) : l.Holds path source :=
  have ⟨loader, hloader, _, hopen⟩ := exists_loader_of_open? h
  ⟨loader, hloader, hopen⟩

/-- A set that opens nothing is not located anywhere. -/
theorem unread_of_open? {referrer : Option String} {e : Error}
    (h : l.open? referrer name = .error e) : e.Unread V := by
  have hloader (loader : Loader) {path : String} {e : Error}
      (h : loader.open? l.disk path = .error e) : e.Unread V := by
    unfold Loader.open? at h
    split at h <;> split at h <;> cases h <;> trivial
  have hgo (loaders : List Loader) {failure : Except Error (String × String)}
      (hfailure : ∀ e, failure = .error e → e.Unread V)
      (h : open?.go l referrer name failure loaders = .error e) : e.Unread V := by
    induction loaders generalizing failure with
    | nil => exact hfailure e h
    | cons loader rest ih =>
      unfold open?.go at h
      dsimp only at h
      split at h
      · cases h
      · rename_i e' he'
        refine ih ?_ h
        rintro _ ⟨⟩
        exact hloader loader he'
  refine hgo l.loaders ?_ h
  rintro _ ⟨⟩
  trivial

/-- An error of reading is somewhere. -/
theorem Error.Unread.mono {W : Vocabulary} {e : Error} (h : e.Unread V)
    (hle : ∀ {p}, V.unread p → W.unread p) : e.Unread W := by
  cases e with
  | lex | parse => exact hle h
  | _ => exact h

/-! ### Compiling -/

/-- What linkers of known sets do: they give templates of which `T` holds, or none. -/
def Library.Linker.Gives (V : Vocabulary) (known : Library → Prop) (T : Template → Prop)
    (link : Linker) : Prop :=
  ∀ name referrer underway l, known l →
    AbidesAt V known l (link name referrer underway) fun found => ∀ t ∈ found, T t

theorem Library.Linker.Gives.imp {link : Linker} {W : Vocabulary} {T' : Template → Prop}
    (h : link.Gives V known T) (hT : ∀ t, T t → T' t) (hunread : ∀ {p}, V.unread p → W.unread p) :
    link.Gives W known T' := by
  intro name referrer underway l hl
  obtain ⟨hleft, hresult⟩ := h name referrer underway l hl
  refine ⟨hleft, ?_⟩
  generalize (link name referrer underway l).1 = result at hresult ⊢
  match result with
  | .ok found => exact fun t ht => hT t (hresult t ht)
  | .error (.error e) => exact Error.Unread.mono hresult hunread
  | .error .exhausted => trivial

/-- Sets that stay known while templates are compiled. -/
structure Library.Counting (known : Library → Prop) : Prop where
  honest : ∀ {l}, known l → ∀ tag t, l.catalog.tags.find? tag = some (.custom t) → t.Honest
  counts : ∀ {l}, known l → ∀ compiledAny serial, known { l with compiledAny, serial }

/-- A template is compiled from a source of the vocabulary. -/
theorem abidesAt_compileWith (hV : V.Wide) (hknown : Counting known) {link : Linker}
    (underway : List String) (hl : known l) (hsource : V.Covers l.settings.trimming name source)
    (hlink : link.Gives V known V.Links) :
    AbidesAt V known l (compileWith link name source underway) (Template.Within V) := by
  have hbegun : known { l with compiledAny := true } := hknown.counts hl _ _
  unfold AbidesAt
  rw [compileWith_eq]
  unfold Vocabulary.Covers at hsource
  split <;> rename_i hread <;> rw [hread] at hsource
  · exact ⟨hbegun, hsource⟩
  · rename_i tokens
    let scope : DraftScope :=
      ⟨name, l.catalog, l.settings, fun other => link other (some name) underway⟩
    have hscope : scope.Within V known :=
      ⟨.inr (hknown.honest hl), fun other l' hl' => hlink other (some name) underway l' hl'⟩
    obtain ⟨hd, hresult⟩ := abides_all hV hscope l.settings.maxNestingDepth (tokens.length + 1)
      (List.forall_mem_nil _) { tokens, library := { l with compiledAny := true } }
      ⟨hsource, nofun, nofun, nofun, hbegun⟩
    dsimp only
    generalize Node.readAll _ _ _ _ _ = out at hd hresult ⊢
    obtain ⟨result, draft⟩ := out
    refine ⟨hknown.counts hd.library _ _, ?_⟩
    cases result with
    | ok nodes => exact .intro hresult hd.parent hd.blocks hd.macros
    | error h => exact hresult

/-! ### Linking -/

/-- Sets that keep only templates of which `T` holds, and compile only such from what their loaders
hold. -/
structure Library.Stocking (V : Vocabulary) (known : Library → Prop) (T : Template → Prop) : Prop
    extends Counting known where
  cached : ∀ {l}, known l → ∀ e ∈ l.cache, T e.2
  insert : ∀ {l path t}, known l → T t → known { l with cache := l.cache.insert path t }
  clear : ∀ {l}, known l → known l.clearCache
  held : ∀ {l name source} (fuel underway), known l → l.Holds name source →
    Linker.Gives V known T (link fuel) →
      AbidesAt V known l (compileWith (link fuel) name source underway) T

section Stocking

variable (h : Stocking V known T)
include h

/-- What names lead to. -/
theorem gives_link (fuel : Nat) : (link fuel).Gives V known T := by
  induction fuel with
  | zero => exact fun _ _ _ _ hl => ⟨hl, trivial⟩
  | succ fuel ih =>
    intro name referrer underway l hl
    unfold AbidesAt
    rw [link_succ]
    split
    · rename_i t ht
      refine ⟨hl, fun | _, rfl => ?_⟩
      split at ht
      · cases ht
      · obtain ⟨loader, -, hget⟩ := List.exists_of_findSome?_eq_some ht
        exact h.cached hl _ (Table.mem_of_get? hget)
    · split
      · exact ⟨hl, unread_of_open? ‹_›⟩
      · rename_i path source hopen
        split
        · exact ⟨hl, nofun⟩
        · have hcompiled := h.held fuel (path :: underway) hl (holds_of_open? hopen) ih
          unfold AbidesAt at hcompiled
          split <;> rename_i heq <;> rw [heq] at hcompiled
          · exact hcompiled
          · refine ⟨?_, fun | _, rfl => hcompiled.2⟩
            split
            · exact hcompiled.1
            · exact h.insert hcompiled.1 hcompiled.2

theorem abidesAt_fromFile (hl : known l) (name : String) :
    AbidesAt V known l (fromFile name) T := by
  unfold AbidesAt
  cases hopen : l.open? none name with
  | error e =>
    rw [fromFile_eq, hopen]
    exact ⟨hl, unread_of_open? hopen⟩
  | ok opened =>
    obtain ⟨path, source⟩ := opened
    have hcompile : fromFile name l = compile path source l := by rw [fromFile_eq, hopen]
    rw [hcompile]
    exact h.held _ [path] hl (holds_of_open? hopen) (gives_link h _)

theorem abidesAt_load (hl : known l) (referrer : Option String) (name : String) :
    AbidesAt V known l (Library.load referrer name) T := by
  obtain ⟨hleft, hresult⟩ := gives_link h l.linkDepth name referrer [] l hl
  unfold Library.load AbidesAt
  rw [keeping_get_bind, keeping_bind]
  split <;> rename_i heq <;> rw [heq] at hresult
  · split
    · exact ⟨hleft, hresult _ rfl⟩
    · exact ⟨hleft, trivial⟩
  · exact ⟨hleft, hresult⟩

/-- A source that the set is handed is compiled to what its vocabulary allows. -/
theorem abidesAt_compile {W : Vocabulary} (hW : W.Wide) (hT : ∀ t, T t → W.Links t)
    (hunread : ∀ {p}, V.unread p → W.unread p) (hl : known l)
    (hsource : W.Covers l.settings.trimming name source) :
    AbidesAt W known l (compile name source) (Template.Within W) := by
  unfold compile AbidesAt
  rw [keeping_get_bind]
  exact abidesAt_compileWith hW h.toCounting [name] hl hsource ((gives_link h _).imp hT hunread)

/-- A set stays known also when it is handed a source that is not. -/
theorem known_of_compile (hl : known l) (name source : String) :
    known (compile name source l).2 := by
  have hany : Vocabulary.whole.Covers l.settings.trimming name source := by
    unfold Vocabulary.Covers
    split
    · exact fun _ _ => ⟨trivial, trivial⟩
    · rename_i hread
      obtain ⟨p, fault, rfl, -, -⟩ := Token.standsIn_of_tokenize_error hread
      trivial
  -- The source may say anything, so it is read in the whole vocabulary; what it links to is still
  -- loaded by a set that is known.
  exact (abidesAt_compile h wide_whole (fun t _ _ => t.within_whole) (fun _ => trivial) hl hany).1

/-- Whatever a set was asked for, it stays known. -/
theorem known_of_asked (hl : known l) {l' : Library} {w : Wording} (hasked : l.Asked w l') :
    known l' := by
  induction hasked with
  | refl => exact hl
  | compile _ _ ih => exact known_of_compile h ih _ _
  | fromFile name _ ih => exact (abidesAt_fromFile h ih name).1
  | load referrer name _ ih => exact (abidesAt_load h ih referrer name).1
  | clearCache _ ih => exact h.clear ih

end Stocking

/-! ### Vocabularies of sets -/

/-- A set that keeps and can load only what is within the vocabulary. -/
structure Library.Within (V : Vocabulary) (l : Library) : Prop where
  honest : ∀ tag t, l.catalog.tags.find? tag = some (.custom t) → t.Honest
  cache : ∀ e ∈ l.cache, e.2.Within V
  sources : ∀ name source, l.Holds name source → V.Covers l.settings.trimming name source

theorem counting_within : Counting (Library.Within V) where
  honest hl := hl.honest
  counts hl _ _ := { hl with }

/-- Sets within a vocabulary stay there. -/
theorem stocking_within (hV : V.Wide) : Stocking V (Library.Within V) (Template.Within V) where
  toCounting := counting_within
  cached hl := hl.cache
  insert hl ht := { hl with cache := Table.forall_mem_insert (p := Template.Within V) hl.cache ht }
  clear hl := { hl with cache := nofun }
  held _ underway hl hheld hlink :=
    abidesAt_compileWith hV counting_within underway hl (hl.sources _ _ hheld)
      (hlink.imp (fun _ ht _ => ht) id)

/-- A vocabulary without free links supplies the sets that are within it. -/
theorem supplied_within (hV : V.Wide) (hlinked : ∀ t, ¬V.linked t)
    (himported : ∀ m, ¬V.imported m) :
    V.Supplied (Library.Within V) where
  template {_ referrer name _} hl ht :=
    (abidesAt_load (stocking_within hV) hl referrer name).2.of_eq_ok ht
  error {_ referrer name _} hl he :=
    Error.Unread.within ((abidesAt_load (stocking_within hV) hl referrer name).2.of_eq_error he)
  left referrer name hl := (abidesAt_load (stocking_within hV) hl referrer name).1
  linked t ht := (hlinked t ht).elim
  imported m hm := (himported m hm).elim

end Sets

/-!
## The texts of a set

The texts that a set can come by are those that its loaders open and those that it is handed. They
make a vocabulary: something stands where a token of a text does, and reading a text fails at one of
its characters. Whatever the set is asked for stays within it, and so do the renders of its
templates.
-/

section Texts

/-! ### Texts by name -/

/-- The positions of the tokens of some texts, and all places in them. -/
def Vocabulary.ofTexts (o : Trimming) (texts : String → String → Prop) : Vocabulary where
  position p := ∃ source ts, texts p.template source ∧
    Token.tokenize o p.template source = .ok ts ∧ ∃ t ∈ ts, t.position = p
  unread p := ∃ source, texts p.template source ∧ p.StandsIn source

theorem wide_ofTexts (o : Trimming) (texts : String → String → Prop) :
    (Vocabulary.ofTexts o texts).Wide := ⟨fun _ => trivial, fun _ => trivial, trivial, nofun⟩

theorem covers_ofTexts {o : Trimming} {texts : String → String → Prop} {name source : String}
    (h : texts name source) : (Vocabulary.ofTexts o texts).Covers o name source := by
  unfold Vocabulary.Covers
  split <;> rename_i hread
  · intro t ht
    obtain ⟨hname, hplace⟩ := Token.standsIn_of_tokenize hread t ht
    exact ⟨⟨source, _, hname ▸ h, hname ▸ hread, t, ht, rfl⟩, source, hname ▸ h, hplace⟩
  · obtain ⟨p, fault, rfl, rfl, hplace⟩ := Token.standsIn_of_tokenize_error hread
    exact ⟨source, h, hplace⟩

/-- An error that is located stands in a text. -/
theorem Error.Within.standsIn {o : Trimming} {texts : String → String → Prop} {e : Error}
    (h : e.Within (.ofTexts o texts)) {p : Position} (hp : e.position? = some p) :
    ∃ source, texts p.template source ∧ p.StandsIn source := by
  cases e with
  | lex q fault =>
    cases hp
    exact h
  | parse q fault cause =>
    cases hp
    exact h
  | execution q fault cause =>
    obtain ⟨source, ts, htext, hread, t, ht, rfl⟩ := h p hp
    exact ⟨source, htext, (Token.standsIn_of_tokenize hread t ht).2⟩
  | _ => cases hp

/-! ### The texts of a set -/

/-- The texts that go by a name: those that were handed in under it, and those that a loader of the
set opens. -/
def Library.Texts (l : Library) (handed : String → String → Prop) (name source : String) : Prop :=
  handed name source ∨ l.Holds name source

/-- The places in the texts of a set. -/
def Library.places (l : Library) (handed : String → String → Prop) : Vocabulary :=
  .ofTexts l.settings.trimming (l.Texts handed)

open Library

theorem name_source_of_compile {l : Library} {name source : String} {t : Template}
    (h : (compile name source l).1 = .ok t) : t.name = name ∧ t.source = source := by
  unfold compile at h
  rw [keeping_get_bind] at h
  exact name_source_of_compileWith h

section Asked

variable {l l' : Library} {handed : String → String → Prop} {t : Template} {e : Error}
  (hhonest : ∀ e ∈ l.catalog.tags.entries, e.2.Honest) (hcache : l.cache = [])
include hhonest hcache

theorem guarded_of_fresh : l.Guarded := ⟨hhonest, fun hne => absurd hcache hne, hcache ▸ nofun⟩

theorem loads_bans_of_asked (h : l.Asked {} l') : l.Loads l.bans l' :=
  loads_of_asked (guarded_of_fresh hhonest hcache).admits hcache h

/-- A set that was asked for anything is within the places of its texts. -/
theorem within_places (h : l.Asked {} l') : l'.Within (l.places handed) :=
  known_of_asked (stocking_within (wide_ofTexts _ _))
    { honest := fun tag t ht => hhonest (tag, .custom t) (Table.mem_of_get? ht)
      cache := hcache ▸ nofun
      sources := fun _ _ h => covers_ofTexts (.inr h) } h

/-- What a text that was handed in is compiled to is within the places of the texts, and so is the
error if it cannot be compiled. -/
theorem abidesAt_handed (h : l.Asked {} l') {name source : String} (htext : handed name source) :
    AbidesAt (l.places handed) (Library.Within (l.places handed)) l' (compile name source)
      (Template.Within (l.places handed)) := by
  have hwide : (l.places handed).Wide := wide_ofTexts _ _
  refine abidesAt_compile (stocking_within hwide) hwide (fun _ ht _ => ht) id
    (within_places hhonest hcache h) ?_
  rw [(loads_bans_of_asked hhonest hcache h).settings]
  exact covers_ofTexts (.inl htext)

/-- The templates that a set gives are within the places of its texts. -/
theorem within_of_gives (h : l.Gives {} t) (ht : handed t.name t.source) :
    t.Within (l.places handed) := by
  have hstocking := stocking_within (wide_ofTexts l.settings.trimming (l.Texts handed))
  cases h with
  | @compile l' name source hasked _ hcompiled =>
    obtain ⟨rfl, rfl⟩ := name_source_of_compile hcompiled
    exact (abidesAt_handed hhonest hcache hasked ht).2.of_eq_ok hcompiled
  | fromFile hasked hcompiled =>
    exact (abidesAt_fromFile hstocking (within_places hhonest hcache hasked) _).2.of_eq_ok hcompiled
  | load hasked hcompiled =>
    exact (abidesAt_load hstocking (within_places hhonest hcache hasked) _ _).2.of_eq_ok hcompiled

/-- The renders of templates that a set gives end within the places of its texts, on data within
them. -/
theorem within_execute_of_gives (h : l.Gives {} t) (ht : handed t.name t.source)
    {set : Option Library} (hset : ∀ l' ∈ set, l.Asked {} l') {host : Host} (hmodest : host.Modest)
    (hhost : host.Within (l.places handed) (Library.Within (l.places handed)))
    (hglobals : Bindings.Within (l.places handed) l.globals) {context : Bindings}
    (hcontext : Bindings.Within (l.places handed) context) (out : Sink) :
    Ends (fun _ => True) (Halt.Within (l.places handed)) (t.execute host set context out).1 := by
  refine within_execute (supplied_within (wide_ofTexts _ _) (fun _ => id) fun _ => id) hmodest hhost
    (within_of_gives hhonest hcache h ht) (fun l' hl' => ?_) hcontext out
  have hasked := hset l' hl'
  exact ⟨within_places hhonest hcache hasked,
    (loads_bans_of_asked hhonest hcache hasked).globals ▸ hglobals⟩

end Asked

end Texts

end Stencil
