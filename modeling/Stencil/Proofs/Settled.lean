import Stencil.Proofs.Lookup
import Stencil.Proofs.Serial.Nodes

/-!
# Caches that hold what would be compiled

Where no template names itself, directly or through others, the cache of a set holds what would be
compiled anew, but for serial numbers, whatever the set was asked for before (`decided`). So the
cache changes nothing about what loading gives (`load_settled`, `fromFile_settled`). With debugging
on it has no part in that anyway (`fromFile_resembles`).
-/

namespace Stencil

namespace Library

/-- What a name leads to does not depend on the template that names it. -/
def Detached (l : Library) : Prop :=
  ∀ loader ∈ l.loaders, ∀ referrer name, loader.resolve referrer name = loader.resolve none name

/-- Paths have ranks, and what the names in a template lead to has a lower rank than the
template. -/
def Ranked (l : Library) (rank : String → Nat) : Prop :=
  ∀ name path source tokens other path' source', l.open? none name = .ok (path, source) →
    Token.tokenize l.settings.trimming path source = .ok tokens → other ∈ quoted tokens →
    l.open? none other = .ok (path', source') → rank path' < rank path

/-- A set without a cache, with built-in filters and tags only, in which every path has one meaning
and no template names itself, directly or through others. `enough` says how deep links have to be
followed while templates are being compiled. -/
structure Orderly (l : Library) (rank : String → Nat) (enough : Nat → List String → Prop) :
    Prop where
  builtin : l.catalog.Builtin
  cache : l.cache = []
  detached : l.Detached
  coherent : l.Coherent
  ranked : l.Ranked rank
  depth : ∀ underway, enough l.linkDepth underway
  zero : ∀ underway, ¬enough 0 underway
  step : ∀ fuel underway name path source, enough (fuel + 1) underway →
    l.open? none name = .ok (path, source) → (∀ p ∈ underway, rank path < rank p) →
    enough fuel (path :: underway)

/-- What loading gives for what a name leads to. -/
def finished (name : String) : Option Template → Except Halt Template
  | some t => .ok t
  | none => .error (.error (.loader name .unfinished))

/-- What the set gives for a name, but for serial numbers. -/
def answer (l : Library) (name : String) : Except Halt (Option Template) :=
  (link l.linkDepth name none [] l).1.map (Option.map Template.unnumbered)

/-- The set `l'` resembles the set `l`, and it has in its cache what the set `l` would give for
every name that leads there. -/
structure Settled (l l' : Library) : Prop extends l.Resembles l' where
  cache : ∀ e ∈ l'.cache, ∀ loader ∈ l.loaders, ∀ name, loader.resolve none name = e.1 →
    l.answer name = .ok (some e.2.unnumbered)

/-- The answers of the set to the names in a source. -/
def answers (l : Library) (path source : String) : Answers where
  name other := ∃ tokens, Token.tokenize l.settings.trimming path source = .ok tokens ∧
    other ∈ quoted tokens
  answer := l.answer
  keeps := l.Settled
  library := l

/-- In a settled set the name leads to the answer of the set, however deep links are followed and
whatever templates of higher rank are being compiled. -/
def Decided (l : Library) (rank : String → Nat) (enough : Nat → List String → Prop)
    (name : String) : Prop :=
  ∀ fuel referrer underway l', l.Settled l' → enough fuel underway →
    (∀ path source, l.open? none name = .ok (path, source) → ∀ p ∈ underway, rank path < rank p) →
      l.Settled (link fuel name referrer underway l').2 ∧
        (link fuel name referrer underway l').1.map (Option.map Template.unnumbered) =
          l.answer name

end Library

open Library

variable {l l' : Library} {name path source : String}

/-! ## Settled sets -/

namespace Library.Settled

theorem refl (h : l.cache = []) : l.Settled l := ⟨.refl l, h ▸ nofun⟩

theorem fits (h : l.Settled l') (path source : String) : l'.Fits (l.answers path source) where
  settings := h.settings
  catalog := h.catalog
  begin := { h with }
  count _ hl' _ := { hl' with }
  kept _ hl' := hl'.settings

end Library.Settled

/-- Detached sets open the same whoever names it. -/
theorem Library.Detached.open?_eq (hl : l.Detached) (referrer : Option String) (name : String) :
    l.open? referrer name = l.open? none name := by
  have hgo (loaders : List Loader) (hloaders : ∀ loader ∈ loaders, loader ∈ l.loaders)
      (failure : Except Error (String × String)) :
      open?.go l referrer name failure loaders = open?.go l none name failure loaders := by
    induction loaders generalizing failure with
    | nil => rfl
    | cons loader rest ih =>
      obtain ⟨hloader, hrest⟩ := List.forall_mem_cons.mp hloaders
      unfold open?.go
      rw [hl loader hloader referrer]
      dsimp only
      split
      · rfl
      · exact ih hrest _
  exact hgo l.loaders (fun _ h => h) _

theorem cached?_eq_none (h : l.cache = []) (referrer : Option String) (name : String) :
    l.cached? referrer name = none := by
  unfold cached?
  rw [h]
  exact List.findSome?_eq_none_iff.mpr fun _ _ => rfl

/-- What is cached for a name is its answer. -/
theorem Library.Settled.answer_of_cached? (h : l.Settled l') (hl : l.Detached)
    {referrer : Option String} {t : Template} (ht : l'.cached? referrer name = some t) :
    l.answer name = .ok (some t.unnumbered) := by
  obtain ⟨loader, hloader, hget⟩ := List.exists_of_findSome?_eq_some ht
  have hloader : loader ∈ l.loaders := h.loaders ▸ hloader
  exact h.cache _ (Table.mem_of_get? hget) loader hloader name
    (hl loader hloader referrer name).symm

/-- A set that keeps nothing follows a name to its source. -/
theorem answer_eq {fuel : Nat} (hcache : l.cache = []) (hfuel : l.linkDepth = fuel + 1)
    (name : String) :
    l.answer name =
      match l.open? none name with
      | .error e => .error (.error e)
      | .ok (path, source) =>
        (compileWith (link fuel) path source [path] l).1.map fun t => some t.unnumbered := by
  unfold answer
  rw [hfuel, link_succ, cached?_eq_none hcache, ite_self]
  dsimp only
  cases l.open? none name with
  | error e => rfl
  | ok opened =>
    obtain ⟨path, source⟩ := opened
    dsimp only
    rw [if_neg List.not_mem_nil]
    rcases compileWith (link fuel) path source [path] l with ⟨_ | t, l'⟩ <;> rfl

theorem load_eq (referrer : Option String) (name : String) (l : Library) :
    Library.load referrer name l =
      ((link l.linkDepth name referrer [] l).1 >>= finished name,
        (link l.linkDepth name referrer [] l).2) := by
  unfold Library.load
  rw [keeping_get_bind, keeping_bind]
  rcases link l.linkDepth name referrer [] l with ⟨_ | ⟨_ | t⟩, l'⟩ <;> rfl

/-! ## Links -/

section Links

variable {rank : String → Nat} {enough : Nat → List String → Prop} (hl : l.Orderly rank enough)
include hl

theorem Library.Orderly.exists_depth : ∃ fuel, l.linkDepth = fuel + 1 := by
  refine Nat.exists_eq_succ_of_ne_zero fun hzero => ?_
  exact hl.zero [] (hzero ▸ hl.depth [])

/-- Two names that lead to the same source have the same answer. -/
theorem answer_congr {name' : String} (h : l.open? none name = l.open? none name') :
    l.answer name = l.answer name' := by
  obtain ⟨fuel, hfuel⟩ := hl.exists_depth
  rw [answer_eq hl.cache hfuel, answer_eq hl.cache hfuel, h]

theorem Library.Settled.keep (h : l.Settled l') (hopen : l.open? none name = .ok (path, source))
    {t : Template} (ht : l.answer name = .ok (some t.unnumbered)) :
    l.Settled { l' with cache := l'.cache.insert path t } where
  settings := h.settings
  catalog := h.catalog
  loaders := h.loaders
  disk := h.disk
  cache e he loader hloader other hother := by
    rcases Table.mem_of_mem_insert he with rfl | he
    · have hsame := hl.coherent none name path source hopen none other loader hloader hother
      exact (answer_congr hl (hsame.trans hopen.symm)).trans ht
    · exact h.cache e he loader hloader other hother

/-- If the names in it are decided, a template is compiled as if they all had the answers of the
set.
-/
theorem compileWith_settled
    (hnames : ∀ other, (l.answers path source).name other → l.Decided rank enough other)
    (hopen : l.open? none name = .ok (path, source)) (hl' : l.Settled l') {fuel : Nat}
    {underway : List String} (hfuel : enough fuel (path :: underway))
    (hunderway : ∀ p ∈ underway, rank path < rank p) :
    l.Settled (compileWith (link fuel) path source (path :: underway) l').2 ∧
      (compileWith (link fuel) path source (path :: underway) l').1.map Template.unnumbered =
        (l.answers path source).template path source := by
  refine compileWith_answers (hl'.fits path source)
    ⟨fun name ref href => ?_, fun other hother => ?_⟩
    fun tokens htokens s hs => ⟨tokens, htokens, hs⟩
  · obtain ⟨t, ht, -⟩ := hl.builtin.tags name ref (hl'.catalog ▸ href)
    exact ⟨t, ht⟩
  · obtain ⟨tokens, htokens, hquoted⟩ := hother
    refine fun l'' hl'' =>
      hnames other ⟨tokens, htokens, hquoted⟩ fuel (some path) _ l'' hl'' hfuel ?_
    intro path' source' hopen'
    have hless := hl.ranked name path source tokens other path' source' hopen htokens hquoted hopen'
    exact List.forall_mem_cons.mpr ⟨hless, fun p hp => Nat.lt_trans hless (hunderway p hp)⟩

theorem answer_eq_template
    (hnames : ∀ other, (l.answers path source).name other → l.Decided rank enough other)
    (hopen : l.open? none name = .ok (path, source)) :
    l.answer name = ((l.answers path source).template path source).map some := by
  obtain ⟨fuel, hfuel⟩ := hl.exists_depth
  have henough : enough fuel [path] :=
    hl.step fuel [] name path source (hfuel ▸ hl.depth []) hopen (List.forall_mem_nil _)
  rw [answer_eq hl.cache hfuel, hopen, ← (compileWith_settled hl hnames hopen (.refl hl.cache)
    henough (List.forall_mem_nil _)).2]
  dsimp only
  rcases compileWith (link fuel) path source [path] l with ⟨_ | t, l'⟩ <;> rfl

/-- A name is decided if it leads nowhere, or to a template in which all names are. -/
theorem decided_of_names
    (hnames : ∀ path source, l.open? none name = .ok (path, source) →
      ∀ other, (l.answers path source).name other → l.Decided rank enough other) :
    l.Decided rank enough name := by
  intro fuel referrer underway l' hl' henough hunderway
  cases fuel with
  | zero => exact absurd henough (hl.zero underway)
  | succ fuel =>
    rw [link_succ, hl'.toResembles.open?_eq, hl.detached.open?_eq referrer]
    split
    · rename_i t ht
      have hcached : l'.cached? referrer name = some t := by
        split at ht
        · cases ht
        · exact ht
      exact ⟨hl', (hl'.answer_of_cached? hl.detached hcached).symm⟩
    · cases hopen : l.open? none name with
      | error e =>
        obtain ⟨depth, hdepth⟩ := hl.exists_depth
        have hanswer := answer_eq hl.cache hdepth name
        rw [hopen] at hanswer
        exact ⟨hl', hanswer.symm⟩
      | ok opened =>
        obtain ⟨path, source⟩ := opened
        have hless := hunderway path source hopen
        have hnew : path ∉ underway := fun h => Nat.lt_irrefl _ (hless path h)
        have henough' := hl.step fuel underway name path source henough hopen hless
        have hanswer := answer_eq_template hl (hnames path source hopen) hopen
        obtain ⟨hleft, htemplate⟩ :=
          compileWith_settled hl (hnames path source hopen) hopen hl' henough' hless
        rw [← htemplate] at hanswer
        dsimp only
        rw [if_neg hnew]
        generalize compileWith (link fuel) path source (path :: underway) l' = out
          at hleft hanswer ⊢
        rcases out with ⟨h | t, l''⟩
        · exact ⟨hleft, hanswer.symm⟩
        · refine ⟨?_, hanswer.symm⟩
          dsimp only
          split
          · exact hleft
          · exact hleft.keep hl hopen hanswer

/-- What holds for a name as soon as it holds for the names in what that leads to holds for every
name. -/
theorem forall_name_of_names {P : String → Prop}
    (hnames : ∀ name, (∀ path source, l.open? none name = .ok (path, source) →
      ∀ other, (l.answers path source).name other → P other) → P name) (name : String) :
        P name := by
  -- The induction is on the rank of what the name leads to; names in that lead to lower ranks.
  have hbelow (n : Nat) (name : String)
      (hrank : ∀ path source, l.open? none name = .ok (path, source) → rank path < n) : P name := by
    induction n generalizing name with
    | zero => exact hnames name fun path source hopen => absurd (hrank path source hopen) (by simp)
    | succ n ih =>
      refine hnames name fun path source hopen other ⟨tokens, htokens, hquoted⟩ => ?_
      refine ih other fun path' source' hopen' => ?_
      have hless := hl.ranked name path source tokens other path' source' hopen htokens
        hquoted hopen'
      exact Nat.lt_of_lt_of_le hless (Nat.le_of_lt_succ (hrank path source hopen))
  refine hnames name fun path source hopen other ⟨tokens, htokens, hquoted⟩ => ?_
  exact hbelow (rank path) other fun path' source' =>
    hl.ranked name path source tokens other path' source' hopen htokens hquoted

/-- Every name is decided. -/
theorem decided (name : String) : l.Decided rank enough name :=
  forall_name_of_names hl (fun _ => decided_of_names hl) name

/-! ## Requests -/

theorem load_settled (referrer : Option String) (name : String) (hl' : l.Settled l') :
    l.Settled (Library.load referrer name l').2 ∧
      (Library.load referrer name l').1.map Template.unnumbered =
        l.answer name >>= Library.finished name := by
  obtain ⟨hleft, hanswer⟩ := decided hl name l'.linkDepth referrer [] l' hl'
    (hl'.toResembles.linkDepth_eq ▸ hl.depth []) fun _ _ _ => List.forall_mem_nil _
  rw [load_eq, ← hanswer]
  refine ⟨hleft, ?_⟩
  rcases (link l'.linkDepth name referrer [] l').1 with _ | ⟨_ | t⟩ <;> rfl

theorem fromFile_settled (name : String) (hl' : l.Settled l') :
    l.Settled (fromFile name l').2 ∧
      (fromFile name l').1.map Template.unnumbered =
      (fromFile name l).1.map Template.unnumbered := by
  have hcompiled {l'' : Library} (hl'' : l.Settled l'') {path source : String}
      (hopen : l.open? none name = .ok (path, source)) :=
    compileWith_settled hl (fun other _ => decided hl other) hopen hl''
      (hl.depth [path]) (List.forall_mem_nil _)
  unfold fromFile
  rw [keeping_get_bind, keeping_get_bind, hl'.toResembles.open?_eq, hl'.toResembles.linkDepth_eq,
    keeping_ofExcept_bind, keeping_ofExcept_bind]
  cases hopen : l.open? none name with
  | error e => exact ⟨hl', rfl⟩
  | ok opened =>
    obtain ⟨path, source⟩ := opened
    obtain ⟨hleft, hresult⟩ := hcompiled hl' hopen
    exact ⟨hleft, hresult.trans (hcompiled (.refl hl.cache) hopen).2.symm⟩

end Links

/-! ## Sets that keep nothing

With debugging on, the cache is neither asked nor filled. -/

section Debug

variable (hbuiltin : l.catalog.Builtin) (hdebug : l.settings.debug = true)
include hbuiltin hdebug

/-- The answers of the set to the names in the template at `path`, where links are followed `fuel`
deep and the templates `underway` are being compiled. -/
def Library.answersNow (l : Library) (fuel : Nat) (path : String) (underway : List String) :
    Answers where
  name _ := True
  answer other :=
    (link fuel other (some path) underway l).1.map (Option.map Template.unnumbered)
  keeps := l.Resembles
  library := l

omit hdebug in
theorem compileWith_resembles (path source : String) {fuel : Nat} {underway : List String}
    (hlink : ∀ other l', l.Resembles l' →
      l.Resembles (link fuel other (some path) underway l').2 ∧
        (link fuel other (some path) underway l').1.map (Option.map Template.unnumbered) =
          (link fuel other (some path) underway l).1.map (Option.map Template.unnumbered))
    (hl' : l.Resembles l') :
    l.Resembles (compileWith (link fuel) path source underway l').2 ∧
      (compileWith (link fuel) path source underway l').1.map Template.unnumbered =
        (l.answersNow fuel path underway).template path source := by
  have hfits : l'.Fits (l.answersNow fuel path underway) :=
    ⟨hl'.settings, hl'.catalog, { hl' with }, fun _ h _ => { h with }, fun _ h => h.settings⟩
  refine compileWith_answers hfits ⟨fun name ref href => ?_, fun other _ l'' hl'' => ?_⟩
    fun _ _ _ _ => trivial
  · obtain ⟨t, ht, -⟩ := hbuiltin.tags name ref (hl'.catalog ▸ href)
    exact ⟨t, ht⟩
  · exact hlink other l'' hl''

theorem link_resembles (fuel : Nat) (name : String) (referrer : Option String)
    (underway : List String) (hl' : l.Resembles l') :
    l.Resembles (link fuel name referrer underway l').2 ∧
      (link fuel name referrer underway l').1.map (Option.map Template.unnumbered) =
        (link fuel name referrer underway l).1.map (Option.map Template.unnumbered) := by
  induction fuel generalizing name referrer underway l' with
  | zero => exact ⟨hl', rfl⟩
  | succ fuel ih =>
    have hdebug' : l'.settings.debug = true := hl'.settings ▸ hdebug
    rw [link_succ, link_succ, hdebug, hdebug', if_pos rfl, if_pos rfl, hl'.open?_eq]
    dsimp only
    cases l.open? referrer name with
    | error e => exact ⟨hl', rfl⟩
    | ok opened =>
      obtain ⟨path, source⟩ := opened
      dsimp only
      split
      · exact ⟨hl', rfl⟩
      · have hlink (other : String) (l' : Library) (hl' : l.Resembles l') :=
          ih other (some path) (path :: underway) hl'
        obtain ⟨hleft, hresult⟩ := compileWith_resembles hbuiltin path source hlink hl'
        have hfresh := (compileWith_resembles hbuiltin path source hlink (.refl l)).2
        rw [← hfresh] at hresult
        generalize compileWith (link fuel) path source (path :: underway) l' = out
          at hleft hresult ⊢
        generalize compileWith (link fuel) path source (path :: underway) l = out' at hresult ⊢
        rcases out with ⟨_ | t, m⟩ <;> rcases out' with ⟨_ | t', m'⟩
        · cases hresult
          exact ⟨hleft, rfl⟩
        · cases hresult
        · cases hresult
        · exact ⟨hleft, congrArg (fun t => Except.ok (some t)) (Except.ok.inj hresult)⟩

/-- With debugging on, a file is compiled as if nothing had been loaded before. -/
theorem fromFile_resembles (name : String) (hl' : l.Resembles l') :
    l.Resembles (fromFile name l').2 ∧
      (fromFile name l').1.map Template.unnumbered =
      (fromFile name l).1.map Template.unnumbered := by
  have hcompiled {l'' : Library} (hl'' : l.Resembles l'') (path source : String) :=
    compileWith_resembles hbuiltin path source
      (fun other _ h => link_resembles hbuiltin hdebug l.linkDepth other (some path) [path] h) hl''
  unfold fromFile
  rw [keeping_get_bind, keeping_get_bind, hl'.open?_eq, hl'.linkDepth_eq, keeping_ofExcept_bind,
    keeping_ofExcept_bind]
  cases l.open? none name with
  | error e => exact ⟨hl', rfl⟩
  | ok opened =>
    obtain ⟨path, source⟩ := opened
    obtain ⟨hleft, hresult⟩ := hcompiled hl' path source
    exact ⟨hleft, hresult.trans (hcompiled (.refl l) path source).2.symm⟩

end Debug

end Stencil
