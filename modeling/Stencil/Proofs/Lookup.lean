import Stencil.Proofs.Reading.Asked
import Stencil.Proofs.Sandbox

/-!
# The cache and the loaders

The cache is kept by path and asked before any loader opens anything. So a cached template is the
one that the loaders would open as long as a path that is opened for one request is what any other
request opens that leads a loader there. Loaders from memory are like that, and so is a loader on
its own; several directories need not be.
-/

namespace Stencil

/-- What a set opens for one request it opens for every request that leads one of its loaders to the
same path. -/
def Library.Coherent (l : Library) : Prop :=
  ∀ referrer name path source, l.open? referrer name = .ok (path, source) →
    ∀ referrer' name', ∀ loader ∈ l.loaders, loader.resolve referrer' name' = path →
      l.open? referrer' name' = .ok (path, source)

/-- An entry of a cache whose source the set opens, for some request, under the path at which the
entry is kept. -/
def Library.Opens (l : Library) (entry : String × Template) : Prop :=
  entry.2.name = entry.1 ∧ ∃ referrer name, l.open? referrer name = .ok (entry.1, entry.2.source)

/-- The sets `l` and `l'` differ at most in their values, in their caches and in how often they
compiled. -/
structure Library.Resembles (l l' : Library) : Prop where
  settings : l'.settings = l.settings
  catalog : l'.catalog = l.catalog
  loaders : l'.loaders = l.loaders
  disk : l'.disk = l.disk

open Library

variable {l l' : Library}

/-! ## Sets that open the same -/

namespace Library.Resembles

theorem refl (l : Library) : l.Resembles l := ⟨rfl, rfl, rfl, rfl⟩

theorem linkDepth_eq (h : l.Resembles l') : l'.linkDepth = l.linkDepth := by
  unfold linkDepth
  rw [h.loaders]

theorem open?_eq (h : l.Resembles l') (referrer : Option String) (name : String) :
    l'.open? referrer name = l.open? referrer name := open?_congr h.loaders h.disk referrer name

end Library.Resembles

/-! ## What compilations keep -/

theorem name_source_of_compileWith {link : Linker} {name source : String} {underway : List String}
    {t : Template} (h : (compileWith link name source underway l).1 = .ok t) :
    t.name = name ∧ t.source = source := by
  rw [compileWith_eq] at h
  split at h
  · cases h
  · dsimp only at h
    generalize Node.readAll _ _ _ _ _ = out at h
    rcases out with ⟨_ | nodes, draft⟩ <;> cases h
    exact ⟨rfl, rfl⟩

section Loads

variable (hl : l.Guarded)
include hl

/-- A compilation keeps what its links keep. -/
theorem opens_compileWith {link : Linker} {name source : String} {underway : List String}
    (hl' : l.Loads l.bans l') (hopens : ∀ e ∈ l'.cache, l.Opens e)
    (hlink : ∀ other l'', l.Loads l.bans l'' → (∀ e ∈ l''.cache, l.Opens e) →
      LoadsAt l.bans (fun _ => True) l'' (link other (some name) underway)
        (fun found => ∀ t ∈ found, t.Obeys l.bans) ∧
      ∀ e ∈ (link other (some name) underway l'').2.cache, l.Opens e) :
    ∀ e ∈ (compileWith link name source underway l').2.cache, l.Opens e := by
  have hadmits := hl'.admits hl.admits
  rw [compileWith_eq]
  split
  · exact hopens
  · rename_i tokens _
    dsimp only
    generalize hout : Node.readAll _ _ _ _ _ = out
    let g : Regime := ⟨{}, l.bans, out.2.blocks,
      fun l'' => l.Loads l.bans l'' ∧ ∀ e ∈ l''.cache, l.Opens e, fun _ => True⟩
    have hscope : DraftScope.Keeps g ⟨name, l'.catalog, l'.settings,
        fun other => link other (some name) underway⟩ := by
      refine ⟨hadmits.catalog, hadmits.wording, hadmits.nesting, fun _ _ => trivial,
        fun _ => trivial, fun other l'' hl'' => ?_⟩
      obtain ⟨hloads, hcache⟩ := hlink other l'' hl''.1 hl''.2
      exact ⟨⟨hl''.1.trans hloads.1, hcache⟩, hloads.2⟩
    have hfits : Wording.Fits {} tokens :=
      ⟨fun _ _ => trivial, fun _ _ => trivial, fun _ _ _ => trivial⟩
    have hread := (reads_all (P := True) hscope _ hadmits.nesting (tokens.length + 1) [] nofun
      { tokens, library := { l' with compiledAny := true } }).2 trivial
      ⟨hfits, nofun, nofun, nofun, hl'.trans (.begin hl'.cache), hopens⟩
    rw [hout] at hread
    exact (hread (List.Subset.refl _)).1.library.2

/-- What names lead to was opened where they lead, and so was all that is kept on the way. -/
theorem opens_link (fuel : Nat) (name : String) (referrer : Option String)
    (underway : List String) (hl' : l.Loads l.bans l') (hopens : ∀ e ∈ l'.cache, l.Opens e) :
    ∀ e ∈ (link fuel name referrer underway l').2.cache, l.Opens e := by
  induction fuel generalizing name referrer underway l' with
  | zero => exact hopens
  | succ fuel ih =>
    rw [link_succ, hl'.open?_eq]
    split
    · exact hopens
    · split
      · exact hopens
      · rename_i path source hopen
        split
        · exact hopens
        · have hcompiled : ∀ e ∈ (compileWith (link fuel) path source
            (path :: underway) l').2.cache,
              l.Opens e := opens_compileWith hl hl' hopens fun other l'' hl'' hopens'' =>
            ⟨loadsAt_link (fun _ => trivial) (D := fun _ _ => True) hl.admits (fun _ _ => trivial)
              (fun _ _ _ _ _ _ _ _ _ => trivial) fuel other (some path) _ trivial l'' hl'',
              ih other (some path) (path :: underway) hl'' hopens''⟩
          generalize hrun : compileWith (link fuel) path source (path :: underway) l' = run
            at hcompiled
          rcases run with ⟨_ | t, l''⟩
          · exact hcompiled
          · have hnames := name_source_of_compileWith (congrArg Prod.fst hrun)
            dsimp only
            split
            · exact hcompiled
            · intro e he
              rcases Table.mem_of_mem_insert he with rfl | he
              · exact ⟨hnames.1, referrer, name, hnames.2 ▸ hopen⟩
              · exact hcompiled e he

/-- A template that is compiled keeps what its links keep. -/
theorem opens_compileWith_link {fuel : Nat} {name source : String} {underway : List String}
    (hl' : l.Loads l.bans l') (hopens : ∀ e ∈ l'.cache, l.Opens e) :
    ∀ e ∈ (compileWith (link fuel) name source underway l').2.cache, l.Opens e :=
  opens_compileWith hl hl' hopens fun other l'' hl'' hopens'' =>
    ⟨loadsAt_link (fun _ => trivial) (D := fun _ _ => True) hl.admits (fun _ _ => trivial)
      (fun _ _ _ _ _ _ _ _ _ => trivial) fuel other (some name) _ trivial l'' hl'',
      opens_link hl fuel other (some name) underway hl'' hopens''⟩

/-- Whatever a set was asked for, it keeps only what it opens. -/
theorem opens_of_asked (hcache : l.cache = []) (h : l.Asked {} l') :
    ∀ e ∈ l'.cache, l.Opens e := by
  induction h with
  | refl =>
    rw [hcache]
    nofun
  | @compile l' name source h _ ih =>
    unfold Library.compile
    rw [keeping_get_bind]
    exact opens_compileWith_link hl (loads_of_asked hl.admits hcache h) ih
  | @fromFile l' name h ih =>
    have hl' := loads_of_asked hl.admits hcache h
    unfold Library.fromFile
    rw [keeping_get_bind, keeping_ofExcept_bind]
    split
    · exact opens_compileWith_link hl hl' ih
    · exact ih
  | @load l' referrer name h ih =>
    have hlink := opens_link hl l'.linkDepth name referrer []
      (loads_of_asked hl.admits hcache h) ih
    unfold Library.load
    rw [keeping_get_bind, keeping_bind]
    split
    · split <;> exact hlink
    · exact hlink
  | clearCache => nofun

end Loads

/-! ## Renders -/

/-- A host whose functions leave the set alone. -/
def Host.LeavesSet (host : Host) : Prop :=
  ∀ key data args (s : State), (host.function key data args s).2.set = s.set

/-- What holds for a set whatever is loaded holds for it after a render. -/
theorem set_execute {host : Host} (hhost : host.LeavesSet) {P : Library → Prop}
    (hload : ∀ l referrer name, P l → P (Library.load referrer name l).2) (t : Template)
    (hl : P l) (context : Bindings) (out : Sink) :
    ∃ l', (t.execute host (some l) context out).2.set = some l' ∧ P l' := by
  have hrespected : Respected host fun s s' =>
      ∀ l, s.set = some l → P l → ∃ l', s'.set = some l' ∧ P l' :=
    { refl := fun s l hl h => ⟨l, hl, h⟩
      trans := fun hst htu l hl h => by
        obtain ⟨l', hl', h'⟩ := hst l hl h
        exact htu l' hl' h'
      bind := fun s name v l hl h => by
        refine ⟨l, ?_, h⟩
        unfold State.bind
        split <;> exact hl
      output := fun s out l hl h => ⟨l, hl, h⟩
      load := fun s l₀ referrer name hset l hl h => by
        cases hset.symm.trans hl
        exact ⟨_, rfl, hload _ referrer name h⟩
      function := fun key data args s l hl h => ⟨l, (hhost key data args s).trans hl, h⟩
      inScope := fun _ h => h
      isolated := fun _ h => h
      autoescape := fun _ h => h
      deeper := fun h => h
      chain := fun _ h => h
      block := fun _ h => h }
  exact keeps_execute hrespected t (some l) context out l rfl hl

/-- A render only asks the set for templates. -/
theorem asked_execute {host : Host} (hhost : host.LeavesSet) {w : Wording} (t : Template)
    (h : l.Asked w l') (context : Bindings) (out : Sink) :
    ∃ l'', (t.execute host (some l') context out).2.set = some l'' ∧ l.Asked w l'' :=
  set_execute hhost (fun _ referrer name h => h.load referrer name) t h context out

/-! ## Requests -/

/-- What a cached template was compiled from is what the loaders open for the request. -/
theorem open?_of_cached? (hcoherent : l.Coherent) (hloaders : l'.loaders = l.loaders)
    (hopens : ∀ e ∈ l'.cache, l.Opens e) {referrer : Option String} {name : String} {t : Template}
    (ht : l'.cached? referrer name = some t) :
    l.open? referrer name = .ok (t.name, t.source) := by
  obtain ⟨loader, hloader, hget⟩ := List.exists_of_findSome?_eq_some ht
  obtain ⟨hname, referrer', name', hopen⟩ := hopens _ (Table.mem_of_get? hget)
  rw [show t.name = loader.resolve referrer name from hname]
  exact hcoherent referrer' name' _ _ hopen referrer name loader (hloaders ▸ hloader) rfl

/-- If a set is coherent then, whatever it was asked for before, a request gives a template that was
compiled from what the loaders open for it: from the cache, in a link and when it is loaded. -/
theorem open?_of_asked (hhonest : ∀ e ∈ l.catalog.tags.entries, e.2.Honest) (hcache : l.cache = [])
    (hcoherent : l.Coherent) (h : l.Asked {} l') (referrer : Option String) (name : String)
    (t : Template) :
    (l'.cached? referrer name = some t → l.open? referrer name = .ok (t.name, t.source)) ∧
    (∀ fuel underway, (link fuel name referrer underway l').1 = .ok (some t) →
      l.open? referrer name = .ok (t.name, t.source)) ∧
    ((Library.load referrer name l').1 = .ok t →
      l.open? referrer name = .ok (t.name, t.source)) := by
  have hl : l.Guarded := ⟨hhonest, fun hne => absurd hcache hne, hcache ▸ nofun⟩
  have hl' := loads_of_asked hl.admits hcache h
  have hopens := opens_of_asked hl hcache h
  have hcached : l'.cached? referrer name = some t →
      l.open? referrer name = .ok (t.name, t.source) :=
    open?_of_cached? hcoherent hl'.loaders hopens
  have hlink fuel underway (ht : (link fuel name referrer underway l').1 = .ok (some t)) :
      l.open? referrer name = .ok (t.name, t.source) := by
    cases fuel with
    | zero => cases ht
    | succ fuel =>
      rw [link_succ, hl'.open?_eq] at ht
      split at ht
      · rename_i found hfound
        cases ht
        split at hfound
        · cases hfound
        · exact hcached hfound
      · split at ht
        · cases ht
        · rename_i hopen
          split at ht
          · cases ht
          · split at ht <;> cases ht
            rename_i hcompiled
            obtain ⟨hname, hsource⟩ := name_source_of_compileWith (congrArg Prod.fst hcompiled)
            rw [hopen, hname, hsource]
  refine ⟨hcached, hlink, fun ht => ?_⟩
  unfold Library.load at ht
  rw [keeping_get_bind, keeping_bind] at ht
  split at ht
  · rename_i found hfound
    cases found with
    | none => cases ht
    | some found =>
      cases ht
      exact hlink _ _ hfound
  · cases ht

/-! ## Coherent sets -/

/-- From memory, a template is found whoever names it. -/
theorem Library.InMemory.open?_eq (hl : l.InMemory) (referrer referrer' : Option String)
    (name : String) : l.open? referrer name = l.open? referrer' name := by
  have hgo (loaders : List Loader) (hloaders : ∀ loader ∈ loaders, ∃ templates,
      loader = .memory templates) (failure : Except Error (String × String)) :
      open?.go l referrer name failure loaders = open?.go l referrer' name failure loaders := by
    induction loaders generalizing failure with
    | nil => rfl
    | cons loader rest ih =>
      obtain ⟨⟨templates, rfl⟩, hrest⟩ := List.forall_mem_cons.mp hloaders
      unfold open?.go
      dsimp only [Loader.resolve]
      split
      · rfl
      · exact ih hrest _
  exact hgo l.loaders hl _

/-- A set that loads from memory only is coherent. -/
theorem Library.InMemory.coherent (hl : l.InMemory) : l.Coherent := by
  intro referrer name path source hopen referrer' name' loader hloader hresolve
  obtain ⟨templates, rfl⟩ := hl loader hloader
  obtain ⟨rfl, -⟩ := hl.of_open? hopen
  obtain rfl : name' = path := hresolve
  rw [hl.open?_eq referrer' referrer, hopen]

/-- A set with one loader is coherent. -/
theorem coherent_singleton {loader : Loader} (hl : l.loaders = [loader]) : l.Coherent := by
  intro referrer name path source h referrer' name' loader' hloader hresolve
  rw [hl, List.mem_singleton] at hloader
  subst hloader
  obtain ⟨_, hloader, hresolve', hopen⟩ := exists_loader_of_open? h
  rw [hl, List.mem_singleton] at hloader
  subst hloader
  unfold open?
  rw [hl]
  unfold open?.go
  dsimp only
  rw [hresolve, hopen]

/-- A set that was asked for a template in memory before it is asked for another one that names it.
-/
def shelf : Library :=
  .new {} "set" [.memory [("page", "\x7b% include \"part\" %\x7d"), ("part", "old")],
    .memory [("part", "new")]]

theorem open?_of_asked_shelf :
    ∃ t, (Library.load (some "page") "part" (Library.load none "page" shelf).2).1 = .ok t ∧
      shelf.open? (some "page") "part" = .ok (t.name, t.source) := by
  have hloads :
      (Library.load (some "page") "part" (Library.load none "page" shelf).2).1.isOk = true := by
    decide +kernel
  cases ht : (Library.load (some "page") "part" (Library.load none "page" shelf).2).1 with
  | error h =>
    rw [ht] at hloads
    cases hloads
  | ok t =>
    have hmemory : shelf.InMemory := by
      intro loader hloader
      rcases List.mem_cons.mp hloader with rfl | hloader
      · exact ⟨_, rfl⟩
      · exact ⟨_, List.mem_singleton.mp hloader⟩
    exact ⟨t, rfl, (open?_of_asked honest_builtin rfl hmemory.coherent
      (.load none "page" .refl) (some "page") "part" t).2.2 ht⟩

/-- A set with two directories, one inside the other. -/
def directories : Library :=
  .new
    { root := [("t", .directory
        [("x", .file "first".toUTF8), ("sub", .directory [("x", .file "second".toUTF8)])])] }
    "set" [.files (some "t"), .files (some "t/sub")]

theorem not_open?_of_asked_directories :
    directories.Asked {} (Library.load none "sub/x" directories).2 ∧
      (Library.load none "x" (Library.load none "sub/x" directories).2).1.toOption.map (·.source) =
        some "second" ∧
      (directories.open? none "x").toOption = some ("t/x", "first") :=
  ⟨.load none "sub/x" .refl, by decide +kernel, by decide +kernel⟩

end Stencil
