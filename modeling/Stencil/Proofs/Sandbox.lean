import Stencil.Proofs.Reading.Compile
import Stencil.Proofs.Render.Respect

/-!
# Bans are final

A filter or a tag can be banned only before a set has compiled anything, and what is banned is
refused wherever it can be written. So no template of a set, however it was obtained, ever holds
what the set bans, in whatever order things are done to the set and whether they succeed or fail.
-/

namespace Stencil

/-! ## What is done to a set -/

/-- What can be done to a set of templates. -/
inductive Operation where
  | registerFilter (name : String) (f : FilterRef)
  | replaceFilter (name : String) (f : FilterRef)
  | registerTag (name : String) (t : TagRef)
  | replaceTag (name : String) (t : TagRef)
  | banFilter (name : String)
  | banTag (name : String)
  | addGlobal (name : String) (value : Value)
  | addLoader (loader : Loader)
  | clearCache
  | compile (name source : String)
  | fromString (source : String)
  | fromFile (name : String)
  | fromCache (name : String)
  /-- Loads a template and executes it. -/
  | render (name : String) (host : Host) (context : Bindings) (out : Sink)
  /-- Executes a template that may be one of the set. -/
  | execute (t : Template) (host : Host) (context : Bindings) (out : Sink)

/-- A set and the templates that were obtained from it. -/
structure Session where
  library : Library
  obtained : List Template := []

namespace Session

/-- The session after a change of the set that may be refused. -/
def change (s : Session) (result : Except Error Library) : Session :=
  match result with
  | .ok library => { s with library }
  | .error _ => s

/-- The session after a template was asked for. -/
def obtain (s : Session) (m : Keeping Library Template) : Session :=
  match m s.library with
  | (.ok t, library) => ⟨library, t :: s.obtained⟩
  | (.error _, library) => { s with library }

/-- The session after a template was executed. -/
def execute (s : Session) (t : Template) (host : Host) (context : Bindings) (out : Sink) :
    Session :=
  match (t.execute host (some s.library) context out).2.set with
  | some library => { s with library }
  | none => s

/-- The session after a template was asked for only to be executed. -/
def render (s : Session) (m : Keeping Library Template) (host : Host) (context : Bindings)
    (out : Sink) : Session :=
  match m s.library with
  | (.ok t, library) => execute { s with library } t host context out
  | (.error _, library) => { s with library }

/-- The session after an operation. -/
def step (s : Session) : Operation → Session
  | .registerFilter name f => s.change (s.library.registerFilter name f)
  | .replaceFilter name f => s.change (s.library.replaceFilter name f)
  | .registerTag name t => s.change (s.library.registerTag name t)
  | .replaceTag name t => s.change (s.library.replaceTag name t)
  | .banFilter name => s.change (s.library.banFilter name)
  | .banTag name => s.change (s.library.banTag name)
  | .addGlobal name value => { s with library := s.library.addGlobal name value }
  | .addLoader loader => { s with library := s.library.addLoader loader }
  | .clearCache => { s with library := s.library.clearCache }
  | .compile name source => s.obtain (Library.compile name source)
  | .fromString source => s.obtain (Library.fromString source)
  | .fromFile name => s.obtain (Library.fromFile name)
  | .fromCache name => s.obtain (Library.fromCache name)
  | .render name host context out => s.render (Library.fromCache name) host context out
  | .execute t host context out => s.execute t host context out

/-- The session after operations in order. -/
def run (s : Session) (operations : List Operation) : Session := operations.foldl step s

end Session

/-- A tag whose statements hold only what was read for them. -/
def TagRef.Honest : TagRef → Prop
  | .builtin _ => True
  | .custom t => t.Honest

/-- The functions of the host change the set only by operations, those that `operations` says. -/
def Host.Performs (host : Host)
    (operations : (key : String) → Value → List Value → State → List Operation) : Prop :=
  ∀ key data args s, (host.function key data args s).2.set =
    s.set.map fun l => ((Session.mk l []).run (operations key data args s)).library

/-- An operation that brings in only honest tags, and only functions that do fair operations
themselves. -/
inductive Operation.Fair : Operation → Prop where
  | registerFilter (name : String) (f : FilterRef) : Fair (.registerFilter name f)
  | replaceFilter (name : String) (f : FilterRef) : Fair (.replaceFilter name f)
  | registerTag (name : String) {t : TagRef} (ht : t.Honest) : Fair (.registerTag name t)
  | replaceTag (name : String) {t : TagRef} (ht : t.Honest) : Fair (.replaceTag name t)
  | banFilter (name : String) : Fair (.banFilter name)
  | banTag (name : String) : Fair (.banTag name)
  | addGlobal (name : String) (value : Value) : Fair (.addGlobal name value)
  | addLoader (loader : Loader) : Fair (.addLoader loader)
  | clearCache : Fair .clearCache
  | compile (name source : String) : Fair (.compile name source)
  | fromString (source : String) : Fair (.fromString source)
  | fromFile (name : String) : Fair (.fromFile name)
  | fromCache (name : String) : Fair (.fromCache name)
  | render (name : String) {host : Host} (context : Bindings) (out : Sink)
      {operations : String → Value → List Value → State → List Operation}
      (hhost : host.Performs operations)
      (hfair : ∀ key data args s, ∀ o ∈ operations key data args s, Fair o) :
      Fair (.render name host context out)
  | execute (t : Template) {host : Host} (context : Bindings) (out : Sink)
      {operations : String → Value → List Value → State → List Operation}
      (hhost : host.Performs operations)
      (hfair : ∀ key data args s, ∀ o ∈ operations key data args s, Fair o) :
      Fair (.execute t host context out)

/-! ## What the set bans -/

/-- The rules of a set: no filter and no tag whose name is banned. -/
def Library.bans (l : Library) : Rules where
  filter name _ := l.catalog.filters.isBanned name = false
  tag name := l.catalog.tags.isBanned name = false
  nesting := l.settings.maxNestingDepth + 1

/-- A set whose tags are honest, and in whose cache nothing is banned. -/
structure Library.Guarded (l : Library) : Prop where
  honest : ∀ e ∈ l.catalog.tags.entries, e.2.Honest
  begun : l.cache ≠ [] → l.compiledAny = true
  cache : ∀ e ∈ l.cache, e.2.Obeys l.bans

/-- The set `l'` can come out of the guarded set `l`: it is guarded, and it bans the same once a
compilation was begun. -/
structure Library.Guards (l l' : Library) : Prop where
  guarded : l'.Guarded
  compiledAny : l.compiledAny = true → l'.compiledAny = true
  bans : l.compiledAny = true → l'.bans = l.bans

namespace Library

variable {l l' l'' : Library}

theorem Guards.refl (h : l.Guarded) : l.Guards l := ⟨h, id, fun _ => rfl⟩

theorem Guards.trans (h : l.Guards l') (h' : l'.Guards l'') : l.Guards l'' where
  guarded := h'.guarded
  compiledAny hl := h'.compiledAny (h.compiledAny hl)
  bans hl := (h'.bans (h.compiledAny hl)).trans (h.bans hl)

theorem bans_eq (hfilters : l'.catalog.filters.banned = l.catalog.filters.banned)
    (htags : l'.catalog.tags.banned = l.catalog.tags.banned)
    (hsettings : l'.settings = l.settings) :
    l'.bans = l.bans := by
  unfold bans Registry.isBanned
  rw [hfilters, htags, hsettings]

/-- Whatever is loaded into a guarded set obeys its bans. -/
theorem Guarded.admits (h : l.Guarded) : l.Admits {} l.bans where
  catalog :=
    { filters := fun _ _ _ hbanned _ => hbanned
      tag := fun _ _ hbanned _ => hbanned
      filtering := fun _ _ _ _ => trivial
      autoescape := fun _ _ => ⟨trivial, fun _ => trivial⟩
      custom := fun name t ht => ⟨trivial, h.honest (name, .custom t) (Table.mem_of_get? ht)⟩ }
  wording := ⟨fun _ _ => .inl trivial, .inl trivial, fun _ _ _ => .inl trivial⟩
  escaping := trivial
  nesting := Nat.lt_succ_self _
  block _ _ _ _ := trivial
  sources _ _ path source _ := words_any l path source

theorem Loads.bans {r : Rules} (h : l.Loads r l') : l'.bans = l.bans :=
  bans_eq (by rw [h.catalog]) (by rw [h.catalog]) h.settings

/-- What compilations leave behind is guarded as the set was. -/
theorem Loads.guards (h : l.Loads l.bans l') (hl : l.Guarded) : l.Guards l' := by
  have hbans : l'.bans = l.bans := h.bans
  refine ⟨⟨h.catalog ▸ hl.honest, fun hcache => ?_, hbans ▸ h.cache⟩, h.compiledAny, fun _ => hbans⟩
  rcases h.begun with hbegun | rfl
  · exact hbegun
  · exact hl.begun hcache

/-- A catalog with the same bans takes the place of that of a guarded set. -/
theorem guards_catalog (hl : l.Guarded) {c : Catalog}
    (hfilters : c.filters.banned = l.catalog.filters.banned)
    (htags : c.tags.banned = l.catalog.tags.banned) (hhonest : ∀ e ∈ c.tags.entries, e.2.Honest) :
    l.Guards { l with catalog := c } := by
  have hbans : Library.bans { l with catalog := c } = l.bans := bans_eq hfilters htags rfl
  exact ⟨⟨hhonest, hl.begun, hbans ▸ hl.cache⟩, id, fun _ => hbans⟩

/-- While nothing was compiled, bans may be added. -/
theorem guards_banned (hl : l.Guarded) (hcompiled : l.compiledAny = false) {c : Catalog}
    (htags : c.tags.entries = l.catalog.tags.entries) : l.Guards { l with catalog := c } := by
  have hcache : l.cache = [] := Classical.byContradiction fun h =>
    Bool.false_ne_true (hcompiled.symm.trans (hl.begun h))
  refine ⟨⟨htags ▸ hl.honest, hl.begun, ?_⟩, id, fun h => ?_⟩
  · change ∀ e ∈ l.cache, _
    rw [hcache]
    nofun
  · rw [hcompiled] at h
    cases h

end Library

namespace Registry

variable {α : Type} {r r' : Registry α} {kind : Registered} {name : String} {a : α}

theorem eq_of_register (h : r.register kind name a = .ok r') :
    r' = { r with entries := r.entries.insert name a } := by
  unfold register at h
  split at h <;> cases h
  rfl

theorem eq_of_replace (h : r.replace kind name a = .ok r') :
    r' = { r with entries := r.entries.insert name a } := by
  unfold replace at h
  split at h <;> cases h
  rfl

theorem eq_of_ban (h : r.ban kind name = .ok r') : r' = { r with banned := name :: r.banned } := by
  unfold ban at h
  split at h
  · cases h
  · split at h <;> cases h
    rfl

end Registry

namespace Library

variable {l l' : Library} {name : String}

theorem guards_registerFilter (hl : l.Guarded) {f : FilterRef}
    (h : l.registerFilter name f = .ok l') : l.Guards l' := by
  obtain ⟨filters, hfilters, h⟩ := ok_of_bind h
  cases h
  cases Registry.eq_of_register hfilters
  exact guards_catalog hl rfl rfl hl.honest

theorem guards_replaceFilter (hl : l.Guarded) {f : FilterRef}
    (h : l.replaceFilter name f = .ok l') : l.Guards l' := by
  obtain ⟨filters, hfilters, h⟩ := ok_of_bind h
  cases h
  cases Registry.eq_of_replace hfilters
  exact guards_catalog hl rfl rfl hl.honest

theorem guards_registerTag (hl : l.Guarded) {t : TagRef} (ht : t.Honest)
    (h : l.registerTag name t = .ok l') : l.Guards l' := by
  obtain ⟨tags, htags, h⟩ := ok_of_bind h
  cases h
  cases Registry.eq_of_register htags
  exact guards_catalog hl rfl rfl (Table.forall_mem_insert hl.honest ht)

theorem guards_replaceTag (hl : l.Guarded) {t : TagRef} (ht : t.Honest)
    (h : l.replaceTag name t = .ok l') : l.Guards l' := by
  obtain ⟨tags, htags, h⟩ := ok_of_bind h
  cases h
  cases Registry.eq_of_replace htags
  exact guards_catalog hl rfl rfl (Table.forall_mem_insert hl.honest ht)

theorem guards_banFilter (hl : l.Guarded) (h : l.banFilter name = .ok l') : l.Guards l' := by
  unfold banFilter at h
  split at h
  · cases h
  · rename_i hcompiled
    obtain ⟨filters, -, h⟩ := ok_of_bind h
    cases h
    exact guards_banned hl (Bool.not_eq_true _ ▸ hcompiled) rfl

theorem guards_banTag (hl : l.Guarded) (h : l.banTag name = .ok l') : l.Guards l' := by
  unfold banTag at h
  split at h
  · cases h
  · rename_i hcompiled
    obtain ⟨tags, htags, h⟩ := ok_of_bind h
    cases h
    cases Registry.eq_of_ban htags
    exact guards_banned hl (Bool.not_eq_true _ ▸ hcompiled) rfl

end Library

/-! ## Sessions -/

/-- A session whose set is guarded, and in which nothing was obtained that the set bans. -/
structure Session.Guarded (s : Session) : Prop where
  library : s.library.Guarded
  begun : s.obtained ≠ [] → s.library.compiledAny = true
  obtained : ∀ t ∈ s.obtained, t.Obeys s.library.bans

namespace Session

variable {s : Session}

/-- What was obtained before still obeys the bans. -/
theorem Guarded.later (h : s.Guarded) {l : Library} (hl : s.library.Guards l) :
    Guarded { s with library := l } := by
  refine ⟨hl.guarded, fun hobtained => hl.compiledAny (h.begun hobtained), fun t ht => ?_⟩
  rw [hl.bans (h.begun (List.ne_nil_of_mem ht))]
  exact h.obtained t ht

theorem Guarded.change (h : s.Guarded) {result : Except Error Library}
    (hresult : ∀ l, result = .ok l → s.library.Guards l) :
    (s.change result).Guarded ∧ s.library.Guards (s.change result).library := by
  cases result with
  | ok l => exact ⟨h.later (hresult l rfl), hresult l rfl⟩
  | error e => exact ⟨h, .refl h.library⟩

theorem Guarded.obtain (h : s.Guarded) {m : Keeping Library Template}
    (hm : Library.LoadsAt s.library.bans (fun _ => True) s.library m
      (Template.Obeys s.library.bans))
    (hbegun : ∀ t, (m s.library).1 = .ok t → (m s.library).2.compiledAny = true) :
    (s.obtain m).Guarded ∧ s.library.Guards (s.obtain m).library := by
  obtain ⟨hloads, hresult⟩ := hm
  have hguards := hloads.guards h.library
  unfold Session.obtain
  generalize m s.library = ended at hloads hresult hguards hbegun
  rcases ended with ⟨_ | t, l⟩
  · exact ⟨h.later hguards, hguards⟩
  · have ht : t.Obeys l.bans := hloads.bans.symm ▸ hresult
    exact ⟨⟨hguards.guarded, fun _ => hbegun t rfl,
      List.forall_mem_cons.mpr ⟨ht, (h.later hguards).obtained⟩⟩, hguards⟩

theorem Guarded.obtain_compile (h : s.Guarded) (name source : String) :
    (s.obtain (Library.compile name source)).Guarded ∧
      s.library.Guards (s.obtain (Library.compile name source)).library := by
  have hwords := words_any s.library name source
  have hl := h.library.admits
  exact h.obtain (hl.loadsAt_compile h.library.cache hwords)
    fun _ _ => hl.compiledAny_compile h.library.cache hwords

theorem Guarded.obtain_fromFile (h : s.Guarded) (name : String) :
    (s.obtain (Library.fromFile name)).Guarded ∧
      s.library.Guards (s.obtain (Library.fromFile name)).library := by
  have hl := h.library.admits
  exact h.obtain (hl.loadsAt_fromFile h.library.cache name)
    fun _ ht => hl.compiledAny_fromFile h.library.cache name ht

theorem Guarded.obtain_load (h : s.Guarded) (referrer : Option String) (name : String) :
    (s.obtain (Library.load referrer name)).Guarded ∧
      s.library.Guards (s.obtain (Library.load referrer name)).library := by
  have hl := h.library.admits
  exact h.obtain (hl.loadsAt_load h.library.cache referrer name)
    fun _ ht => hl.compiledAny_load h.library.cache h.library.begun referrer name ht

end Session

/-! ## Executing templates -/

/-- A state in which the set can come out of the guarded set of another state. -/
def State.Guards (s s' : State) : Prop :=
  ∀ l, s.set = some l → l.Guarded → ∃ l', s'.set = some l' ∧ l.Guards l'

/-- The steps of a render treat a guarded set well if the functions of the host do. -/
theorem respected_guards {host : Host}
    (hhost : ∀ key data args s, State.Guards s (host.function key data args s).2) :
    Respected host State.Guards where
  refl s l hl h := ⟨l, hl, .refl h⟩
  trans hst htu l hl h := by
    obtain ⟨l', hl', hguards⟩ := hst l hl h
    obtain ⟨l'', hl'', hguards'⟩ := htu l' hl' hguards.guarded
    exact ⟨l'', hl'', hguards.trans hguards'⟩
  bind s name v l hl h := by
    refine ⟨l, ?_, .refl h⟩
    unfold State.bind
    split <;> exact hl
  output s out l hl h := ⟨l, hl, .refl h⟩
  load s l referrer name hset l₀ hl h := by
    cases hset.symm.trans hl
    exact ⟨_, rfl, (h.admits.loadsAt_load h.cache referrer name).1.guards h⟩
  function := hhost
  inScope scope h := h
  isolated scopes h := h
  autoescape enabled h := h
  deeper h := h
  chain chain h := h
  block overridden h := h

/-! ## Operations -/

/-- An operation keeps guarded sessions guarded. -/
def Operation.Keeps (o : Operation) : Prop :=
  ∀ s : Session, s.Guarded → (s.step o).Guarded ∧ s.library.Guards (s.step o).library

/-- Operations that keep sessions guarded do so one after the other. -/
theorem guarded_run_of_keeps {operations : List Operation} (ho : ∀ o ∈ operations, o.Keeps)
    {s : Session} (h : s.Guarded) :
    (s.run operations).Guarded ∧ s.library.Guards (s.run operations).library := by
  induction operations generalizing s with
  | nil => exact ⟨h, .refl h.library⟩
  | cons o operations ih =>
    obtain ⟨ho, hrest⟩ := List.forall_mem_cons.mp ho
    obtain ⟨hstep, hguards⟩ := ho s h
    obtain ⟨hrun, hguards'⟩ := ih hrest hstep
    exact ⟨hrun, hguards.trans hguards'⟩

/-- The functions of a host treat guarded sets well if the operations they perform do. -/
theorem Host.Performs.guards {host : Host}
    {operations : String → Value → List Value → State → List Operation}
    (hhost : host.Performs operations)
    (ho : ∀ key data args s, ∀ o ∈ operations key data args s, o.Keeps) (key : String)
    (data : Value) (args : List Value) (s : State) :
    State.Guards s (host.function key data args s).2 := by
  intro l hset hl
  have hstart : Session.Guarded ⟨l, []⟩ := ⟨hl, fun h => absurd rfl h, nofun⟩
  refine ⟨_, ?_, (guarded_run_of_keeps (ho key data args s) hstart).2⟩
  rw [hhost, hset]
  rfl

theorem Session.Guarded.execute {s : Session} (h : s.Guarded) {host : Host}
    (hhost : ∀ key data args s, State.Guards s (host.function key data args s).2) (t : Template)
    (context : Bindings) (out : Sink) :
    (s.execute t host context out).Guarded ∧
      s.library.Guards (s.execute t host context out).library := by
  obtain ⟨l, hset, hguards⟩ :=
    keeps_execute (respected_guards hhost) t (some s.library) context out s.library rfl h.library
  unfold Session.execute
  rw [hset]
  exact ⟨h.later hguards, hguards⟩

theorem Session.Guarded.render {s : Session} (h : s.Guarded) {host : Host}
    (hhost : ∀ key data args s, State.Guards s (host.function key data args s).2)
    {m : Keeping Library Template} (hm : s.library.Guards (m s.library).2) (context : Bindings)
    (out : Sink) :
    (s.render m host context out).Guarded ∧
      s.library.Guards (s.render m host context out).library := by
  unfold Session.render
  generalize m s.library = ended at hm
  rcases ended with ⟨_ | t, l⟩
  · exact ⟨h.later hm, hm⟩
  · obtain ⟨hguarded, hguards⟩ := (h.later hm).execute hhost t context out
    exact ⟨hguarded, hm.trans hguards⟩

/-- Every fair operation keeps guarded sessions guarded. -/
theorem Operation.Fair.keeps {o : Operation} (ho : o.Fair) : o.Keeps := by
  induction ho with
  | registerFilter name f =>
    exact fun s h => h.change fun l hl => Library.guards_registerFilter h.library hl
  | replaceFilter name f =>
    exact fun s h => h.change fun l hl => Library.guards_replaceFilter h.library hl
  | registerTag name ht =>
    exact fun s h => h.change fun l hl => Library.guards_registerTag h.library ht hl
  | replaceTag name ht =>
    exact fun s h => h.change fun l hl => Library.guards_replaceTag h.library ht hl
  | banFilter name => exact fun s h => h.change fun l hl => Library.guards_banFilter h.library hl
  | banTag name => exact fun s h => h.change fun l hl => Library.guards_banTag h.library hl
  | addGlobal name value =>
    intro s h
    have hguards : s.library.Guards (s.library.addGlobal name value) :=
      ⟨⟨h.library.honest, h.library.begun, h.library.cache⟩, id, fun _ => rfl⟩
    exact ⟨h.later hguards, hguards⟩
  | addLoader loader =>
    intro s h
    have hguards : s.library.Guards (s.library.addLoader loader) :=
      ⟨⟨h.library.honest, h.library.begun, h.library.cache⟩, id, fun _ => rfl⟩
    exact ⟨h.later hguards, hguards⟩
  | clearCache =>
    intro s h
    have hguards : s.library.Guards s.library.clearCache :=
      ⟨⟨h.library.honest, fun hcache => absurd rfl hcache, nofun⟩, id, fun _ => rfl⟩
    exact ⟨h.later hguards, hguards⟩
  | compile name source => exact fun s h => h.obtain_compile name source
  | fromString source => exact fun s h => h.obtain_compile Library.anonymous source
  | fromFile name => exact fun s h => h.obtain_fromFile name
  | fromCache name => exact fun s h => h.obtain_load none name
  | render name context out hhost _ ih =>
    intro s h
    have hload := (h.library.admits.loadsAt_load h.library.cache none name).1.guards h.library
    exact h.render (hhost.guards ih) hload context out
  | execute t context out hhost _ ih => exact fun s h => h.execute (hhost.guards ih) t context out

/-- Whatever is done to a set, no template obtained from it and none in its cache holds a filter or
a tag that it bans, anywhere in its tree or in what was linked into it. -/
theorem obeys_bans_run {l : Library} (hhonest : ∀ e ∈ l.catalog.tags.entries, e.2.Honest)
    (hcache : l.cache = []) {operations : List Operation} (ho : ∀ o ∈ operations, o.Fair) :
    let s := Session.run ⟨l, []⟩ operations
    (∀ t ∈ s.obtained, t.Obeys s.library.bans) ∧
      ∀ e ∈ s.library.cache, e.2.Obeys s.library.bans := by
  have hstart : Session.Guarded ⟨l, []⟩ := by
    refine ⟨⟨hhonest, fun h => absurd hcache h, ?_⟩, fun h => absurd rfl h, nofun⟩
    change ∀ e ∈ l.cache, _
    rw [hcache]
    nofun
  have hrun := (guarded_run_of_keeps (fun o hmem => (ho o hmem).keeps) hstart).1
  exact ⟨hrun.obtained, hrun.library.cache⟩

/-- The built-in tags are honest. -/
theorem honest_builtin : ∀ e ∈ Catalog.builtin.tags.entries, e.2.Honest := by
  intro e he
  obtain ⟨t, -, rfl⟩ := List.mem_map.mp he
  trivial

/-- A filter is banned, two templates are compiled, one of which is refused, and a ban comes late.
-/
def lateBan : List Operation :=
  [.banFilter "safe", .fromCache "page", .fromString "{{ x|safe }}", .banFilter "upper"]

theorem obeys_bans_lateBan :
    let l := Library.new {} "set" [.memory [("page", "{{ x|upper }}")]]
    let s := Session.run ⟨l, []⟩ lateBan
    (s.obtained.length = 1 ∧ s.library.catalog.filters.banned = ["safe"]) ∧
      (∀ t ∈ s.obtained, t.Obeys s.library.bans) ∧
        ∀ e ∈ s.library.cache, e.2.Obeys s.library.bans := by
  refine ⟨by decide +kernel, obeys_bans_run honest_builtin rfl fun o ho => ?_⟩
  simp only [lateBan, List.mem_cons, List.not_mem_nil, or_false] at ho
  rcases ho with rfl | rfl | rfl | rfl
  · exact .banFilter "safe"
  · exact .fromCache "page"
  · exact .fromString _
  · exact .banFilter "upper"

end Stencil
