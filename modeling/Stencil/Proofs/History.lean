import Stencil.Proofs.Alike.Narrow
import Stencil.Proofs.Alike.Same
import Stencil.Proofs.Ending
import Stencil.Proofs.Settled

/-!
# Loading and what was loaded before

What a set gives for a name does not depend on what it was asked for before, provided that no
template in memory names itself, directly or through others: what is in the cache is then what would
be compiled anew, but for serial numbers, and renders cannot tell these apart. While a template is
being compiled, the templates that name it in turn are compiled without it, and they stay in the
cache even if it then cannot be compiled. So where templates name each other in a circle, what a set
gives does depend on the past.
-/

namespace Stencil

namespace Library

/-- The template that the name `name` leads to has the name `other` in it. -/
def Mentions (l : Library) (name other : String) : Prop :=
  ∃ referrer path source tokens, l.open? referrer name = .ok (path, source) ∧
    Token.tokenize l.settings.trimming path source = .ok tokens ∧ other ∈ quoted tokens

/-- Names have ranks, and every template mentions only names of lower rank. -/
def Layered (l : Library) (rank : String → Nat) : Prop :=
  ∀ name other, l.Mentions name other → rank other < rank name

/-- The set `l'` is left when the set `l` was asked for templates and templates were rendered. -/
inductive Used (l : Library) : Library → Prop where
  | refl : Used l l
  | fromFile {l' : Library} (name : String) (h : Used l l') : Used l (fromFile name l').2
  | load {l' : Library} (referrer : Option String) (name : String) (h : Used l l') :
      Used l (load referrer name l').2
  | clearCache {l' : Library} (h : Used l l') : Used l l'.clearCache
  | execute {l' l'' : Library} (t : Template) {host : Host} (hhost : host.LeavesSet)
      (context : Bindings) (out : Sink) (h : Used l l')
      (hset : (t.execute host (some l') context out).2.set = some l'') : Used l l''

end Library

open Library

variable {l l' : Library}

/-- A set that was used is settled. -/
theorem settled_of_used {rank : String → Nat} {enough : Nat → List String → Prop}
    (hl : l.Orderly rank enough) (h : l.Used l') : l.Settled l' := by
  induction h with
  | refl => exact .refl hl.cache
  | fromFile name _ ih => exact (fromFile_settled hl name ih).1
  | load referrer name _ ih => exact (load_settled hl referrer name ih).1
  | clearCache _ ih => exact { ih with cache := nofun }
  | execute t hhost context out _ hset ih =>
    have hload (l' : Library) (referrer : Option String) (name : String) (hl' : l.Settled l') :
        l.Settled (Library.load referrer name l').2 := (load_settled hl referrer name hl').1
    obtain ⟨l'', hl'', hsettled⟩ := set_execute hhost hload t ih context out
    cases hset.symm.trans hl''
    exact hsettled

/-- A set with built-in filters and tags admits all templates. -/
theorem admits_any (hbuiltin : l.catalog.Builtin) :
    l.Admits {} { nesting := l.settings.maxNestingDepth + 1 } where
  catalog := hbuiltin.admits (fun _ _ => trivial) (fun _ => trivial) (fun _ _ => trivial) trivial
    fun _ => trivial
  wording := ⟨fun _ _ => .inl trivial, .inl trivial, fun _ _ _ => .inl trivial⟩
  escaping := trivial
  nesting := Nat.lt_succ_self _
  block _ _ _ _ := trivial
  sources _ _ path source _ := words_any l path source

/-- To use a set is to ask it for templates. -/
theorem asked_of_used (h : l.Used l') : l.Asked {} l' := by
  induction h with
  | refl => exact .refl
  | fromFile name _ ih => exact .fromFile name ih
  | load referrer name _ ih => exact .load referrer name ih
  | clearCache _ ih => exact .clearCache ih
  | execute t hhost context out _ hset ih =>
    obtain ⟨l'', hl'', hasked⟩ := asked_execute hhost t ih context out
    cases hset.symm.trans hl''
    exact hasked

/-- However a set is used, its values stay as they are. -/
theorem globals_of_used (hbuiltin : l.catalog.Builtin) (hcache : l.cache = []) (h : l.Used l') :
    l'.globals = l.globals :=
  (loads_of_asked (admits_any hbuiltin) hcache (asked_of_used h)).globals

/-! ## Serial numbers -/

theorem reflexive_same : Likeness.same.Reflexive where
  name _ := trivial
  position _ := rfl
  error _ := rfl
  located := by
    rintro p _ e _ rfl rfl
    rfl
  inFilter := by
    rintro p _ e _ name rfl rfl
    rfl
  isLoader h := congrArg Error.isLoader h
  explain fault h := congrArg (explain fault) h
  included := id
  extended := id

/-- Renders cannot tell templates apart that are equal but for serial numbers. -/
theorem template_of_unnumbered {t t' : Template} (h : t.unnumbered = t'.unnumbered) :
    Likeness.same.widest.template t t' ∧ t.options = t'.options := by
  have hle : Likeness.same.numbered.Le Likeness.same.widest :=
    (numbered_unfolds Likeness.same_unfolds).le_widest (fun _ => id) (fun _ _ => id)
      (fun _ _ _ => id) fun _ _ _ _ => id
  refine ⟨hle.template _ _ h, ?_⟩
  rw [← options_unnumbered t, h, options_unnumbered]

/-- Settled sets go on giving templates that are equal but for serial numbers. -/
theorem load_across {rank : String → Nat} {enough : Nat → List String → Prop}
    (hl : l.Orderly rank enough) {a a' : Library} (referrer : Option String) (name : String)
    (h : l.Settled a ∧ l.Settled a') :
    EndAlike (Halt.Alike Eq)
        (fun t t' => Likeness.same.widest.template t t' ∧ t.options = t'.options)
        (Library.load referrer name a).1 (Library.load referrer name a').1 ∧
      l.Settled (Library.load referrer name a).2 ∧
      l.Settled (Library.load referrer name a').2 := by
  obtain ⟨hleft, hresult⟩ := load_settled hl referrer name h.1
  obtain ⟨hleft', hresult'⟩ := load_settled hl referrer name h.2
  have hsame := hresult.trans hresult'.symm
  refine ⟨?_, hleft, hleft'⟩
  generalize (Library.load referrer name a).1 = found at hsame ⊢
  generalize (Library.load referrer name a').1 = found' at hsame ⊢
  rcases found with _ | t <;> rcases found' with _ | t'
  · cases hsame
    exact .error (halt_same _)
  · cases hsame
  · cases hsame
  · exact .ok (template_of_unnumbered (Except.ok.inj hsame))

section Memory

variable (hbuiltin : l.catalog.Builtin) {rank : String → Nat} (hlayered : l.Layered rank)
  (hmemory : l.InMemory) (hcache : l.cache = [])
include hbuiltin hlayered hmemory hcache

/-- In memory, names are the paths that they lead to, and links cannot nest deeper than there are
templates. -/
theorem orderly_of_layered :
    l.Orderly rank fun fuel underway => l.notUnderway underway < fuel where
  builtin := hbuiltin
  cache := hcache
  detached loader hloader _ _ := by
    obtain ⟨templates, rfl⟩ := hmemory loader hloader
    rfl
  coherent := hmemory.coherent
  ranked name path source tokens other path' source' hopen htokens hother hopen' := by
    obtain ⟨rfl, -⟩ := hmemory.of_open? hopen
    obtain ⟨rfl, -⟩ := hmemory.of_open? hopen'
    exact hlayered path path' ⟨none, path, source, tokens, hopen, htokens, hother⟩
  depth underway := notUnderway_lt_linkDepth l underway
  zero _ := Nat.not_lt_zero _
  step fuel underway name path source hfuel hopen hless := by
    have hnew : path ∉ underway := fun h => Nat.lt_irrefl _ (hless path h)
    have hfewer := notUnderway_cons_lt (hmemory.mem_heldNames hopen) hnew
    omega

/-- Whatever a set was used for before, it gives for a name what it gives at first, a template or an
error, but for serial numbers. The two templates do the same for all data of the caller, whatever
either set was used for in the meantime: they write the same, and they end in the same way, with the
same error if they fail. -/
theorem fromCache_of_used {host : Host} (hhost : host.Uniform) (h : l.Used l') (name : String) :
    (fromCache name l').1.map Template.unnumbered =
        (fromCache name l).1.map Template.unnumbered ∧
      ∀ t t', (fromCache name l).1 = .ok t → (fromCache name l').1 = .ok t' →
        ∀ a a', l.Used a → l.Used a' → ∀ context out,
          (t.execute host (some a) context out).1 = (t'.execute host (some a') context out).1 ∧
            (t.execute host (some a) context out).2.out =
              (t'.execute host (some a') context out).2.out := by
  have hl := orderly_of_layered hbuiltin hlayered hmemory hcache
  have hload : (fromCache name l').1.map Template.unnumbered =
      (fromCache name l).1.map Template.unnumbered := by
    unfold fromCache
    rw [(load_settled hl none name (.refl hcache)).2]
    exact (load_settled hl none name (settled_of_used hl h)).2
  refine ⟨hload, fun t t' ht ht' a a' ha ha' context out => ?_⟩
  rw [ht, ht'] at hload
  obtain ⟨hlike, hoptions⟩ := template_of_unnumbered (Except.ok.inj hload).symm
  have hglobals : a.globals = a'.globals :=
    (globals_of_used hbuiltin hcache ha).trans (globals_of_used hbuiltin hcache ha').symm
  obtain ⟨hend, hout⟩ := execute_across reflexive_same (load_across hl) hhost hlike hoptions
    ⟨settled_of_used hl ha, settled_of_used hl ha'⟩ hglobals context out
  exact ⟨eq_of_halted_alike hend, hout⟩

end Memory

/-! ## Examples -/

/-- Whether every template in memory has only names of lower rank in it. -/
def Library.ranked (l : Library) (rank : String → Nat) : Bool :=
  l.loaders.all fun
    | .memory templates => templates.all fun e =>
      match Token.tokenize l.settings.trimming e.1 e.2 with
      | .ok tokens => (quoted tokens).all fun other => rank other < rank e.1
      | .error _ => true
    | .files _ => false

theorem layered_of_ranked {rank : String → Nat} (hmemory : l.InMemory)
    (h : l.ranked rank = true) : l.Layered rank := by
  rintro name other ⟨referrer, path, source, tokens, hopen, htokens, hother⟩
  obtain ⟨rfl, templates, htemplates, hget⟩ := hmemory.of_open? hopen
  have hentry := List.all_eq_true.mp (List.all_eq_true.mp h _ htemplates) _ (Table.mem_of_get? hget)
  dsimp only at hentry
  rw [htokens] at hentry
  simpa using List.all_eq_true.mp hentry other hother

theorem inMemory_shelf : shelf.InMemory := by
  intro loader hloader
  rcases List.mem_cons.mp hloader with rfl | hloader
  · exact ⟨_, rfl⟩
  · exact ⟨_, List.mem_singleton.mp hloader⟩

/-- A template that includes another one shows the same whether that one was there before or not. -/
theorem fromCache_of_used_shelf :
    shelf.Used (fromCache "part" shelf).2 ∧ (Host.bare fixedMoment).Uniform ∧
      ∃ t t', (fromCache "page" shelf).1 = .ok t ∧
        (fromCache "page" (fromCache "part" shelf).2).1 = .ok t' ∧
        (t.execute (.bare fixedMoment) (some shelf) [] .empty).2.out =
          (t'.execute (.bare fixedMoment) (some (fromCache "part" shelf).2) [] .empty).2.out := by
  have hused : shelf.Used (fromCache "part" shelf).2 := .load none "part" .refl
  have hlayered : shelf.Layered fun name => if name = "page" then 1 else 0 :=
    layered_of_ranked inMemory_shelf (by decide +kernel)
  have hhost := uniform_bare fixedMoment
  obtain ⟨-, hrender⟩ :=
    fromCache_of_used builtin_builtin hlayered inMemory_shelf rfl hhost hused "page"
  obtain ⟨t, ht⟩ : ∃ t, (fromCache "page" shelf).1 = .ok t := exists_ok_of_isOk (by decide +kernel)
  obtain ⟨t', ht'⟩ : ∃ t', (fromCache "page" (fromCache "part" shelf).2).1 = .ok t' :=
    exists_ok_of_isOk (by decide +kernel)
  exact ⟨hused, hhost, t, t', ht, ht', (hrender t t' ht ht' _ _ .refl hused [] .empty).2⟩

/-- Two templates that include each other, one of which cannot be compiled. -/
def circle : Library :=
  .new {} "set" [.memory [("a", "\x7b% include \"b\" %\x7d" ++ "{% nosuch %}"),
    ("b", "\x7b% include \"a\" %\x7d")]]

/-- A set that was asked for one template gives another one that it does not give at first. -/
theorem not_fromCache_of_asked_circle :
    circle.Asked {} (fromCache "a" circle).2 ∧ (fromCache "b" circle).1.isOk = false ∧
      (fromCache "b" (fromCache "a" circle).2).1.isOk = true :=
  ⟨.load none "a" .refl, by decide +kernel, by decide +kernel⟩

end Stencil
