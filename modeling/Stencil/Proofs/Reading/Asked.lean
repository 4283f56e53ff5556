import Stencil.Proofs.Reading.Compile

/-!
# Sets that were asked for templates

A set with the built-in filters and tags may be asked for any templates in any order.  If it admits
sources of some wording, all that it gives obeys the rules, and so does what it keeps.
-/

namespace Stencil

/-! ## Built-in filters and tags -/

/-- A catalog with no filters and tags of the host. -/
structure Catalog.Builtin (c : Catalog) : Prop where
  filters : ∀ name ref, c.filters.find? name = some ref →
    ∃ f : Filter, ref = .builtin f ∧ f.name = name
  tags : ∀ name ref, c.tags.find? name = some ref → ∃ t : Tag, ref = .builtin t ∧ t.name = name

theorem builtin_builtin : Catalog.builtin.Builtin where
  filters name ref h := by
    obtain ⟨f, -, heq⟩ := List.mem_map.mp (Table.mem_of_get? h)
    exact ⟨f, (Prod.mk.inj heq).2.symm, (Prod.mk.inj heq).1⟩
  tags name ref h := by
    obtain ⟨t, -, heq⟩ := List.mem_map.mp (Table.mem_of_get? h)
    exact ⟨t, (Prod.mk.inj heq).2.symm, (Prod.mk.inj heq).1⟩

/-- What a catalog without filters and tags of the host admits. -/
theorem Catalog.Builtin.admits {c : Catalog} (hc : c.Builtin) {w : Wording} {r : Rules}
    (hfilter : ∀ f : Filter, w.filter f.name → r.filter f.name (.builtin f))
    (htag : ∀ name, r.tag name) (hfiltering : ∀ name, w.first "filter" name → w.filter name)
    (hon : r.escaping true) (hoff : w.first "autoescape" "off" → r.escaping false) :
    c.Admits w r where
  filters name ref hname _ hfound := by
    obtain ⟨f, rfl, rfl⟩ := hc.filters name ref hfound
    exact hfilter f hname
  tag name _ _ _ := htag name
  filtering tag name hfound hname := by
    obtain ⟨t, ht, rfl⟩ := hc.tags tag _ hfound
    cases ht
    exact hfiltering name hname
  autoescape tag hfound := by
    obtain ⟨t, ht, rfl⟩ := hc.tags tag _ hfound
    cases ht
    exact ⟨hon, hoff⟩
  custom tag t hfound := by
    obtain ⟨_, ht, -⟩ := hc.tags tag _ hfound
    cases ht

/-! ## Sources -/

/-- A source that a set opens was found by one of its loaders. -/
theorem exists_loader_of_open? {l : Library} {referrer : Option String} {name path source : String}
    (h : l.open? referrer name = .ok (path, source)) :
    ∃ loader ∈ l.loaders, loader.resolve referrer name = path ∧
      loader.open? l.disk path = .ok source := by
  have hgo (loaders : List Loader) (failure : Except Error (String × String))
      (hfailure : failure ≠ .ok (path, source))
      (h : Library.open?.go l referrer name failure loaders = .ok (path, source)) :
      ∃ loader ∈ loaders, loader.resolve referrer name = path ∧
        loader.open? l.disk path = .ok source := by
    induction loaders generalizing failure with
    | nil => exact absurd h hfailure
    | cons loader rest ih =>
      unfold Library.open?.go at h
      dsimp only at h
      split at h
      · rename_i heq
        cases h
        exact ⟨loader, List.mem_cons_self .., rfl, heq⟩
      · obtain ⟨loader, hloader, hfound⟩ := ih (.error _) nofun h
        exact ⟨loader, List.mem_cons_of_mem _ hloader, hfound⟩
  exact hgo l.loaders (.error _) nofun h

/-- A set that loads from memory only. -/
def Library.InMemory (l : Library) : Prop :=
  ∀ loader ∈ l.loaders, ∃ templates, loader = .memory templates

/-- In memory, templates are found under their names. -/
theorem Library.InMemory.of_open? {l : Library} (hl : l.InMemory) {referrer : Option String}
    {name path source : String} (h : l.open? referrer name = .ok (path, source)) :
    path = name ∧
      ∃ templates, .memory templates ∈ l.loaders ∧ templates.get? name = some source := by
  obtain ⟨loader, hloader, rfl, hopen⟩ := exists_loader_of_open? h
  obtain ⟨templates, rfl⟩ := hl loader hloader
  refine ⟨rfl, templates, hloader, ?_⟩
  unfold Loader.open? at hopen
  dsimp only [Loader.resolve] at hopen
  split at hopen <;> cases hopen
  assumption

/-! ## Templates in turn -/

namespace Library

/-- The set `l'` is left when the set `l` was asked for templates, whose sources have the given
wording if they are not loaded. -/
inductive Asked (w : Wording) (l : Library) : Library → Prop where
  | refl : Asked w l l
  | compile {l' : Library} {name source : String} (h : Asked w l l')
      (hwords : l.Words w name source) : Asked w l (Library.compile name source l').2
  | fromFile {l' : Library} (name : String) (h : Asked w l l') :
      Asked w l (Library.fromFile name l').2
  | load {l' : Library} (referrer : Option String) (name : String) (h : Asked w l l') :
      Asked w l (Library.load referrer name l').2
  | clearCache {l' : Library} (h : Asked w l l') : Asked w l l'.clearCache

/-- The set `l` gives the template `t` when it is asked for templates in some order. -/
inductive Gives (w : Wording) (l : Library) (t : Template) : Prop where
  | compile {l' : Library} {name source : String} (h : l.Asked w l')
      (hwords : l.Words w name source) (ht : (Library.compile name source l').1 = .ok t)
  | fromFile {l' : Library} {name : String} (h : l.Asked w l')
      (ht : (Library.fromFile name l').1 = .ok t)
  | load {l' : Library} {referrer : Option String} {name : String} (h : l.Asked w l')
      (ht : (Library.load referrer name l').1 = .ok t)

end Library

open Library

variable {w : Wording} {r : Rules} {l l' : Library}

section Asked

variable (hl : l.Admits w r) (hcache : l.cache = [])
include hl hcache

theorem loads_of_asked (h : l.Asked w l') : l.Loads r l' := by
  induction h with
  | refl => exact .refl (hcache ▸ nofun)
  | compile h hwords ih =>
    exact ih.trans ((ih.admits hl).loadsAt_compile ih.cache (ih.words hwords)).1
  | fromFile name h ih => exact ih.trans ((ih.admits hl).loadsAt_fromFile ih.cache name).1
  | load referrer name h ih => exact ih.trans ((ih.admits hl).loadsAt_load ih.cache referrer name).1
  | clearCache h ih =>
    refine { ih with begun := ?_, cache := nofun }
    rcases ih.begun with hbegun | rfl
    · exact .inl hbegun
    · refine .inr ?_
      unfold clearCache
      rw [← hcache]

theorem obeys_of_gives {t : Template} (h : l.Gives w t) : t.Obeys r := by
  cases h with
  | compile h hwords ht =>
    have hloads := loads_of_asked hl hcache h
    exact ((hloads.admits hl).loadsAt_compile hloads.cache (hloads.words hwords)).2.of_eq_ok ht
  | fromFile h ht =>
    have hloads := loads_of_asked hl hcache h
    exact ((hloads.admits hl).loadsAt_fromFile hloads.cache _).2.of_eq_ok ht
  | load h ht =>
    have hloads := loads_of_asked hl hcache h
    exact ((hloads.admits hl).loadsAt_load hloads.cache _ _).2.of_eq_ok ht

end Asked

end Stencil
