import Stencil.Proofs.Within.Texts

/-!
# Templates that a set furnishes

A template is compiled from one source, and the templates in its tree that it links to from others.
What is the template's own stands at tokens of its own source, and of each template that it links to
the same is true.
-/

namespace Stencil

open Library

variable {l l' : Library} {t : Template}

/-- The places in one source, of which templates for which `S` holds may be linked to. -/
def Vocabulary.own (o : Trimming) (name source : String) (S : Template → Prop) : Vocabulary where
  position p := ∃ ts, Token.tokenize o name source = .ok ts ∧ ∃ t ∈ ts, t.position = p
  linked := S
  imported m := ∃ u, S u ∧ ∃ e ∈ u.macros, e.2 = m

/-- A set that opens and reads sources like `l` compiles the template from its source. -/
def Library.Compiles (l : Library) (t : Template) : Prop :=
  ∃ l' fuel underway, l.Resembles l' ∧
    (compileWith (link fuel) t.name t.source underway l').1 = .ok t

/-- A template that the set compiles from what its loaders hold. What is its own stands at tokens of
its source, and it links only to such templates. -/
inductive Library.Furnishes (l : Library) : Template → Prop where
  | intro {t : Template} {S : Template → Prop} (linked : ∀ u, S u → l.Furnishes u)
      (held : l.Holds t.name t.source) (compiled : l.Compiles t)
      (within : t.Within (.own l.settings.trimming t.name t.source S)) : l.Furnishes t

theorem Library.Furnishes.held (h : l.Furnishes t) : l.Holds t.name t.source := by
  cases h
  assumption

/-! ### Places -/

theorem le_own {o : Trimming} {name source : String} {S S' : Template → Prop}
    (h : ∀ u, S u → S' u) : (Vocabulary.own o name source S).Le (.own o name source S') where
  name := id
  block := id
  lookup := id
  position := id
  linked := h _
  imported := fun ⟨u, hu, hm⟩ => ⟨u, h u hu, hm⟩

/-- All that a template links to is furnished. -/
theorem Library.Furnishes.within (h : l.Furnishes t) :
    t.Within (.own l.settings.trimming t.name t.source l.Furnishes) := by
  cases h with
  | intro linked _ _ within => exact within.mono (le_own linked)

theorem wide_own (o : Trimming) (name source : String) (S : Template → Prop) :
    (Vocabulary.own o name source S).Wide where
  name _ := trivial
  block _ := trivial
  lookup := trivial
  imported u hu m hm := ⟨u, hu, m, hm, rfl⟩

theorem covers_own (o : Trimming) (name source : String) (S : Template → Prop) :
    (Vocabulary.own o name source S).Covers o name source := by
  unfold Vocabulary.Covers
  split <;> rename_i hread
  · exact fun t ht => ⟨⟨_, hread, t, ht, rfl⟩, trivial⟩
  · obtain ⟨p, fault, rfl, -, -⟩ := Token.standsIn_of_tokenize_error hread
    trivial

/-! ### Sets -/

/-- A set that opens and reads sources like `l`, and keeps only templates that `l` furnishes. -/
structure Library.Furnished (l l' : Library) : Prop extends l.Resembles l' where
  cache : ∀ e ∈ l'.cache, l.Furnishes e.2

variable (hhonest : ∀ e ∈ l.catalog.tags.entries, e.2.Honest)
include hhonest

theorem counting_furnished : Counting l.Furnished where
  honest hl tag t ht := hhonest (tag, .custom t) (Table.mem_of_get? (hl.catalog ▸ ht))
  counts hl _ _ := { hl with }

/-- What sets compile from what their loaders hold is furnished. -/
theorem stocking_furnished : Stocking .whole l.Furnished l.Furnishes where
  toCounting := counting_furnished hhonest
  cached hl := hl.cache
  insert hl ht := { hl with cache := Table.forall_mem_insert (p := l.Furnishes) hl.cache ht }
  clear hl := { hl with cache := nofun }
  held {l' name source} fuel underway hl hheld hlink := by
    let V := Vocabulary.own l.settings.trimming name source l.Furnishes
    have hcovers : V.Covers l'.settings.trimming name source := hl.settings ▸ covers_own ..
    obtain ⟨hleft, hresult⟩ := abidesAt_compileWith (wide_own ..) (counting_furnished hhonest)
      underway hl hcovers (hlink.imp (fun u hu hfree => (hfree hu).elim) fun _ => trivial)
    refine ⟨hleft, ?_⟩
    generalize hend : (compileWith (link fuel) name source underway l').1 = result at hresult ⊢
    match result with
    | .ok t =>
      obtain ⟨rfl, rfl⟩ := name_source_of_compileWith hend
      obtain ⟨loader, hloader, hopen⟩ := hheld
      exact .intro (fun _ => id) ⟨loader, hl.loaders ▸ hloader, hl.disk ▸ hopen⟩
        ⟨l', fuel, underway, hl.toResembles, hend⟩ hresult
    | .error (.error e) => exact Error.Unread.mono hresult fun _ => trivial
    | .error .exhausted => trivial

section Asked

variable (hcache : l.cache = [])
include hcache

/-- Whatever a fresh set is asked for, it keeps only templates that it furnishes. -/
theorem furnished_of_asked (h : l.Asked {} l') : l.Furnished l' :=
  known_of_asked (stocking_furnished hhonest) { toResembles := .refl l, cache := hcache ▸ nofun } h

/-- What is a template's own stands in its own source. -/
theorem within_own_of_gives (h : l.Gives {} t) :
    t.Within (.own l.settings.trimming t.name t.source l.Furnishes) := by
  have hstocking := stocking_furnished hhonest
  cases h with
  | @compile l' name source hasked _ hcompiled =>
    obtain ⟨rfl, rfl⟩ := name_source_of_compile hcompiled
    have hl' := furnished_of_asked hhonest hcache hasked
    have hcovers : (Vocabulary.own l.settings.trimming t.name t.source l.Furnishes).Covers
        l'.settings.trimming t.name t.source := hl'.settings ▸ covers_own ..
    exact (abidesAt_compile hstocking (wide_own ..) (fun u hu hfree => (hfree hu).elim)
      (fun _ => trivial) hl' hcovers).2.of_eq_ok hcompiled
  | fromFile hasked hcompiled =>
    exact ((abidesAt_fromFile hstocking (furnished_of_asked hhonest hcache hasked)
      _).2.of_eq_ok hcompiled).within
  | load hasked hcompiled =>
    exact ((abidesAt_load hstocking (furnished_of_asked hhonest hcache hasked)
      _ _).2.of_eq_ok hcompiled).within

end Asked

end Stencil
