import Stencil.Proofs.Reading.Asked
import Stencil.Proofs.Render.Fuel

/-!
# Renders that end

A render of built-in filters and tags ends if and only if its renderings of `block.Super` are nested
only so deep. Everything else that leads from tree to tree is bounded: includes and macro calls by
the recursion limit, the blocks between them by the length of the chain and by the nesting of tags,
and the links between templates by how many there are. The recursion limit says nothing about
`block.Super`, so there are templates whose renders do not end.
-/

namespace Stencil

/-- The rules for templates of built-in filters and tags: a block has the body that its template
knows. -/
def Rules.native (nesting : Nat) : Rules where
  filter _ ref := ∃ f : Filter, ref = .builtin f
  custom := False
  block blocks name body := blocks.lookup name = some body
  nesting := nesting

/-- A set that was not asked for templates yet, with templates in memory, with the built-in filters
and tags only, and with values that stand for data. -/
structure Library.Native (l : Library) : Prop where
  memory : l.InMemory
  builtin : l.catalog.Builtin
  globals : l.globals.FromData
  cache : l.cache = []

/-- A render ends: with so many jumps it has a result, and with more it has the same. -/
def Template.Finishes (t : Template) (host : Host) (s : State) : Prop :=
  ∃ (fuel : Nat) (result : Except Halt Unit × State), result.1 ≠ .error .spent ∧
    ∀ more, t.render (.upTo (fuel + more)) host s = result

/-- The render has the same result as one that fails where more than `most` renderings of
`block.Super` are nested. -/
def Template.NestsSuper (t : Template) (host : Host) (s : State) (most : Nat) : Prop :=
  ∀ fuel, t.render (.bounded most fuel most) host s = t.render (.upTo fuel) host s

/-- More jumps than can be nested in renders of templates from the set, where `limit` is the
recursion limit and at most `most` renderings of `block.Super` are nested. -/
def Library.jumps (l : Library) (limit most : Nat) : Nat :=
  (most + limit + 1) * ((limit - 1 + 2) * (l.settings.maxNestingDepth + 2))

/-! ## Templates in memory -/

/-- The names of the templates that a loader holds in memory. -/
def Loader.heldNames : Loader → List String
  | .memory templates => templates.keys
  | .files _ => []

/-- The names of the templates in memory. -/
def Library.heldNames (l : Library) : List String := l.loaders.flatMap Loader.heldNames

theorem length_heldNames (loader : Loader) : loader.heldNames.length = loader.held := by
  cases loader with
  | memory templates => exact List.length_map _
  | files base => rfl

/-- The depth to which links are followed exceeds the number of templates in memory. -/
theorem linkDepth_eq (l : Library) : l.linkDepth = 10000 + l.heldNames.length := by
  have hfold (loaders : List Loader) (depth : Nat) :
      loaders.foldl (fun depth loader => depth + loader.held) depth =
        depth + (loaders.flatMap Loader.heldNames).length := by
    induction loaders generalizing depth with
    | nil => rfl
    | cons loader loaders ih =>
      rw [List.foldl_cons, ih, List.flatMap_cons, List.length_append, length_heldNames,
        Nat.add_assoc]
  exact hfold l.loaders 10000

/-- How many templates in memory are not being compiled. -/
def Library.notUnderway (l : Library) (underway : List String) : Nat :=
  (l.heldNames.filter fun name => !underway.contains name).length

open Library Render

variable {l : Library} {r : Rules} {w : Wording} {H : Halt → Prop}

theorem notUnderway_lt_linkDepth (l : Library) (underway : List String) :
    l.notUnderway underway < l.linkDepth := by
  have hle : l.notUnderway underway ≤ l.heldNames.length := List.length_filter_le _ _
  have hdepth := linkDepth_eq l
  omega

theorem notUnderway_cons_lt {path : String} {underway : List String} (hheld : path ∈ l.heldNames)
    (hnew : path ∉ underway) : l.notUnderway (path :: underway) < l.notUnderway underway := by
  have hfilter : (l.heldNames.filter fun name => !(path :: underway).contains name) =
      (l.heldNames.filter fun name => !underway.contains name).filter fun name => name != path := by
    rw [List.filter_filter]
    refine List.filter_congr fun name _ => ?_
    rw [List.contains_cons, Bool.not_or]
    rfl
  unfold Library.notUnderway
  rw [hfilter]
  refine List.length_filter_lt_length_iff_exists.mpr ⟨path, List.mem_filter.mpr ⟨hheld, ?_⟩, ?_⟩
  · simpa using hnew
  · simp

theorem Library.InMemory.mem_heldNames (hl : l.InMemory) {referrer : Option String}
    {name path source : String} (h : l.open? referrer name = .ok (path, source)) :
    path ∈ l.heldNames := by
  obtain ⟨rfl, templates, htemplates, hget⟩ := hl.of_open? h
  exact List.mem_flatMap.mpr ⟨_, htemplates, List.mem_map_of_mem (Table.mem_of_get? hget)⟩

/-- From memory, templates are loaded without following names too deep. -/
theorem loadsAt_load_of_inMemory (hH : ∀ e, H (.error e)) (hl : l.Admits w r)
    (hmemory : l.InMemory) (hcache : ∀ e ∈ l.cache, e.2.Obeys r) (referrer : Option String)
    (name : String) : LoadsAt r H l (Library.load referrer name) (Template.Obeys r) := by
  refine loadsAt_load hH (D := fun fuel underway => l.notUnderway underway < fuel) hl
    (fun _ h => absurd h (Nat.not_lt_zero _)) ?_ (notUnderway_lt_linkDepth l) hcache referrer name
  intro fuel underway referrer name path source hfuel hopen hnew
  have hless := notUnderway_cons_lt (hmemory.mem_heldNames hopen) hnew
  omega

/-! ## Built-in filters and tags -/

theorem Library.Native.admits (h : l.Native) :
    l.Admits {} (.native (l.settings.maxNestingDepth + 1)) where
  catalog := h.builtin.admits (fun f _ => ⟨f, rfl⟩) (fun _ => trivial) (fun _ _ => trivial) trivial
    fun _ => trivial
  wording := ⟨fun _ _ => .inl trivial, .inl trivial, fun _ _ _ => .inl trivial⟩
  escaping := trivial
  nesting := Nat.lt_succ_self _
  block _ hdistinct _ hb := Table.get?_of_mem hdistinct hb
  sources _ _ path source _ := words_any l path source

/-- What the renders of templates from the set keep to. -/
def Library.native (l : Library) (halt parting : Halt → Prop) (limit : Nat) : Realm where
  rules := .native (l.settings.maxNestingDepth + 1)
  library := l.Loads (.native (l.settings.maxNestingDepth + 1))
  halt := halt
  parting := parting
  limit := limit

theorem lawful_native (h : l.Native) {halt parting : Halt → Prop} (hhalt : ∀ e, halt (.error e))
    (hcrashed : halt .crashed) (hparting : ∀ e, ¬parting (.error e)) (limit : Nat) :
    (l.native halt parting limit).Lawful where
  escaping _ := trivial
  custom := id
  filter _ _ := fun ⟨f, hf⟩ => ⟨f, hf, .inl trivial⟩
  error := hhalt
  crashed := hcrashed
  parting p h hh := by
    cases h with
    | error e => exact absurd hh (hparting e)
    | exhausted => exact hh
  load l' referrer name hl' := by
    have hmemory : l'.InMemory := by
      unfold InMemory
      rw [hl'.loaders]
      exact h.memory
    obtain ⟨hloads, hends⟩ := loadsAt_load_of_inMemory hhalt (hl'.admits h.admits) hmemory
      hl'.cache referrer name
    exact ⟨hl'.trans hloads, hends⟩

/-! ## Renders -/

section Renders

variable {t : Template} {host : Host} {set : Option Library} {context : Bindings} {out : Sink}
  (hl : l.Native) (ht : l.Gives {} t) (hset : ∀ l' ∈ set, l.Asked {} l')
  (hcontext : context.FromData)
include hl ht hset hcontext

omit ht in
/-- A template of the set is executed in a sound state. -/
theorem sound_native (halt parting : Halt → Prop) :
    (State.start set context t.options out).Sound
      (l.native halt parting t.options.recursionLimit) 0 [] := by
  have hloads : ∀ l' ∈ set, l.Loads (.native (l.settings.maxNestingDepth + 1)) l' :=
    fun l' hl' => loads_of_asked hl.admits hl.cache (hset l' hl')
  have hglobals : ∀ l' ∈ set, l'.globals.FromData := fun l' hl' =>
    (hloads l' hl').globals ▸ hl.globals
  have hout : out.Obeys (.native (l.settings.maxNestingDepth + 1)) := by
    cases out with
    | text written room => exact fun _ _ => .inl trivial
    | bytes written room => exact .inl trivial
  exact sound_start rfl hloads hcontext.obey (fun l' hl' => (hglobals l' hl').obey) trivial hout

/-- Where only so many renderings of `block.Super` may be nested, a render is never exhausted. -/
theorem render_bounded_ne_spent {most fuel : Nat}
    (hfuel : l.jumps t.options.recursionLimit most < fuel) :
    (t.render (.bounded most fuel most) host (.start set context t.options out)).1 ≠
      .error .spent := by
  have hhalt : ∀ e, Halt.error e ≠ .spent := nofun
  have hg : (l.native (· ≠ .spent) (fun _ => False) t.options.recursionLimit).Lawful :=
    lawful_native hl hhalt nofun (fun _ => id) _
  have hrun : (Budget.within (l.native (· ≠ .spent) (fun _ => False) t.options.recursionLimit)
      most fuel).run 0 := by
    change (most + (t.options.recursionLimit - 0)) * _ + _ < fuel
    rw [← Nat.succ_mul]
    exact hfuel
  have hends : Ends (fun _ => True) (· ≠ .spent)
      (t.render (.bounded most fuel most) host (.start set context t.options out)).1 :=
    (upholds_render hg (falls_within _ most fuel)
      (uphold_within hg (fun _ _ _ h => h) most fuel most) hrun
      (obeys_of_gives hl.admits hl.cache ht) _ (sound_native hl hset hcontext _ _)).2.1
  intro heq
  rw [heq] at hends
  exact hends rfl

/-- A render that is not exhausted does the same with more jumps, also where the renderings of
`block.Super` that may be nested are bounded. -/
theorem render_bounded_add {most fuel : Nat}
    (hends : (t.render (.bounded most fuel most) host (.start set context t.options out)).1 ≠
      .error .spent) (more : Nat) :
    t.render (.bounded most (fuel + more) most) host (.start set context t.options out) =
      t.render (.bounded most fuel most) host (.start set context t.options out) := by
  have hg : (l.native (fun _ => True) (· = .spent) t.options.recursionLimit).Lawful :=
    lawful_native hl (fun _ => trivial) trivial (fun _ => nofun) _
  obtain ⟨-, -, hsame | ⟨h, hresult, rfl⟩⟩ := upholds_render hg (falls_any _)
    (uphold_bounded hg trivial more (.inl rfl) most fuel most) trivial
    (obeys_of_gives hl.admits hl.cache ht) _ (sound_native hl hset hcontext _ _)
  · exact hsame
  · exact absurd hresult hends

theorem render_upTo_add {fuel : Nat}
    (hends : (t.render (.upTo fuel) host (.start set context t.options out)).1 ≠
      .error .spent) (more : Nat) :
    t.render (.upTo (fuel + more)) host (.start set context t.options out) =
      t.render (.upTo fuel) host (.start set context t.options out) := by
  have hless : Jumps.bounded (fuel + more) fuel (fuel + more) = .upTo fuel :=
    bounded_eq_upTo _ (Nat.le_add_right _ _)
  have hmore : Jumps.bounded (fuel + more) (fuel + more) (fuel + more) = .upTo (fuel + more) :=
    bounded_eq_upTo _ (Nat.le_refl _)
  have hsame := render_bounded_add hl ht hset hcontext (hless.symm ▸ hends) more
  rwa [hless, hmore] at hsame

/-- A render of built-in filters and tags ends if and only if it nests renderings of `block.Super`
only so deep, and how many jumps it then nests is known from the settings. -/
theorem finishes_iff_nestsSuper :
    (t.Finishes host (.start set context t.options out) ↔
        ∃ most, t.NestsSuper host (.start set context t.options out) most) ∧
      ∀ most, t.NestsSuper host (.start set context t.options out) most →
        ∀ fuel, l.jumps t.options.recursionLimit most < fuel →
          (t.render (.upTo fuel) host (.start set context t.options out)).1 ≠
            .error .spent := by
  have hbound : ∀ most, t.NestsSuper host (.start set context t.options out) most →
      ∀ fuel, l.jumps t.options.recursionLimit most < fuel →
        (t.render (.upTo fuel) host (.start set context t.options out)).1 ≠
          .error .spent := by
    intro most hmost fuel hfuel
    rw [← hmost fuel]
    exact render_bounded_ne_spent hl ht hset hcontext hfuel
  refine ⟨⟨?_, ?_⟩, hbound⟩
  · rintro ⟨most, result, hresult, hsame⟩
    have hends : (t.render (.upTo most) host (.start set context t.options out)).1 ≠
        .error .spent := by
      rw [show t.render (.upTo most) host (.start set context t.options out) = result from hsame 0]
      exact hresult
    refine ⟨most, fun fuel => ?_⟩
    rcases Nat.le_total fuel most with hle | hle
    · rw [bounded_eq_upTo most hle]
    · -- With `most` jumps both renders have ended, and more jumps change neither.
      obtain ⟨more, rfl⟩ := Nat.exists_eq_add_of_le hle
      have hequal : Jumps.bounded most most most = .upTo most :=
        bounded_eq_upTo most (Nat.le_refl _)
      rw [render_bounded_add hl ht hset hcontext (hequal.symm ▸ hends) more,
        render_upTo_add hl ht hset hcontext hends more, hequal]
  · rintro ⟨most, hmost⟩
    have hends := hbound most hmost _ (Nat.lt_succ_self _)
    exact ⟨_, _, hends, fun more => render_upTo_add hl ht hset hcontext hends more⟩

end Renders

/-- A set with a template whose blocks nest. -/
def nested : Library :=
  .new {} "set" [.memory [("base", "{% block b %}{% block a %}{% endblock %}{% endblock %}")]]

theorem native_nested : nested.Native where
  memory := List.forall_mem_singleton.mpr ⟨_, rfl⟩
  builtin := builtin_builtin
  globals := nofun
  cache := rfl

/-- A template that shows what it overrides. -/
def wrapped : String := "\x7b% extends \"base\" %\x7d{% block a %}[{{ block.Super }}]{% endblock %}"

theorem finishes_wrapped :
    ∃ t, (compile "leaf" wrapped nested).1 = .ok t ∧
      let s := State.start (some nested) [] t.options .empty
      t.Finishes (.bare fixedMoment) s ∧ ∃ most, t.NestsSuper (.bare fixedMoment) s most := by
  have hends : (match (compile "leaf" wrapped nested).1 with
      | .ok t =>
        let s := State.start (some nested) [] t.options .empty
        match (t.render (.upTo 4) (.bare fixedMoment) s).1 with
        | .ok () => true
        | .error _ => false
      | .error _ => false) = true := by decide +kernel
  cases ht : (compile "leaf" wrapped nested).1 with
  | error h =>
    rw [ht] at hends
    cases hends
  | ok t =>
    rw [ht] at hends
    have hgives : nested.Gives {} t := .compile .refl (words_any _ _ _) ht
    have hset : ∀ l ∈ some nested, nested.Asked {} l := by
      rintro _ ⟨⟩
      exact .refl
    have hcontext : Bindings.FromData [] := nofun
    have hfour : (t.render (.upTo 4) (.bare fixedMoment)
        (.start (some nested) [] t.options .empty)).1 ≠ .error .spent := by
      intro heq
      dsimp only at hends
      rw [heq] at hends
      cases hends
    have hfinishes : t.Finishes (.bare fixedMoment) (.start (some nested) [] t.options .empty) :=
      ⟨4, _, hfour, fun more => render_upTo_add native_nested hgives hset hcontext hfour more⟩
    exact ⟨t, rfl, hfinishes,
      (finishes_iff_nestsSuper native_nested hgives hset hcontext).1.mp hfinishes⟩

/-- A template that gives the inner block the outer one to show, and shows what that overrides. -/
def turned : String :=
  "\x7b% extends \"base\" %\x7d" ++
    "{% block a %}{% block b %}{{ block.Super }}{% endblock %}{% endblock %}"

theorem not_finishes_turned :
    nested.Native ∧ ∃ t, nested.Gives {} t ∧
      ¬t.Finishes (.bare fixedMoment) (.start (some nested) [] t.options .empty) := by
  have hcircular : (match (compile "leaf" turned nested).1 with
      | .ok t => t.circular "a" "b" && t.options.recursionLimit == 100
      | .error _ => false) = true := by decide +kernel
  refine ⟨native_nested, ?_⟩
  cases ht : (compile "leaf" turned nested).1 with
  | error h =>
    rw [ht] at hcircular
    cases hcircular
  | ok t =>
    rw [ht] at hcircular
    dsimp only at hcircular
    rw [Bool.and_eq_true, beq_iff_eq] at hcircular
    obtain ⟨hcircular, hlimit⟩ := hcircular
    refine ⟨t, .compile .refl (words_any _ _ _) ht, ?_⟩
    rintro ⟨fuel, result, hresult, hsame⟩
    refine hresult (hsame 0 ▸ exhausts_render hcircular ?_ rfl (fuel + 0))
    change 2 ≤ t.options.recursionLimit
    omega

end Stencil
