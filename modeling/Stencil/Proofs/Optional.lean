import Stencil.Proofs.Check
import Stencil.Proofs.Ending
import Stencil.Proofs.Reading.Halts
import Stencil.Proofs.Scanning.Places
import Stencil.Render.Exec

/-!
# Includes that may be missing

An include that says `if_exists` is skipped where no loader opens its template. If the loaders can
open whatever they have under the name, that is where none of them has anything
(`exec_includes_optional`); whatever else is wrong with the template, or with one that it names,
fails the include. What a loader has but cannot open, such as a directory, is skipped as well
(`exec_includes_unreadable`).
-/

namespace Stencil

open Drafting Render

/-!
## What loaders have
-/

section Loaders

/-- The loader has something at the path: a template in memory, or a file or a directory. -/
def Loader.Has (loader : Loader) (disk : Disk) (path : String) : Prop :=
  match loader with
  | .memory templates => ∃ source, templates.get? path = some source
  | .files _ => ∃ entry, disk.find path = .ok entry

theorem Loader.has_of_open? {loader : Loader} {disk : Disk} {path source : String}
    (h : loader.open? disk path = .ok source) : loader.Has disk path := by
  cases loader with
  | memory templates =>
    unfold Loader.open? at h
    dsimp only at h
    split at h
    · exact ⟨_, ‹_›⟩
    · cases h
  | files base =>
    obtain ⟨entry, hfind, -⟩ := ok_of_bind (open?_files.mp h)
    exact ⟨entry, hfind⟩

namespace Library

/-- No loader of the set has anything at the path to which it takes the name. -/
def Absent (l : Library) (referrer : Option String) (name : String) : Prop :=
  ∀ loader ∈ l.loaders, ¬loader.Has l.disk (loader.resolve referrer name)

/-- What the loaders of the set have under the name, they can open. -/
def Readable (l : Library) (referrer : Option String) (name : String) : Prop :=
  ∀ loader ∈ l.loaders, loader.Has l.disk (loader.resolve referrer name) →
    ∃ source, loader.open? l.disk (loader.resolve referrer name) = .ok source

/-- The set opens a template at the path. -/
def Opened (l : Library) (path : String) : Prop :=
  ∃ loader ∈ l.loaders, ∃ source, loader.open? l.disk path = .ok source

/-- The set opens as many templates as links are followed deep. -/
def Deep (l : Library) : Prop :=
  ∃ paths : List String, paths.Nodup ∧ l.linkDepth ≤ paths.length ∧ ∀ path ∈ paths, l.Opened path

variable {l : Library} {referrer : Option String} {name : String}

theorem opened_of_open? {path source : String} (h : l.open? referrer name = .ok (path, source)) :
    l.Opened path := by
  obtain ⟨loader, hloader, -, hsource⟩ := exists_loader_of_open? h
  exact ⟨loader, hloader, source, hsource⟩

/-- Where the set opens nothing, the error is one of a loader. -/
theorem isLoader_of_open? {e : Error} (h : l.open? referrer name = .error e) : e.isLoader := by
  have hloader (loader : Loader) {path : String} {e : Error}
      (h : loader.open? l.disk path = .error e) : e.isLoader := by
    unfold Loader.open? at h
    split at h <;> split at h <;> cases h <;> rfl
  have hgo (loaders : List Loader) {failure : Except Error (String × String)}
      (hfailure : ∀ e, failure = .error e → e.isLoader)
      (h : open?.go l referrer name failure loaders = .error e) : e.isLoader := by
    induction loaders generalizing failure with
    | nil => exact hfailure e h
    | cons loader rest ih =>
      unfold open?.go at h
      dsimp only at h
      split at h
      · cases h
      · rename_i e' he'
        refine ih ?_ h
        rintro _ ⟨⟩
        exact hloader loader he'
  refine hgo l.loaders ?_ h
  rintro _ ⟨⟩
  rfl

/-- Where the loaders can open what they have, they have nothing if the set opens nothing. -/
theorem Readable.absent_iff (h : l.Readable referrer name) :
    l.Absent referrer name ↔ ∃ e, l.open? referrer name = .error e := by
  constructor
  · intro habsent
    cases hopen : l.open? referrer name with
    | error e => exact ⟨e, rfl⟩
    | ok opened =>
      obtain ⟨path, source⟩ := opened
      obtain ⟨loader, hloader, rfl, hsource⟩ := exists_loader_of_open? hopen
      exact absurd (Loader.has_of_open? hsource) (habsent loader hloader)
  · rintro ⟨e, hopen⟩ loader hloader hhas
    obtain ⟨source, hsource⟩ := h loader hloader hhas
    obtain ⟨e', he'⟩ := exists_error_of_open? hopen loader hloader
    cases hsource.symm.trans he'

end Library

end Loaders

/-!
## How loading fails

Links are followed from one template that is being compiled to the next, all of them different and
opened by the set.
-/

section Loading

open Library

variable {l l' : Library} {spent : Prop} {referrer : Option String} {name source : String}

/-- The set `l'` has the loaders of the set `l`, and they see the same files. -/
structure Library.SameLoaders (l l' : Library) : Prop where
  loaders : l'.loaders = l.loaders
  disk : l'.disk = l.disk

theorem Library.SameLoaders.open?_eq (h : l.SameLoaders l') (referrer : Option String)
    (name : String) : l'.open? referrer name = l.open? referrer name :=
  open?_congr h.loaders h.disk referrer name

/-- Run on the set `l'`, `m` leaves a set with the loaders of `l`, and fails for reasons of its own.
-/
def Library.HaltsAt {α : Type} (l : Library) (spent : Prop) (l' : Library) (m : Keeping Library α) :
    Prop := l.SameLoaders (m l').2 ∧ Ends (fun _ => True) (Halt.Own spent) (m l').1

/-- A compilation fails for reasons of its own, whatever the links in its source lead to. -/
theorem halts_compileWith {link : Linker} (underway : List String) (hl' : l.SameLoaders l')
    (hlink : ∀ other l', l.SameLoaders l' →
      l.SameLoaders (link other (some name) underway l').2 ∧
        ∀ why, (link other (some name) underway l').1 = .error (@Halt.exhausted why) → spent) :
    l.HaltsAt spent l' (compileWith link name source underway) := by
  unfold Library.HaltsAt
  rw [compileWith_eq]
  split
  · rename_i e he
    obtain ⟨p, fault, rfl, -⟩ := Token.standsIn_of_tokenize_error he
    exact ⟨{ hl' with }, rfl⟩
  · rename_i tokens _
    let scope : DraftScope :=
      ⟨name, l'.catalog, l'.settings, fun other => link other (some name) underway⟩
    have hscope : scope.Loads l.SameLoaders spent := hlink
    have hread : Halts l.SameLoaders spent scope
        (Node.readAll l'.settings.maxNestingDepth (tokens.length + 1) []) := halts_all hscope _ _ _
    obtain ⟨hleft, hresult⟩ :=
      hread { tokens, library := { l' with compiledAny := true } } { hl' with }
    dsimp only
    generalize Node.readAll _ _ _ _ _ = out at hleft hresult ⊢
    obtain ⟨result, draft⟩ := out
    refine ⟨{ hleft with }, ?_⟩
    cases result with
    | ok nodes => trivial
    | error h => exact hresult

/-- A link fails because the name leads to nothing, or for reasons that are not a loader's. -/
theorem halts_link (fuel : Nat) (name : String) (referrer : Option String) (underway : List String)
    (hl' : l.SameLoaders l') (hnodup : underway.Nodup) (hopened : ∀ path ∈ underway, l.Opened path)
    (hdepth : l.linkDepth ≤ fuel + underway.length) :
    l.SameLoaders (link fuel name referrer underway l').2 ∧
      ∀ h, (link fuel name referrer underway l').1 = .error h →
        (∃ e, h = .error e ∧ l.open? referrer name = .error e) ∨ h.Own l.Deep := by
  induction fuel generalizing l' name referrer underway with
  | zero =>
    refine ⟨hl', ?_⟩
    rintro _ ⟨⟩
    exact .inr ⟨underway, hnodup, by omega, hopened⟩
  | succ fuel ih =>
    rw [link_succ]
    split
    · exact ⟨hl', nofun⟩
    · rw [hl'.open?_eq]
      split
      · rename_i e he
        refine ⟨hl', ?_⟩
        rintro _ ⟨⟩
        exact .inl ⟨e, rfl, he⟩
      · rename_i path source hopen
        split
        · exact ⟨hl', nofun⟩
        · rename_i hnew
          have hlinks (other : String) (l'' : Library) (hl'' : l.SameLoaders l'') :
              l.SameLoaders (link fuel other (some path) (path :: underway) l'').2 ∧
                ∀ why, (link fuel other (some path) (path :: underway) l'').1 =
                  .error (@Halt.exhausted why) → l.Deep := by
            obtain ⟨hleft, hfails⟩ := ih other (some path) (path :: underway) hl''
              (List.nodup_cons.mpr ⟨hnew, hnodup⟩)
              (List.forall_mem_cons.mpr ⟨opened_of_open? hopen, hopened⟩)
              (by rw [List.length_cons]; omega)
            refine ⟨hleft, fun _ hspent => ?_⟩
            obtain ⟨e, he, -⟩ | hown := hfails _ hspent
            · cases he
            · exact hown
          have hcompiled : l.HaltsAt l.Deep l'
              (compileWith (link fuel) path source (path :: underway)) :=
            halts_compileWith (path :: underway) hl' hlinks
          obtain ⟨hleft, hresult⟩ := hcompiled
          split <;> rename_i heq <;> rw [heq] at hleft hresult
          · refine ⟨hleft, ?_⟩
            rintro _ ⟨⟩
            exact .inr hresult
          · refine ⟨?_, nofun⟩
            split
            · exact hleft
            · exact { hleft with }

/-- A template that is named outside of any compilation is not being compiled. -/
theorem link_ne_none (fuel : Nat) (name : String) (referrer : Option String) (l : Library) :
    (link fuel name referrer [] l).1 ≠ .ok none := by
  cases fuel with
  | zero => nofun
  | succ fuel =>
    rw [link_succ]
    split
    · nofun
    · split
      · nofun
      · rw [if_neg List.not_mem_nil]
        split <;> nofun

/-- Where the set opens nothing under the name, loading finds a template that is known, or fails
with what the loaders say, and leaves the set as it is. -/
theorem load_of_not_open? {e : Error} (hopen : l.open? referrer name = .error e) :
    Library.load referrer name l =
      match if l.settings.debug then none else l.cached? referrer name with
      | some t => (.ok t, l)
      | none => (.error (.error e), l) := by
  have hdepth : l.linkDepth = (l.linkDepth - 1) + 1 := by
    have := linkDepth_eq l
    omega
  rw [load_eq, hdepth, link_succ, hopen]
  cases (if l.settings.debug then none else l.cached? referrer name) <;> rfl

/-- Where the set opens a source under the name, loading fails for other reasons than that. -/
theorem own_of_load {path : String} (hopen : l.open? referrer name = .ok (path, source))
    {h : Halt} (hload : (Library.load referrer name l).1 = .error h) : h.Own l.Deep := by
  rw [load_eq] at hload
  cases hlink : (link l.linkDepth name referrer [] l).1 with
  | error h' =>
    rw [hlink] at hload
    cases hload
    have hsame : l.SameLoaders l := ⟨rfl, rfl⟩
    obtain ⟨-, hfails⟩ := halts_link l.linkDepth name referrer [] hsame List.nodup_nil nofun
      (Nat.le_refl _)
    obtain ⟨e, -, he⟩ | hown := hfails h hlink
    · cases hopen.symm.trans he
    · exact hown
  | ok found =>
    cases found with
    | none => exact absurd hlink (link_ne_none _ _ _ _)
    | some t =>
      rw [hlink] at hload
      cases hload

end Loading

/-!
## Includes
-/

section Includes

variable {j : Jumps} {host : Host} {s s₁ s₂ : State} {e : Expr} {v : Value} {name base : String}
  {bindings : List (String × Expr)} {only : Bool} {h : Halt}

/-- What an include does with its template. -/
def showIncluded (j : Jumps) (bindings : List (String × Expr)) (only : Bool) (t : Template) :
    Render Unit := do
  let values ← evalBindings j bindings
  Render.deeper "include" do
    if only then Render.isolated values (t.render j) else Render.inScope values (t.render j)

theorem run_requireSet_eq (host : Host) (s : State) :
    requireSet host s =
      (if s.set.isNone then .error (.error (.run .noSet)) else .ok (), s) := by
  unfold requireSet
  rw [run_get_bind]
  cases s.set <;> rfl

/-- A template that may be missing is not found where loading fails as a loader does. -/
theorem find?_named (he : e.eval j host s = (.ok v, s₁)) (hname : v.string? = some name) :
    Target.find? j (.named e) base true host s =
      match Render.load (some base) name host s₁ with
      | (.ok t, s₂) => (.ok (some t), s₂)
      | (.error (.error e), s₂) =>
        if e.isLoader then (.ok none, s₂) else (.error (.error e), s₂)
      | (.error (@Halt.exhausted why), s₂) => (.error (@Halt.exhausted why), s₂) := by
  have hnamed : templateName .includeName v host s₁ = (.ok name, s₁) := by
    unfold templateName
    rw [hname]
    rfl
  unfold Target.find?
  dsimp only
  rw [run_bind_of_ok he, run_bind_of_ok hnamed, run_bind, run_requireSet_eq]
  cases hset : s₁.set with
  | none =>
    unfold Render.load
    rw [hset]
    rfl
  | some l =>
    change (attempt (Render.load (some base) name) >>= _ : Render (Option Template)) host s₁ = _
    rw [run_bind]
    unfold attempt
    rcases Render.load (some base) name host s₁ with ⟨(e | _) | t, s₂⟩
    · dsimp only
      cases hloader : e.isLoader
      · unfold explain
        rw [hloader]
        rfl
      · rfl
    · rfl
    · rfl

/-- An include that may be missing is skipped where loading fails as a loader does, and fails where
loading fails otherwise. -/
theorem exec_includes_eq (he : e.eval j host s = (.ok v, s₁)) (hname : v.string? = some name) :
    (Statement.includes (.named e) base bindings only true).exec j host s =
      match Render.load (some base) name host s₁ with
      | (.ok t, s₂) => showIncluded j bindings only t host s₂
      | (.error (.error e), s₂) =>
        if e.isLoader then (.ok (), s₂) else (.error (.error e), s₂)
      | (.error (@Halt.exhausted why), s₂) => (.error (@Halt.exhausted why), s₂) := by
  unfold Statement.exec
  rw [run_bind, find?_named he hname]
  rcases Render.load (some base) name host s₁ with ⟨(e | _) | t, s₂⟩
  · dsimp only
    cases e.isLoader <;> rfl
  · rfl
  · rfl

section Loaded

variable {l : Library} (he : e.eval j host s = (.ok v, s₁)) (hname : v.string? = some name)
  (hset : s₁.set = some l)
include he hname hset

omit he hname in
theorem load_of_set (referrer : Option String) (name : String) :
    Render.load referrer name host s₁ =
      ((Library.load referrer name l).1,
        { s₁ with set := some (Library.load referrer name l).2 }) := by
  unfold Render.load
  rw [hset]
  rfl

omit he hname in
/-- Loading a template that is known does not fail. -/
theorem unknown_of_load {referrer : Option String} {name : String} {fault : Error}
    (hopen : l.open? referrer name = .error fault)
    (hload : Render.load referrer name host s₁ = (.error h, s₂)) :
    l.settings.debug ∨ l.cached? referrer name = none := by
  rw [load_of_set hset, load_of_not_open? hopen] at hload
  cases hdebug : l.settings.debug with
  | true => exact .inl rfl
  | false =>
    cases hknown : l.cached? referrer name with
    | none => exact .inr rfl
    | some t =>
      rw [hdebug, hknown] at hload
      cases hload

/-- Where the set opens nothing under the name, an include that may be missing is skipped, unless
the template is known already. -/
theorem exec_includes_unopened {fault : Error} (hopen : l.open? (some base) name = .error fault)
    (hknown : l.settings.debug ∨ l.cached? (some base) name = none) :
    (Statement.includes (.named e) base bindings only true).exec j host s = (.ok (), s₁) := by
  have hunknown : (if l.settings.debug then none else l.cached? (some base) name) = none := by
    obtain hdebug | hnew := hknown
    · exact if_pos hdebug
    · rw [hnew, ite_self]
  rw [exec_includes_eq he hname, load_of_set hset, load_of_not_open? hopen, hunknown]
  dsimp only
  rw [if_pos (Library.isLoader_of_open? hopen), ← hset]

/-- Where the set opens a source under the name, an include fails as loading does. -/
theorem exec_includes_opened {opened : String × String}
    (hopen : l.open? (some base) name = .ok opened)
    (hload : Render.load (some base) name host s₁ = (.error h, s₂)) :
    (Statement.includes (.named e) base bindings only true).exec j host s = (.error h, s₂) ∧
      h.Own l.Deep := by
  have hown : h.Own l.Deep := by
    rw [load_of_set hset] at hload
    exact own_of_load hopen (Prod.mk.inj hload).1
  rw [exec_includes_eq he hname, hload]
  cases h with
  | error fault => exact ⟨if_neg (Bool.eq_false_iff.mp hown), hown⟩
  | exhausted => exact ⟨rfl, hown⟩

end Loaded

variable (bindings only) in
/-- An include that may be missing is skipped exactly where no loader has anything under its name,
if the loaders can open what they have. If its template cannot be loaded or compiled for any other
reason, that is the error of the include; only links from template to template that are deeper than
they are followed have no result. -/
theorem exec_includes_optional (he : e.eval j host s = (.ok v, s₁)) (hname : v.string? = some name)
    (hreadable : ∀ l ∈ s₁.set, l.Readable (some base) name) :
    let run := (Statement.includes (.named e) base bindings only true).exec j host s
    (∀ t s₂, Render.load (some base) name host s₁ = (.ok t, s₂) →
      run = showIncluded j bindings only t host s₂) ∧
    (∀ h s₂, Render.load (some base) name host s₁ = (.error h, s₂) →
      ((∃ l ∈ s₁.set, l.Absent (some base) name) ∧ run = (.ok (), s₁)) ∨
      ((¬∃ l ∈ s₁.set, l.Absent (some base) name) ∧ run = (.error h, s₂) ∧
        ((∃ fault, h = .error fault) ∨ ∃ l ∈ s₁.set, l.Deep))) := by
  intro run
  have hrun : run = _ := exec_includes_eq he hname
  refine ⟨fun t s₂ hload => ?_, fun h s₂ hload => ?_⟩
  · rw [hrun, hload]
  cases hset : s₁.set with
  | none =>
    have hload' := hload
    unfold Render.load at hload'
    rw [hset] at hload'
    cases hload'
    rw [hload] at hrun
    exact .inr ⟨nofun, hrun, .inl ⟨_, rfl⟩⟩
  | some l =>
    have habsent : l.Absent (some base) name ↔ ∃ fault, l.open? (some base) name = .error fault :=
      (hreadable l hset).absent_iff
    cases hopen : l.open? (some base) name with
    | error fault =>
      exact .inl ⟨⟨l, rfl, habsent.mpr ⟨fault, hopen⟩⟩,
        exec_includes_unopened he hname hset hopen (unknown_of_load hset hopen hload)⟩
    | ok opened =>
      obtain ⟨hfails, hown⟩ : run = (.error h, s₂) ∧ h.Own l.Deep :=
        exec_includes_opened he hname hset hopen hload
      refine .inr ⟨?_, hfails, ?_⟩
      · rintro ⟨_, ⟨⟩, hmissing⟩
        obtain ⟨fault, hfault⟩ := habsent.mp hmissing
        cases hopen.symm.trans hfault
      · cases h with
        | error fault => exact .inl ⟨fault, rfl⟩
        | exhausted => exact .inr ⟨l, rfl, hown⟩

/-- A set with a part that names a template that is missing. -/
def dangling : Library := .new {} "set" [.memory [("part", "\x7b% include \"gone\" %\x7d")]]

/-- The part is there, so an include of it fails for want of what the part names. -/
theorem exec_includes_optional_part :
    let host := Host.bare fixedMoment
    let s := State.start (some dangling) [] {} .empty
    let e := Expr.literal (.string "part")
    e.eval (.upTo 1) host s = (.ok (.str "part"), s) ∧ Value.string? (.str "part") = some "part" ∧
      (∀ l ∈ s.set, l.Readable (some "page") "part") ∧
      ((Statement.includes (.named e) "page" [] false true).exec (.upTo 1) host s).1.isOk =
        false := by
  intro host s e
  have he : e.eval (.upTo 1) host s = (.ok (.str "part"), s) := rfl
  have hreadable : ∀ l ∈ s.set, l.Readable (some "page") "part" := by
    rintro _ ⟨⟩ loader hloader -
    obtain rfl := List.mem_singleton.mp hloader
    exact ⟨_, rfl⟩
  have hthere : ¬∃ l ∈ s.set, l.Absent (some "page") "part" := by
    rintro ⟨_, ⟨⟩, habsent⟩
    exact habsent _ (List.mem_singleton_self _) ⟨_, rfl⟩
  have hfails : (Library.load (some "page") "part" dangling).1.isOk = false := by decide +kernel
  have hload : Render.load (some "page") "part" host s = _ := load_of_set rfl _ _
  refine ⟨he, rfl, hreadable, ?_⟩
  cases hresult : (Library.load (some "page") "part" dangling).1 with
  | ok t =>
    rw [hresult] at hfails
    cases hfails
  | error h =>
    rw [hresult] at hload
    obtain ⟨habsent, -⟩ | ⟨-, hrun, -⟩ :=
      (exec_includes_optional [] false he rfl hreadable).2 _ _ hload
    · exact absurd habsent hthere
    · rw [hrun]
      rfl

/-- A set with a file below its directory that is not a text. -/
def unreadable : Library :=
  .new { root := [("t", .directory [("bad", .file ⟨#[255]⟩)])] } "set" [.files (some "t")]

/-- An include of the file is skipped, although the file is there. -/
theorem exec_includes_unreadable :
    let host := Host.bare fixedMoment
    let s := State.start (some unreadable) [] {} .empty
    ¬unreadable.Absent (some "page") "bad" ∧
      (Statement.includes (.named (.literal (.string "bad"))) "page" [] false true).exec (.upTo 1)
        host s = (.ok (), s) := by
  intro host s
  have hthere : (unreadable.disk.find "t/bad").isOk = true := by decide +kernel
  have hclosed : (unreadable.open? (some "page") "bad").isOk = false := by decide +kernel
  refine ⟨fun habsent => ?_, ?_⟩
  · exact habsent (.files (some "t")) (List.mem_singleton_self _) (exists_ok_of_isOk hthere)
  · cases hopen : unreadable.open? (some "page") "bad" with
    | error fault =>
      have he : (Expr.literal (.string "bad")).eval (.upTo 1) host s = (.ok (.str "bad"), s) := rfl
      exact exec_includes_unopened he rfl rfl hopen (.inr rfl)
    | ok opened =>
      rw [hopen] at hclosed
      cases hclosed

end Includes

end Stencil
