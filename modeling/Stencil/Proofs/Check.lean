import Stencil.Command.Check
import Stencil.Proofs.Settled
import Stencil.Proofs.Walk

/-!
# What a check reports

A check counts every file below its directory whose path fits a pattern, each of them once, and
reports those that the set of its configuration cannot compile (`check_judges`). The set finds the
file that was walked as long as no other template directory has one of the same path. The set is
shared by all files; what it keeps has no part in the verdicts if templates do not name themselves,
directly or through others, or with debugging on.
-/

namespace Stencil

open Library Command

/-! ## Sets from settings -/

section OfSettings

variable {disk : Disk} {name : String} {settings : Settings} {l l' : Library}

/-- A set made from settings has nothing in its cache, and its catalog is the built-in one but for
bans. -/
structure Library.Configured (disk : Disk) (settings : Settings) (l : Library) : Prop where
  loaders : l.loaders =
    match settings.templateDirs with
    | [] => [.files none]
    | dirs => dirs.map fun dir => .files (some dir)
  disk : l.disk = disk
  settings : l.settings = settings
  cache : l.cache = []
  filters : l.catalog.filters.entries = Catalog.builtin.filters.entries
  tags : l.catalog.tags.entries = Catalog.builtin.tags.entries

theorem configured_banFilter (hl : l.Configured disk settings) {name : String}
    (h : l.banFilter name = .ok l') : l'.Configured disk settings := by
  unfold banFilter at h
  split at h
  · cases h
  · obtain ⟨filters, hfilters, h⟩ := ok_of_bind h
    cases h
    cases Registry.eq_of_ban hfilters
    exact { hl with }

theorem configured_banTag (hl : l.Configured disk settings) {name : String}
    (h : l.banTag name = .ok l') : l'.Configured disk settings := by
  unfold banTag at h
  split at h
  · cases h
  · obtain ⟨tags, htags, h⟩ := ok_of_bind h
    cases h
    cases Registry.eq_of_ban htags
    exact { hl with }

theorem configured_foldlM {ban : Library → String → Except Error Library}
    (hban : ∀ l l' name, l.Configured disk settings → ban l name = .ok l' →
      l'.Configured disk settings)
    (names : List String) (hl : l.Configured disk settings) (h : names.foldlM ban l = .ok l') :
    l'.Configured disk settings := by
  induction names generalizing l with
  | nil =>
    cases h
    exact hl
  | cons name names ih =>
    rw [List.foldlM_cons] at h
    obtain ⟨middle, hmiddle, h⟩ := ok_of_bind h
    exact ih (hban l middle name hl hmiddle) h

theorem configured_addGlobals (globals : Table Datum) (hl : l.Configured disk settings) :
    (globals.foldl (fun l g => l.addGlobal g.1 (.ofDatum g.2)) l).Configured disk settings := by
  induction globals generalizing l with
  | nil => exact hl
  | cons g globals ih => exact ih { hl with }

theorem configured_ofSettings (h : Library.ofSettings disk name settings = .ok l) :
    l.Configured disk settings := by
  unfold Library.ofSettings at h
  obtain ⟨l₁, hl₁, h⟩ := ok_of_bind h
  obtain ⟨l₂, hl₂, h⟩ := ok_of_bind h
  cases h
  have hstart : l₁.Configured disk settings :=
    configured_foldlM (fun _ _ _ hl h => configured_banFilter hl h) _
      ⟨rfl, rfl, rfl, rfl, rfl, rfl⟩ hl₁
  exact configured_addGlobals _
    (configured_foldlM (fun _ _ _ hl h => configured_banTag hl h) _ hstart hl₂)

theorem Library.Configured.builtin (h : l.Configured disk settings) : l.catalog.Builtin where
  filters name ref href := builtin_builtin.filters name ref (by
    unfold Registry.find? at href ⊢
    rwa [← h.filters])
  tags name ref href := builtin_builtin.tags name ref (by
    unfold Registry.find? at href ⊢
    rwa [← h.tags])

/-- A set whose settings name template directories loads from these, whoever names a template. -/
theorem Library.Configured.detached (h : l.Configured disk settings)
    (hdirs : settings.templateDirs ≠ []) : l.Detached := by
  intro loader hloader referrer name
  have hloaders := h.loaders
  split at hloaders
  · rename_i heq
    exact absurd heq hdirs
  · rw [hloaders] at hloader
    obtain ⟨dir, -, rfl⟩ := List.mem_map.mp hloader
    rfl

end OfSettings

/-! ## Files -/

/-- Where a set opens nothing, none of its loaders does. -/
theorem exists_error_of_open? {l : Library} {referrer : Option String} {name : String} {e : Error}
    (h : l.open? referrer name = .error e) :
    ∀ loader ∈ l.loaders, ∃ e, loader.open? l.disk (loader.resolve referrer name) = .error e := by
  have hgo (loaders : List Loader) (failure : Except Error (String × String))
      (h : open?.go l referrer name failure loaders = .error e) :
      ∀ loader ∈ loaders, ∃ e, loader.open? l.disk (loader.resolve referrer name) = .error e := by
    induction loaders generalizing failure with
    | nil => nofun
    | cons loader rest ih =>
      unfold open?.go at h
      dsimp only at h
      split at h
      · cases h
      · rename_i e' he'
        exact List.forall_mem_cons.mpr ⟨⟨e', he'⟩, ih _ h⟩
  exact hgo l.loaders _ h

theorem open?_files {disk : Disk} {base : Option String} {path source : String} :
    (Loader.files base).open? disk path = .ok source ↔ disk.readText path = .ok source := by
  unfold Loader.open?
  dsimp only
  cases disk.readText path <;> simp

/-- A walked file is what a set opens for its path, unless it opens a file of another directory. -/
theorem open?_of_walked {disk : Disk} {settings : Settings} {l : Library} {dir p : String}
    (h : l.Configured disk settings) (hdir : dir ∈ settings.templateDirs)
    (hfound : ∀ path source, l.open? none p = .ok (path, source) → path = Path.join dir p)
    (path source : String) :
    l.open? none p = .ok (path, source) ↔
      path = Path.join dir p ∧ disk.readText (Path.join dir p) = .ok source := by
  have hloaders : l.loaders = settings.templateDirs.map fun dir => .files (some dir) := by
    have hloaders := h.loaders
    split at hloaders
    · rename_i heq
      rw [heq] at hdir
      cases hdir
    · exact hloaders
  have hopened {path source : String} (hopen : l.open? none p = .ok (path, source)) :
      path = Path.join dir p ∧ disk.readText (Path.join dir p) = .ok source := by
    obtain rfl := hfound path source hopen
    obtain ⟨loader, hloader, -, hsource⟩ := exists_loader_of_open? hopen
    rw [hloaders] at hloader
    obtain ⟨_, -, rfl⟩ := List.mem_map.mp hloader
    exact ⟨rfl, h.disk ▸ open?_files.mp hsource⟩
  refine ⟨hopened, ?_⟩
  rintro ⟨rfl, hread⟩
  cases hopen : l.open? none p with
  | ok opened =>
    obtain ⟨path, source'⟩ := opened
    obtain ⟨rfl, hread'⟩ := hopened hopen
    rw [Except.ok.inj (hread.symm.trans hread')]
  | error e =>
    have hlast := exists_error_of_open? hopen (.files (some dir))
      (hloaders ▸ List.mem_map_of_mem hdir)
    obtain ⟨e', he'⟩ := hlast
    have hresolve : (Loader.files (some dir)).resolve none p = Path.join dir p := by
      dsimp only [Loader.resolve, Path.join]
      split <;> rfl
    rw [hresolve, h.disk, open?_files.mpr hread] at he'
    cases he'

/-! ## Checks -/

/-- What was loaded before has no part in whether a file can be compiled: templates do not name
themselves, directly or through others, or debugging is on. -/
def Library.Impartial (l : Library) : Prop :=
  l.settings.debug = true ∨
    l.Coherent ∧ ∃ rank, l.Ranked rank ∧ ∀ path, rank path + 1 < l.linkDepth

/-- The links of ranked paths are no deeper than their ranks. -/
theorem orderly_of_ranked {l : Library} (hbuiltin : l.catalog.Builtin) (hcache : l.cache = [])
    (hdetached : l.Detached) (hcoherent : l.Coherent) {rank : String → Nat}
    (hranked : l.Ranked rank)
    (hdepth : ∀ path, rank path + 1 < l.linkDepth) :
    l.Orderly rank fun fuel underway =>
      0 < fuel ∧ ∀ path, (∀ p ∈ underway, rank path < rank p) → rank path + 1 < fuel where
  builtin := hbuiltin
  cache := hcache
  detached := hdetached
  coherent := hcoherent
  ranked := hranked
  depth _ := ⟨Nat.zero_lt_of_lt (hdepth ""), fun path _ => hdepth path⟩
  zero _ h := Nat.lt_irrefl 0 h.1
  step fuel underway name path source h _ hless := by
    have hfuel := h.2 path hless
    refine ⟨by omega, fun path' hless' => ?_⟩
    have hlower := hless' path (List.mem_cons_self ..)
    omega

/-- In an impartial set, whether a file can be compiled does not change while files are compiled. -/
theorem exists_invariant {l : Library} {disk : Disk} {settings : Settings}
    (h : l.Configured disk settings) (hdirs : settings.templateDirs ≠ [])
    (himpartial : l.Impartial) :
    ∃ P : Library → Prop, P l ∧ ∀ l' name, P l' →
      P (fromFile name l').2 ∧ (fromFile name l').1.isOk = (fromFile name l).1.isOk := by
  have hisOk {x y : Except Halt Template}
      (h : x.map Template.unnumbered = y.map Template.unnumbered) : x.isOk = y.isOk := by
    cases x <;> cases y <;> first | rfl | cases h
  rcases himpartial with hdebug | ⟨hcoherent, rank, hranked, hdepth⟩
  · refine ⟨l.Resembles, .refl l, fun l' name hl' => ?_⟩
    obtain ⟨hleft, hresult⟩ := fromFile_resembles h.builtin hdebug name hl'
    exact ⟨hleft, hisOk hresult⟩
  · have horderly := orderly_of_ranked h.builtin h.cache (h.detached hdirs) hcoherent hranked hdepth
    refine ⟨l.Settled, .refl h.cache, fun l' name hl' => ?_⟩
    obtain ⟨hleft, hresult⟩ := fromFile_settled horderly name hl'
    exact ⟨hleft, hisOk hresult⟩

theorem checked_foldl (paths : List String) (report : CheckReport) (l : Library) :
    (paths.foldl checkOne (report, l)).1.checked = report.checked + paths.length := by
  induction paths generalizing report l with
  | nil => rfl
  | cons p paths ih =>
    have hone : (checkOne (report, l) p).1.checked = report.checked + 1 := by
      unfold checkOne
      dsimp only
      split <;> rfl
    rw [List.foldl_cons, ih (checkOne (report, l) p).1 (checkOne (report, l) p).2, hone,
      List.length_cons]
    omega

/-- If verdicts do not change on the way, the files that fail are those that fail at first. -/
theorem failures_foldl {l : Library} {P : Library → Prop}
    (hP : ∀ l' name, P l' →
      P (fromFile name l').2 ∧ (fromFile name l').1.isOk = (fromFile name l).1.isOk)
    (paths : List String) (report : CheckReport) {l' : Library} (hl' : P l') :
    (paths.foldl checkOne (report, l')).1.failures.map Prod.fst =
      report.failures.map Prod.fst ++
        paths.filter fun p => !(fromFile (Loader.nameOf p) l).1.isOk := by
  induction paths generalizing report l' with
  | nil => simp
  | cons p paths ih =>
    obtain ⟨hleft, hresult⟩ := hP l' (Loader.nameOf p) hl'
    rw [List.foldl_cons, List.filter_cons, ← hresult]
    unfold checkOne
    dsimp only [ExceptT.run, StateT.run]
    generalize fromFile (Loader.nameOf p) l' = ended at hleft ⊢
    obtain ⟨x, l''⟩ := ended
    cases x with
    | ok t => exact ih _ hleft
    | error h =>
      have hrest := ih ⟨report.checked + 1,
        report.failures ++ [(p, (CommandFault.ofHalt l'' h).message)]⟩ hleft
      rw [List.map_append, List.append_assoc] at hrest
      exact hrest

/-- The directories that a command is given are among those of its settings. -/
theorem mem_templateDirs {disk : Disk} {config : Option String} {dirs : List String}
    {settings : Settings} {dir : String} (h : settingsWith disk config dirs = .ok settings)
    (hdir : dir ∈ dirs) : dir ∈ settings.templateDirs := by
  unfold settingsWith at h
  cases config with
  | none =>
    cases h
    exact List.mem_append_right _ hdir
  | some path =>
    obtain ⟨s, -, hs⟩ := ok_of_bind h
    cases hs
    exact List.mem_append_right _ hdir

/-- Let `walked` be the files below a directory whose paths fit a pattern. A check counts each of
them once. If the set of its configuration is impartial, it reports those that the set cannot
compile: a file at whose path no other template directory has one is reported if and only if its own
text cannot be compiled in the set as it was at first. -/
theorem check_judges {disk : Disk} {dir : String} {patterns : List String} {config : Option String}
    {pats : List Pattern} {settings : Settings} {l : Library}
    (hpatterns : readPatterns patterns = .ok pats)
    (hsettings : settingsWith disk config [dir] = .ok settings)
    (hl : Library.ofSettings disk "check" settings = .ok l)
    (hwf : ∀ e, disk.find dir = .ok e → e.WellFormed) :
    ∃ report, check disk dir patterns config = .ok report ∧ ∃ walked : List String,
      walked.Nodup ∧
      (∀ p, p ∈ walked ↔
        (∃ e names bytes, disk.find dir = .ok e ∧ e.Holds names bytes ∧
          p = "/".intercalate names) ∧
        ∃ pattern ∈ pats, pattern.fits p.toList = true) ∧
      report.checked = walked.length ∧
      (l.Impartial →
        report.failures.map Prod.fst =
          walked.filter (fun p => !(fromFile (Loader.nameOf p) l).1.isOk) ∧
        ∀ p ∈ walked, Loader.nameOf p = p →
          (∀ path source, l.open? none p = .ok (path, source) → path = Path.join dir p) →
          (p ∈ report.failures.map Prod.fst ↔
            ¬∃ source t, disk.readText (Path.join dir p) = .ok source ∧
              (Library.compile (Path.join dir p) source l).1 = .ok t)) := by
  have hconfigured := configured_ofSettings hl
  have hmem := mem_templateDirs hsettings (List.mem_singleton_self dir)
  let walked := (disk.files dir).filter fun path => pats.any (Pattern.fits · path.toList)
  have hcheck : check disk dir patterns config = .ok (walked.foldl checkOne ({}, l)).1 := by
    unfold check
    simp only [hpatterns, hsettings, hl, bind, Except.bind]
    rfl
  refine ⟨_, hcheck, walked, (nodup_files hwf).filter _, fun p => ?_, ?_, fun himpartial => ?_⟩
  · rw [List.mem_filter, mem_files, List.any_eq_true]
  · rw [checked_foldl]
    exact Nat.zero_add _
  · obtain ⟨P, hstart, hP⟩ :=
      exists_invariant hconfigured (List.ne_nil_of_mem hmem) himpartial
    have hfailures := failures_foldl hP walked {} hstart
    refine ⟨hfailures, fun p hp hname hfound => ?_⟩
    have hopen := open?_of_walked hconfigured hmem hfound
    rw [hfailures, List.map_nil, List.nil_append, List.mem_filter, hname, fromFile_eq]
    cases hopened : l.open? none p with
    | error e =>
      refine iff_of_true ⟨hp, rfl⟩ ?_
      rintro ⟨source, t, hread, -⟩
      cases hopened.symm.trans ((hopen _ source).mpr ⟨rfl, hread⟩)
    | ok opened =>
      obtain ⟨path, source⟩ := opened
      obtain ⟨rfl, hread⟩ := (hopen path source).mp hopened
      rw [and_iff_right hp, hread]
      cases hcompiled : (Library.compile (Path.join dir p) source l).1 with
      | error h =>
        refine iff_of_true rfl ?_
        rintro ⟨_, t, ⟨⟩, ht⟩
        cases hcompiled.symm.trans ht
      | ok t =>
        refine iff_of_false Bool.false_ne_true ?_
        exact not_not_intro ⟨source, t, rfl, hcompiled⟩

/-! ## Examples -/

/-- A directory with two pages, one of which does not close a tag. -/
def pages : Entry :=
  .directory [("bad.html", .file "\x7b% if x %\x7dunclosed".toUTF8),
    ("page.html", .file "\x7b\x7b x \x7d\x7d".toUTF8)]

/-- The disk with these pages only. -/
def site : Disk where
  root := [("site", pages)]

/-- The set that a check of these pages compiles them in. -/
def siteSet : Library where
  name := "check"
  settings := { templateDirs := ["site"] }
  loaders := [.files (some "site")]
  disk := site

theorem wellFormed_pages : pages.WellFormed := by
  refine .directory (by decide) (by decide) ?_
  rintro e (_ | ⟨_, _ | ⟨_, ⟨⟩⟩⟩) <;> exact .file _

theorem quoted_pages {names : List String} {bytes : ByteArray} {path source : String}
    {tokens : List Token} (hholds : (Entry.directory site.root).Holds names bytes)
    (hsource : String.fromUTF8? bytes = some source)
    (htokens : Token.tokenize {} path source = .ok tokens) : quoted tokens = [] := by
  have hnone {text : String} (htext : String.fromUTF8? text.toUTF8 = some text)
      (hquoted : (Token.tokenize {} path text).map quoted = .ok [])
      (hbytes : text.toUTF8 = bytes) : quoted tokens = [] := by
    subst hbytes
    cases htext.symm.trans hsource
    rw [htokens] at hquoted
    exact Except.ok.inj hquoted
  cases hholds with
  | directory hentry hpages =>
    cases List.mem_singleton.mp hentry
    cases hpages with
    | directory hentry hpage =>
      rcases List.mem_pair.mp hentry with heq | heq <;> cases heq <;> cases hpage
      · exact hnone (by decide +kernel) (by cbv) rfl
      · exact hnone (by decide +kernel) (by cbv) rfl

theorem impartial_siteSet : siteSet.Impartial := by
  refine .inr ⟨coherent_singleton rfl, fun _ => 0, ?_, fun _ => (by decide : 1 < siteSet.linkDepth)⟩
  intro name path source tokens other _ _ hopen htokens hother
  obtain ⟨loader, hloader, -, hsource⟩ := exists_loader_of_open? hopen
  cases List.mem_singleton.mp hloader
  obtain ⟨names, bytes, hholds, htext⟩ := exists_holds_of_readText (open?_files.mp hsource)
  rw [quoted_pages hholds htext htokens] at hother
  cases hother

/-- Both pages are counted, and the one that is reported cannot be compiled. -/
theorem check_judges_site : ∃ report, check site "site" [] none = .ok report ∧
    report.checked = 2 ∧ report.failures.map Prod.fst = ["bad.html"] ∧
    ¬∃ source t, site.readText "site/bad.html" = .ok source ∧
      (Library.compile "site/bad.html" source siteSet).1 = .ok t := by
  have hpatterns : readPatterns [] =
    .ok [.anyParts :: .anyText :: ".html".toList.map .exactly] := by
    cbv
  have hwf (e) (he : site.find "site" = .ok e) : e.WellFormed := by
    cases he
    exact wellFormed_pages
  obtain ⟨report, hreport, walked, hnodup, hwalked, hchecked, hjudged⟩ :=
    check_judges hpatterns (rfl : settingsWith site none ["site"] = .ok siteSet.settings)
      (rfl : Library.ofSettings site "check" siteSet.settings = .ok siteSet) hwf
  obtain ⟨hfailures, hverdict⟩ := hjudged impartial_siteSet
  have hperm : walked.Perm ["bad.html", "page.html"] := by
    refine (List.perm_ext_iff_of_nodup hnodup (by decide)).mpr fun p => ?_
    rw [hwalked, List.mem_pair]
    constructor
    · rintro ⟨⟨_, names, bytes, ⟨⟩, hholds, rfl⟩, -⟩
      cases hholds with
      | directory hentry hpage =>
        rcases List.mem_pair.mp hentry with heq | heq <;> cases heq <;> cases hpage
        · exact .inl rfl
        · exact .inr rfl
    · rintro (rfl | rfl)
      · exact ⟨⟨pages, ["bad.html"], _, rfl, .directory (.head _) (.file _), rfl⟩, _, .head _,
          by decide +kernel⟩
      · exact ⟨⟨pages, ["page.html"], _, rfl, .directory (.tail _ (.head _)) (.file _), rfl⟩,
          _, .head _,
          by decide +kernel⟩
  have hreported : report.failures.map Prod.fst = ["bad.html"] := by
    rw [hfailures]
    exact List.perm_singleton.mp ((hperm.filter _).trans (.of_eq (by decide +kernel)))
  refine ⟨report, hreport, hchecked.trans hperm.length_eq, hreported, ?_⟩
  refine (hverdict "bad.html" (hperm.mem_iff.mpr (.head _)) (by decide +kernel)
    fun path source hopen => ?_).mp ?_
  · obtain ⟨loader, hloader, hpath, -⟩ := exists_loader_of_open? hopen
    cases List.mem_singleton.mp hloader
    exact hpath.symm
  · rw [hreported]
    exact .head _

/-- Another directory has a page of the same name. -/
def shadowed : Disk where
  root := [("site", .directory [("page.html", .file "\x7b% if x %\x7dunclosed".toUTF8)]),
    ("other", .directory [("page.html", .file "fine".toUTF8)]),
    ("set.json", .file "\x7b\"template_dirs\": [\"other\"]\x7d".toUTF8)]

/-- A check goes by a page whose tag is never closed and reports nothing, as it compiles the page of
the other directory. -/
theorem check_misses_shadowed : shadowed.files "site" = ["page.html"] ∧
    ∃ settings l report source,
      settingsWith shadowed (some "set.json") ["site"] = .ok settings ∧
      Library.ofSettings shadowed "check" settings = .ok l ∧
      check shadowed "site" [] (some "set.json") = .ok report ∧
      report.checked = 1 ∧ report.failures = [] ∧
      shadowed.readText "site/page.html" = .ok source ∧
      (Library.compile "site/page.html" source l).1.isOk = false := by
  have hfiles : shadowed.files "site" = ["page.html"] := by
    unfold Disk.files
    rw [show shadowed.find "site" =
      .ok (.directory [("page.html", .file "\x7b% if x %\x7dunclosed".toUTF8)]) from rfl]
    simp [Disk.filesOf, Disk.filesOfEach]
  have houtcome : (do
      let pats ← (readPatterns []).toOption
      let settings ← (settingsWith shadowed (some "set.json") ["site"]).toOption
      let l ← (Library.ofSettings shadowed "check" settings).toOption
      let source ← (shadowed.readText "site/page.html").toOption
      let walked := ["page.html"].filter fun path => pats.any (Pattern.fits · path.toList)
      let report := (walked.foldl checkOne ({}, l)).1
      pure (report.checked, report.failures, (Library.compile "site/page.html" source l).1.isOk)) =
        some (1, [], false) := by
    decide +kernel
  simp only [bind, Option.bind_eq_some_iff, pure, Option.some.injEq, Prod.mk.injEq] at houtcome
  obtain ⟨pats, hpats, settings, hsettings, l, hl, source, hsource, hchecked, hfailures, hbroken⟩ :=
    houtcome
  refine ⟨hfiles, settings, l, _, source, ok_of_toOption hsettings, ok_of_toOption hl, ?_, hchecked,
    hfailures, ok_of_toOption hsource, hbroken⟩
  unfold check
  simp only [hfiles, ok_of_toOption hpats, ok_of_toOption hsettings, ok_of_toOption hl, bind,
    Except.bind]
  rfl

end Stencil
