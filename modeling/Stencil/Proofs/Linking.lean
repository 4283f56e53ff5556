import Stencil.Proofs.History
import Stencil.Proofs.Twins.Renders

/-!
# Templates named by literals and by variables

A template that includes or extends another one may name it by a literal, and is then linked to it
while it is compiled, or by a variable, and then looks it up while it is rendered. Both come down to
the same (`rendered_unlinked`), provided that no template in memory names itself, directly or
through others. Where templates name each other in a circle the two differ: a template that is
looked up may be compiled in another order, and then it may not be there (`not_rendered_unlinked`).
-/

namespace Stencil

open Library Render

/-- What was written, unless the render was halted. -/
def Render.written (r : Except Halt Unit × State) : Option String :=
  if r.1.isOk then some r.2.out.contents else none

namespace Library

/-- The set with these templates in memory and no others. -/
def holding (l : Library) (templates : Table String) : Library :=
  { l with loaders := [.memory templates] }

/-- Where the template at `path` names the template `x` by a literal to include or extend it, it may
have the variable `v` for the literal in `source`. -/
def Unlinks (l : Library) (templates : Table String) (path source x v : String) : Prop :=
  ∃ linked tokens tokens', templates.get? path = some linked ∧
    Token.tokenize l.settings.trimming path linked = .ok tokens ∧
    Token.tokenize l.settings.trimming path source = .ok tokens' ∧
    Reworded (Renamed x v) tokens tokens'

/-- No template of the set and none of its values has to do with the variable `v`. -/
structure Ignores (l : Library) (v : String) : Prop where
  name : Text.isName v.toList = true
  block : v ≠ "block"
  templates : ∀ name t, (fromCache name l).1 = .ok t → v ∉ t.names
  globals : ∀ e ∈ l.globals, v ∉ e.2.names

/-- The text that the set gives for the name and the data of the caller, unless it has no such
template or the render halts. -/
def rendered (l : Library) (host : Host) (name : String) (context : Bindings) : Option String :=
  match fromCache name l with
  | (.ok t, l) => written (t.execute host (some l) context .empty)
  | (.error _, _) => none

end Library

variable {l l' : Library} {host : Host} {templates : Table String} {path source x v name : String}
  {t : Template} {ts ts' : List Token}

/-! ## What sets keep -/

/-- A set that keeps nothing gives a template only for a name that it opens. -/
theorem exists_open_of_fromCache (hcache : l.cache = []) (h : (fromCache name l).1 = .ok t) :
    ∃ path source, l.open? none name = .ok (path, source) := by
  have hload : ((Library.link l.linkDepth name none [] l).1 >>= finished name) = .ok t :=
    (congrArg Prod.fst (load_eq none name l)).symm.trans h
  generalize l.linkDepth = fuel at hload
  cases fuel with
  | zero => cases hload
  | succ fuel =>
    rw [link_succ, cached?_eq_none hcache, ite_self] at hload
    cases hopen : l.open? none name with
    | error e =>
      rw [hopen] at hload
      cases hload
    | ok opened => exact ⟨_, _, rfl⟩

section Orderly

variable {rank : String → Nat} {enough : Nat → List String → Prop} (hl : l.Orderly rank enough)
include hl

/-- What a set gives for a name at first is its answer to it. -/
theorem answer_of_fromCache (h : (fromCache name l).1 = .ok t) :
    l.answer name = .ok (some t.unnumbered) := by
  have hload : (fromCache name l).1.map Template.unnumbered = l.answer name >>= finished name :=
    (load_settled hl none name (.refl hl.cache)).2
  rw [h] at hload
  generalize l.answer name = answer at hload ⊢
  rcases answer with _ | _ | u
  · cases hload
  · cases hload
  · cases hload
    rfl

theorem exists_fromCache_of_answer (h : l.answer name = .ok (some t)) :
    ∃ u, (fromCache name l).1 = .ok u ∧ u.unnumbered = t := by
  have hload : (fromCache name l).1.map Template.unnumbered = l.answer name >>= finished name :=
    (load_settled hl none name (.refl hl.cache)).2
  rw [h] at hload
  generalize (fromCache name l).1 = found at hload ⊢
  rcases found with _ | u
  · cases hload
  · cases hload
    exact ⟨u, rfl, rfl⟩

end Orderly

/-! ## The source with the variable -/

theorem quoted_append (ts us : List Token) : quoted (ts ++ us) = quoted ts ++ quoted us :=
  List.filterMap_append

theorem quoted_cons (t : Token) (ts : List Token) : quoted (t :: ts) = quoted [t] ++ quoted ts :=
  quoted_append [t] ts

theorem SayAlike.quoted_eq (h : SayAlike ts ts') : quoted ts = quoted ts' := by
  induction h with
  | nil => rfl
  | cons ht _ ih =>
    unfold quoted at ih ⊢
    rw [List.filterMap_cons, List.filterMap_cons, ht, ih]

/-- The variable quotes nothing in place of the literal. -/
theorem Renamed.quoted_subset {tag : Tag} (h : Renamed x v tag ts ts') :
    quoted ts' ⊆ quoted ts := by
  have hvariable {t : Token} (ht : t.lexeme = .identifier v) : quoted [t] = [] := by
    unfold quoted
    rw [List.filterMap_cons, ht]
    rfl
  cases h with
  | including _ ht' hrest =>
    rw [quoted_cons, hvariable ht', ← hrest.quoted_eq]
    exact Stencil.quoted_subset (List.subset_cons_self _ _)
  | extending _ ht' =>
    rw [hvariable ht']
    exact List.nil_subset _

theorem append_subset_append {α : Type} {xs ys us vs : List α} (h : xs ⊆ ys) (h' : us ⊆ vs) :
    xs ++ us ⊆ ys ++ vs :=
  List.append_subset.mpr ⟨List.Subset.trans h (List.subset_append_left _ _),
    List.Subset.trans h' (List.subset_append_right _ _)⟩

/-- The source with the variable quotes nothing new. -/
theorem Reworded.quoted_subset {spot : Tag → List Token → List Token → Prop}
    (hspot : ∀ {tag args args'}, spot tag args args' → quoted args' ⊆ quoted args)
    (h : Reworded spot ts ts') : quoted ts' ⊆ quoted ts := by
  have hsame {us us' : List Token} (h : SayAlike us us') : quoted us' ⊆ quoted us :=
    h.quoted_eq ▸ List.Subset.refl _
  have hone {t t' : Token} (ht : t.lexeme = t'.lexeme) : quoted [t'] ⊆ quoted [t] :=
    hsame (.cons ht .nil)
  induction h with
  | same h => exact hsame h
  | @text t t' ts ts' s ht ht' _ ih =>
    rw [quoted_cons, quoted_cons t]
    exact append_subset_append (hone (ht.trans ht'.symm)) ih
  | @tag o o' inner inner' c c' ts ts' s _ ho ho' hinner _ _ hc _ ih =>
    rw [quoted_cons, quoted_append, quoted_cons c', quoted_cons o, quoted_append, quoted_cons c]
    exact append_subset_append (hone (ho.trans ho'.symm))
      (append_subset_append (hsame hinner) (append_subset_append (hone hc) ih))
  | @spot tag o o' n n' args args' c c' ts ts' ho ho' hn hn' hargs _ _ _ hc _ ih =>
    rw [quoted_cons, quoted_cons n', quoted_append, quoted_cons c', quoted_cons o, quoted_cons n,
      quoted_append, quoted_cons c]
    exact append_subset_append (hone (ho.trans ho'.symm)) (append_subset_append
      (hone (hn.trans hn'.symm)) (append_subset_append (hspot hargs)
        (append_subset_append (hone hc) ih)))
  | void _ _ _ _ h => exact h.elim

theorem Reworded.imp {spot spot' : Tag → List Token → List Token → Prop}
    (hspot : ∀ {tag args args'}, spot tag args args' → spot' tag args args')
    (h : Reworded spot ts ts') : Reworded spot' ts ts' := by
  induction h with
  | same h => exact .same h
  | text s ht ht' _ ih => exact .text s ht ht' ih
  | tag s hs ho ho' hinner hcloses hc hsame _ ih =>
    exact .tag s hs ho ho' hinner hcloses hc hsame ih
  | spot ho ho' hn hn' hargs hcloses hcloses' hc hsame _ ih =>
    exact .spot ho ho' hn hn' (hspot hargs) hcloses hcloses' hc hsame ih
  | void _ _ _ _ h => exact h.elim

/-! ## Templates in memory -/

theorem inMemory_holding (l : Library) (templates : Table String) :
    (l.holding templates).InMemory := List.forall_mem_singleton.mpr ⟨templates, rfl⟩

theorem open?_holding (l : Library) (templates : Table String) (referrer : Option String)
    (name : String) :
    (l.holding templates).open? referrer name =
      match templates.get? name with
      | some source => .ok (name, source)
      | none => .error (.loader name .notInMemory) := by
  unfold open? open?.go holding
  dsimp only [Loader.resolve, Loader.open?]
  cases templates.get? name <;> rfl

/-- Names that the source with the variable mentions are mentioned by the one with the literal. -/
theorem layered_insert {rank : String → Nat} (hlayered : (l.holding templates).Layered rank)
    (hunlinks : l.Unlinks templates path source x v) :
    (l.holding (templates.insert path source)).Layered rank := by
  obtain ⟨linked, tokens, tokens', hget, htokens, htokens', hreworded⟩ := hunlinks
  rintro name other ⟨referrer, p, s, ts, hopen, hts, hother⟩
  obtain ⟨rfl, held, hheld, hfound⟩ := (inMemory_holding _ _).of_open? hopen
  cases List.mem_singleton.mp hheld
  by_cases hname : p = path
  · subst hname
    cases (Table.get?_insert_self templates p source).symm.trans hfound
    cases htokens'.symm.trans hts
    refine hlayered p other ⟨none, p, linked, tokens, ?_, htokens,
      hreworded.quoted_subset Renamed.quoted_subset hother⟩
    rw [open?_holding, hget]
  · rw [Table.get?_insert_of_ne _ hname] at hfound
    refine hlayered p other ⟨none, p, s, ts, ?_, hts, hother⟩
    rw [open?_holding, hfound]

theorem renames_insert (hunlinks : l.Unlinks templates path source x v) :
    (l.holding templates).Renames path x v (l.holding (templates.insert path source)) where
  settings := rfl
  catalog := rfl
  opens name := by
    obtain ⟨linked, tokens, tokens', hget, htokens, htokens', hreworded⟩ := hunlinks
    rw [open?_holding, open?_holding]
    by_cases hname : name = path
    · subst hname
      rw [hget, Table.get?_insert_self]
      refine .ok ⟨rfl, ?_⟩
      show EndAlike _ _ (Token.tokenize l.settings.trimming name linked)
        (Token.tokenize l.settings.trimming name source)
      rw [htokens, htokens']
      exact .ok (hreworded.imp fun h => ⟨rfl, h⟩)
    · rw [Table.get?_insert_of_ne _ hname]
      cases templates.get? name with
      | none => exact .error rfl
      | some s =>
        refine .ok ⟨rfl, ?_⟩
        cases Token.tokenize (l.holding templates).settings.trimming name s with
        | error e => exact .error rfl
        | ok ts => exact .ok (.same (List.forall₂_same.mpr fun _ _ => rfl))

/-! ## Data of the caller -/

theorem checkNames_eq_ok_iff {context : Bindings} :
    checkNames context = .ok () ↔ ∀ e ∈ context, Text.isName e.1.toList = true := by
  induction context with
  | nil => exact iff_of_true rfl (List.forall_mem_nil _)
  | cons e context ih =>
    have hcons : checkNames (e :: context) =
        ((if Text.isName e.1.toList then .ok () else .error (.run (.contextKey e.1))) >>=
          fun _ => checkNames context) := rfl
    rw [hcons, List.forall_mem_cons, ← ih]
    cases Text.isName e.1.toList with
    | true => exact (and_iff_right rfl).symm
    | false => exact ⟨nofun, fun h => nomatch h.1⟩

/-- The value of the variable does not make the data unfit. -/
theorem checkNames_insert (hv : Text.isName v.toList = true) (context : Bindings) (value : Value) :
    checkNames (context.insert v value) = .ok () ↔ checkNames context = .ok () := by
  rw [checkNames_eq_ok_iff, checkNames_eq_ok_iff]
  constructor
  · intro h e he
    have hkey : e.1 ∈ (context.insert v value).keys :=
      (Table.keys_prefix_insert context v value).subset (List.mem_map_of_mem he)
    obtain ⟨other, hother, hsame⟩ := List.mem_map.mp hkey
    exact hsame ▸ h other hother
  · intro h e he
    rcases Table.mem_of_mem_insert he with rfl | he
    · exact hv
    · exact h e he

/-! ## Renders -/

/-- Renders that go on alike write the same to the same sink. -/
theorem Outcome.written_eq {L : Likeness} {failure : Error} {s s' : State}
    {r r' : Except Halt Unit × State} (h : Outcome L (.same failure) s s' r r') :
    written r = written r' := by
  cases h with
  | together hend _ _ _ hout =>
    cases hend with
    | ok => exact congrArg (fun out : Sink => some out.contents) hout.1
    | error => rfl
  | refused => rfl
  | parted h => exact h.elim

theorem rendered_of_fromCache (h : (fromCache name l).1 = .ok t) (host : Host)
    (context : Bindings) :
    l.rendered host name context =
      written (t.execute host (some (fromCache name l).2) context .empty) := by
  unfold rendered
  rcases hfound : fromCache name l with ⟨_ | u, a⟩ <;> rw [hfound] at h <;> cases h
  rfl

theorem written_execute_eq {t' : Template} {set set' : Option Library} {context context' : Bindings}
    {out : Sink} (hnames : checkNames context' = .ok () ↔ checkNames context = .ok ())
    (hrender : written (t.render (.upTo jumpDepth) host (.start set context t.options out)) =
      written (t'.render (.upTo jumpDepth) host (.start set' context' t'.options out))) :
    written (t.execute host set context out) = written (t'.execute host set' context' out) := by
  unfold Template.execute
  cases hc : checkNames context with
  | ok =>
    rw [hnames.mpr hc]
    exact hrender
  | error e =>
    cases hc' : checkNames context' with
    | ok => exact nomatch hc ▸ hnames.mp hc'
    | error => rfl

/-- Where nothing has to do with the variable but the source that reads it, both renders start
alike. -/
theorem start_standing (x : String) {a a' : Library} (ha : l.Settled a) (ha' : l'.Settled a')
    (hglobals : a.globals = a'.globals) (hfree : ∀ e ∈ a.globals, v ∉ e.2.names)
    {context : Bindings} (hcontext : ∀ e ∈ context, v ∉ e.2.names) (hblock : v ≠ "block")
    {options options' : RenderOptions} (hoptions : options = options') (out : Sink) :
    (State.start (some a) context options out).Alike (l.standing x v l')
      (.start (some a') (context.insert v (.str x)) options' out) where
  set := ⟨a, a', rfl, rfl, ha, ha'⟩
  context := by
    refine ⟨fun n hn => ?_, Table.get?_insert_self context v (.str x)⟩
    show Option.Rel _ (context.get? n) ((context.insert v (.str x)).get? n)
    rw [Table.get?_insert_of_ne _ hn]
    exact rel_get?_standing l l' x hcontext n
  globals n _ := by
    show Option.Rel _ (a.globals.get? n) (a'.globals.get? n)
    rw [← hglobals]
    exact rel_get?_standing l l' x hfree n
  scopes := .cons (scope_base hblock) .nil
  autoescape := congrArg RenderOptions.autoescape hoptions
  chain := .nil
  overridden := .nil
  depth := rfl
  recursionLimit := congrArg RenderOptions.recursionLimit hoptions

/-- Templates in memory that do not name each other in a circle are in order. -/
theorem orderly_holding {rank : String → Nat} (hbuiltin : l.catalog.Builtin)
    (hcache : l.cache = []) (hlayered : (l.holding templates).Layered rank) :
    (l.holding templates).Orderly rank
      fun fuel underway => (l.holding templates).notUnderway underway < fuel :=
  @orderly_of_layered (l.holding templates) hbuiltin rank hlayered (inMemory_holding l templates)
    hcache

/-- In a set that was used, the name leads to a template if it does so at first, and in another set
that answers alike to one that is alike. -/
theorem exists_standing {rank rank' : String → Nat} {enough enough' : Nat → List String → Prop}
    (hl : l.Orderly rank enough) (hl' : l'.Orderly rank' enough')
    (hanswers : ∀ name, EndAlike (Halt.Alike Error.SameKind)
      (Option.Rel (Template.Twins (l.naming x v))) (l.answer name) (l'.answer name))
    (hfresh : ∀ name t, l.answer name = .ok (some t) → v ∉ t.names)
    (ht : (fromCache name l).1 = .ok t) {a a' : Library} (ha : l.Settled a) (ha' : l'.Settled a') :
    ∃ u u', (fromCache name a).1 = .ok u ∧ (fromCache name a').1 = .ok u' ∧
      (l.standing x v l').template u u' ∧ u.options = u'.options := by
  have hfound : (fromCache name a).1.map Template.unnumbered = .ok t.unnumbered := by
    refine (load_settled hl none name ha).2.trans ?_
    rw [answer_of_fromCache hl ht]
    rfl
  have hend : EndAlike _ _ (fromCache name a).1 (fromCache name a').1 :=
    (load_standing hl hl' hanswers hfresh ha ha' none none name).1
  generalize (fromCache name a).1 = found at hfound hend ⊢
  generalize (fromCache name a').1 = found' at hend ⊢
  cases hend with
  | ok h => exact ⟨_, _, rfl, rfl, h⟩
  | error => cases hfound

/-- Whether a template names another one by a literal or by a variable, it shows the same, whatever
the two sets were used for before. -/
theorem rendered_unlinked {rank : String → Nat} (hbuiltin : l.catalog.Builtin)
    (hcache : l.cache = []) (hlayered : (l.holding templates).Layered rank)
    (hunlinks : l.Unlinks templates path source x v) (hignores : (l.holding templates).Ignores v)
    (ht : (fromCache path (l.holding templates)).1 = .ok t) {a a' : Library}
    (ha : (l.holding templates).Used a)
    (ha' : (l.holding (templates.insert path source)).Used a') (hhost : host.Uniform)
    {context : Bindings} (hcontext : ∀ e ∈ context, v ∉ e.2.names) :
    a.rendered host path context = a'.rendered host path (context.insert v (.str x)) := by
  have hl := orderly_holding hbuiltin hcache hlayered
  have hl' := orderly_holding hbuiltin hcache (layered_insert hlayered hunlinks)
  have hpath (name source : String)
      (hopen : (l.holding templates).open? none name = .ok (path, source)) :
      ∃ t, (l.holding templates).answer name = .ok (some t) := by
    obtain ⟨rfl, -⟩ := (inMemory_holding l templates).of_open? hopen
    exact ⟨_, answer_of_fromCache hl ht⟩
  have hanswers := answers_alike hl hl' (renames_insert hunlinks) hpath
  have hfresh (name : String) (t : Template)
      (h : (l.holding templates).answer name = .ok (some t)) : v ∉ t.names := by
    obtain ⟨u, hu, rfl⟩ := exists_fromCache_of_answer hl h
    rw [Template.names_unnumbered]
    exact hignores.templates name u hu
  have hlawful := lawful_standing hl hl' hanswers hfresh hignores.block hhost
  obtain ⟨u, u', hu, hu', hlike, hoptions⟩ := exists_standing hl hl' hanswers hfresh ht
    (settled_of_used hl ha) (settled_of_used hl' ha')
  have hglobals : (fromCache path a).2.globals = l.globals :=
    @globals_of_used (l.holding templates) _ hbuiltin hcache (.load none path ha)
  have hglobals' : (fromCache path a').2.globals = l.globals :=
    @globals_of_used (l.holding (templates.insert path source)) _ hbuiltin hcache
      (.load none path ha')
  have hfree : ∀ e ∈ (fromCache path a).2.globals, v ∉ e.2.names := hglobals ▸ hignores.globals
  have hstart := start_standing x (settled_of_used hl (.load none path ha))
    (settled_of_used hl' (.load none path ha')) (hglobals.trans hglobals'.symm) hfree hcontext
    hignores.block hoptions .empty
  have hagrees := agrees_render hlawful (agree_upTo hlawful jumpDepth) hlike
  rw [rendered_of_fromCache hu, rendered_of_fromCache hu']
  exact written_execute_eq (checkNames_insert hignores.name context _)
    (hagrees.outcome (.same Sink.empty.failure) _ _ hstart ⟨rfl, rfl⟩).written_eq

/-! ## Examples -/

/-- Whether no template in memory has to do with the variable. -/
def Library.spares (l : Library) (templates : Table String) (v : String) : Bool :=
  templates.all fun e =>
    match (fromCache e.1 (l.holding templates)).1 with
    | .ok t => !t.names.contains v
    | .error _ => true

theorem not_mem_names_of_spares (hcache : l.cache = []) (h : l.spares templates v = true)
    (ht : (fromCache name (l.holding templates)).1 = .ok t) : v ∉ t.names := by
  obtain ⟨path, source, hopen⟩ :=
    @exists_open_of_fromCache (l.holding templates) name t hcache ht
  rw [open?_holding] at hopen
  cases hget : templates.get? name with
  | none =>
    rw [hget] at hopen
    cases hopen
  | some s =>
    have hentry := List.all_eq_true.mp h _ (Table.mem_of_get? hget)
    dsimp only at hentry
    rw [ht] at hentry
    simpa using hentry

theorem demanded_nil : Demanded [] := by
  rintro env found left ⟨⟩
  rfl

/-- An include of nothing but the literal, and the same one with the variable. -/
theorem reworded_include {o o' n n' t t' c c' : Token} (ho : o.lexeme = .symbol .openTag)
    (ho' : o'.lexeme = .symbol .openTag) (hn : n.lexeme = .identifier "include")
    (hn' : n'.lexeme = .identifier "include") (ht : t.lexeme = .string x)
    (ht' : t'.lexeme = .identifier v) (hc : c.lexeme = .symbol .closeTag)
    (hc' : c'.lexeme = .symbol .closeTag) (hrest : SayAlike ts ts') :
    Reworded (Renamed x v) (o :: n :: t :: c :: ts)
      (o' :: n' :: t' :: c' :: ts') := by
  have hopen {u : Token} {lexeme : Lexeme} (hu : u.lexeme = lexeme)
      (hlexeme : ∀ s, lexeme ≠ .symbol s) : ∀ u' ∈ [u], u'.closes = false := by
    rw [List.forall_mem_singleton]
    unfold Token.closes
    rw [hu]
    cases lexeme with
    | symbol s => exact absurd rfl (hlexeme s)
    | text | keyword | identifier | string | number => rfl
  have hcloses : c.closes = true := by
    unfold Token.closes
    rw [hc]
    rfl
  exact @Recast.spot _ .including o o' n n' [t] [t'] c c' ts ts' ho ho' hn hn'
    (.including ht ht' .nil .nil demanded_nil) (hopen ht nofun) (hopen ht' nofun) hcloses
    (hc.trans hc'.symm) (.same hrest)

/-- A set without templates. -/
def emptySet : Library := .new {} "set" []

/-- A template that includes another one, which shows a value. -/
def linkedPages : Table String :=
  [("page", "\x7b% include \"part\" %\x7d!"), ("part", "\x7b\x7b title \x7d\x7d")]

theorem unlinks_page :
    emptySet.Unlinks linkedPages "page" "\x7b% include which %\x7d!" "part" "which" := by
  refine ⟨_, [⟨.symbol .openTag, ⟨"page", 1, 1⟩, false⟩,
    ⟨.identifier "include", ⟨"page", 1, 4⟩, false⟩, ⟨.string "part", ⟨"page", 1, 12⟩, false⟩,
    ⟨.symbol .closeTag, ⟨"page", 1, 19⟩, false⟩,
    ⟨.text "!", ⟨"page", 1, 21⟩, false⟩], [⟨.symbol .openTag, ⟨"page", 1, 1⟩, false⟩,
    ⟨.identifier "include", ⟨"page", 1, 4⟩, false⟩, ⟨.identifier "which", ⟨"page", 1, 12⟩, false⟩,
    ⟨.symbol .closeTag, ⟨"page", 1, 18⟩, false⟩, ⟨.text "!", ⟨"page", 1, 20⟩, false⟩], rfl,
    ok_of_toOption (by decide +kernel), ok_of_toOption (by decide +kernel), ?_⟩
  exact reworded_include rfl rfl rfl rfl rfl rfl rfl rfl (.cons rfl .nil)

theorem ignores_page : (emptySet.holding linkedPages).Ignores "which" where
  name := by decide +kernel
  block := by decide
  templates _ _ := not_mem_names_of_spares rfl (by decide +kernel)
  globals := List.forall_mem_nil _

theorem layered_page :
    (emptySet.holding linkedPages).Layered fun name => if name = "page" then 1 else 0 :=
  layered_of_ranked (inMemory_holding _ _) (by decide +kernel)

theorem exists_template_page :
    ∃ t, (fromCache "page" (emptySet.holding linkedPages)).1 = .ok t :=
  exists_ok_of_isOk (by decide +kernel)

/-- A page that includes a part by a literal and one that does it by a variable show the same. -/
theorem rendered_unlinked_page :
    (emptySet.holding linkedPages).Ignores "which" ∧
      (∃ t, (fromCache "page" (emptySet.holding linkedPages)).1 = .ok t) ∧
      (emptySet.holding linkedPages).rendered (.bare fixedMoment) "page" [("title", .str "T")] =
        (emptySet.holding (linkedPages.insert "page" "\x7b% include which %\x7d!")).rendered
          (.bare fixedMoment) "page" [("title", .str "T"), ("which", .str "part")] := by
  refine ⟨ignores_page, exists_template_page, ?_⟩
  obtain ⟨t, ht⟩ := exists_template_page
  have hcontext : ∀ e ∈ [("title", Value.str "T")], "which" ∉ e.2.names :=
    List.forall_mem_singleton.mpr List.not_mem_nil
  exact rendered_unlinked builtin_builtin rfl layered_page unlinks_page ignores_page ht .refl .refl
    (uniform_bare fixedMoment) hcontext

/-- Two templates that name each other, and a page that includes both. -/
def roundPages : Table String :=
  [("page", "\x7b% include \"child\" %\x7d" ++ "\x7b% include \"base\" %\x7d"),
    ("child", "\x7b% extends \"base\" %\x7d"),
    ("base", "base\x7b% if go %\x7d\x7b% include \"child\" %\x7d\x7b% endif %\x7d")]

/-- The page with the variable `which` for the name of one of them. -/
def roundSource : String := "\x7b% include which %\x7d" ++ "\x7b% include \"base\" %\x7d"

theorem unlinks_round : emptySet.Unlinks roundPages "page" roundSource "child" "which" := by
  refine ⟨_, [⟨.symbol .openTag, ⟨"page", 1, 1⟩, false⟩,
    ⟨.identifier "include", ⟨"page", 1, 4⟩, false⟩, ⟨.string "child", ⟨"page", 1, 12⟩, false⟩,
    ⟨.symbol .closeTag, ⟨"page", 1, 20⟩, false⟩, ⟨.symbol .openTag, ⟨"page", 1, 22⟩, false⟩,
    ⟨.identifier "include", ⟨"page", 1, 25⟩, false⟩, ⟨.string "base", ⟨"page", 1, 33⟩, false⟩,
    ⟨.symbol .closeTag, ⟨"page", 1, 40⟩, false⟩], [⟨.symbol .openTag, ⟨"page", 1, 1⟩, false⟩,
    ⟨.identifier "include", ⟨"page", 1, 4⟩, false⟩, ⟨.identifier "which", ⟨"page", 1, 12⟩, false⟩,
    ⟨.symbol .closeTag, ⟨"page", 1, 18⟩, false⟩, ⟨.symbol .openTag, ⟨"page", 1, 20⟩, false⟩,
    ⟨.identifier "include", ⟨"page", 1, 23⟩, false⟩, ⟨.string "base", ⟨"page", 1, 31⟩, false⟩,
    ⟨.symbol .closeTag, ⟨"page", 1, 38⟩, false⟩], rfl,
    ok_of_toOption (by decide +kernel), ok_of_toOption (by decide +kernel), ?_⟩
  exact reworded_include rfl rfl rfl rfl rfl rfl rfl rfl
    (.cons rfl (.cons rfl (.cons rfl (.cons rfl .nil))))

theorem ignores_round : (emptySet.holding roundPages).Ignores "which" where
  name := by decide +kernel
  block := by decide
  templates _ _ := not_mem_names_of_spares rfl (by decide +kernel)
  globals := List.forall_mem_nil _

/-- Where templates name each other in a circle, one that is looked up may not be there. -/
theorem not_rendered_unlinked :
    ¬∀ (l : Library) (templates : Table String) (path source x v : String) (t : Template)
        (host : Host) (context : Bindings), l.catalog.Builtin → l.cache = [] →
      l.Unlinks templates path source x v → (l.holding templates).Ignores v →
      (fromCache path (l.holding templates)).1 = .ok t → host.Uniform →
      (∀ e ∈ context, v ∉ e.2.names) →
        (l.holding templates).rendered host path context =
          (l.holding (templates.insert path source)).rendered host path
            (context.insert v (.str x)) := by
  intro h
  obtain ⟨t, ht⟩ : ∃ t, (fromCache "page" (emptySet.holding roundPages)).1 = .ok t :=
    exists_ok_of_isOk (by decide +kernel)
  have hsame := h emptySet roundPages "page" roundSource "child" "which" t (.bare fixedMoment) []
    builtin_builtin rfl unlinks_round ignores_round ht (uniform_bare fixedMoment)
    (List.forall_mem_nil _)
  have hleft : (emptySet.holding roundPages).rendered (.bare fixedMoment) "page" [] =
      some "basebase" := by decide +kernel
  have hright : (emptySet.holding (roundPages.insert "page" roundSource)).rendered
      (.bare fixedMoment) "page" [("which", .str "child")] = none := by decide +kernel
  cases hleft.symm.trans (hsame.trans hright)

end Stencil
