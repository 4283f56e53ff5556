import Stencil.Proofs.Reading.Asked
import Stencil.Proofs.Render.Fuel

/-!
# Escaping keeps markup out

Where escaping is on, the texts of templates have no characters of markup, and neither a filter that
writes markup nor a tag that turns escaping off is used, no such character is ever written, whatever
data are rendered and however the render ends.
-/

namespace Stencil

/-- The characters of markup. -/
def markup : List Char := ['<', '>', '"', '\'']

/-- The names of the filters that write markup. -/
def markupFilters : List String := ["safe", "markdown", "linebreaks", "linebreaksbr"]

/-- Texts without markup, no filter that writes markup, and no tag that turns escaping off. -/
def Wording.escaped : Wording where
  text s := ∀ c ∈ s.toList, c ∉ markup
  filter name := name ∉ markupFilters
  first tag name := (tag = "filter" → name ∉ markupFilters) ∧ ¬(tag = "autoescape" ∧ name = "off")

/-- The rules for templates of this wording. -/
def Rules.escaped (nesting : Nat) : Rules where
  markup := False
  filter _ ref := ∃ f : Filter, ref = .builtin f ∧ f.writesMarkup = false
  escaping enabled := enabled = true
  custom := False
  nesting := nesting

/-- A set that was not asked for templates yet, with escaping on and with the built-in filters and
tags only, whose sources have this wording and whose values stand for data. -/
structure Library.Escaping (l : Library) : Prop where
  autoescape : l.settings.autoescape = true
  builtin : l.catalog.Builtin
  sources : ∀ referrer name path source, l.open? referrer name = .ok (path, source) →
    l.Words .escaped path source
  globals : l.globals.FromData
  cache : l.cache = []

/-- A sink to which nothing was written. -/
def Sink.Fresh : Sink → Prop
  | .text written _ => written = []
  | .bytes written _ => written = .empty

/-! ## Rules -/

theorem isMarkup_eq_false_iff {c : Char} : Text.isMarkup c = false ↔ c ∉ markup := by
  simp [Text.isMarkup, markup, and_assoc]

theorem allowed_escaped (nesting : Nat) : Wording.escaped.Allowed (.escaped nesting) where
  text s hs := .inr fun c hc => isMarkup_eq_false_iff.mpr (hs c hc)
  empty := Rules.text_empty
  delimiter name text h := by
    unfold TagReader.delimiter? at h
    split at h <;> cases h <;> exact .inr (by decide)

theorem writesMarkup_of_not_mem {f : Filter} (h : f.name ∉ markupFilters) :
    f.writesMarkup = false := by
  cases f with
  | safe | markdown | linebreaks | linebreaksbr => exact absurd (by decide) h
  | _ => rfl

variable {l l' : Library}

theorem Library.Escaping.admits (h : l.Escaping) :
    l.Admits .escaped (.escaped (l.settings.maxNestingDepth + 1)) where
  catalog := h.builtin.admits (fun f hf => ⟨f, rfl, writesMarkup_of_not_mem hf⟩)
    (fun _ => trivial) (fun _ hname => hname.1 rfl) rfl fun hoff => absurd ⟨rfl, rfl⟩ hoff.2
  wording := allowed_escaped _
  escaping := h.autoescape
  nesting := Nat.lt_succ_self _
  block _ _ _ _ := trivial
  sources := h.sources

/-- What the renders of templates from the set keep to. -/
def Library.escaped (l : Library) (limit : Nat) : Realm where
  rules := .escaped (l.settings.maxNestingDepth + 1)
  library := l.Loads (.escaped (l.settings.maxNestingDepth + 1))
  halt _ := True
  parting _ := False
  limit := limit

theorem lawful_escaped (h : l.Escaping) (limit : Nat) : (l.escaped limit).Lawful where
  escaping := nofun
  custom := id
  filter _ _ := fun ⟨f, hf, hmarkup⟩ => ⟨f, hf, .inr hmarkup⟩
  error _ := trivial
  crashed := trivial
  parting _ _ := id
  load l' referrer name hl' := by
    obtain ⟨hloads, hends⟩ := (hl'.admits h.admits).loadsAt_load hl'.cache referrer name
    exact ⟨hl'.trans hloads, hends⟩

/-! ## Renders -/

theorem Sink.Fresh.obeys {out : Sink} (h : out.Fresh) {r : Rules} : out.Obeys r := by
  cases out with
  | text written room =>
    cases h
    nofun
  | bytes written room =>
    cases h
    exact .inr nofun

/-- No character of markup is written by the templates of such a set. -/
theorem not_mem_contents_execute (hl : l.Escaping) {t : Template} (ht : l.Gives .escaped t)
    {set : Option Library} (hset : ∀ l' ∈ set, l.Asked .escaped l') (host : Host)
    {context : Bindings} (hcontext : context.FromData) {out : Sink} (hout : out.Fresh) :
    ∀ c ∈ (t.execute host set context out).2.out.contents.toList, c ∉ markup := by
  have hloads : ∀ l' ∈ set, (l.escaped t.options.recursionLimit).library l' :=
    fun l' hl' => loads_of_asked hl.admits hl.cache (hset l' hl')
  have hobeys := obeys_of_gives hl.admits hl.cache ht
  have hautoescape : t.options.autoescape = true := by
    cases hobeys with
    | intro hescaping => exact hescaping
  have hglobals : ∀ l' ∈ set, l'.globals.FromData := fun l' hl' =>
    (hloads l' hl').globals ▸ hl.globals
  have hstart : (State.start set context t.options out).Sound
      (l.escaped t.options.recursionLimit) 0 [] :=
    sound_start rfl hloads hcontext.obey (fun l' hl' => (hglobals l' hl').obey) hautoescape
      hout.obeys
  have hg := lawful_escaped hl t.options.recursionLimit
  have hrender : (t.render (.upTo jumpDepth) host (.start set context t.options out)).2.Sound
      (l.escaped t.options.recursionLimit) 0 [] :=
    (upholds_render hg (falls_any _) (uphold_upTo hg trivial 0 (.inr rfl) jumpDepth) trivial hobeys
      _ hstart).1
  have hsound : (t.execute host set context out).2.out.Obeys (l.escaped 0).rules := by
    unfold Template.execute
    dsimp only
    generalize t.render (.upTo jumpDepth) host _ = ended at hrender
    split
    · exact hstart.out
    · exact hrender.out
  intro c hc
  rcases hsound.contents with h | h
  · exact h.elim
  · exact isMarkup_eq_false_iff.mp (h c hc)

/-- A set with one template. -/
def letters : Library := .new {} "letters" [.memory [("page", "Dear {{ name|upper }},")]]

/-- What the template of the set consists of. -/
def letterLexemes : List Lexeme :=
  [.text "Dear ", .symbol .openOutput, .identifier "name", .symbol .bar, .identifier "upper",
    .symbol .closeOutput, .text ","]

theorem fits_letters {ts : List Token} (h : ts.map Token.lexeme = letterLexemes) :
    Wording.escaped.Fits ts := by
  constructor <;> rw [h]
  · intro s hs
    simp only [letterLexemes, List.mem_cons, Lexeme.text.injEq, reduceCtorEq, List.not_mem_nil,
      or_false, false_or] at hs
    have hplain : Text.Plain s.toList := by rcases hs with rfl | rfl <;> decide
    exact fun c hc => isMarkup_eq_false_iff.mp (hplain c hc)
  · intro name hname
    simp [letterLexemes, List.infix_cons_iff] at hname
    change name ∉ markupFilters
    rw [hname]
    decide
  · intro tag name hname
    simp [letterLexemes, List.infix_cons_iff] at hname

theorem escaping_letters : letters.Escaping where
  autoescape := rfl
  builtin := builtin_builtin
  sources := by
    intro referrer name path source hopen ts hts
    have hmemory : letters.InMemory := List.forall_mem_singleton.mpr ⟨_, rfl⟩
    obtain ⟨rfl, templates, htemplates, hget⟩ := hmemory.of_open? hopen
    cases List.mem_singleton.mp htemplates
    cases List.mem_singleton.mp (Table.mem_of_get? hget)
    have hlexemes : (match Token.tokenize letters.settings.trimming "page"
        "Dear {{ name|upper }}," with
      | .ok ts => ts.map Token.lexeme == letterLexemes
      | .error _ => false) = true := by decide +kernel
    rw [hts] at hlexemes
    exact fits_letters (eq_of_beq hlexemes)
  globals := nofun
  cache := rfl

theorem not_mem_contents_letters :
    ∃ t, (Library.load none "page" letters).1 = .ok t ∧
      let out := (t.execute (.bare fixedMoment) (some letters) [("name", .str "<b>")] .empty).2.out
      out.contents = "Dear &lt;B&gt;," ∧ ∀ c ∈ out.contents.toList, c ∉ markup := by
  have hcontents : (match (Library.load none "page" letters).1 with
      | .ok t => (t.execute (.bare fixedMoment) (some letters) [("name", .str "<b>")]
          .empty).2.out.contents
      | .error _ => "") = "Dear &lt;B&gt;," := by decide +kernel
  cases ht : (Library.load none "page" letters).1 with
  | error h =>
    rw [ht] at hcontents
    exact absurd (show "" = "Dear &lt;B&gt;," from hcontents) (by decide)
  | ok t =>
    rw [ht] at hcontents
    refine ⟨t, rfl, hcontents, ?_⟩
    refine not_mem_contents_execute escaping_letters (.load .refl ht) ?_ (.bare fixedMoment) ?_ rfl
    · rintro _ ⟨⟩
      exact .refl
    · exact List.forall_mem_singleton.mpr ⟨.text "<b>", rfl⟩

end Stencil
