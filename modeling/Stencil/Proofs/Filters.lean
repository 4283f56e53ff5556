import Stencil.Filter.Apply
import Stencil.Proofs.Values

/-!
# Filters keep to the rules

A filter keeps a string safe only where what it makes of a plain text is plain. So whatever filters
are applied to, a value that obeys the rules goes to one that obeys them; the filters that write
markup themselves do this only where texts may hold markup.
-/

namespace Stencil

/-- The filters that write markup. -/
def Filter.writesMarkup (f : Filter) : Bool :=
  f == .safe || f == .markdown || f == .linebreaks || f == .linebreaksbr

variable {r : Rules} {v w a : Value}

/-! ## Texts -/

theorem obeys_like {s : List Char} (h : v.isSafe = true → r.text (String.ofList s)) :
    (Markup.like v s).Obeys r := by
  unfold Markup.like
  split
  · exact .safe (h ‹_›)
  · exact .str _

/-- A change that leaves plain texts plain keeps to the rules. -/
theorem obeys_onText {f : List Char → List Char} (hf : ∀ s, Text.Plain s → Text.Plain (f s))
    (hv : v.Obeys r) : (Filter.onText f v).Obeys r := by
  refine obeys_like fun hsafe => ?_
  rcases hv.text hsafe with hmarkup | hplain
  · exact .inl hmarkup
  · exact Rules.text_ofList (hf _ hplain)

theorem text_escapedText (hv : v.Obeys r) : r.text (Markup.escapedText v) := by
  unfold Markup.escapedText
  split
  · exact hv.text ‹_›
  · exact Rules.text_escapeHtml _

theorem obeys_stripTags (h : Markup.stripTags v = .ok w) : w.Obeys r := by
  unfold Markup.stripTags at h
  split at h <;> cases h
  exact .str _

theorem obeys_removeTags {names : Value} (hv : v.Obeys r) (h : Markup.removeTags v names = .ok w) :
    w.Obeys r := by
  unfold Markup.removeTags at h
  split at h
  · cases h
    exact hv
  · split at h
    · cases h
    · split at h <;> cases h
      rename_i s hs
      refine obeys_like fun hsafe => Rules.text_of_subset (hv.text hsafe) ?_
      rw [String.toList_ofList]
      exact Text.removeTags_subset hs

/-! ## Lists -/

theorem obeys_charOption {found : Option Char} :
    ((found.map Value.ofChar).getD .nil).Obeys r := by
  refine obeys_getD fun v hv => ?_
  obtain ⟨c, -, rfl⟩ := Option.map_eq_some_iff.mp hv
  exact obeys_ofChar c

theorem obeys_first (hv : v.Obeys r) : (Items.first v).Obeys r := by
  cases hv with
  | seq hitems =>
    rename_i items
    cases items with
    | nil => exact .nil
    | cons w items => exact hitems w (List.mem_cons_self ..)
  | str s | safe hs => exact obeys_charOption
  | _ => exact .nil

theorem obeys_last (hv : v.Obeys r) : (Items.last v).Obeys r := by
  cases hv with
  | seq hitems =>
    rename_i items
    unfold Items.last
    dsimp only
    rw [List.getLastD_eq_getLast?]
    exact obeys_getD fun w hw => hitems w (List.mem_of_getLast? hw)
  | str s | safe hs => exact obeys_charOption
  | _ => exact .nil

/-- Joined texts are safe only if all of them are. -/
theorem obeys_join {separator : Option Value} (hv : v.Obeys r)
    (hseparator : ∀ a ∈ separator, a.Obeys r) : (Items.join v separator).Obeys r := by
  cases hv with
  | seq hitems =>
    unfold Items.join
    dsimp only
    split
    · rename_i hsafe
      rw [Bool.and_eq_true, List.all_eq_true] at hsafe
      refine .safe (Rules.text_intercalate ?_ fun t ht => ?_)
      · cases separator with
        | none => exact Rules.text_empty
        | some a => exact (hseparator a rfl).text hsafe.2
      · obtain ⟨item, hitem, rfl⟩ := List.mem_map.mp ht
        exact (hitems item hitem).text (hsafe.1 item hitem)
    · exact .str _
  | nil => exact .nil
  | bool b => exact .bool b
  | int n => exact .int n
  | float x => exact .float x
  | str s => exact .str s
  | safe hs => exact .safe hs
  | map hentries => exact .map hentries
  | func hf => exact .func hf

theorem subset_of_cutOut {α : Type} {items part : List α} {range : String}
    (h : Items.cutOut items range = .ok part) : part ⊆ items := by
  obtain ⟨⟨first, last⟩, -, h⟩ := ok_of_bind h
  cases h
  exact List.Subset.trans (List.drop_subset _ _) (List.take_subset _ _)

theorem obeys_slice {range : Value} (hv : v.Obeys r) (h : Items.slice v range = .ok w) :
    w.Obeys r := by
  cases hv with
  | seq hitems =>
    obtain ⟨part, hpart, h⟩ := ok_of_bind h
    cases h
    exact .seq fun item hitem => hitems item (subset_of_cutOut hpart hitem)
  | str s =>
    obtain ⟨part, -, h⟩ := ok_of_bind h
    cases h
    exact .str _
  | safe hs =>
    obtain ⟨part, hpart, h⟩ := ok_of_bind h
    cases h
    refine .safe (Rules.text_of_subset hs ?_)
    rw [String.toList_ofList]
    exact subset_of_cutOut hpart
  | _ => cases h

theorem obeys_makeList (hv : v.Obeys r) : (Items.makeList v).Obeys r := by
  have hchars : (Value.seq (v.text.toList.map Value.ofChar)).Obeys r := by
    refine .seq fun w hw => ?_
    obtain ⟨c, -, rfl⟩ := List.mem_map.mp hw
    exact obeys_ofChar c
  cases hv with
  | seq hitems => exact .seq hitems
  | _ => exact hchars

/-! ## Choices and numbers -/

theorem obeys_yesno {options : String} (h : Choice.yesno v options = .ok w) : w.Obeys r := by
  unfold Choice.yesno at h
  dsimp only at h
  split at h <;> cases h <;> exact .str _

theorem obeys_pluralize {options : String} (h : Choice.pluralize v options = .ok w) :
    w.Obeys r := by
  unfold Choice.pluralize at h
  dsimp only at h
  split at h <;> cases h <;> exact .str _

theorem obeys_add (hv : v.Obeys r) (ha : a.Obeys r) (h : Numbers.add v a = .ok w) : w.Obeys r := by
  unfold Numbers.add at h
  split at h
  · split at h <;> cases h
    exact .int _
  · cases h
    exact .float _
  · cases h
    exact .float _
  · cases h
    exact .float _
  · cases h
    cases hv with
    | seq hv =>
      cases ha with
      | seq ha => exact .seq (List.forall_mem_append.mpr ⟨hv, ha⟩)
  · cases h
    exact .str _

theorem obeys_floatFormat (v : Value) (places : Int) : (Numbers.floatFormat v places).Obeys r := by
  unfold Numbers.floatFormat
  split
  · exact .str _
  · split <;> exact .str _

theorem obeys_divisibleBy (h : Numbers.divisibleBy v a = .ok w) : w.Obeys r := by
  unfold Numbers.divisibleBy at h
  dsimp only at h
  split at h
  · cases h
  · split at h <;> cases h
    exact .bool _

theorem obeys_date {format : String} (h : Dates.date v format = .ok w) : w.Obeys r := by
  unfold Dates.date at h
  split at h
  · cases h
    exact .str _
  · obtain ⟨m, -, h⟩ := ok_of_bind h
    split at h <;> cases h
    exact .str _

/-! ## All filters -/

/-- The argument of a filter that needs one. -/
theorem eq_some_of_required {arg : Option Value} (h : Filter.required arg = .ok a) :
    arg = some a := by
  cases arg with
  | none => cases h
  | some b =>
    cases h
    rfl

/-- Whatever a filter gives for a value and an argument that obey the rules obeys them. -/
theorem obeys_apply {f : Filter} (hf : r.markup ∨ f.writesMarkup = false) (hv : v.Obeys r)
    {arg : Option Value} (harg : ∀ a ∈ arg, a.Obeys r) (h : f.apply v arg = .ok w) : w.Obeys r := by
  have hmarkup (hwrites : f.writesMarkup = true) (s : String) : r.text s := by
    rcases hf with hf | hf
    · exact .inl hf
    · rw [hf] at hwrites
      cases hwrites
  cases f with
  | safe =>
    cases h
    cases hv <;> exact .safe (hmarkup rfl _)
  | escape => cases h; exact .safe (text_escapedText hv)
  | striptags => exact obeys_stripTags h
  | removetags =>
    obtain ⟨names, -, h⟩ := ok_of_bind h
    exact obeys_removeTags hv h
  | linebreaks => cases h; exact .safe (hmarkup rfl _)
  | linebreaksbr => cases h; exact .safe (hmarkup rfl _)
  | escapejs => cases h; exact .str _
  | markdown => cases h; exact .safe (hmarkup rfl _)
  | upper => cases h; exact obeys_onText (fun _ => Text.plain_upper) hv
  | lower => cases h; exact obeys_onText (fun _ => Text.plain_lowerAfter []) hv
  | title => cases h; exact obeys_onText (fun _ => Text.plain_titleFrom false) hv
  | capfirst => cases h; exact obeys_onText (fun _ => Text.plain_capitalize) hv
  | cut =>
    obtain ⟨part, -, h⟩ := ok_of_bind h
    cases h
    exact obeys_onText (fun s hs => hs.of_subset (Text.replaceFrom_subset _ 0 s)) hv
  | truncatechars =>
    obtain ⟨n, -, h⟩ := ok_of_bind h
    cases h
    exact obeys_onText (fun _ => Text.plain_truncate n) hv
  | truncatewords =>
    obtain ⟨n, -, h⟩ := ok_of_bind h
    cases h
    exact obeys_onText (fun _ => Text.plain_truncateWords n) hv
  | wordcount => cases h; exact .int _
  | wordwrap =>
    obtain ⟨n, -, h⟩ := ok_of_bind h
    cases h
    exact obeys_onText (fun _ => Text.plain_wrap n) hv
  | center =>
    obtain ⟨n, -, h⟩ := ok_of_bind h
    cases h
    exact obeys_onText (fun _ => Text.plain_padBoth n) hv
  | ljust =>
    obtain ⟨n, -, h⟩ := ok_of_bind h
    cases h
    exact obeys_onText (fun _ => Text.plain_padRight n) hv
  | rjust =>
    obtain ⟨n, -, h⟩ := ok_of_bind h
    cases h
    exact obeys_onText (fun _ => Text.plain_padLeft n) hv
  | slugify => cases h; exact .str _
  | urlencode => cases h; exact .str _
  | length => cases h; exact .int _
  | lengthIs =>
    obtain ⟨n, -, h⟩ := ok_of_bind h
    cases h
    exact .bool _
  | first => cases h; exact obeys_first hv
  | last => cases h; exact obeys_last hv
  | join => cases h; exact obeys_join hv harg
  | slice =>
    obtain ⟨range, -, h⟩ := ok_of_bind h
    exact obeys_slice hv h
  | makeList => cases h; exact obeys_makeList hv
  | orDefault =>
    obtain ⟨other, hother, h⟩ := ok_of_bind h
    cases h
    split
    · exact hv
    · exact harg other (eq_some_of_required hother)
  | defaultIfNone =>
    obtain ⟨other, hother, h⟩ := ok_of_bind h
    cases h
    split
    · exact harg other (eq_some_of_required hother)
    · exact hv
  | yesno => exact obeys_yesno h
  | pluralize => exact obeys_pluralize h
  | add =>
    obtain ⟨other, hother, h⟩ := ok_of_bind h
    exact obeys_add hv (harg other (eq_some_of_required hother)) h
  | integer => cases h; exact .int _
  | float => cases h; exact .float _
  | floatformat => cases h; exact obeys_floatFormat v _
  | divisibleby =>
    obtain ⟨other, -, h⟩ := ok_of_bind h
    exact obeys_divisibleBy h
  | date => exact obeys_date h

end Stencil
