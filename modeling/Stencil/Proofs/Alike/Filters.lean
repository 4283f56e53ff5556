import Stencil.Proofs.Alike.Values

/-!
# Filters on values that are alike

Every filter of the language makes values that are alike of values that are alike, or refuses them
with the same words.
-/

namespace Stencil

variable {L : Likeness} {v v' w w' : Value} {arg arg' : Option Value}

section

variable (hL : L.Valued)
include hL

/-! ## Arguments -/

omit hL in
theorem alike_required (h : Option.Rel L.value arg arg') :
    EndAlike Eq L.value (Filter.required arg) (Filter.required arg') := by
  cases h with
  | some h => exact .ok h
  | none => exact .error rfl

theorem count_eq (h : Option.Rel L.value arg arg') : Filter.count arg = Filter.count arg' := by
  cases h with
  | some h => exact congrArg (fun n : Int => Except.ok n.toNat) (toInteger_eq hL h)
  | none => rfl

theorem map_text_eq (h : Option.Rel L.value arg arg') :
    arg.map Value.text = arg'.map Value.text := by
  cases h with
  | some h => exact congrArg some (text_eq hL _ _ h)
  | none => rfl

theorem map_toInteger_eq (h : Option.Rel L.value arg arg') :
    arg.map Value.toInteger = arg'.map Value.toInteger := by
  cases h with
  | some h => exact congrArg some (toInteger_eq hL h)
  | none => rfl

/-! ## Text and markup -/

theorem alike_like (h : L.value v v') (s : List Char) :
    L.value (Markup.like v s) (Markup.like v' s) := by
  unfold Markup.like
  rw [isSafe_eq hL h]
  split
  · exact alike_safe hL _
  · exact alike_str hL _

theorem alike_onText (f : List Char → List Char) (h : L.value v v') :
    L.value (Filter.onText f v) (Filter.onText f v') := by
  unfold Filter.onText
  rw [text_eq hL v v' h]
  exact alike_like hL h _

/-- A filter that changes the text by a number that it is given. -/
theorem alike_onText_count (f : Nat → List Char → List Char) (h : L.value v v')
    (harg : Option.Rel L.value arg arg') :
    EndAlike Eq L.value (do return Filter.onText (f (← Filter.count arg)) v)
      (do return Filter.onText (f (← Filter.count arg')) v') := by
  rw [count_eq hL harg]
  cases Filter.count arg' with
  | ok n => exact .ok (alike_onText hL (f n) h)
  | error fault => exact .error rfl

theorem escapedText_eq (h : L.value v v') : Markup.escapedText v = Markup.escapedText v' := by
  unfold Markup.escapedText
  rw [isSafe_eq hL h, text_eq hL v v' h]

theorem escapedLines_eq (h : L.value v v') : Markup.escapedLines v = Markup.escapedLines v' := by
  unfold Markup.escapedLines
  rw [escapedText_eq hL h]

theorem alike_paragraphs (h : L.value v v') :
    L.value (Markup.paragraphs v) (Markup.paragraphs v') := by
  unfold Markup.paragraphs
  rw [escapedLines_eq hL h]
  exact alike_safe hL _

theorem alike_lineBreaks (h : L.value v v') :
    L.value (Markup.lineBreaks v) (Markup.lineBreaks v') := by
  unfold Markup.lineBreaks
  rw [escapedLines_eq hL h]
  exact alike_safe hL _

theorem alike_toSafe (h : L.value v v') : L.value v.toSafe v'.toSafe := by
  have htext := text_eq hL v v' h
  have hsafe : L.value (.safe v.text) (.safe v'.text) := htext ▸ alike_safe hL _
  cases hL.value.mp h <;> exact hsafe

theorem alike_stripTags (h : L.value v v') :
    EndAlike Eq L.value (Markup.stripTags v) (Markup.stripTags v') := by
  unfold Markup.stripTags
  rw [text_eq hL v v' h]
  split
  · exact .ok (alike_str hL _)
  · exact .error rfl

theorem alike_removeTags (h : L.value v v') (hw : L.value w w') :
    EndAlike Eq L.value (Markup.removeTags v w) (Markup.removeTags v' w') := by
  unfold Markup.removeTags
  rw [text_eq hL w w' hw, text_eq hL v v' h]
  split
  · exact .ok h
  · split
    · exact .error rfl
    · split
      · exact .ok (alike_like hL h _)
      · exact .error rfl

/-! ## Lists and choices -/

/-- Whether a value has so many characters, items or entries. -/
theorem alike_lengthIs (h : L.value v v') (harg : Option.Rel L.value arg arg') :
    EndAlike Eq L.value (do return .bool (v.length?.getD 0 == (← Filter.count arg)))
      (do return .bool (v'.length?.getD 0 == (← Filter.count arg'))) := by
  rw [length?_eq hL h, count_eq hL harg]
  cases Filter.count arg' with
  | ok n => exact .ok (alike_bool hL _)
  | error fault => exact .error rfl

theorem alike_first (h : L.value v v') : L.value (Items.first v) (Items.first v') := by
  cases hL.value.mp h with
  | seq hitems =>
    cases hitems with
    | nil => exact alike_nil hL
    | cons hv _ => exact hv
  | str s | safe s =>
    refine rel_getD ?_ (alike_nil hL)
    cases s.toList.head? with
    | none => exact .none
    | some c => exact .some (alike_str hL _)
  | _ => exact alike_nil hL

theorem alike_last (h : L.value v v') : L.value (Items.last v) (Items.last v') := by
  cases hL.value.mp h with
  | seq hitems =>
    change L.value (List.getLastD _ .nil) (List.getLastD _ .nil)
    rw [List.getLastD_eq_getLast?, List.getLastD_eq_getLast?]
    exact rel_getD (rel_getLast? hitems) (alike_nil hL)
  | str s | safe s =>
    refine rel_getD ?_ (alike_nil hL)
    cases s.toList.getLast? with
    | none => exact .none
    | some c => exact .some (alike_str hL _)
  | _ => exact alike_nil hL

theorem texts_eq {items items' : List Value} (h : List.Forall₂ L.value items items') :
    items.map Value.text = items'.map Value.text := by
  induction h with
  | nil => rfl
  | cons hv _ ih => rw [List.map_cons, List.map_cons, text_eq hL _ _ hv, ih]

theorem all_isSafe_eq {items items' : List Value} (h : List.Forall₂ L.value items items') :
    items.all Value.isSafe = items'.all Value.isSafe := by
  induction h with
  | nil => rfl
  | cons hv _ ih => rw [List.all_cons, List.all_cons, isSafe_eq hL hv, ih]

theorem alike_join (h : L.value v v') (harg : Option.Rel L.value arg arg') :
    L.value (Items.join v arg) (Items.join v' arg') := by
  have hsafe : arg.all Value.isSafe = arg'.all Value.isSafe := by
    cases harg with
    | some h => exact isSafe_eq hL h
    | none => rfl
  cases hL.value.mp h with
  | seq hitems =>
    unfold Items.join
    rw [map_text_eq hL harg]
    dsimp only
    rw [texts_eq hL hitems, all_isSafe_eq hL hitems, hsafe]
    split
    · exact alike_safe hL _
    · exact alike_str hL _
  | _ => exact h

omit hL in
theorem alike_cutOut {α β : Type} {R : α → β → Prop} {items : List α} {items' : List β}
    (h : List.Forall₂ R items items') (range : String) :
    EndAlike Eq (List.Forall₂ R) (Items.cutOut items range) (Items.cutOut items' range) := by
  unfold Items.cutOut
  rw [h.length_eq]
  cases Items.sliceBounds items'.length range with
  | error fault => exact .error rfl
  | ok bounds => exact .ok (List.forall₂_drop _ (List.forall₂_take _ h))

theorem alike_slice (h : L.value v v') (hw : L.value w w') :
    EndAlike Eq L.value (Items.slice v w) (Items.slice v' w') := by
  have hkind := kind_eq hL h
  have hchars (s : String) :
      EndAlike Eq Eq (Items.cutOut s.toList w'.text) (Items.cutOut s.toList w'.text) := by
    cases Items.cutOut s.toList w'.text with
    | ok part => exact .ok rfl
    | error fault => exact .error rfl
  unfold Items.slice
  rw [text_eq hL w w' hw]
  cases hL.value.mp h with
  | seq hitems => exact (alike_cutOut hitems _).bind fun _ _ h => .ok (alike_seq hL h)
  | str s => exact (hchars s).bind fun _ _ h => h ▸ .ok (alike_str hL _)
  | safe s => exact (hchars s).bind fun _ _ h => h ▸ .ok (alike_safe hL _)
  | _ => exact .error (congrArg RunFault.noSlice hkind)

theorem alike_makeList (h : L.value v v') : L.value (Items.makeList v) (Items.makeList v') := by
  have htext := text_eq hL v v' h
  have hchars : L.value (.seq (v.text.toList.map Value.ofChar))
      (.seq (v'.text.toList.map Value.ofChar)) := htext ▸ alike_seq hL (alike_chars hL _)
  cases hL.value.mp h with
  | seq hitems => exact alike_seq hL hitems
  | _ => exact hchars

theorem alike_yesno (h : L.value v v') {options options' : String} (ho : options = options') :
    EndAlike Eq L.value (Choice.yesno v options) (Choice.yesno v' options') := by
  subst ho
  unfold Choice.yesno
  rw [isNil_eq hL h, isTruthy_eq hL h]
  dsimp only
  split
  · exact .ok (alike_str hL _)
  · exact .ok (alike_str hL _)
  · exact .error rfl

theorem countOf_eq (h : L.value v v') : Choice.countOf v = Choice.countOf v' := by
  have hinteger := toInteger_eq hL h
  cases hL.value.mp h with
  | seq hitems => exact congrArg Nat.cast hitems.length_eq
  | map hentries => exact congrArg Nat.cast hentries.length_eq
  | _ => exact hinteger

theorem alike_pluralize (h : L.value v v') {options options' : String} (ho : options = options') :
    EndAlike Eq L.value (Choice.pluralize v options) (Choice.pluralize v' options') := by
  subst ho
  unfold Choice.pluralize
  rw [countOf_eq hL h]
  dsimp only
  split
  · exact .ok (alike_str hL _)
  · exact .ok (alike_str hL _)
  · exact .error rfl

/-! ## Numbers and dates -/

theorem alike_sum (h : L.value v v') (hw : L.value w w') :
    EndAlike Eq L.value (Numbers.add v w) (Numbers.add v' w') := by
  have htexts : EndAlike (@Eq RunFault) L.value
      (.ok (.str (v.text ++ w.text))) (.ok (.str (v'.text ++ w'.text))) := by
    rw [text_eq hL v v' h, text_eq hL w w' hw]
    exact .ok (alike_str hL _)
  have hsum (m n : Int) : EndAlike Eq L.value (Numbers.add (.int m) (.int n))
      (Numbers.add (.int m) (.int n)) := by
    unfold Numbers.add
    dsimp only
    split
    · exact .ok (alike_int hL _)
    · exact .error rfl
  cases hL.value.mp h with
  | int m =>
    cases hL.value.mp hw with
    | int n => exact hsum m n
    | float y => exact .ok (alike_float hL _)
    | _ => exact htexts
  | float x =>
    cases hL.value.mp hw with
    | int n => exact .ok (alike_float hL _)
    | float y => exact .ok (alike_float hL _)
    | _ => exact htexts
  | seq hitems =>
    cases hL.value.mp hw with
    | seq hmore => exact .ok (alike_seq hL (forall₂_append hitems hmore))
    | _ => exact htexts
  | _ => exact htexts

theorem alike_floatFormat (h : L.value v v') {places places' : Int} (hp : places = places') :
    L.value (Numbers.floatFormat v places) (Numbers.floatFormat v' places') := by
  subst hp
  unfold Numbers.floatFormat
  rw [toFloat?_eq hL h]
  split
  · exact alike_str hL _
  · split <;> exact alike_str hL _

theorem alike_divisibleBy (h : L.value v v') (hw : L.value w w') :
    EndAlike Eq L.value (Numbers.divisibleBy v w) (Numbers.divisibleBy v' w') := by
  unfold Numbers.divisibleBy
  rw [toInteger_eq hL h, toInteger_eq hL hw]
  dsimp only
  split
  · exact .error rfl
  · split
    · exact .error rfl
    · exact .ok (alike_bool hL _)

theorem alike_date (h : L.value v v') {format format' : String} (hf : format = format') :
    EndAlike Eq L.value (Dates.date v format) (Dates.date v' format') := by
  subst hf
  have hmoment : Dates.momentOf v = Dates.momentOf v' := by
    have hkind := kind_eq hL h
    cases hL.value.mp h with
    | int n | str s | safe s => rfl
    | _ => exact congrArg (fun kind => Except.error (RunFault.dateKind kind)) hkind
  unfold Dates.date
  rw [isNil_eq hL h, hmoment]
  split
  · exact .ok (alike_str hL _)
  · cases Dates.momentOf v' with
    | error fault => exact .error rfl
    | ok m =>
      dsimp only [bind, Except.bind]
      split
      · exact .ok (alike_str hL _)
      · exact .error rfl

/-! ## All filters -/

theorem alike_apply (f : Filter) (h : L.value v v') (harg : Option.Rel L.value arg arg') :
    EndAlike Eq L.value (f.apply v arg) (f.apply v' arg') := by
  have htext := text_eq hL v v' h
  have hof {a a' : Value} (ha : L.value a a') :
      EndAlike (@Eq RunFault) L.value (.ok a) (.ok a') := .ok ha
  have hint {n n' : Int} (hn : n = n') : EndAlike (@Eq RunFault) L.value
      (.ok (.int n)) (.ok (.int n')) := hn ▸ .ok (alike_int hL n)
  have hstr (f : String → String) : EndAlike (@Eq RunFault) L.value
      (.ok (.str (f v.text))) (.ok (.str (f v'.text))) := htext ▸ .ok (alike_str hL _)
  have hsafe (f : String → String) : EndAlike (@Eq RunFault) L.value
      (.ok (.safe (f v.text))) (.ok (.safe (f v'.text))) := htext ▸ .ok (alike_safe hL _)
  have hrequired := alike_required harg
  have htexts (default : String) :
      (arg.map Value.text).getD default = (arg'.map Value.text).getD default := by
    rw [map_text_eq hL harg]
  cases f with
  | safe => exact hof (alike_toSafe hL h)
  | escape => exact hof (escapedText_eq hL h ▸ alike_safe hL _)
  | striptags => exact alike_stripTags hL h
  | removetags => exact hrequired.bind fun _ _ hw => alike_removeTags hL h hw
  | linebreaks => exact hof (alike_paragraphs hL h)
  | linebreaksbr => exact hof (alike_lineBreaks hL h)
  | escapejs => exact hstr Text.escapeScript
  | markdown => exact hsafe fun s => String.ofList (Markdown.toHtml s.toList)
  | upper | lower | title | capfirst => exact hof (alike_onText hL _ h)
  | cut =>
    refine hrequired.bind fun w w' hw => hof ?_
    rw [text_eq hL w w' hw]
    exact alike_onText hL _ h
  | truncatechars | truncatewords | wordwrap | center | ljust | rjust =>
    exact alike_onText_count hL _ h harg
  | wordcount =>
    exact hint (congrArg (fun s : String => ((Text.words s.toList).length : Int)) htext)
  | slugify => exact hstr fun s => String.ofList (Text.slugify s.toList)
  | urlencode => exact hstr Text.percentEncode
  | length => exact hint (congrArg (fun n => ((n.getD 0 : Nat) : Int)) (length?_eq hL h))
  | lengthIs => exact alike_lengthIs hL h harg
  | first => exact hof (alike_first hL h)
  | last => exact hof (alike_last hL h)
  | join => exact hof (alike_join hL h harg)
  | slice => exact hrequired.bind fun _ _ hw => alike_slice hL h hw
  | makeList => exact hof (alike_makeList hL h)
  | orDefault =>
    refine hrequired.bind fun w w' hw => hof ?_
    rw [isTruthy_eq hL h]
    split
    · exact h
    · exact hw
  | defaultIfNone =>
    refine hrequired.bind fun w w' hw => hof ?_
    rw [isNil_eq hL h]
    split
    · exact hw
    · exact h
  | yesno => exact alike_yesno hL h (htexts _)
  | pluralize => exact alike_pluralize hL h (htexts _)
  | add => exact hrequired.bind fun _ _ hw => alike_sum hL h hw
  | integer => exact hint (toInteger_eq hL h)
  | float => exact hof (toFloat?_eq hL h ▸ alike_float hL _)
  | floatformat =>
    exact hof (alike_floatFormat hL h (congrArg (·.getD (-1)) (map_toInteger_eq hL harg)))
  | divisibleby => exact hrequired.bind fun _ _ hw => alike_divisibleBy hL h hw
  | date => exact alike_date hL h (htexts _)

end

end Stencil
