import Stencil.Value.Convert
import Stencil.Proofs.Keeping
import Stencil.Proofs.Rules
import Stencil.Proofs.Table
import Stencil.Render.Loop
import Stencil.Value.Arithmetic
import Stencil.Value.Path
import Stencil.Value.Signature

/-!
# Values that obey rules

A value obeys the rules of templates if its safe strings are texts that may stand in templates and
its functions are macros that obey the rules. Data obey all rules, and no operator and no step into
a value leads from values that obey the rules to one that does not.
-/

namespace Stencil

/-- A function that runs a macro that obeys the rules, or the next body of a block. -/
def Function.Obeys (r : Rules) (f : Function) : Prop :=
  match f.callback with
  | .body m => m.Obeys r
  | .super => True
  | .host _ _ => False

/-- A value that obeys the rules; records of the host do not. -/
inductive Value.Obeys (r : Rules) : Value → Prop where
  | nil : Value.Obeys r .nil
  | bool (b : Bool) : Value.Obeys r (.bool b)
  | int (n : Int) : Value.Obeys r (.int n)
  | float (x : Float) : Value.Obeys r (.float x)
  | str (s : String) : Value.Obeys r (.str s)
  | safe {s : String} (hs : r.text s) : Value.Obeys r (.safe s)
  | seq {items : List Value} (hitems : ∀ v ∈ items, Value.Obeys r v) : Value.Obeys r (.seq items)
  | map {entries : List (String × Value)} (hentries : ∀ e ∈ entries, Value.Obeys r e.2) :
      Value.Obeys r (.map entries)
  | func {f : Function} (hf : f.Obeys r) : Value.Obeys r (.func f)

/-- Bindings to values that obey the rules. -/
def Bindings.Obey (r : Rules) (bindings : Bindings) : Prop := ∀ e ∈ bindings, e.2.Obeys r

/-! ## Texts -/

namespace Rules

variable {r : Rules} {s t : String}

theorem text_of_subset (h : r.text t) (hs : s.toList ⊆ t.toList) : r.text s :=
  h.imp_right fun h => h.of_subset hs

theorem text_empty : r.text "" := .inr Text.plain_nil

theorem text_append (hs : r.text s) (ht : r.text t) : r.text (s ++ t) := by
  rcases hs with hs | hs
  · exact .inl hs
  · refine ht.imp_right fun ht => ?_
    rw [String.toList_append]
    exact Text.plain_append.mpr ⟨hs, ht⟩

theorem text_ofList {s : List Char} (h : Text.Plain s) : r.text (String.ofList s) :=
  .inr (by rwa [String.toList_ofList])

theorem text_escapeHtml (s : String) : r.text (Text.escapeHtml s) := .inr (Text.plain_escapeHtml s)

theorem text_intercalate {separator : String} {texts : List String} (hseparator : r.text separator)
    (htexts : ∀ t ∈ texts, r.text t) : r.text (separator.intercalate texts) := by
  induction texts with
  | nil => exact text_empty
  | cons t texts ih =>
    obtain ⟨ht, hrest⟩ := List.forall_mem_cons.mp htexts
    cases texts with
    | nil => rwa [String.intercalate_singleton]
    | cons u texts =>
      rw [String.intercalate_cons_cons]
      exact text_append (text_append ht hseparator) (ih hrest)

end Rules

variable {r : Rules} {v w a b : Value}

/-- The text of a value that is written as it is. -/
theorem Value.Obeys.text (h : v.Obeys r) (hsafe : v.isSafe = true) : r.text v.text := by
  cases h with
  | safe hs => exact hs
  | _ => cases hsafe

/-! ## Parts -/

theorem obeys_getD {found : Option Value} (h : ∀ v ∈ found, v.Obeys r) :
    (found.getD .nil).Obeys r := by
  cases found with
  | none => exact .nil
  | some v => exact h v rfl

theorem obeys_ofChar (c : Char) : (Value.ofChar c).Obeys r := .str _

theorem obeys_lookup {entries : List (String × Value)} (h : ∀ e ∈ entries, e.2.Obeys r)
    (name : String) : ((entries.lookup name).getD .nil).Obeys r :=
  obeys_getD fun v hv => h (name, v) (Table.mem_of_get? hv)

theorem mem_of_itemAt? {α : Type} {items : List α} {n : Int} {item : α}
    (h : Value.itemAt? items n = some item) : item ∈ items := by
  unfold Value.itemAt? at h
  generalize (if n < 0 then items.length + n else n : Int) = i at h
  dsimp only at h
  split at h
  · cases h
  · exact List.mem_of_getElem? h

theorem obeys_member {name : String} (hv : v.Obeys r) (h : v.member name = .ok w) : w.Obeys r := by
  cases hv with
  | map hentries =>
    cases h
    exact obeys_lookup hentries name
  | _ => cases h

theorem obeys_item {n : Int} (hv : v.Obeys r) (h : v.item n = .ok w) : w.Obeys r := by
  cases hv with
  | seq hitems =>
    cases h
    exact obeys_getD fun v hv => hitems v (mem_of_itemAt? hv)
  | str s =>
    cases h
    refine obeys_getD fun v hv => ?_
    obtain ⟨c, -, rfl⟩ := Option.map_eq_some_iff.mp hv
    exact obeys_ofChar c
  | @safe s hs =>
    cases h
    refine obeys_getD fun v hv => ?_
    obtain ⟨c, hc, rfl⟩ := Option.map_eq_some_iff.mp hv
    refine .safe (Rules.text_of_subset hs fun d hd => ?_)
    rw [String.toList_singleton] at hd
    rw [List.mem_singleton.mp hd]
    exact mem_of_itemAt? hc
  | map hentries =>
    cases h
    exact obeys_lookup hentries _
  | _ => cases h

theorem obeys_subscript {key : Value} (hv : v.Obeys r) (h : v.subscript key = .ok w) :
    w.Obeys r := by
  unfold Value.subscript at h
  split at h
  · exact obeys_item hv h
  · split at h
    · cases h
    · exact obeys_member hv h
  · split at h
    · cases h
    · exact obeys_member hv h
  · cases h
    exact .nil
  · cases h

/-! ## Operators -/

theorem obeys_inRange {op : String} {n : Int} (h : Value.inRange op n = .ok w) : w.Obeys r := by
  unfold Value.inRange at h
  split at h <;> cases h
  exact .int n

theorem obeys_arithmetic {op : String} {onInts : Int → Int → Int}
    {onFloats : Float → Float → Float} (h : Value.arithmetic op onInts onFloats a b = .ok w) :
    w.Obeys r := by
  obtain ⟨⟨x, y⟩, -, h⟩ := ok_of_bind h
  split at h
  · exact obeys_inRange h
  · cases h
    exact .float _

theorem obeys_ordered {op : String} {p : Ordering → Bool} (h : Value.ordered op p a b = .ok w) :
    w.Obeys r := by
  unfold Value.ordered at h
  split at h <;> cases h
  exact .bool _

theorem obeys_unary {op : UnaryOp} (h : v.applyUnary op = .ok w) : w.Obeys r := by
  unfold Value.applyUnary at h
  split at h
  · cases h
    exact .bool _
  · cases h
    exact .int _
  · cases h
    exact .float _
  · exact obeys_inRange h
  · cases h
    exact .float _
  · cases h
  · cases h

theorem obeys_divide (h : a.divide b = .ok w) : w.Obeys r := by
  obtain ⟨⟨x, y⟩, -, h⟩ := ok_of_bind h
  split at h
  · split at h
    · cases h
    · exact obeys_inRange h
  · split at h <;> cases h
    exact .float _

theorem obeys_modulo (h : a.modulo b = .ok w) : w.Obeys r := by
  obtain ⟨⟨x, y⟩, -, h⟩ := ok_of_bind h
  dsimp only at h
  split at h
  · cases h
  · split at h <;> cases h
    exact .int _

/-- No operator gives a safe string or a function. -/
theorem obeys_binary {op : BinaryOp} (h : a.applyBinary op b = .ok w) : w.Obeys r := by
  have hcontains {f : Bool → Value} (hf : ∀ found, (f found).Obeys r)
      (h : (b.contains a).map f = .ok w) : w.Obeys r := by
    cases hb : b.contains a with
    | ok found =>
      rw [hb] at h
      cases h
      exact hf found
    | error fault =>
      rw [hb] at h
      cases h
  cases op with
  | or => cases h; exact .bool _
  | and => cases h; exact .bool _
  | eq => cases h; exact .bool _
  | ne => cases h; exact .bool _
  | lt => exact obeys_ordered h
  | le => exact obeys_ordered h
  | gt => exact obeys_ordered h
  | ge => exact obeys_ordered h
  | isIn => exact hcontains (fun _ => .bool _) h
  | notIn => exact hcontains (fun _ => .bool _) h
  | add =>
    unfold Value.applyBinary Value.add at h
    dsimp only at h
    split at h
    · exact obeys_arithmetic h
    · cases h
      exact .str _
  | sub => exact obeys_arithmetic h
  | mul => exact obeys_arithmetic h
  | div => exact obeys_divide h
  | mod => exact obeys_modulo h
  | pow =>
    obtain ⟨⟨x, y⟩, -, h⟩ := ok_of_bind h
    cases h
    exact .float _

/-! ## Loops -/

theorem mem_of_mem_sort? {sorter : Sorter} {items sorted : List Value}
    (h : Value.sort? sorter items = some sorted) (hv : v ∈ sorted) : v ∈ items := by
  obtain ⟨order, -, rfl⟩ := Option.map_eq_some_iff.mp h
  obtain ⟨i, -, rfl⟩ := List.mem_map.mp hv
  exact List.get_mem items i

theorem obeys_items (hv : v.Obeys r) : ∀ w ∈ v.items?.getD [], w.Obeys r := by
  cases hv with
  | seq hitems => exact hitems
  | map hentries =>
    intro w hw
    obtain ⟨key, -, rfl⟩ := List.mem_map.mp hw
    exact .str key
  | str s | safe hs =>
    intro w hw
    obtain ⟨c, -, rfl⟩ := List.mem_map.mp hw
    exact obeys_ofChar c
  | _ => exact nofun

/-- What a loop visits obeys the rules if what it loops over does. -/
theorem obeys_visits (hv : v.Obeys r) {sorter : Sorter} {two reversed sorted : Bool}
    {visits : List (Value × Value)} (h : Loop.visits sorter v two reversed sorted = some visits) :
    ∀ visit ∈ visits, visit.1.Obeys r ∧ visit.2.Obeys r := by
  have hitems : ∀ items : List Value, (∀ w ∈ items, w.Obeys r) →
      ∀ visit ∈ items.zipIdx.map fun e => (Value.int e.2, e.1),
        visit.1.Obeys r ∧ visit.2.Obeys r := by
    intro items hitems visit hvisit
    obtain ⟨e, he, rfl⟩ := List.mem_map.mp hvisit
    exact ⟨.int _, hitems e.1 (List.fst_mem_of_mem_zipIdx he)⟩
  have hforward : ∀ visits, Loop.visits sorter v two false sorted = some visits →
      ∀ visit ∈ visits, visit.1.Obeys r ∧ visit.2.Obeys r := by
    intro visits h
    simp only [Loop.visits, Bool.false_eq_true, if_false] at h
    split at h
    · obtain rfl := Option.some.inj h
      intro visit hvisit
      obtain ⟨e, he, rfl⟩ := List.mem_map.mp hvisit
      cases hv with
      | map hentries => exact ⟨.str _, hentries e (List.mem_mergeSort.mp he)⟩
    · obtain ⟨items, hsorted, rfl⟩ := Option.map_eq_some_iff.mp h
      refine hitems _ fun w hw => ?_
      cases sorted with
      | false => exact obeys_items hv w (Option.some.inj hsorted ▸ hw)
      | true => exact obeys_items hv w (mem_of_mem_sort? hsorted hw)
  cases reversed with
  | false => exact hforward visits h
  | true =>
    obtain ⟨forward, hvisits, rfl⟩ := Option.map_eq_some_iff.mp h
    exact fun visit hvisit => hforward forward hvisits visit (List.mem_reverse.mp hvisit)

theorem obeys_counters (i total : Nat) {parent : Value} (hparent : parent.Obeys r) :
    (Loop.counters i total parent).Obeys r := by
  refine .map fun e he => ?_
  simp only [List.mem_cons, List.not_mem_nil, or_false] at he
  rcases he with rfl | rfl | rfl | rfl | rfl | rfl | rfl
  · exact .int _
  · exact .int _
  · exact .int _
  · exact .int _
  · exact .bool _
  · exact .bool _
  · exact hparent

theorem obey_loopBindings (first : String) (second : Option String) {counters : Value}
    {visit : Value × Value} (hcounters : counters.Obeys r)
    (hvisit : visit.1.Obeys r ∧ visit.2.Obeys r) :
    Bindings.Obey r (Loop.bindings first second counters visit) := by
  refine List.forall_mem_cons.mpr ⟨hcounters, ?_⟩
  cases second with
  | none => exact List.forall_mem_singleton.mpr hvisit.2
  | some second =>
    exact List.forall_mem_cons.mpr ⟨hvisit.1, List.forall_mem_singleton.mpr hvisit.2⟩

/-! ## Data -/

mutual

theorem obeys_ofDatum : (d : Datum) → (Value.ofDatum d).Obeys r
  | .null => .nil
  | .bool b => .bool b
  | .int n => by
    unfold Value.ofDatum
    split
    · exact .int n
    · exact .float _
  | .float x => .float x
  | .text s => .str s
  | .list items => .seq (obeys_ofData items)
  | .record entries => .map (obey_ofFields entries)

theorem obeys_ofData : (ds : List Datum) → ∀ v ∈ Value.ofData ds, v.Obeys r
  | [] => nofun
  | d :: ds => List.forall_mem_cons.mpr ⟨obeys_ofDatum d, obeys_ofData ds⟩

theorem obey_ofFields : (es : List (String × Datum)) → ∀ e ∈ Value.ofFields es, e.2.Obeys r
  | [] => nofun
  | (_, d) :: es => List.forall_mem_cons.mpr ⟨obeys_ofDatum d, obey_ofFields es⟩

end

/-- Values that stand for data. -/
def Bindings.FromData (bindings : Bindings) : Prop := ∀ e ∈ bindings, ∃ d, e.2 = Value.ofDatum d

theorem Bindings.FromData.obey {bindings : Bindings} (h : bindings.FromData) : bindings.Obey r := by
  intro e he
  obtain ⟨d, hd⟩ := h e he
  rw [hd]
  exact obeys_ofDatum d

theorem obey_ofList {entries : List (String × Value)} (h : ∀ e ∈ entries, e.2.Obeys r) :
    Bindings.Obey r (Table.ofList entries) := by
  have hfold : ∀ (rest : List (String × Value)) (bindings : Bindings), (∀ e ∈ rest, e.2.Obeys r) →
      bindings.Obey r →
        Bindings.Obey r (rest.foldl (fun t e => Table.insert e.1 e.2 t) bindings) := by
    intro rest
    induction rest with
    | nil => exact fun _ _ hbindings => hbindings
    | cons e rest ih =>
      intro bindings hrest hbindings
      obtain ⟨he, hrest⟩ := List.forall_mem_cons.mp hrest
      exact ih _ hrest (Table.forall_mem_insert hbindings he)
  exact hfold entries [] h nofun

end Stencil
