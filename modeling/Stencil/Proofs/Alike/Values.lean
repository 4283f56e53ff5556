import Stencil.Proofs.Alike.Steps

/-!
# Operations on values that are alike

What templates do with values, operators, steps of paths, loops and filters, gives values that are
alike for values that are alike, and fails in the same way.
-/

namespace Stencil

variable {L : Likeness} {v v' w w' : Value}

/-! ## Lists -/

section Lists

variable {α β : Type} {R : α → β → Prop} {l : List α} {l' : List β}

theorem forall₂_append {m : List α} {m' : List β} (h : List.Forall₂ R l l')
    (hm : List.Forall₂ R m m') : List.Forall₂ R (l ++ m) (l' ++ m') := by
  induction h with
  | nil => exact hm
  | cons ha _ ih => exact .cons ha ih

theorem rel_getD {o : Option α} {o' : Option β} {a : α} {b : β} (h : Option.Rel R o o')
    (ha : R a b) : R (o.getD a) (o'.getD b) := by
  cases h with
  | some h => exact h
  | none => exact ha

theorem rel_getElem? (h : List.Forall₂ R l l') (i : Nat) : Option.Rel R l[i]? l'[i]? := by
  induction h generalizing i with
  | nil => exact .none
  | cons ha _ ih =>
    cases i with
    | zero => exact .some ha
    | succ i => exact ih i

theorem rel_getLast? (h : List.Forall₂ R l l') : Option.Rel R l.getLast? l'.getLast? := by
  rw [List.getLast?_eq_getElem?, List.getLast?_eq_getElem?, h.length_eq]
  exact rel_getElem? h _

theorem rel_lookup {R : α → β → Prop} {entries : List (String × α)} {entries' : List (String × β)}
    (h : List.Forall₂ (fun e e' => e.1 = e'.1 ∧ R e.2 e'.2) entries entries') (key : String) :
    Option.Rel R (entries.lookup key) (entries'.lookup key) := by
  induction h with
  | nil => exact .none
  | @cons e e' _ _ he _ ih =>
    obtain ⟨k, a⟩ := e
    obtain ⟨k', a'⟩ := e'
    obtain ⟨rfl, ha⟩ := he
    rw [List.lookup_cons, List.lookup_cons]
    cases key == k with
    | true => exact .some ha
    | false => exact ih

theorem forall₂_zipIdx (h : List.Forall₂ R l l') (n : Nat) :
    List.Forall₂ (fun a b => R a.1 b.1 ∧ a.2 = b.2) (l.zipIdx n) (l'.zipIdx n) := by
  induction h generalizing n with
  | nil => exact .nil
  | cons ha _ ih => exact .cons ⟨ha, rfl⟩ (ih (n + 1))

/-- Lists that go together are the two sides of one list of pairs. -/
theorem exists_pairs (h : List.Forall₂ R l l') :
    ∃ pairs : List (α × β), pairs.map Prod.fst = l ∧ pairs.map Prod.snd = l' ∧
      ∀ p ∈ pairs, R p.1 p.2 := by
  induction h with
  | nil => exact ⟨[], rfl, rfl, nofun⟩
  | @cons a b _ _ ha _ ih =>
    obtain ⟨pairs, rfl, rfl, hpairs⟩ := ih
    exact ⟨(a, b) :: pairs, rfl, rfl, List.forall_mem_cons.mpr ⟨ha, hpairs⟩⟩

theorem forall₂_of_pairs {pairs : List (α × β)} (h : ∀ p ∈ pairs, R p.1 p.2) :
    List.Forall₂ R (pairs.map Prod.fst) (pairs.map Prod.snd) := by
  induction pairs with
  | nil => exact .nil
  | cons p pairs ih =>
    obtain ⟨hp, hpairs⟩ := List.forall_mem_cons.mp h
    exact .cons hp (ih hpairs)

end Lists

/-- Tables whose keys are the same are sorted in the same way. -/
theorem forall₂_sorted {entries entries' : List (String × Value)}
    (h : List.Forall₂ L.field entries entries') :
    List.Forall₂ L.field (Table.sorted entries) (Table.sorted entries') := by
  obtain ⟨pairs, rfl, rfl, hpairs⟩ := exists_pairs h
  let le (p q : (String × Value) × (String × Value)) : Bool := p.1.1 ≤ q.1.1
  have hfst : Table.sorted (pairs.map Prod.fst) = (pairs.mergeSort le).map Prod.fst :=
    (List.map_mergeSort (f := Prod.fst) fun p _ q _ => rfl).symm
  have hsnd : Table.sorted (pairs.map Prod.snd) = (pairs.mergeSort le).map Prod.snd := by
    refine (List.map_mergeSort (f := Prod.snd) fun p hp q hq => ?_).symm
    change decide (p.1.1 ≤ q.1.1) = decide (p.2.1 ≤ q.2.1)
    rw [(hpairs p hp).1, (hpairs q hq).1]
  rw [hfst, hsnd]
  exact forall₂_of_pairs fun p hp => hpairs p (List.mem_mergeSort.mp hp)

section Valued

variable (hL : L.Valued)
include hL

theorem alike_nil : L.value .nil .nil := hL.value.mpr .nil

theorem alike_bool (b : Bool) : L.value (.bool b) (.bool b) := hL.value.mpr (.bool b)

theorem alike_int (n : Int) : L.value (.int n) (.int n) := hL.value.mpr (.int n)

theorem alike_float (x : Float) : L.value (.float x) (.float x) := hL.value.mpr (.float x)

theorem alike_str (s : String) : L.value (.str s) (.str s) := hL.value.mpr (.str s)

theorem alike_safe (s : String) : L.value (.safe s) (.safe s) := hL.value.mpr (.safe s)

theorem alike_seq {items items' : List Value} (h : List.Forall₂ L.value items items') :
    L.value (.seq items) (.seq items') := hL.value.mpr (.seq h)

/-- Strings of one character. -/
theorem alike_chars (s : List Char) :
    List.Forall₂ L.value (s.map Value.ofChar) (s.map Value.ofChar) := by
  induction s with
  | nil => exact .nil
  | cons c s ih => exact .cons (alike_str hL _) ih

theorem alike_literal (l : Literal) : L.value l.value l.value := by
  cases l with
  | bool b => exact alike_bool hL b
  | int n => exact alike_int hL n
  | float x => exact alike_float hL x
  | string s => exact alike_str hL s

/-! ## What values are -/

theorem kind_eq (h : L.value v v') : v.kind = v'.kind := by
  cases hL.value.mp h with
  | record hr => exact hr.kind
  | _ => rfl

theorem isNil_eq (h : L.value v v') : v.isNil = v'.isNil := by
  cases hL.value.mp h <;> rfl

theorem isSafe_eq (h : L.value v v') : v.isSafe = v'.isSafe := by
  cases hL.value.mp h <;> rfl

theorem isNumber_eq (h : L.value v v') : v.isNumber = v'.isNumber := by
  cases hL.value.mp h <;> rfl

theorem string?_eq (h : L.value v v') : v.string? = v'.string? := by
  cases hL.value.mp h <;> rfl

theorem toInteger_eq (h : L.value v v') : v.toInteger = v'.toInteger := by
  cases hL.value.mp h <;> rfl

theorem toFloat?_eq (h : L.value v v') : v.toFloat? = v'.toFloat? := by
  cases hL.value.mp h <;> rfl

theorem isTruthy_eq (h : L.value v v') : v.isTruthy = v'.isTruthy := by
  cases hL.value.mp h with
  | seq hitems => exact congrArg (!·) (by cases hitems <;> rfl)
  | map hentries => exact congrArg (!·) (by cases hentries <;> rfl)
  | record hr => exact congrArg (fun size : Option Nat => size.all (0 < ·)) hr.size
  | _ => rfl

theorem length?_eq (h : L.value v v') : v.length? = v'.length? := by
  cases hL.value.mp h with
  | seq hitems => exact congrArg some hitems.length_eq
  | map hentries => exact congrArg some hentries.length_eq
  | record hr => exact hr.size
  | _ => rfl

theorem accepts_eq (kind : ParamKind) (h : L.value v v') : kind.accepts v = kind.accepts v' := by
  cases hL.value.mp h <;> cases kind <;> rfl

end Valued

mutual

theorem text_eq (hL : L.Valued) : (v v' : Value) → L.value v v' → v.text = v'.text
  | .nil, _, h | .bool _, _, h | .int _, _, h | .float _, _, h | .str _, _, h | .safe _, _, h => by
    cases hL.value.mp h
    rfl
  | .seq items, _, h => by
    cases hL.value.mp h with
    | seq hitems => rw [Value.text, Value.text, textItems_eq hL items _ hitems]
  | .map entries, _, h => by
    cases hL.value.mp h with
    | map hentries => rw [Value.text, Value.text, textEntries_eq hL entries _ hentries]
  | .record r, _, h => by
    cases hL.value.mp h with
    | record hr =>
      rw [Value.text, Value.text, HostRecord.text, HostRecord.text, hr.shown, hr.kind]
  | .func f, _, h => by
    cases hL.value.mp h with
    | func hf => rw [Value.text, Value.text, hf.name]

theorem textItems_eq (hL : L.Valued) : (items items' : List Value) →
    List.Forall₂ L.value items items' → Value.textItems items = Value.textItems items'
  | [], _, .nil => rfl
  | [v], _, .cons hv .nil => by
    rw [Value.textItems, Value.textItems]
    exact text_eq hL v _ hv
  | v :: w :: items, _, .cons hv hrest@(.cons _ _) => by
    change v.text ++ ", " ++ Value.textItems (w :: items) =
      Value.text _ ++ ", " ++ Value.textItems (_ :: _)
    rw [text_eq hL v _ hv, textItems_eq hL (w :: items) _ hrest]

theorem textEntries_eq (hL : L.Valued) : (entries entries' : List (String × Value)) →
    List.Forall₂ L.field entries entries' → Value.textEntries entries = Value.textEntries entries'
  | [], _, .nil => rfl
  | [(k, v)], _, .cons (b := (k', v')) hv .nil => by
    obtain ⟨rfl, hv⟩ := hv
    rw [Value.textEntries, Value.textEntries, text_eq hL v v' hv]
  | (k, v) :: e :: entries, _, .cons (b := (k', v')) hv hrest@(.cons _ _) => by
    obtain ⟨rfl, hv⟩ := hv
    change k ++ ": " ++ v.text ++ ", " ++ Value.textEntries (e :: entries) =
      k ++ ": " ++ v'.text ++ ", " ++ Value.textEntries (_ :: _)
    rw [text_eq hL v v' hv, textEntries_eq hL (e :: entries) _ hrest]

end

section Operations

variable (hL : L.Valued)
include hL

/-! ## Comparisons -/

theorem equals_eq (h : L.value v v') (hw : L.value w w') : v.equals w = v'.equals w' := by
  cases hL.value.mp h <;> cases hL.value.mp hw <;> rfl

theorem compare?_eq (h : L.value v v') (hw : L.value w w') : v.compare? w = v'.compare? w' := by
  cases hL.value.mp h <;> cases hL.value.mp hw <;> rfl

theorem any_equals_eq {items items' : List Value} (h : List.Forall₂ L.value items items')
    (hw : L.value w w') :
    (items.any fun item => item.equals w) = items'.any fun item => item.equals w' := by
  induction h with
  | nil => rfl
  | cons hv _ ih => rw [List.any_cons, List.any_cons, ih, equals_eq hL hv hw]

omit hL in
theorem has_eq {α α' : Type} {R : α → α' → Prop} {entries : Table α} {entries' : Table α'}
    (h : List.Forall₂ (fun e e' => e.1 = e'.1 ∧ R e.2 e'.2) entries entries') (key : String) :
    Table.has entries key = Table.has entries' key := by
  unfold Table.has
  induction h with
  | nil => rfl
  | cons he _ ih => rw [List.any_cons, List.any_cons, ih, he.1]

omit hL in
theorem rel_attr? {r r' : HostRecord} (hr : r.Congruent L r') (name : String) :
    Option.Rel L.value (r.attr? name) (r'.attr? name) := rel_lookup hr.attrs name

omit hL in
theorem rel_item? {r r' : HostRecord} (hr : r.Congruent L r') (n : Int) :
    Option.Rel L.value (r.item? n) (r'.item? n) := by
  unfold HostRecord.item?
  split
  · exact .none
  · exact rel_getElem? hr.items _

omit hL in
theorem isSome_eq {α β : Type} {R : α → β → Prop} {o : Option α} {o' : Option β}
    (h : Option.Rel R o o') : o.isSome = o'.isSome := by
  cases h <;> rfl

theorem contains_eq (h : L.value v v') (hw : L.value w w') : v.contains w = v'.contains w' := by
  cases hL.value.mp h with
  | str s | safe s =>
    unfold Value.contains
    rw [text_eq hL w w' hw]
  | seq hitems => exact congrArg Except.ok (any_equals_eq hL hitems hw)
  | map hentries =>
    refine congrArg Except.ok ((has_eq hentries _).trans ?_)
    rw [text_eq hL w w' hw]
  | record hr =>
    cases hL.value.mp hw with
    | str name | safe name => exact congrArg Except.ok (isSome_eq (rel_attr? hr name))
    | int n => exact congrArg Except.ok (isSome_eq (rel_item? hr n))
    | _ => rfl
  | _ => rfl

/-! ## Operators -/

theorem operands_eq (op : String) (h : L.value v v') (hw : L.value w w') :
    Value.operands op v w = Value.operands op v' w' := by
  have hof {u u' : Value} (hu : L.value u u') : Value.Number.of? u = Value.Number.of? u' := by
    cases hL.value.mp hu <;> rfl
  unfold Value.operands
  rw [hof h, hof hw, kind_eq hL h, kind_eq hL hw]

theorem alike_inRange (op : String) (n : Int) :
    EndAlike Eq L.value (Value.inRange op n) (Value.inRange op n) := by
  unfold Value.inRange
  split
  · exact .ok (alike_int hL n)
  · exact .error rfl

theorem alike_arithmetic (op : String) (onInts : Int → Int → Int)
    (onFloats : Float → Float → Float) (h : L.value v v') (hw : L.value w w') :
    EndAlike Eq L.value (Value.arithmetic op onInts onFloats v w)
      (Value.arithmetic op onInts onFloats v' w') := by
  unfold Value.arithmetic
  rw [operands_eq hL op h hw]
  cases Value.operands op v' w' with
  | error fault => exact .error rfl
  | ok found =>
    obtain ⟨x, y⟩ := found
    cases x <;> cases y
    · exact alike_inRange hL op _
    all_goals exact .ok (alike_float hL _)

theorem alike_add (h : L.value v v') (hw : L.value w w') :
    EndAlike Eq L.value (v.add w) (v'.add w') := by
  unfold Value.add
  rw [isNumber_eq hL h, isNumber_eq hL hw, text_eq hL v v' h, text_eq hL w w' hw]
  split
  · exact alike_arithmetic hL _ _ _ h hw
  · exact .ok (alike_str hL _)

theorem alike_divide (h : L.value v v') (hw : L.value w w') :
    EndAlike Eq L.value (v.divide w) (v'.divide w') := by
  unfold Value.divide
  rw [operands_eq hL _ h hw]
  cases Value.operands "/" v' w' with
  | error fault => exact .error rfl
  | ok found =>
    obtain ⟨x, y⟩ := found
    have hfloat : EndAlike Eq L.value
        (if y.toFloat == 0.0 then .error RunFault.divisionByZero
          else .ok (.float (x.toFloat / y.toFloat)))
        (if y.toFloat == 0.0 then .error RunFault.divisionByZero
          else .ok (.float (x.toFloat / y.toFloat))) := by
      split
      · exact .error rfl
      · exact .ok (alike_float hL _)
    cases x with
    | float x => exact hfloat
    | int m =>
      cases y with
      | float y => exact hfloat
      | int n =>
        change EndAlike Eq L.value (if n = 0 then _ else _) (if n = 0 then _ else _)
        split
        · exact .error rfl
        · exact alike_inRange hL _ _

theorem alike_modulo (h : L.value v v') (hw : L.value w w') :
    EndAlike Eq L.value (v.modulo w) (v'.modulo w') := by
  unfold Value.modulo
  rw [operands_eq hL _ h hw]
  cases Value.operands "%" v' w' with
  | error fault => exact .error rfl
  | ok found =>
    obtain ⟨x, y⟩ := found
    change EndAlike Eq L.value (if y.toInt = 0 then _ else _) (if y.toInt = 0 then _ else _)
    split
    · exact .error rfl
    · split
      · exact .ok (alike_int hL _)
      · exact .error rfl

theorem alike_power (h : L.value v v') (hw : L.value w w') :
    EndAlike Eq L.value (v.power w) (v'.power w') := by
  unfold Value.power
  rw [operands_eq hL _ h hw]
  cases Value.operands "^" v' w' with
  | error fault => exact .error rfl
  | ok found => exact .ok (alike_float hL _)

theorem alike_ordered (op : String) (p : Ordering → Bool) (h : L.value v v') (hw : L.value w w') :
    EndAlike Eq L.value (Value.ordered op p v w) (Value.ordered op p v' w') := by
  unfold Value.ordered
  rw [compare?_eq hL h hw, kind_eq hL h, kind_eq hL hw]
  split
  · exact .ok (alike_bool hL _)
  · exact .error rfl

theorem alike_applyUnary (op : UnaryOp) (h : L.value v v') :
    EndAlike Eq L.value (v.applyUnary op) (v'.applyUnary op) := by
  have htruthy := isTruthy_eq hL h
  have hkind := kind_eq hL h
  cases op with
  | negation =>
    change EndAlike Eq L.value (.ok (.bool !v.isTruthy)) (.ok (.bool !v'.isTruthy))
    rw [htruthy]
    exact .ok (alike_bool hL _)
  | plus =>
    cases hL.value.mp h with
    | int n => exact .ok (alike_int hL n)
    | float x => exact .ok (alike_float hL x)
    | _ => exact .error (congrArg (RunFault.operand "+") hkind)
  | minus =>
    cases hL.value.mp h with
    | int n => exact alike_inRange hL _ _
    | float x => exact .ok (alike_float hL _)
    | _ => exact .error (congrArg (RunFault.operand "-") hkind)

theorem alike_applyBinary (op : BinaryOp) (h : L.value v v') (hw : L.value w w') :
    EndAlike Eq L.value (v.applyBinary op w) (v'.applyBinary op w') := by
  have hbool {b b' : Bool} (hb : b = b') :
      EndAlike (@Eq RunFault) L.value (.ok (.bool b)) (.ok (.bool b')) :=
    .ok (hb ▸ alike_bool hL b)
  have hcontains (f : Bool → Bool) :
      EndAlike Eq L.value ((w.contains v).map fun found => Value.bool (f found))
        ((w'.contains v').map fun found => Value.bool (f found)) := by
    rw [contains_eq hL hw h]
    cases w'.contains v' with
    | ok found => exact .ok (alike_bool hL _)
    | error fault => exact .error rfl
  cases op with
  | or => exact hbool (by rw [isTruthy_eq hL h, isTruthy_eq hL hw])
  | and => exact hbool (by rw [isTruthy_eq hL h, isTruthy_eq hL hw])
  | eq => exact hbool (equals_eq hL h hw)
  | ne => exact hbool (congrArg (!·) (equals_eq hL h hw))
  | lt | le | gt | ge => exact alike_ordered hL _ _ h hw
  | isIn => exact hcontains id
  | notIn => exact hcontains (!·)
  | add => exact alike_add hL h hw
  | sub | mul => exact alike_arithmetic hL _ _ _ h hw
  | div => exact alike_divide hL h hw
  | mod => exact alike_modulo hL h hw
  | pow => exact alike_power hL h hw

/-! ## Paths -/

theorem alike_member (name : String) (h : L.value v v') :
    EndAlike Eq L.value (v.member name) (v'.member name) := by
  have hkind := kind_eq hL h
  cases hL.value.mp h with
  | map hentries => exact .ok (rel_getD (rel_lookup hentries name) (alike_nil hL))
  | record hr => exact .ok (rel_getD (rel_attr? hr name) (alike_nil hL))
  | _ => exact .error (congrArg (RunFault.noMember name) hkind)

omit hL in
theorem rel_itemAt? {α β : Type} {R : α → β → Prop} {items : List α} {items' : List β}
    (h : List.Forall₂ R items items') (n : Int) :
    Option.Rel R (Value.itemAt? items n) (Value.itemAt? items' n) := by
  unfold Value.itemAt?
  rw [h.length_eq]
  dsimp only
  generalize (if n < 0 then (items'.length : Int) + n else n) = i
  split
  · exact .none
  · exact rel_getElem? h _

theorem alike_item (n : Int) (h : L.value v v') :
    EndAlike Eq L.value (v.item n) (v'.item n) := by
  have hkind := kind_eq hL h
  cases hL.value.mp h with
  | seq hitems => exact .ok (rel_getD (rel_itemAt? hitems n) (alike_nil hL))
  | map hentries => exact .ok (rel_getD (rel_lookup hentries _) (alike_nil hL))
  | record hr => exact .ok (rel_getD (rel_item? hr n) (alike_nil hL))
  | str s =>
    refine .ok (rel_getD ?_ (alike_nil hL))
    cases Value.itemAt? s.toList n with
    | none => exact .none
    | some c => exact .some (alike_str hL _)
  | safe s =>
    refine .ok (rel_getD ?_ (alike_nil hL))
    cases Value.itemAt? s.toList n with
    | none => exact .none
    | some c => exact .some (alike_safe hL _)
  | _ => exact .error (congrArg RunFault.noIndex hkind)

theorem alike_subscript (h : L.value v v') (hw : L.value w w') :
    EndAlike Eq L.value (v.subscript w) (v'.subscript w') := by
  have hkind := kind_eq hL hw
  have hmember := fun name => alike_member hL name h
  cases hL.value.mp hw with
  | int n => exact alike_item hL n h
  | str name | safe name =>
    cases hL.value.mp h with
    | seq => exact .error rfl
    | _ => exact hmember name
  | nil => exact .ok (alike_nil hL)
  | _ => exact .error (congrArg RunFault.noSubscript hkind)

/-! ## Functions -/

omit hL in
theorem minArgs_eq {f f' : Function} (hf : f.Congruent L f') : f.minArgs = f'.minArgs := by
  unfold Function.minArgs
  rw [hf.params, hf.optional]

/-- Arguments that are alike fit a signature or are refused in the same way. -/
theorem check_eq {f f' : Function} (hf : f.Congruent L f') {args args' : List Value}
    (h : List.Forall₂ L.value args args') : f.check args = f'.check args' := by
  have hkind (i : Nat) : f.kindAt i = f'.kindAt i := by
    unfold Function.kindAt
    rw [hf.params, hf.variadic]
  have hmax : f.maxArgs? = f'.maxArgs? := by
    unfold Function.maxArgs?
    rw [hf.params, hf.variadic]
  have hkinds (i : Nat) : f.checkKinds i args = f'.checkKinds i args' := by
    induction h generalizing i with
    | nil => rfl
    | cons hv _ ih =>
      unfold Function.checkKinds
      rw [hkind, accepts_eq hL _ hv, kind_eq hL hv, hf.name, ih]
  unfold Function.check
  rw [h.length_eq, minArgs_eq hf, hmax, hf.name, hkinds]

omit hL in
theorem alike_ofMacro (hL : L.Coherent) {m m' : Macro} (h : L.callee m m') :
    L.value (.func (.ofMacro m)) (.func (.ofMacro m')) := by
  have hm := hL.callee h
  have hparams : (m.params.map fun _ => ParamKind.any) = m'.params.map fun _ => ParamKind.any := by
    rw [List.map_const', List.map_const', hm.params.length_eq]
  have hoptional : (m.params.filter fun p => p.2.isSome).length =
      (m'.params.filter fun p => p.2.isSome).length := by
    have h := hm.params
    generalize m.params = params at h
    generalize m'.params = params' at h
    induction h with
    | nil => rfl
    | cons hp _ ih =>
      rw [List.filter_cons, List.filter_cons, isSome_eq hp.2.2]
      split
      · exact congrArg (· + 1) ih
      · exact ih
  exact hL.value.mpr (.func ⟨hm.name, hparams, hoptional, rfl, .body h⟩)

/-! ## Loops -/

/-- Sorting sees no difference between lists whose items are alike. -/
theorem rel_sort? (sorter : Sorter) {items items' : List Value}
    (h : List.Forall₂ L.value items items') :
    Option.Rel (List.Forall₂ L.value) (Value.sort? sorter items) (Value.sort? sorter items') := by
  have hpositions : ∀ (n n' : Nat) (hn : n = n') (item : Fin n → Value) (item' : Fin n' → Value),
      (∀ i, L.value (item i) (item' (i.cast hn))) →
      Option.Rel (List.Forall₂ L.value)
        ((sorter.arrange n fun i j => (item i).precedes (item j)).map (·.map item))
        ((sorter.arrange n' fun i j => (item' i).precedes (item' j)).map (·.map item')) := by
    rintro n _ rfl item item' hitems
    have hbefore : (fun i j => (item i).precedes (item j)) =
        fun i j => (item' i).precedes (item' j) := by
      funext i j
      unfold Value.precedes
      rw [compare?_eq hL (hitems i) (hitems j)]
      rfl
    rw [hbefore]
    cases sorter.arrange n fun i j => (item' i).precedes (item' j) with
    | none => exact .none
    | some order =>
      refine .some ?_
      rw [List.forall₂_map_left_iff, List.forall₂_map_right_iff]
      exact List.forall₂_same.mpr fun i _ => hitems i
  exact hpositions _ _ h.length_eq _ _ fun i => h.get i.2 (h.length_eq ▸ i.2)

theorem rel_items? (h : L.value v v') : Option.Rel (List.Forall₂ L.value) v.items? v'.items? := by
  cases hL.value.mp h with
  | seq hitems => exact .some hitems
  | map hentries =>
    refine .some ?_
    have h := forall₂_sorted hentries
    generalize Table.sorted _ = sorted at h ⊢
    generalize Table.sorted _ = sorted' at h ⊢
    induction h with
    | nil => exact .nil
    | @cons e e' _ _ he _ ih =>
      refine .cons ?_ ih
      change L.value (.str e.1) (.str e'.1)
      rw [he.1]
      exact alike_str hL _
  | str s | safe s => exact .some (alike_chars hL s.toList)
  | record hr => exact hr.visits
  | _ => exact .none

/-- A loop makes the same visits, to values that are alike. -/
theorem rel_visits (sorter : Sorter) (h : L.value v v') (two reversed sorted : Bool) :
    Option.Rel (List.Forall₂ fun a b => L.value a.1 b.1 ∧ L.value a.2 b.2)
      (Loop.visits sorter v two reversed sorted) (Loop.visits sorter v' two reversed sorted) := by
  have hrest {visits visits' : Option (List (Value × Value))}
      (hvisits : Option.Rel (List.Forall₂ fun a b => L.value a.1 b.1 ∧ L.value a.2 b.2) visits
        visits') :
      Option.Rel (List.Forall₂ fun a b => L.value a.1 b.1 ∧ L.value a.2 b.2)
        (if reversed then visits.map List.reverse else visits)
        (if reversed then visits'.map List.reverse else visits') := by
    split
    · cases hvisits with
      | none => exact .none
      | some hvisits => exact .some (List.rel_reverse hvisits)
    · exact hvisits
  have hindexed {items items' : Option (List Value)}
      (hitems : Option.Rel (List.Forall₂ L.value) items items') :
      Option.Rel (List.Forall₂ fun a b => L.value a.1 b.1 ∧ L.value a.2 b.2)
        (items.map fun items => items.zipIdx.map fun e => (Value.int e.2, e.1))
        (items'.map fun items => items.zipIdx.map fun e => (Value.int e.2, e.1)) := by
    cases hitems with
    | none => exact .none
    | some hitems =>
      refine .some ?_
      rw [List.forall₂_map_left_iff, List.forall₂_map_right_iff]
      refine (forall₂_zipIdx hitems 0).imp fun a b hab => ⟨?_, hab.1⟩
      rw [hab.2]
      exact alike_int hL _
  have hitems : List.Forall₂ L.value (v.items?.getD []) (v'.items?.getD []) :=
    rel_getD (rel_items? hL h) .nil
  have hplain : Option.Rel (List.Forall₂ L.value)
      (if sorted then Value.sort? sorter (v.items?.getD []) else some (v.items?.getD []))
      (if sorted then Value.sort? sorter (v'.items?.getD []) else some (v'.items?.getD [])) := by
    split
    · exact rel_sort? hL sorter hitems
    · exact .some hitems
  cases hL.value.mp h with
  | map hentries =>
    cases two with
    | false => exact hrest (hindexed hplain)
    | true =>
      refine hrest (.some ?_)
      rw [List.forall₂_map_left_iff, List.forall₂_map_right_iff]
      refine (forall₂_sorted hentries).imp fun a b hab => ⟨?_, hab.2⟩
      rw [hab.1]
      exact alike_str hL _
  | _ => exact hrest (hindexed hplain)

theorem alike_counters (i total : Nat) (h : L.value v v') :
    L.value (Loop.counters i total v) (Loop.counters i total v') := by
  have hint (name : String) (n : Int) : L.field (name, .int n) (name, .int n) :=
    ⟨rfl, alike_int hL n⟩
  have hbool (name : String) (b : Bool) : L.field (name, .bool b) (name, .bool b) :=
    ⟨rfl, alike_bool hL b⟩
  exact hL.value.mpr (.map (.cons (hint _ _) (.cons (hint _ _) (.cons (hint _ _) (.cons (hint _ _)
    (.cons (hbool _ _) (.cons (hbool _ _) (.cons ⟨rfl, h⟩ .nil))))))))

theorem cycleIndex_eq (h : L.value v v') (n : Nat) : Loop.cycleIndex v n =
    Loop.cycleIndex v' n := by
  cases hL.value.mp h with
  | map hentries =>
    have hfound := rel_lookup hentries "Counter0"
    unfold Loop.cycleIndex
    dsimp only
    revert hfound
    generalize List.lookup "Counter0" _ = found
    generalize List.lookup "Counter0" _ = found'
    rintro (⟨hv⟩ | _)
    · cases hL.value.mp hv <;> rfl
    · rfl
  | _ => rfl

end Operations

end Stencil
