import Stencil.Value.Convert

/-!
# Values and data

A value that is saved as data and read again is the same value, except for what data cannot hold:
safe strings lose their mark, records turn into their texts, and functions and numbers that are not
finite turn into nil. Data that stand for a value are what the value is saved as, unless one of
their numbers is an integer of more than 64 bits or is not finite (`data_round_trip`).
-/

namespace Stencil

namespace Value

mutual

/-- What data keep of a value. -/
def kept : Value → Value
  | nil | func _ => nil
  | bool b => bool b
  | int n => int n
  | float x => if x.isFinite then float x else nil
  | str s | safe s => str s
  | seq items => seq (keptItems items)
  | map entries => map (keptEntries entries)
  | record r => str r.text

/-- What data keep of the items of a list. -/
def keptItems : List Value → List Value
  | [] => []
  | v :: vs => v.kept :: keptItems vs

/-- What data keep of the entries of a map: each entry with its key, in their order. -/
def keptEntries : List (String × Value) → List (String × Value)
  | [] => []
  | (k, v) :: es => (k, v.kept) :: keptEntries es

end

/-- A value whose integers have 64 bits, as all integers of templates. -/
inductive Bounded : Value → Prop where
  | nil : Bounded .nil
  | bool (b : Bool) : Bounded (.bool b)
  | int {n : Int} (hn : Integer.fits n = true) : Bounded (.int n)
  | float (x : Float) : Bounded (.float x)
  | str (s : String) : Bounded (.str s)
  | safe (s : String) : Bounded (.safe s)
  | seq {items : List Value} (hitems : ∀ v ∈ items, Bounded v) : Bounded (.seq items)
  | map {entries : List (String × Value)} (hentries : ∀ e ∈ entries, Bounded e.2) :
      Bounded (.map entries)
  | record (r : HostRecord) : Bounded (.record r)
  | func (f : Function) : Bounded (.func f)

theorem Bounded.items {items : List Value} (h : (Value.seq items).Bounded) :
    ∀ v ∈ items, v.Bounded := by
  cases h with
  | seq hitems => exact hitems

theorem Bounded.entries {entries : List (String × Value)} (h : (Value.map entries).Bounded) :
    ∀ e ∈ entries, e.2.Bounded := by
  cases h with
  | map hentries => exact hentries

end Value

/-- Data whose numbers are integers of 64 bits or finite. -/
inductive Datum.Exact : Datum → Prop where
  | null : Datum.Exact .null
  | bool (b : Bool) : Datum.Exact (.bool b)
  | int {n : Int} (hn : Integer.fits n = true) : Datum.Exact (.int n)
  | float {x : Float} (hx : x.isFinite = true) : Datum.Exact (.float x)
  | text (s : String) : Datum.Exact (.text s)
  | list {items : List Datum} (hitems : ∀ d ∈ items, d.Exact) : Datum.Exact (.list items)
  | record {entries : List (String × Datum)} (hentries : ∀ e ∈ entries, e.2.Exact) :
      Datum.Exact (.record entries)

namespace Datum

theorem exact_int_iff {n : Int} : (int n).Exact ↔ Integer.fits n = true :=
  ⟨fun h => by cases h; assumption, .int⟩

theorem exact_float_iff {x : Float} : (float x).Exact ↔ x.isFinite = true :=
  ⟨fun h => by cases h; assumption, .float⟩

theorem exact_list_iff {items : List Datum} : (list items).Exact ↔ ∀ d ∈ items, d.Exact :=
  ⟨fun h => by cases h; assumption, .list⟩

theorem exact_record_iff {entries : List (String × Datum)} :
    (record entries).Exact ↔ ∀ e ∈ entries, e.2.Exact :=
  ⟨fun h => by cases h; assumption, .record⟩

end Datum

namespace Value

/-! ## From values to data and back -/

mutual

theorem ofDatum_toDatum : (v : Value) → v.Bounded → ofDatum v.toDatum = v.kept
  | nil, _ | bool _, _ | str _, _ | safe _, _ | record _, _ | func _, _ => rfl
  | int _, .int hn => if_pos hn
  | float x, _ => by
    unfold toDatum kept
    split <;> rfl
  | seq items, h => congrArg seq (ofData_toData items h.items)
  | map entries, h => congrArg map (ofFields_toFields entries h.entries)

theorem ofData_toData : (vs : List Value) → (∀ v ∈ vs, v.Bounded) →
    ofData (toData vs) = keptItems vs
  | [], _ => rfl
  | v :: vs, h => by
    obtain ⟨hv, hvs⟩ := List.forall_mem_cons.mp h
    rw [toData, ofData, keptItems, ofDatum_toDatum v hv, ofData_toData vs hvs]

theorem ofFields_toFields : (es : List (String × Value)) → (∀ e ∈ es, e.2.Bounded) →
    ofFields (toFields es) = keptEntries es
  | [], _ => rfl
  | (k, v) :: es, h => by
    obtain ⟨hv, hes⟩ := List.forall_mem_cons.mp h
    rw [toFields, ofFields, keptEntries, ofDatum_toDatum v hv, ofFields_toFields es hes]

end

/-! ## From data to values and back -/

mutual

theorem toDatum_ofDatum_iff : (d : Datum) → ((ofDatum d).toDatum = d ↔ d.Exact)
  | .null => iff_of_true rfl .null
  | .bool b => iff_of_true rfl (.bool b)
  | .int n => by
    rw [Datum.exact_int_iff, ofDatum]
    by_cases hn : Integer.fits n = true
    · rw [if_pos hn]
      exact iff_of_true rfl hn
    · -- Beyond 64 bits the integer is a floating-point number, finite or not.
      rw [if_neg hn, toDatum]
      split <;> exact iff_of_false nofun hn
  | .float x => by
    rw [Datum.exact_float_iff, ofDatum, toDatum]
    by_cases hx : x.isFinite = true
    · rw [if_pos hx]
      exact iff_of_true rfl hx
    · rw [if_neg hx]
      exact iff_of_false nofun hx
  | .text s => iff_of_true rfl (.text s)
  | .list items => by
    rw [Datum.exact_list_iff, ofDatum, toDatum, Datum.list.injEq]
    exact toData_ofData_iff items
  | .record entries => by
    rw [Datum.exact_record_iff, ofDatum, toDatum, Datum.record.injEq]
    exact toFields_ofFields_iff entries

theorem toData_ofData_iff : (ds : List Datum) → (toData (ofData ds) = ds ↔ ∀ d ∈ ds, d.Exact)
  | [] => iff_of_true rfl nofun
  | d :: ds => by
    rw [ofData, toData, List.cons.injEq, toDatum_ofDatum_iff d, toData_ofData_iff ds,
      List.forall_mem_cons]

theorem toFields_ofFields_iff : (es : List (String × Datum)) →
    (toFields (ofFields es) = es ↔ ∀ e ∈ es, e.2.Exact)
  | [] => iff_of_true rfl nofun
  | (k, d) :: es => by
    rw [ofFields, toFields, List.cons.injEq, Prod.mk.injEq, toDatum_ofDatum_iff d,
      toFields_ofFields_iff es, List.forall_mem_cons]
    exact and_congr_left fun _ => and_iff_right rfl

end

end Value

/-- Of a value that is saved as data and read again, data keep what they can hold. Data that are
turned into a value and saved again are the same as before exactly if all their numbers are integers
of 64 bits or finite. -/
theorem data_round_trip :
    (∀ v : Value, v.Bounded → Value.ofDatum v.toDatum = v.kept) ∧
      ∀ d : Datum, (Value.ofDatum d).toDatum = d ↔ d.Exact :=
  ⟨Value.ofDatum_toDatum, Value.toDatum_ofDatum_iff⟩

/-- A record of the host without a text of its own. -/
def plainRecord : HostRecord := ⟨"point", [], [], [], none, none, none⟩

theorem data_round_trip_nested :
    let number := Value.float 2.0
    let beyond := Value.float (1.0 / 0.0)
    let method := Value.func ⟨"f", [], 0, none, .super⟩
    let items := Value.seq [.int (-9223372036854775808), number, .safe "<b>"]
    let v := Value.map [("b", items), ("a", .map [("f", method), ("x", beyond)]),
      ("p", .record plainRecord)]
    v.Bounded ∧ Value.ofDatum v.toDatum =
      .map [("b", .seq [.int (-9223372036854775808), number, .str "<b>"]),
        ("a", .map [("f", .nil), ("x", .nil)]), ("p", .str "<point>")] := by
  intro number beyond method items v
  have hitems : items.Bounded := by
    refine .seq ?_
    simp only [List.forall_mem_cons]
    exact ⟨.int (by decide), .float 2.0, .safe "<b>", List.forall_mem_nil _⟩
  have hinner : (Value.map [("f", method), ("x", beyond)]).Bounded := by
    refine .map ?_
    simp only [List.forall_mem_cons]
    exact ⟨.func _, .float _, List.forall_mem_nil _⟩
  have hv : v.Bounded := by
    refine .map ?_
    simp only [List.forall_mem_cons]
    exact ⟨hitems, hinner, .record plainRecord, List.forall_mem_nil _⟩
  have hnumber : (Value.float 2.0).kept = .float 2.0 := by
    rw [Value.kept, if_pos (by decide)]
  have hbeyond : (Value.float (1.0 / 0.0)).kept = .nil := by
    rw [Value.kept, if_neg (by decide)]
  refine ⟨hv, (data_round_trip.1 v hv).trans ?_⟩
  show Value.map [("b", .seq [_, (Value.float 2.0).kept, _]),
    ("a", .map [_, ("x", (Value.float (1.0 / 0.0)).kept)]), _] = _
  rw [hnumber, hbeyond]
  rfl

end Stencil
