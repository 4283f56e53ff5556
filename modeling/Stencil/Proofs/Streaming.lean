import Stencil.Proofs.Alike.Same

/-!
# Output that is cut off

A template writes in pieces, and it does the same whatever it writes to until its sink refuses a
piece. So a sink that takes only a part is given the beginning of what a sink without bounds is
given, as much as it has room for; and the render ends as it would otherwise, or else with the error
of the sink (`execute_cut_off`).
-/

namespace Stencil

open Render

/-! ## Sinks with little room -/

theorem contents_write_text (written : List String) (room : Option Nat) (text : String) :
    Sink.contents (.text (text :: written) room) = (Sink.text written room).contents ++ text := by
  simp [Sink.contents]

/-- The sink took what the other one took, and has room for the rest of `n` characters. -/
def Sink.Within (n : Nat) (whole : Sink) (cut : Sink) : Prop :=
  ∃ written written' room, whole = .text written none ∧ cut = .text written' (some room) ∧
    cut.contents = whole.contents ∧ whole.contents.length + room = n

/-- The sink took the first `n` characters of what the other one took, which is more. -/
def Sink.Beyond (n : Nat) (whole : Sink) (cut : Sink) : Prop :=
  ∃ written, whole = .text written none ∧ n < whole.contents.length ∧
    cut.contents.toList = whole.contents.toList.take n

/-- A text without bounds, and one with room for `n` characters. -/
def SinkPairing.limited (n : Nat) : SinkPairing where
  paired := Sink.Within n
  refused _ _ := False
  parted := Sink.Beyond n
  failures := (.write, .write)
  failures_eq := by
    rintro _ _ ⟨_, _, _, rfl, rfl, _⟩
    rfl
  write := by
    rintro _ _ text ⟨written, written', room, rfl, rfl, hsame, hroom⟩
    have hwhole := contents_write_text written none text
    unfold Sink.write
    by_cases hfits : text.length ≤ room
    · dsimp only
      rw [if_pos hfits]
      refine .inl ⟨rfl, rfl, _, _, _, rfl, rfl, ?_, ?_⟩
      · rw [hwhole, ← hsame]
        exact contents_write_text written' _ text
      · rw [hwhole, String.length_append]
        omega
    · dsimp only
      rw [if_neg hfits]
      refine .inr (.inr ⟨rfl, rfl, _, rfl, ?_, ?_⟩)
      · rw [hwhole, String.length_append]
        omega
      · have hcut := contents_write_text written' (some 0) (String.ofList (text.toList.take room))
        have hbefore : Sink.contents (.text written' (some 0)) =
            Sink.contents (.text written none) := hsame
        rw [hwhole, hcut, hbefore, String.toList_append, String.toList_append, String.toList_ofList,
          ← hroom, ← String.length_toList, List.take_length_add_append]
  more := by
    rintro _ _ text ⟨written, rfl, hlong, hcut⟩
    have hwhole := contents_write_text written none text
    refine ⟨_, rfl, ?_, ?_⟩
    · exact hwhole ▸ (String.length_append _ _ ▸ Nat.lt_add_right _ hlong)
    · change _ = (Sink.contents (.text (text :: written) none)).toList.take n
      rw [hcut, hwhole, String.toList_append, List.take_append_of_le_length]
      exact Nat.le_of_lt hlong

/-- The sink took the bytes of what the other one took, and has room for the rest of `n` bytes. -/
def Sink.BytesWithin (n : Nat) (whole : Sink) (cut : Sink) : Prop :=
  ∃ written room, whole = .text written none ∧ cut = .bytes whole.contents.toUTF8 room ∧
    whole.contents.toUTF8.size + room = n

/-- The sink took the first `n` bytes of what the other one took, which is more. -/
def Sink.BytesBeyond (n : Nat) (whole : Sink) (cut : Sink) : Prop :=
  ∃ written, whole = .text written none ∧ n < whole.contents.toUTF8.size ∧
    cut = .bytes (whole.contents.toUTF8.extract 0 n) 0

theorem bytes_write_text (written : List String) (room : Option Nat) (text : String) :
    (Sink.contents (.text (text :: written) room)).toUTF8 =
      (Sink.text written room).contents.toUTF8 ++ text.toUTF8 := by
  rw [contents_write_text]
  exact String.toByteArray_append

theorem extract_of_size_le {a : ByteArray} {n : Nat} (h : a.size ≤ n) : a.extract 0 n = a := by
  ext1
  rw [ByteArray.data_extract]
  exact Array.extract_eq_self_of_le h

theorem extract_append_add (a b : ByteArray) (k : Nat) :
    (a ++ b).extract 0 (a.size + k) = a ++ b.extract 0 k := by
  rw [ByteArray.extract_append, extract_of_size_le (Nat.le_add_right _ _), Nat.zero_sub,
    Nat.add_sub_cancel_left]

theorem extract_append_of_le {a b : ByteArray} {n : Nat} (h : n ≤ a.size) :
    (a ++ b).extract 0 n = a.extract 0 n := by
  rw [ByteArray.extract_append, Nat.sub_eq_zero_of_le h, Nat.zero_sub, ByteArray.extract_same,
    ByteArray.append_empty]

/-- A text without bounds, and a sink with room for `n` bytes. -/
def SinkPairing.bytes (n : Nat) : SinkPairing where
  paired := Sink.BytesWithin n
  refused _ _ := False
  parted := Sink.BytesBeyond n
  failures := (.write, .io "sink is full")
  failures_eq := by
    rintro _ _ ⟨_, _, rfl, rfl, _⟩
    rfl
  write := by
    rintro _ _ text ⟨written, room, rfl, rfl, hroom⟩
    have hwhole := bytes_write_text written none text
    unfold Sink.write
    by_cases hfits : text.toUTF8.size ≤ room
    · dsimp only
      rw [if_pos hfits]
      refine .inl ⟨rfl, rfl, _, room - text.toUTF8.size, rfl, ?_, ?_⟩
      · rw [hwhole]
      · rw [hwhole, ByteArray.size_append]
        omega
    · dsimp only
      rw [if_neg hfits]
      refine .inr (.inr ⟨rfl, rfl, _, rfl, ?_, ?_⟩)
      · rw [hwhole, ByteArray.size_append]
        omega
      · rw [hwhole, ← hroom, extract_append_add]
  more := by
    rintro _ _ text ⟨written, rfl, hlong, rfl⟩
    have hwhole := bytes_write_text written none text
    have hmore : ((Sink.text written none).write text).1 = .text (text :: written) none := rfl
    refine ⟨_, rfl, ?_, ?_⟩
    · rw [hmore, hwhole, ByteArray.size_append]
      exact Nat.lt_add_right _ hlong
    · rw [hmore, hwhole, extract_append_of_le (Nat.le_of_lt hlong)]

/-! ## Executions -/

section Execute

variable {host : Host} (hhost : host.Modest)
include hhost

/-- Executed with two sinks that go together, a template ends in the same way, unless one of them
refused a text. -/
theorem execute_paired (φ : SinkPairing) {out out' : Sink} (hout : φ.paired out out') (t : Template)
    (set : Option Library) (context : Bindings) :
    let e := t.execute host set context out
    let e' := t.execute host set context out'
    e'.1 = e.1 ∧ φ.paired e.2.out e'.2.out ∨ φ.refused e.2.out e'.2.out ∨
      e'.1 = .error (.error φ.failures.2) ∧ φ.parted e.2.out e'.2.out := by
  have hrender : Agrees .same host (t.render (.upTo jumpDepth)) (t.render (.upTo jumpDepth)) :=
    agrees_render (lawful_same hhost) (agree_upTo (lawful_same hhost) jumpDepth) rfl
  have hstart : State.Same (State.start set context t.options out)
      (State.start set context t.options out') := ⟨rfl, rfl, rfl, rfl, rfl, rfl, rfl, rfl, rfl⟩
  have houtcome := hrender.outcome φ _ _ (alike_same.mpr hstart) hout
  unfold Template.execute
  dsimp only
  cases checkNames context with
  | error e => exact .inl ⟨rfl, hout⟩
  | ok =>
    dsimp only
    generalize t.render (.upTo jumpDepth) host _ = e at houtcome ⊢
    generalize t.render (.upTo jumpDepth) host _ = e' at houtcome ⊢
    cases houtcome with
    | together hend _ _ _ hout =>
      refine .inl ⟨?_, hout⟩
      cases hend with
      | ok => rfl
      | error hh =>
        cases hh with
        | error he => rw [he]
        | exhausted => rfl
    | refused h => exact .inr (.inl h)
    | parted h => exact .inr (.inr ⟨rfl, h⟩)

/-- Let `w` be what a template writes to a sink that takes everything. A sink that takes `n`
characters gets the first `n` characters of `w`, and one that takes `n` bytes the first `n` bytes.
The render ends as it does with the sink that takes everything if `w` fits, and with the error of
its sink otherwise. -/
theorem execute_cut_off (t : Template) (set : Option Library) (context : Bindings) (n : Nat) :
    let whole := t.execute host set context .empty
    let w := whole.2.out.contents
    let cut := t.execute host set context (.text [] (some n))
    let bytes := t.execute host set context (.bytes .empty n)
    (cut.2.out.contents.toList = w.toList.take n ∧
      cut.1 = if w.length ≤ n then whole.1 else .error (.error .write)) ∧
    (∃ room, bytes.2.out = .bytes (w.toUTF8.extract 0 n) room) ∧
      bytes.1 = if w.toUTF8.size ≤ n then whole.1 else .error (.error (.io "sink is full")) := by
  intro whole w cut bytes
  constructor
  · have hempty : Sink.Within n .empty (.text [] (some n)) :=
      ⟨[], [], n, rfl, rfl, rfl, Nat.zero_add n⟩
    rcases execute_paired hhost (.limited n) hempty t set context with
      ⟨hend, written, written', room, -, -, hsame, hroom⟩ | h | ⟨hend, written, -, hlong, hcut⟩
    · have hfits : w.length ≤ n := hroom ▸ Nat.le_add_right _ _
      rw [if_pos hfits, List.take_of_length_le (String.length_toList ▸ hfits)]
      exact ⟨congrArg String.toList hsame, hend⟩
    · exact h.elim
    · rw [if_neg (Nat.not_le.mpr hlong)]
      exact ⟨hcut, hend⟩
  · have hempty : Sink.BytesWithin n .empty (.bytes .empty n) :=
      ⟨[], n, rfl, rfl, Nat.zero_add n⟩
    rcases execute_paired hhost (.bytes n) hempty t set context with
      ⟨hend, written, room, -, hbytes, hroom⟩ | h | ⟨hend, written, -, hlong, hbytes⟩
    · have hfits : w.toUTF8.size ≤ n := hroom ▸ Nat.le_add_right _ _
      rw [if_pos hfits]
      refine ⟨⟨room, ?_⟩, hend⟩
      rw [extract_of_size_le hfits]
      exact hbytes
    · exact h.elim
    · rw [if_neg (Nat.not_le.mpr hlong)]
      exact ⟨⟨0, hbytes⟩, hend⟩

end Execute

/-- A template that writes two pieces. -/
def twoPieces : Template where
  name := "word"
  source := ""
  tokens := []
  nodes := [.text "na", .output default (.literal (.string "ïve"))]
  parent := none
  blocks := []
  macros := []
  level := 0
  options := default
  serial := 0

/-- Three characters of the word take four bytes. -/
theorem execute_cut_off_word :
    let host := Host.bare fixedMoment
    let cut := twoPieces.execute host none [] (.text [] (some 3))
    let bytes := twoPieces.execute host none [] (.bytes .empty 3)
    host.Modest ∧ cut.2.out.contents.toList = ['n', 'a', 'ï'] ∧ cut.1 = .error (.error .write) ∧
      (∃ room, bytes.2.out = .bytes ("naïve".toUTF8.extract 0 3) room) ∧
      bytes.1 = .error (.error (.io "sink is full")) := by
  intro host cut bytes
  have hmodest : host.Modest := modest_bare fixedMoment
  have hword : (twoPieces.execute host none [] .empty).2.out.contents = "naïve" := by decide +kernel
  obtain ⟨⟨htext, hend⟩, hbytes, hend'⟩ := execute_cut_off hmodest twoPieces none [] 3
  rw [hword] at htext hend hbytes hend'
  exact ⟨hmodest, htext, hend, hbytes, hend'⟩

end Stencil
