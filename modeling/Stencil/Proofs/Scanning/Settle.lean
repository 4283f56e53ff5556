import Stencil.Proofs.Keeping
import Stencil.Proofs.Scanning.Layout
import Stencil.Token.Tokenize

/-!
# What trimming leaves of texts

Trimming takes blanks from the two ends of a text, and a text of which nothing is left disappears.
Where nothing trims, all texts stay as they are.
-/

namespace Stencil

open Stencil.Text

variable {s t w : List Char}

/-- Blanks, and nothing at all where `strict` holds. -/
def Spare (strict : Prop) (s : List Char) : Prop := Blank s ∧ (strict → s = [])

@[simp] theorem spare_nil (strict : Prop) : Spare strict [] := ⟨blank_nil, fun _ => rfl⟩

theorem Spare.append {strict : Prop} (hs : Spare strict s) (ht : Spare strict t) :
    Spare strict (s ++ t) := by
  refine ⟨hs.1.append ht.1, fun hstrict => ?_⟩
  rw [hs.2 hstrict, ht.2 hstrict]
  rfl

/-- The texts `kept` are what is left of the texts `written`. At the ends of each text, what `spare`
holds of may be missing. -/
inductive Kept (spare : List Char → Prop) : (written kept : List (List Char)) → Prop where
  | nil : Kept spare [] []
  | kept {front w back : List Char} {ws vs : List (List Char)} (hw : w ≠ []) (hfront : spare front)
      (hback : spare back) (h : Kept spare ws vs) :
      Kept spare ((front ++ (w ++ back)) :: ws) (w :: vs)
  | dropped {w : List Char} {ws vs : List (List Char)} (hw : spare w) (h : Kept spare ws vs) :
      Kept spare (w :: ws) vs

namespace Kept

variable {spare spare' : List Char → Prop} {us us' vs vs' ws : List (List Char)}

theorem imp (h : Kept spare us vs) (hspare : ∀ w, spare w → spare' w) : Kept spare' us vs := by
  induction h with
  | nil => exact .nil
  | kept hw hfront hback _ ih => exact .kept hw (hspare _ hfront) (hspare _ hback) ih
  | dropped hw _ ih => exact .dropped (hspare _ hw) ih

theorem append (h : Kept spare us vs) (h' : Kept spare us' vs') :
    Kept spare (us ++ us') (vs ++ vs') := by
  induction h with
  | nil => exact h'
  | kept hw hfront hback _ ih => exact .kept hw hfront hback ih
  | dropped hw _ ih => exact .dropped hw ih

theorem refl (hnil : spare []) (hvs : ∀ w ∈ vs, w ≠ []) : Kept spare vs vs := by
  induction vs with
  | nil => exact .nil
  | cons w vs ih =>
    obtain ⟨hw, hvs⟩ := List.forall_mem_cons.mp hvs
    have hkept := Kept.kept hw hnil hnil (ih hvs)
    rwa [List.nil_append, List.append_nil] at hkept

/-- The one text, of which `w` is left. -/
theorem single {front w back : List Char} (hfront : spare front) (hback : spare back)
    (hspare : ∀ s t, spare s → spare t → spare (s ++ t)) :
    Kept spare [front ++ (w ++ back)] (if w.isEmpty then [] else [w]) := by
  cases w with
  | nil => exact .dropped (hspare _ _ hfront hback) .nil
  | cons c w => exact .kept (List.cons_ne_nil c w) hfront hback .nil

theorem trans (h : Kept spare us vs) (h' : Kept spare vs ws)
    (hspare : ∀ s t, spare s → spare t → spare (s ++ t)) : Kept spare us ws := by
  induction h generalizing ws with
  | nil => exact h'
  | @kept front w back us vs hw hfront hback h ih =>
    cases h' with
    | @kept front' w' back' _ _ hw' hfront' hback' h' =>
      have hkept := Kept.kept hw' (hspare _ _ hfront hfront') (hspare _ _ hback' hback) (ih h')
      simpa only [List.append_assoc] using hkept
    | dropped hw' h' => exact .dropped (hspare _ _ hfront (hspare _ _ hw' hback)) (ih h')
  | dropped hw h ih => exact .dropped hw (ih h')

end Kept

namespace Token

/-- The text, if the token is one. -/
def text? (t : Token) : Option (List Char) :=
  match t.lexeme with
  | .text s => some s.toList
  | _ => none

/-- The texts among the tokens. -/
def texts (ts : List Token) : List (List Char) := ts.filterMap text?

@[simp] theorem texts_append (ts us : List Token) : texts (ts ++ us) = texts ts ++ texts us :=
  List.filterMap_append

/-- A text is a token unless it is empty. -/
theorem texts_unless_empty (w : List Char) (p : Position) (trims : Bool) :
    texts (if w.isEmpty then [] else [⟨.text (String.ofList w), p, trims⟩]) =
      if w.isEmpty then [] else [w] := by
  cases w with
  | nil => rfl
  | cons c w => exact congrArg (fun s => [s]) String.toList_ofList

end Token

/-! ## What is trimmed -/

/-- Of `s` only blanks at its two ends are missing in `t`. -/
def Trimmed (s t : List Char) : Prop :=
  ∃ front back, s = front ++ (t ++ back) ∧ Blank front ∧ Blank back

namespace Trimmed

theorem front {front : List Char} (h : s = front ++ t) (hfront : Blank front) : Trimmed s t :=
  ⟨front, [], by rwa [List.append_nil], hfront, blank_nil⟩

theorem back {back : List Char} (h : s = t ++ back) (hback : Blank back) : Trimmed s t :=
  ⟨[], back, h, blank_nil, hback⟩

theorem refl (s : List Char) : Trimmed s s := .front rfl blank_nil

theorem trans (h : Trimmed s t) (h' : Trimmed t w) : Trimmed s w := by
  obtain ⟨front, back, rfl, hfront, hback⟩ := h
  obtain ⟨front', back', rfl, hfront', hback'⟩ := h'
  exact ⟨front ++ front', back' ++ back, by simp only [List.append_assoc], hfront.append hfront',
    hback'.append hback⟩

/-- What is trimmed under some condition only. -/
theorem ite (b : Bool) (h : Trimmed s t) : Trimmed s (if b then t else s) := by
  cases b with
  | true => exact h
  | false => exact .refl s

end Trimmed

theorem trimmed_trimStart (s : List Char) : Trimmed s (trimStart s) := by
  obtain ⟨front, hfront, hblank⟩ := trimStart_split s
  exact .front hfront hblank

theorem trimmed_trimEnd (s : List Char) : Trimmed s (trimEnd s) := by
  obtain ⟨back, hback, hblank⟩ := trimEnd_split s
  exact .back hback hblank

namespace Trimming

variable {o : Trimming} {before behind : Option Token} {ts : List Token}

theorem dropLineBreak_split (s : List Char) :
    ∃ front, s = front ++ dropLineBreak s ∧ Blank front := by
  unfold dropLineBreak
  split
  next s => exact ⟨['\r', '\n'], rfl, by simp [isBlank]⟩
  next s => exact ⟨['\n'], rfl, by simp [isBlank]⟩
  next => exact ⟨[], rfl, blank_nil⟩

theorem dropIndent_split (fresh : Bool) (s : List Char) :
    ∃ back, s = dropIndent fresh s ++ back ∧ Blank back := by
  have hsuffix : (s.reverse.takeWhile (· != '\n')).reverse <:+ s := by
    rw [← List.reverse_prefix, List.reverse_reverse]
    exact List.takeWhile_prefix _
  unfold dropIndent
  dsimp only
  split
  next hindent =>
    have hall := (Bool.and_eq_true_iff.mp hindent).1
    refine ⟨_, (List.suffix_iff_eq_append.mp hsuffix).symm, fun c hc => ?_⟩
    obtain h | h := Bool.or_eq_true_iff.mp (List.all_eq_true.mp hall c hc)
    · rw [beq_iff_eq.mp h]
      rfl
    · rw [beq_iff_eq.mp h]
      rfl
  next => exact ⟨[], (List.append_nil s).symm, blank_nil⟩

theorem trimmed_dropLineBreak (s : List Char) : Trimmed s (dropLineBreak s) := by
  obtain ⟨front, hfront, hblank⟩ := dropLineBreak_split s
  exact .front hfront hblank

theorem trimmed_dropIndent (fresh : Bool) (s : List Char) : Trimmed s (dropIndent fresh s) := by
  obtain ⟨back, hback, hblank⟩ := dropIndent_split fresh s
  exact .back hback hblank

theorem trimmed_afterClose (o : Trimming) (before : Option Token) (s : List Char) :
    Trimmed s (o.afterClose before s) := by
  cases before with
  | none => exact .refl s
  | some t => exact ((trimmed_trimStart s).ite _).trans ((trimmed_dropLineBreak _).ite _)

theorem trimmed_beforeOpen (o : Trimming) (column : Nat) (behind : Option Token) (s : List Char) :
    Trimmed s (o.beforeOpen column behind s) := by
  cases behind with
  | none => exact .refl s
  | some t => exact ((trimmed_trimEnd s).ite _).trans ((trimmed_dropIndent _ _).ite _)

/-- A text loses blanks at its two ends, and another token nothing. -/
theorem kept_settleOne (o : Trimming) (before : Option Token) (t : Token)
    (behind : Option Token) :
    Kept Blank (Token.texts [t]) (Token.texts (o.settleOne before t behind)) := by
  obtain ⟨lexeme, position, trims⟩ := t
  cases lexeme with
  | text s =>
    obtain ⟨front, back, hsplit, hfront, hback⟩ := (trimmed_afterClose o before s.toList).trans
      (trimmed_beforeOpen o position.column behind _)
    have hkept := Kept.single (w := o.beforeOpen position.column behind
      (o.afterClose before s.toList)) hfront hback fun _ _ => Blank.append
    rw [← hsplit] at hkept
    rw [settleOne, Token.texts_unless_empty]
    exact hkept
  | keyword | identifier | string | number | symbol => exact .nil

/-- Texts lose blanks at their ends. -/
theorem kept_settle (o : Trimming) (before : Option Token) (ts : List Token) :
    Kept Blank (Token.texts ts) (Token.texts (o.settle before ts)) := by
  induction ts generalizing before with
  | nil => exact .nil
  | cons t ts ih =>
    rw [settle, ← List.singleton_append, Token.texts_append, Token.texts_append]
    exact (kept_settleOne o before t ts.head?).append (ih (some t))

/-! ## Where nothing is trimmed -/

theorem afterClose_eq_self (hbefore : ∀ t ∈ before, t.trims = false) (s : List Char) :
    ({} : Trimming).afterClose before s = s := by
  cases before with
  | none => rfl
  | some t =>
    unfold afterClose
    dsimp only
    rw [hbefore t rfl]
    rfl

theorem beforeOpen_eq_self (hbehind : ∀ t ∈ behind, t.trims = false) (column : Nat)
    (s : List Char) : ({} : Trimming).beforeOpen column behind s = s := by
  cases behind with
  | none => rfl
  | some t =>
    unfold beforeOpen
    dsimp only
    rw [hbehind t rfl]
    rfl

theorem settleOne_eq_self {t : Token} (hbefore : ∀ t ∈ before, t.trims = false)
    (hbehind : ∀ t ∈ behind, t.trims = false) (ht : t.text? ≠ some []) :
    ({} : Trimming).settleOne before t behind = [t] := by
  obtain ⟨lexeme, position, trims⟩ := t
  cases lexeme with
  | text s =>
    have hs : s.toList.isEmpty = false := by
      rw [Bool.eq_false_iff, ne_eq, List.isEmpty_iff]
      exact fun h => ht (congrArg some h)
    unfold settleOne
    dsimp only
    rw [afterClose_eq_self hbefore, beforeOpen_eq_self hbehind, hs, String.ofList_toList]
    rfl
  | keyword | identifier | string | number | symbol => rfl

/-- Without options and without trim marks, all tokens stay as they are. -/
theorem settle_eq_self (hbefore : ∀ t ∈ before, t.trims = false)
    (hts : ∀ t ∈ ts, t.trims = false ∧ t.text? ≠ some []) :
    ({} : Trimming).settle before ts = ts := by
  induction ts generalizing before with
  | nil => rfl
  | cons t ts ih =>
    obtain ⟨⟨ht, htext⟩, hts⟩ := List.forall_mem_cons.mp hts
    have hbehind : ∀ u ∈ ts.head?, u.trims = false := fun u hu =>
      (hts u (List.mem_of_head? hu)).1
    rw [settle, settleOne_eq_self hbefore hbehind htext,
      ih (fun u hu => by rwa [← Option.some.inj hu]) hts]
    rfl

end Trimming

end Stencil
