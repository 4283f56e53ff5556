import Stencil.Proofs.Scanning.Settle

/-!
# Places in a source

Tokens stand at characters of the source, and so do the errors of the scanner.
-/

namespace Stencil

/-!
## Where tokens stand

Every token carries the place of a character of the source: of the first one of its spelling, or for
a text, of one outside of tags. No two tokens share one, and they come in the order of the source.
-/

section Tokens

/-- The one position is in front of the other, on an earlier line or further left on the same. -/
def Position.Before (p q : Position) : Prop :=
  p.line < q.line ∨ p.line = q.line ∧ p.column < q.column

theorem Position.Before.trans {p q r : Position} (h : p.Before q) (h' : q.Before r) :
    p.Before r := by
  unfold Before at *
  omega

variable {name : String} {c : Char} {before s rest : List Char} {ts : List Token}
  {piece : Token.Piece} {pieces : List Token.Piece}

theorem before_step (name : String) (p : Place) (c : Char) :
    (Position.of name p).Before (.of name (p.step c)) := by
  unfold Place.step
  split
  · exact .inl (Nat.lt_succ_self _)
  · exact .inr ⟨rfl, Nat.lt_succ_self _⟩

theorem before_after (name : String) (p : Place) (c : Char) (s : List Char) :
    (Position.of name p).Before (.of name (p.after (c :: s))) := by
  induction s generalizing p c with
  | nil => exact before_step name p c
  | cons d s ih => exact (before_step name p c).trans (ih (p.step c) d)

/-- What stands further behind has the later position. -/
theorem before_behind (name : String) (before : List Char) (c : Char) (s : List Char) :
    (Position.of name (.behind before)).Before (.of name (.behind (before ++ c :: s))) := by
  rw [← Place.after_behind]
  exact before_after name _ c s

namespace Token

open Stencil.Text

/-- The token is a text, or `s` begins with what spells it. -/
def Written (s : List Char) (t : Token) : Prop :=
  (∃ w, t.lexeme = .text w) ∨ ∃ chars rest, s = chars ++ rest ∧ Spells rest t.lexeme t.trims chars

/-- The tokens stand at different characters of the text behind `before`, in order. -/
inductive Follow (name : String) : (before rest : List Char) → List Token → Prop where
  | nil {before rest : List Char} : Follow name before rest []
  | skip {before rest : List Char} {c : Char} {ts : List Token}
      (h : Follow name (before ++ [c]) rest ts) : Follow name before (c :: rest) ts
  | token {before rest : List Char} {c : Char} {t : Token} {ts : List Token}
      (hposition : t.position = .of name (.behind before)) (ht : t.Written (c :: rest))
      (h : Follow name (before ++ [c]) rest ts) : Follow name before (c :: rest) (t :: ts)

namespace Follow

theorem skips (w : List Char) (h : Follow name (before ++ w) rest ts) :
    Follow name before (w ++ rest) ts := by
  induction w generalizing before with
  | nil => rwa [List.append_nil] at h
  | cons c w ih =>
    refine .skip (ih ?_)
    rwa [List.append_assoc, List.singleton_append]

/-- A token at the beginning of a text that is not empty. -/
theorem tokens {t : Token} {w : List Char} (hw : w ≠ [])
    (hposition : t.position = .of name (.behind before)) (ht : t.Written (w ++ rest))
    (h : Follow name (before ++ w) rest ts) : Follow name before (w ++ rest) (t :: ts) := by
  cases w with
  | nil => exact absurd rfl hw
  | cons c w =>
    refine .token hposition ht (.skips w ?_)
    rwa [List.append_assoc, List.singleton_append]

/-- A text, if there is one, stands at the beginning of what is not empty. -/
theorem ofText {w : List Char} (hw : w ≠ []) (kept : List Char)
    (h : Follow name (before ++ w) rest ts) :
    Follow name before (w ++ rest) (ofText name (.behind before) kept ++ ts) := by
  unfold Token.ofText
  split
  · exact .skips w h
  · exact .tokens hw rfl (.inl ⟨_, rfl⟩) h

/-- Each token stands at a character of the text. -/
theorem exists_place (h : Follow name before rest ts) : ∀ t ∈ ts, ∃ passed c behind,
    rest = passed ++ c :: behind ∧ t.position = .of name (.behind (before ++ passed)) ∧
      t.Written (c :: behind) := by
  induction h with
  | nil => exact List.forall_mem_nil _
  | @skip before rest c ts h ih =>
    intro t ht
    obtain ⟨passed, d, behind, rfl, hposition, hwritten⟩ := ih t ht
    rw [List.append_assoc, List.singleton_append] at hposition
    exact ⟨c :: passed, d, behind, rfl, hposition, hwritten⟩
  | @token before rest c t ts hposition hwritten h ih =>
    refine List.forall_mem_cons.mpr ⟨⟨[], c, rest, rfl, ?_, hwritten⟩, fun u hu => ?_⟩
    · rwa [List.append_nil]
    · obtain ⟨passed, d, behind, rfl, hposition, hwritten⟩ := ih u hu
      rw [List.append_assoc, List.singleton_append] at hposition
      exact ⟨c :: passed, d, behind, rfl, hposition, hwritten⟩

/-- Positions increase from token to token. -/
theorem pairwise (h : Follow name before rest ts) :
    ts.Pairwise fun t u => t.position.Before u.position := by
  induction h with
  | nil => exact .nil
  | skip h ih => exact ih
  | @token before rest c t ts hposition hwritten h ih =>
    refine .cons (fun u hu => ?_) ih
    obtain ⟨passed, d, behind, -, hu, -⟩ := h.exists_place u hu
    rw [hposition, hu, List.append_assoc]
    exact before_behind name before c passed

/-- Trimming moves no token. -/
theorem settle (h : Follow name before rest ts) (o : Trimming) (last : Option Token) :
    Follow name before rest (o.settle last ts) := by
  induction h generalizing last with
  | nil => exact .nil
  | skip h ih => exact .skip (ih last)
  | @token before rest c t ts hposition hwritten h ih =>
    obtain ⟨lexeme, position, trims⟩ := t
    rw [Trimming.settle]
    cases lexeme with
    | text s =>
      unfold Trimming.settleOne
      dsimp only
      split
      · exact .skip (ih _)
      · exact .token hposition (.inl ⟨_, rfl⟩) (ih _)
    | keyword | identifier | string | number | symbol => exact .token hposition hwritten (ih _)

end Follow

/-! ### The tokens of a layout -/

theorem Part.Stands.follow {part : Part} (hpart : part.Stands rest)
    (h : Follow name (before ++ part.source) rest ts) :
    Follow name before (part.source ++ rest) (part.token name before :: ts) := by
  obtain ⟨c, cs, hchars, -⟩ := hpart.spells.exists_cons
  have hne : part.chars ≠ [] := by
    rw [hchars]
    exact List.cons_ne_nil c cs
  rw [Part.source, ← List.append_assoc] at h
  rw [Part.source, List.append_assoc]
  exact .skips part.gap (.tokens hne rfl (.inr ⟨part.chars, rest, rfl, hpart.spells⟩) h)

theorem Tagged.follow {parts : List Part} (hparts : Tagged rest parts)
    (h : Follow name (before ++ parts.flatMap Part.source) rest ts) :
    Follow name before (parts.flatMap Part.source ++ rest)
      (Part.tokens name before parts ++ ts) := by
  induction hparts generalizing before with
  | close hpart =>
    rw [List.flatMap_singleton] at h ⊢
    exact hpart.follow h
  | cons hpart hopening hclosing _ ih =>
    rw [List.flatMap_cons, ← List.append_assoc] at h
    rw [List.flatMap_cons, List.append_assoc]
    exact hpart.follow (ih h)

theorem Piece.Fits.follow (hpiece : piece.Fits rest)
    (h : Follow name (before ++ piece.source) rest ts) :
    Follow name before (piece.source ++ rest) (piece.tokens name before rest ++ ts) := by
  cases hpiece with
  | text hbody => exact .ofText hbody _ h
  | comment => exact .skips _ h
  | @verbatim opening closing lead body trail =>
    have hne : body ++ (closing.source endVerbatimWord ++ trail) ≠ [] := by
      intro h
      cases (List.append_eq_nil_iff.mp (List.append_eq_nil_iff.mp h).2).1
    have hsource : (Piece.verbatim opening lead body closing trail).source =
        (opening.source verbatimWord ++ lead) ++
          (body ++ (closing.source endVerbatimWord ++ trail)) := by
      rw [Piece.source, List.append_assoc]
    rw [hsource, ← List.append_assoc] at h
    rw [hsource, List.append_assoc]
    exact .skips _ (.ofText hne _ h)
  | tag hgap hstart hopening hparts =>
    rw [Piece.source, ← List.append_assoc] at h
    rw [Piece.source, List.append_assoc]
    exact hstart.follow (hparts.follow h)

theorem Layout.follow (h : Layout pieces) (name : String) (before : List Char) :
    Follow name before (pieces.flatMap Piece.source) (scanned name before pieces) := by
  induction pieces generalizing before with
  | nil => exact .nil
  | cons piece pieces ih =>
    rw [List.flatMap_cons]
    exact h.1.follow (ih h.2 _)

end Token

end Tokens

/-!
## Where the scanner refuses a source

A source that cannot be cut into tokens is refused at one of its characters: the one that cannot
stand there, or the first one of what is never closed. So tokens and refusals alike have positions
in the source.
-/

section Refusals

/-- The position is that of a character of the source. -/
def Position.StandsIn (p : Position) (source : String) : Prop :=
  ∃ passed c behind, source.toList = passed ++ c :: behind ∧ p = .of p.template (.behind passed)

namespace Token

open Stencil.Text

variable {name : String} {before s w : List Char} {c : Char} {α β : Type}

/-- If the text `s` behind `before` is refused, then at one of its characters. -/
def RefusedIn (name : String) (before s : List Char) (result : Except Error α) : Prop :=
  ∀ e, result = .error e → ∃ passed c behind fault, s = passed ++ c :: behind ∧
    e = .lex (.of name (.behind (before ++ passed))) fault

/-! ### Rules -/

theorem refusedIn_ok (a : α) : RefusedIn name before s (.ok a) := nofun

theorem refusedIn_bind {result : Except Error α} {f : α → Except Error β}
    (h : RefusedIn name before s result)
    (hf : ∀ a, result = .ok a → RefusedIn name before s (f a)) :
    RefusedIn name before s (result >>= f) := by
  cases result with
  | ok a => exact hf a rfl
  | error e =>
    rintro _ ⟨⟩
    exact h e rfl

theorem refusedIn_pure_bind {result : Except Error α} {f : α → β}
    (h : RefusedIn name before s result) :
    RefusedIn name before s (do let a ← result; pure (f a)) :=
  refusedIn_bind h fun a _ => refusedIn_ok (f a)

/-- A text is refused at its first character. -/
theorem refusedIn_first (hs : s ≠ []) (fault : LexFault) :
    RefusedIn name before s (refuse name (.behind before) fault : Except Error α) := by
  obtain ⟨c, s, rfl⟩ := List.exists_cons_of_ne_nil hs
  rintro _ ⟨⟩
  exact ⟨[], c, s, fault, rfl, by rw [List.append_nil]⟩

theorem refusedIn_append {result : Except Error α} (h : RefusedIn name (before ++ w) s result) :
    RefusedIn name before (w ++ s) result := by
  intro e he
  obtain ⟨passed, c, behind, fault, rfl, rfl⟩ := h e he
  exact ⟨w ++ passed, c, behind, fault, (List.append_assoc ..).symm, by rw [List.append_assoc]⟩

/-- A text is refused at a character further on. -/
theorem refusedIn_behind (w : List Char) (c : Char) (s : List Char) (fault : LexFault) :
    RefusedIn name before (w ++ c :: s)
      (refuse name (.behind (before ++ w)) fault : Except Error α) :=
  refusedIn_append (refusedIn_first (List.cons_ne_nil c s) fault)

/-! ### Tags -/

/-- A string that `w` is the beginning of. -/
theorem refusedIn_stringRest (hw : w ≠ []) (quote : Char) {p : Place}
    (hp : p = .behind (before ++ w)) (acc : List Char) :
    RefusedIn name before (w ++ s) (stringRest name (.behind before) quote p acc s) := by
  fun_induction stringRest name (.behind before) quote p acc s generalizing w with
  | case1 => exact refusedIn_first (List.append_ne_nil_of_left_ne_nil hw _) _
  | case2 => exact refusedIn_first (List.append_ne_nil_of_left_ne_nil hw _) _
  | case3 => exact hp ▸ refusedIn_behind _ _ _ _
  | case4 p acc c s d _ ih =>
    have hplace : (p.step '\\').step c = .behind (before ++ (w ++ ['\\', c])) := by
      rw [hp, Place.step_behind, Place.step_behind]
      simp only [List.append_assoc, List.singleton_append]
    have h := ih (List.append_ne_nil_of_left_ne_nil hw _) hplace
    rw [List.append_assoc] at h
    exact refusedIn_pure_bind h
  | case5 => exact hp ▸ refusedIn_behind _ _ _ _
  | case6 => exact refusedIn_ok _
  | case7 p acc c s _ _ _ ih =>
    have hplace : p.step c = .behind (before ++ (w ++ [c])) := by
      rw [hp, Place.step_behind, List.append_assoc]
    have h := ih (List.append_ne_nil_of_left_ne_nil hw _) hplace
    rw [List.append_assoc] at h
    exact refusedIn_pure_bind h

theorem refusedIn_tokenAt (c : Char) (s : List Char) :
    RefusedIn name before (c :: s) (tokenAt name (.behind before) c s) := by
  have hs : c :: s ≠ [] := List.cons_ne_nil c s
  unfold tokenAt
  split
  · exact refusedIn_ok _
  · split
    · dsimp only
      split <;> exact refusedIn_ok _
    · split
      · exact refusedIn_pure_bind
          (refusedIn_stringRest (w := [c]) (List.cons_ne_nil c []) c
            (Place.step_behind before c) [])
      · split
        · exact refusedIn_first hs _
        · split
          · exact refusedIn_first hs _
          · exact refusedIn_ok _

/-- The rest of a tag that `w` is the beginning of. -/
theorem refusedIn_tagRest (hw : w ≠ []) {p : Place} (hp : p = .behind (before ++ w)) :
    RefusedIn name before (w ++ s) (tagRest name (.behind before) p s) := by
  fun_induction tagRest name (.behind before) p s generalizing w with
  | case1 => exact refusedIn_first (List.append_ne_nil_of_left_ne_nil hw _) _
  | case2 =>
    rename_i p s gap c t hs q ih
    have hgap : gap ++ c :: t = s := by
      have hsplit := List.take_append_drop gap.length s
      rwa [hs, ← List.prefix_iff_eq_take.mp (List.takeWhile_prefix isBlank)] at hsplit
    have hq : q = .behind (before ++ (w ++ gap)) := by
      rw [← List.append_assoc, ← Place.after_behind, ← hp]
    rw [← hgap, ← List.append_assoc]
    refine refusedIn_bind ?_ fun ⟨token, k⟩ _ => ?_
    · rw [hq]
      exact refusedIn_append (refusedIn_tokenAt c t)
    · dsimp only
      split
      · exact refusedIn_ok _
      · have hplace : q.after (c :: t.take k) =
          .behind (before ++ (w ++ gap ++ c :: t.take k)) := by
          rw [hq, Place.after_behind, List.append_assoc]
        have h := ih k (List.append_ne_nil_of_right_ne_nil _ (List.cons_ne_nil c _)) hplace
        rw [List.append_assoc, List.cons_append, List.take_append_drop] at h
        exact refusedIn_pure_bind h

theorem refusedIn_tag (spelling : List Char) (hspelling : spelling ≠ []) (symbol : Symbol)
    (trims : Bool) :
    RefusedIn name before (spelling ++ s)
      (tag name (.behind before) spelling symbol trims (spelling ++ s)) := by
  unfold tag
  rw [List.drop_left]
  exact refusedIn_pure_bind (refusedIn_tagRest hspelling (Place.after_behind before spelling))

/-! ### Pieces -/

theorem refusedIn_comment :
    RefusedIn name before (['\x7b', '#'] ++ s)
      (comment name (.behind before) (['\x7b', '#'] ++ s)) := by
  obtain ⟨body, rest, rfl, hbody, hrest⟩ := exists_unbroken breaksComment s
  have hrun : runUntil (fun t => t.head? == some '\n' || ['#', '\x7d'].isPrefixOf t) []
      (body ++ rest) = body := hbody.runUntil_eq hrest []
  unfold comment
  dsimp only
  rw [drop_commentOpen, hrun, List.drop_left]
  split
  · exact refusedIn_first (List.cons_ne_nil _ _) _
  · rename_i rest
    have htake : (['\x7b', '#'] ++ (body ++ '\n' :: rest)).take (2 + body.length) =
        ['\x7b', '#'] ++ body := by
      rw [← List.append_assoc, List.take_left' (by simp; omega)]
    rw [htake, Place.after_behind, ← List.append_assoc]
    exact refusedIn_behind _ _ _ _
  · exact refusedIn_ok _

theorem refusedIn_pieceAt (hs : s ≠ []) :
    RefusedIn name before s (pieceAt name (.behind before) s) := by
  unfold pieceAt
  split
  · unfold verbatim
    dsimp only
    split
    · exact refusedIn_first hs _
    · exact refusedIn_ok _
  · split
    · exact refusedIn_comment
    · exact refusedIn_tag ['\x7b', '\x7b', '-'] (List.cons_ne_nil _ _) _ _
    · exact refusedIn_tag ['\x7b', '%', '-'] (List.cons_ne_nil _ _) _ _
    · exact refusedIn_tag ['\x7b', '\x7b'] (List.cons_ne_nil _ _) _ _
    · exact refusedIn_tag ['\x7b', '%'] (List.cons_ne_nil _ _) _ _
    · exact refusedIn_ok _

theorem refusedIn_scanFrom : RefusedIn name before s (scanFrom name (.behind before) s) := by
  -- By induction on the length, since a piece takes a character at least.
  induction hlength : s.length using Nat.strongRecOn generalizing s before with
  | ind length ih =>
  subst hlength
  cases s with
  | nil =>
    rw [scanFrom]
    exact refusedIn_ok _
  | cons c s =>
    rw [scanFrom]
    refine refusedIn_bind (refusedIn_pieceAt (List.cons_ne_nil c s)) fun found _ => ?_
    obtain ⟨tokens, n⟩ := found
    have hshorter : (s.drop (n - 1)).length < (c :: s).length := by
      rw [List.length_drop, List.length_cons]
      omega
    have hrest : RefusedIn name (before ++ c :: s.take (n - 1)) (s.drop (n - 1)) _ :=
      ih _ hshorter rfl
    have h := refusedIn_append hrest
    rw [List.cons_append, List.take_append_drop] at h
    dsimp only
    rw [Place.after_behind]
    exact refusedIn_pure_bind h

/-! ### Sources -/

/-- Tokens stand at characters of the source. -/
theorem standsIn_of_tokenize {o : Trimming} {source : String} {ts : List Token}
    (h : tokenize o name source = .ok ts) :
    ∀ t ∈ ts, t.position.template = name ∧ t.position.StandsIn source := by
  obtain ⟨scanned, hscanned, h⟩ := ok_of_bind h
  cases h
  have hscanned : scanFrom name (.behind []) source.toList = .ok scanned := hscanned
  obtain ⟨pieces, hlayout, hsource, rfl⟩ := layout_of_scanFrom hscanned
  have hfollow := (hlayout.follow name []).settle o none
  rw [hsource] at hfollow
  intro t ht
  obtain ⟨passed, c, behind, hpassed, hposition, -⟩ := hfollow.exists_place t ht
  rw [hposition]
  exact ⟨rfl, passed, c, behind, hpassed, rfl⟩

/-- A source is refused at one of its characters. -/
theorem standsIn_of_tokenize_error {o : Trimming} {source : String} {e : Error}
    (h : tokenize o name source = .error e) :
    ∃ p fault, e = .lex p fault ∧ p.template = name ∧ p.StandsIn source := by
  have hscan : RefusedIn name [] source.toList (scanFrom name (.behind []) source.toList) :=
    refusedIn_scanFrom
  have hrefused : RefusedIn name [] source.toList (tokenize o name source) :=
    refusedIn_pure_bind hscan
  obtain ⟨passed, c, behind, fault, hsource, rfl⟩ := hrefused e h
  exact ⟨_, fault, rfl, rfl, passed, c, behind, hsource, rfl⟩

end Token

end Refusals

end Stencil
