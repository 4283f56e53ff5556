import Stencil.Proofs.Writing.Levels

/-!
# Nesting and its limit

What tokens stand for in the grammar and how deep that nests, and readers that take it up to a
limit.
-/

namespace Stencil

/-!
## What tokens stand for in the grammar

The grammar of expressions as rules: which tokens stand for which expression of a level, and how
many constructs are open at once around an operand in them. Brackets of all kinds, unary operators,
the right side of a power and the argument of a filter are such constructs. How much a pair of
brackets counts is left open.
-/

section Phrases

open Grammar

/-- The constant that a lexeme stands for. -/
def Lexeme.constant? : Lexeme → Option Literal
  | .string s => some (.string s)
  | .keyword .kwTrue => some (.bool true)
  | .keyword .kwFalse => some (.bool false)
  | .number ds => (Integer.read? ds.toList).map .int
  | _ => none

/-- The step of a path that a lexeme behind a point stands for. -/
def Lexeme.member? : Lexeme → Option Segment
  | .identifier name => some (.attr name)
  | .keyword k => some (.attr k.spelling)
  | .number ds => (Integer.read? ds.toList).map .index
  | _ => none

/-- The value of a decimal fraction with the given digits before and behind its point. -/
def decimalFraction (ds fs : String) : Float :=
  Decimal.ofScientific (Integer.ofDigits (ds.toList ++ fs.toList)) (-(fs.length : Int))

/-- What tokens can stand for. -/
inductive Phrase where
  /-- An expression of a level. -/
  | expr (l : Level) (e : Expr)
  /-- A filter with its argument. -/
  | filter (f : FilterCall)
  /-- Filters, each behind a bar. -/
  | filters (fs : List FilterCall)
  /-- The steps of a path. -/
  | steps (segments : List Segment)
  /-- The items of a list and the symbol that closes it. -/
  | items (close : Symbol) (es : List Expr)
  /-- One or more items of a list and the symbol that closes it. -/
  | more (close : Symbol) (es : List Expr)

/-- The tokens are the operator of a comparison or a membership test. -/
inductive Compares : List Token → BinaryOp → Position → Prop
  | one {t : Token} {op : BinaryOp} (ht : relationalOp? t.lexeme = some op) :
      Compares [t] op t.position
  | notIn {t u : Token} (ht : t.lexeme = .keyword .kwNot) (hu : u.lexeme = .keyword .kwIn) :
      Compares [t, u] .notIn t.position

/-- The tokens stand for the phrase, and around an operand in them at most `depth` constructs are
open at once, each pair of brackets counted `w` times. -/
inductive Derives (filters : Registry FilterRef) (w : Nat) : Phrase → List Token → Nat → Prop
  | constant {t : Token} {v : Literal} (ht : t.lexeme.constant? = some v) :
      Derives filters w (.expr .operand (.literal v)) [t] 0
  | fraction {t point u : Token} {ds fs : String} (ht : t.lexeme = .number ds)
      (hpoint : point.lexeme = .symbol .dot) (hu : u.lexeme = .number fs) :
      Derives filters w (.expr .operand (.literal (.float (decimalFraction ds fs)))) [t, point, u] 0
  | group {t u : Token} {e : Expr} {ts : List Token} {n : Nat}
      (ht : t.lexeme = .symbol .openParen) (he : Derives filters w (.expr .disjunction e) ts n)
      (hu : u.lexeme = .symbol .closeParen) :
      Derives filters w (.expr .operand e) (t :: (ts ++ [u])) (n + w)
  | array {t : Token} {es : List Expr} {ts : List Token} {n : Nat}
      (ht : t.lexeme = .symbol .openBracket)
      (hes : Derives filters w (.items .closeBracket es) ts n) :
      Derives filters w (.expr .operand (.array es)) (t :: ts) n
  | path {t : Token} {name : String} {segments : List Segment} {ts : List Token} {n : Nat}
      (ht : t.lexeme = .identifier name) (hsegments : Derives filters w (.steps segments) ts n) :
      Derives filters w (.expr .operand (.path name segments t.position)) (t :: ts) n
  -- Levels
  | looser {l : Level} {e : Expr} {ts : List Token} {n : Nat} (hl : l ≠ .operand)
      (he : Derives filters w (.expr l.next e) ts n) : Derives filters w (.expr l e) ts n
  | filtered {e : Expr} {fs : List FilterCall} {ts us : List Token} {n m : Nat}
      (he : Derives filters w (.expr .operand e) ts n) (hfs : Derives filters w (.filters fs) us m)
      (hne : fs ≠ []) : Derives filters w (.expr .filtered (.filtered e fs)) (ts ++ us) (max n m)
  | unary {t : Token} {op : UnaryOp} {e : Expr} {ts : List Token} {n : Nat}
      (ht : unaryOp? t.lexeme = some op) (he : Derives filters w (.expr .unary e) ts n) :
      Derives filters w (.expr .unary (.unary op e t.position)) (t :: ts) (n + 1)
  | power {t : Token} {a b : Expr} {ts us : List Token} {n m : Nat}
      (ha : Derives filters w (.expr .unary a) ts n) (ht : t.lexeme = .symbol .caret)
      (hb : Derives filters w (.expr .power b) us m) :
      Derives filters w (.expr .power (.binary .pow a b t.position)) (ts ++ t :: us) (max n (m + 1))
  | relation {op : BinaryOp} {p : Position} {a b : Expr} {ts ops us : List Token} {n m : Nat}
      (ha : Derives filters w (.expr .sum a) ts n) (hop : Compares ops op p)
      (hb : Derives filters w (.expr .sum b) us m) :
      Derives filters w (.expr .relation (.binary op a b p)) (ts ++ (ops ++ us)) (max n m)
  | chained {l : Level} {t : Token} {op : BinaryOp} {a b : Expr} {ts us : List Token} {n m : Nat}
      (ha : Derives filters w (.expr l a) ts n) (ht : l.op? t.lexeme = some op)
      (hb : Derives filters w (.expr l.right b) us m) :
      Derives filters w (.expr l (.binary op a b t.position)) (ts ++ t :: us) (max n m)
  -- Filters
  | filter {t : Token} {name : String} {f : FilterRef} (ht : t.lexeme = .identifier name)
      (hallowed : filters.isBanned name = false) (hf : filters.find? name = some f) :
      Derives filters w (.filter (.mk name none t.position f)) [t] 0
  | filterWith {t u : Token} {name : String} {f : FilterRef} {e : Expr} {ts : List Token} {n : Nat}
      (ht : t.lexeme = .identifier name) (hallowed : filters.isBanned name = false)
      (hf : filters.find? name = some f) (hu : u.lexeme = .symbol .colon)
      (he : Derives filters w (.expr .operand e) ts n) :
      Derives filters w (.filter (.mk name (some e) t.position f)) (t :: u :: ts) (n + 1)
  | noFilters : Derives filters w (.filters []) [] 0
  | addFilter {t : Token} {f : FilterCall} {fs : List FilterCall} {ts us : List Token} {n m : Nat}
      (ht : t.lexeme = .symbol .bar) (hf : Derives filters w (.filter f) ts n)
      (hfs : Derives filters w (.filters fs) us m) :
      Derives filters w (.filters (f :: fs)) (t :: (ts ++ us)) (max n m)
  -- Steps
  | noSteps : Derives filters w (.steps []) [] 0
  | member {t u : Token} {s : Segment} {segments : List Segment} {ts : List Token} {n : Nat}
      (ht : t.lexeme = .symbol .dot) (hu : u.lexeme.member? = some s)
      (hsegments : Derives filters w (.steps segments) ts n) :
      Derives filters w (.steps (s :: segments)) (t :: u :: ts) n
  | subscript {t u : Token} {key : Expr} {segments : List Segment} {ts us : List Token} {n m : Nat}
      (ht : t.lexeme = .symbol .openBracket)
      (hkey : Derives filters w (.expr .disjunction key) ts n)
      (hu : u.lexeme = .symbol .closeBracket)
      (hsegments : Derives filters w (.steps segments) us m) :
      Derives filters w (.steps (.subscript key :: segments)) (t :: (ts ++ u :: us)) (max (n + w) m)
  | call {t : Token} {args : List Expr} {segments : List Segment} {ts us : List Token} {n m : Nat}
      (ht : t.lexeme = .symbol .openParen)
      (hargs : Derives filters w (.items .closeParen args) ts n)
      (hsegments : Derives filters w (.steps segments) us m) :
      Derives filters w (.steps (.call args :: segments)) (t :: (ts ++ us)) (max n m)
  -- Lists
  | noItems {close : Symbol} {u : Token} (hu : u.lexeme = .symbol close) :
      Derives filters w (.items close []) [u] 0
  | items {close : Symbol} {es : List Expr} {ts : List Token} {n : Nat}
      (hes : Derives filters w (.more close es) ts n) : Derives filters w (.items close es) ts n
  | lastItem {close : Symbol} {u : Token} {e : Expr} {ts : List Token} {n : Nat}
      (he : Derives filters w (.expr .disjunction e) ts n) (hu : u.lexeme = .symbol close) :
      Derives filters w (.more close [e]) (ts ++ [u]) (n + w)
  | addItem {close : Symbol} {t : Token} {e : Expr} {es : List Expr} {ts us : List Token}
    {n m : Nat}
      (he : Derives filters w (.expr .disjunction e) ts n) (ht : t.lexeme = .symbol .comma)
      (hes : Derives filters w (.more close es) us m) :
      Derives filters w (.more close (e :: es)) (ts ++ t :: us) (max (n + w) m)

end Phrases

/-!
## Reading up to a limit

A reader of expressions takes what the grammar derives if that does not nest too deep, and else it
fails for that reason and no other. Both are stated together: each holds of a reader if it holds of
the readers it is made of.
-/

section Readers

namespace Arguments

/-- The reader fails on the tokens because an expression nests too deep. -/
def Exceeds {α : Type} (env : Surroundings) (r : Arguments α) (ts : List Token) : Prop :=
  ∃ p found, r env ts = .error (.atPosition p (.wanted (.shallower env.depthLimit) found))

/-- In front of what is as `F` asks, `r` takes the tokens `ts` and gives `a` if `fits` holds, and
fails because an expression nests too deep if it does not. -/
def Limits {α : Type} (env : Surroundings) (ts : List Token) (F : Lexeme → Prop) (fits : Prop)
    (r : Arguments α) (a : α) : Prop :=
  ∀ rest, Followed F rest →
    (fits → r env (ts ++ rest) = .ok (a, rest)) ∧ (¬fits → Exceeds env r (ts ++ rest))

end Arguments

open Arguments Grammar

variable {env : Surroundings} {α β : Type} {F G : Lexeme → Prop} {fits fits' : Prop}
  {ts us : List Token} {t u : Token} {a : α} {b : β}

/-! ### Rules -/

theorem exceeds_bind {r : Arguments α} (h : Exceeds env r ts) (f : α → Arguments β) :
    Exceeds env (r >>= f) ts := by
  obtain ⟨p, found, hr⟩ := h
  refine ⟨p, found, ?_⟩
  rw [arguments_bind, hr]

theorem limits_pure (a : α) : Limits env [] F True (pure a) a := fun _ _ =>
  ⟨fun _ => rfl, fun h => (h trivial).elim⟩

theorem limits_bind {r : Arguments α} {f : α → Arguments β} (hr : Limits env ts G fits r a)
    (hf : Limits env us F fits' (f a) b) (hG : Leads G (us.map Token.lexeme) F) :
    Limits env (ts ++ us) F (fits ∧ fits') (r >>= f) b := by
  intro rest hrest
  obtain ⟨hread, hexceeds⟩ := hr (us ++ rest) (hG.followed hrest)
  obtain ⟨hread', hexceeds'⟩ := hf rest hrest
  rw [List.append_assoc]
  have hgoes (h : fits) : (r >>= f) env (ts ++ (us ++ rest)) = f a env (us ++ rest) := by
    rw [arguments_bind, hread h]
  refine ⟨fun h => (hgoes h.1).trans (hread' h.2), fun h => ?_⟩
  by_cases hfits : fits
  · obtain ⟨p, found, hfails⟩ := hexceeds' fun h' => h ⟨hfits, h'⟩
    exact ⟨p, found, (hgoes hfits).trans hfails⟩
  · exact exceeds_bind (hexceeds hfits) f

theorem Arguments.Limits.congr {r : Arguments α} (h : Limits env ts F fits r a)
    (hfits : fits ↔ fits') : Limits env ts F fits' r a := by
  rw [← propext hfits]
  exact h

theorem Arguments.Limits.mono {r : Arguments α} (h : Limits env ts G fits r a)
    (hF : ∀ x, F x → G x) : Limits env ts F fits r a := fun rest hrest => h rest (hrest.imp hF)

theorem Arguments.Limits.given {r : Arguments α} (h : Limits env ts F True r a) (hfits : fits) :
    Limits env ts F fits r a := h.congr (iff_of_true trivial hfits)

/-- What is done next always succeeds. -/
theorem limits_bind_always {r : Arguments α} {f : α → Arguments β} (hr : Limits env ts G fits r a)
    (hf : Limits env us F True (f a) b) (hG : Leads G (us.map Token.lexeme) F) :
    Limits env (ts ++ us) F fits (r >>= f) b :=
  (limits_bind hr hf hG).congr (iff_of_eq (and_true fits))

/-- What is done next takes no more tokens and always succeeds. -/
theorem limits_bind_end {r : Arguments α} {f : α → Arguments β} (hr : Limits env ts F fits r a)
    (hf : Limits env [] F True (f a) b) : Limits env ts F fits (r >>= f) b := by
  have h := limits_bind_always hr hf fun _ hx => hx
  rw [List.append_nil] at h
  exact h

theorem limits_bind_pure {r : Arguments α} {f : α → β} (hr : Limits env ts F fits r a) :
    Limits env ts F fits (do return f (← r)) (f a) := limits_bind_end hr (limits_pure _)

/-- What is done first takes some tokens and always succeeds. -/
theorem limits_first_bind {r : Arguments α} {f : α → Arguments β}
    (hr : ∀ rest, Followed F rest → r env (ts ++ (us ++ rest)) = .ok (a, us ++ rest))
    (hf : Limits env us F fits (f a) b) : Limits env (ts ++ us) F fits (r >>= f) b := by
  intro rest hrest
  have hgoes : (r >>= f) env (ts ++ us ++ rest) = f a env (us ++ rest) := by
    rw [List.append_assoc, arguments_bind, hr rest hrest]
  unfold Exceeds
  rw [hgoes]
  exact hf rest hrest

theorem limits_peek_bind {f : Option Token → Arguments β}
    (h : Limits env (t :: us) F fits (f (some t)) b) :
    Limits env (t :: us) F fits (peek? >>= f) b := h

theorem limits_left_bind {f : Nat → Arguments β}
    (h : ∀ k, ts.length ≤ k → Limits env ts F fits (f k) b) :
    Limits env ts F fits (left >>= f) b := by
  intro rest hrest
  refine h (ts ++ rest).length ?_ rest hrest
  rw [List.length_append]
  exact Nat.le_add_right _ _

theorem limits_read_bind {f : Surroundings → Arguments β} (h : Limits env ts F fits (f env) b) :
    Limits env ts F fits (read >>= f) b := h

theorem limits_skip_one {r : Arguments β} (h : Limits env us F fits r b) :
    Limits env (t :: us) F fits (skip 1 >>= fun _ => r) b := h

theorem limits_takeIf_bind {f : Lexeme → Option α} {g : Option (α × Token) → Arguments β}
    (ht : f t.lexeme = some a) (h : Limits env us F fits (g (some (a, t))) b) :
    Limits env (t :: us) F fits (takeIf f >>= g) b := by
  refine @limits_first_bind _ _ _ _ _ [t] us _ _ _ _ (fun rest _ => ?_) h
  unfold takeIf
  simp only [List.singleton_append, ht]

/-- What is next is not asked for and stays. -/
theorem limits_takeIf_bind_none {f : Lexeme → Option α} {g : Option (α × Token) → Arguments β}
    (ht : f t.lexeme = none) (h : Limits env (t :: us) F fits (g none) b) :
    Limits env (t :: us) F fits (takeIf f >>= g) b := by
  refine @limits_first_bind _ _ _ _ _ [] (t :: us) _ _ _ _ (fun rest _ => ?_) h
  unfold takeIf
  simp only [List.nil_append, List.cons_append, ht]

/-- Where no token is taken, nothing can nest too deep. -/
theorem limits_of_takes {r : Arguments α} (h : Takes env [] F r (· = a)) :
    Limits env [] F True r a := by
  intro rest hrest
  obtain ⟨_, hread, rfl⟩ := h [] rest rfl hrest
  exact ⟨fun _ => hread, fun hnot => (hnot trivial).elim⟩

theorem limits_symbol?_bind {s : Symbol} {g : Option Token → Arguments β}
    (ht : t.lexeme = .symbol s) (h : Limits env us F fits (g (some t)) b) :
    Limits env (t :: us) F fits (symbol? s >>= g) b := by
  unfold symbol?
  rw [bind_assoc]
  exact limits_takeIf_bind (if_pos ht) h

theorem limits_symbol?_bind_none {s : Symbol} {g : Option Token → Arguments β}
    (ht : t.lexeme ≠ .symbol s) (h : Limits env (t :: us) F fits (g none) b) :
    Limits env (t :: us) F fits (symbol? s >>= g) b := by
  unfold symbol?
  rw [bind_assoc]
  exact limits_takeIf_bind_none (if_neg ht) h

theorem limits_symbol_bind {s : Symbol} {g : Token → Arguments β} (ht : t.lexeme = .symbol s)
    (h : Limits env us F fits (g t) b) : Limits env (t :: us) F fits (symbol s >>= g) b := by
  unfold symbol
  rw [bind_assoc]
  exact limits_symbol?_bind ht h

end Readers

end Stencil
