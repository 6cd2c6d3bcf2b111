import RuleCheck.Proofs.Number.Decimal
import RuleCheck.Proofs.Reading.Exact
import RuleCheck.Proofs.Token.Spelling

/-!
# Canonical texts of expressions

Each expression of plain literals has a canonical text, with parentheses only where a phrase
is looser than its place admits. Without them such a phrase could not stand there, and with
them the text is read as the expression again, up to the positions of members.
-/

set_option autoImplicit false

namespace RuleCheck

open Number Text

namespace Expr

def level : Expr → Nat
  | or _ _ => 1
  | and _ _ => 2
  | not _ => 3
  | compare _ _ _ => 4
  | isNull _ _ => 4
  | compute .add _ _ => 5
  | compute .sub _ _ => 5
  | compute .rem _ _ => 6
  | compute .mul _ _ => 7
  | compute .div _ _ => 7
  | sign _ _ => 8
  | member _ _ => 9
  | literal _ => 9
  | foreign _ => 9

theorem one_le_level (e : Expr) : 1 ≤ e.level := by
  unfold level
  split <;> decide

def enclosed (place level : Nat) (ls : List Lexeme) : List Lexeme :=
  if level < place then .opening :: ls ++ [.closing] else ls

def signLexeme : Sign → Lexeme
  | .minus => .arithmetic .sub
  | .plus => .arithmetic .add

def literalLexemes : Value → List Lexeme
  | .null => [.keyword .null]
  | .bool true => [.keyword .true]
  | .bool false => [.keyword .false]
  | .int n => [.number (String.ofList (Nat.toDigits 10 n.toNat))]
  | .text s => [.text s]
  | _ => []

def lexemes (place : Nat) (e : Expr) : List Lexeme :=
  enclosed place e.level <|
    match e with
    | or l r => l.lexemes 1 ++ .keyword .or :: r.lexemes 2
    | and l r => l.lexemes 2 ++ .keyword .and :: r.lexemes 3
    | not x => .keyword .not :: x.lexemes 3
    | compare op l r => l.lexemes 5 ++ .comparison op :: r.lexemes 5
    | isNull false x => x.lexemes 5 ++ [.keyword .is, .keyword .null]
    | isNull true x => x.lexemes 5 ++ [.keyword .is, .keyword .not, .keyword .null]
    | compute op l r =>
      l.lexemes (compute op l r).level ++ .arithmetic op ::
        r.lexemes ((compute op l r).level + 1)
    | sign op x => signLexeme op :: x.lexemes 8
    | member name _ => [.name name]
    | literal v => literalLexemes v
    | foreign _ => []

def canonical (e : Expr) : String := String.ofList (Lexeme.spaced (e.lexemes 1))

end Expr

inductive Value.Writable : Value → Prop
  | null : Writable .null
  | bool (b : Bool) : Writable (.bool b)
  | int {n : Nat} (hn : (Nat.toDigits 10 n).length ≤ maxDigits) : Writable (.int n)
  | text (s : String) : Writable (.text s)

namespace Expr

inductive Writable : Expr → Prop
  | member {name : String} {position : Nat} (hblank : isBlank name.toList = false)
      (hbracket : ']' ∉ name.toList) : Writable (member name position)
  | literal {v : Value} (hv : v.Writable) : Writable (literal v)
  | sign (op : Sign) {x : Expr} (hx : Writable x) : Writable (sign op x)
  | compute (op : Arithmetic) {x y : Expr} (hx : Writable x) (hy : Writable y) :
      Writable (compute op x y)
  | compare (op : Comparison) {x y : Expr} (hx : Writable x) (hy : Writable y) :
      Writable (compare op x y)
  | isNull (negated : Bool) {x : Expr} (hx : Writable x) : Writable (isNull negated x)
  | not {x : Expr} (hx : Writable x) : Writable (not x)
  | and {x y : Expr} (hx : Writable x) (hy : Writable y) : Writable (and x y)
  | or {x y : Expr} (hx : Writable x) (hy : Writable y) : Writable (or x y)

def unplaced : Expr → Expr
  | member name _ => member name 0
  | literal v => literal v
  | sign op x => sign op x.unplaced
  | compute op x y => compute op x.unplaced y.unplaced
  | compare op x y => compare op x.unplaced y.unplaced
  | isNull negated x => isNull negated x.unplaced
  | not x => not x.unplaced
  | and x y => and x.unplaced y.unplaced
  | or x y => or x.unplaced y.unplaced
  | foreign kind => foreign kind

end Expr

/-- Tokens whose lexemes are split at one of them are split there themselves. -/
theorem exists_split_at {ts : List Token} {ls rs : List Lexeme} {l : Lexeme}
    (h : ts.map Token.lexeme = ls ++ l :: rs) :
    ∃ us t vs, ts = us ++ t :: vs ∧ us.map Token.lexeme = ls ∧ t.lexeme = l ∧
      vs.map Token.lexeme = rs := by
  obtain ⟨us, ws, rfl, hus, hws⟩ := List.map_eq_append_iff.1 h
  obtain ⟨t, vs, rfl, ht, hvs⟩ := List.map_eq_cons_iff.1 hws
  exact ⟨us, t, vs, rfl, hus, ht, hvs⟩

def Spells (n : Nat) (ls : List Lexeme) (e : Expr) : Prop :=
  ∀ ts : List Token, ts.map Token.lexeme = ls → ∃ x, Derives n ts x ∧ x.unplaced = e.unplaced

namespace Spells

theorem loosen {m n : Nat} {ls : List Lexeme} {e : Expr} (hmn : m ≤ n) (h : Spells n ls e) :
    Spells m ls e := by
  intro ts hts
  obtain ⟨x, hx, hunplaced⟩ := h ts hts
  exact ⟨x, hx.loosen hmn, hunplaced⟩

theorem enclosed {n place : Nat} {ls : List Lexeme} {e : Expr} (hn : 1 ≤ n) (hplace : place ≤ 9)
    (h : Spells n ls e) : Spells place (Expr.enclosed place n ls) e := by
  intro ts hts
  unfold Expr.enclosed at hts
  split at hts
  · have hsplit : ts.map Token.lexeme = (.opening :: ls) ++ .closing :: [] := hts
    obtain ⟨us, u, vs, hus, hmap, hu, hvs⟩ := exists_split_at hsplit
    obtain rfl := List.map_eq_nil_iff.1 hvs
    obtain ⟨t, us, rfl, ht, hmap⟩ := List.map_eq_cons_iff.1 hmap
    obtain ⟨x, hx, hunplaced⟩ := h us hmap
    exact ⟨x, hus ▸ (Derives.paren ht hu (hx.loosen hn)).loosen hplace, hunplaced⟩
  · obtain ⟨x, hx, hunplaced⟩ := h ts hts
    exact ⟨x, hx.loosen (by omega), hunplaced⟩

theorem join {l : Lexeme} {n : Nat} {f : Expr → Expr → Expr} {ls rs : List Lexeme} {x y : Expr}
    (hl : Joins l n f) (hx : Spells n ls x) (hy : Spells (n + 1) rs y) :
    Spells n (ls ++ l :: rs) (f x y) := by
  intro ts hts
  obtain ⟨us, t, vs, rfl, hus, rfl, hvs⟩ := exists_split_at hts
  obtain ⟨x', hx', hxe⟩ := hx us hus
  obtain ⟨y', hy', hye⟩ := hy vs hvs
  refine ⟨f x' y', .join hl hx' hy', ?_⟩
  generalize t.lexeme = l at hl
  cases hl <;> simp only [Expr.unplaced, hxe, hye]

/-- Operands spelled at all places spell what an operator between them makes. -/
theorem joined {l : Lexeme} {n place : Nat} {f : Expr → Expr → Expr} {x y : Expr}
    (hl : Joins l n f) (hplace : place ≤ 9)
    (hx : ∀ {place : Nat}, place ≤ 9 → Spells place (x.lexemes place) x)
    (hy : ∀ {place : Nat}, place ≤ 9 → Spells place (y.lexemes place) y) :
    Spells place (Expr.enclosed place n (x.lexemes n ++ l :: y.lexemes (n + 1))) (f x y) := by
  have hlevel := hl.level
  exact enclosed (by omega) hplace (join hl (hx (by omega)) (hy (by omega)))

theorem compare (op : Comparison) {ls rs : List Lexeme} {x y : Expr} (hx : Spells 5 ls x)
    (hy : Spells 5 rs y) : Spells 4 (ls ++ .comparison op :: rs) (.compare op x y) := by
  intro ts hts
  obtain ⟨us, t, vs, rfl, hus, ht, hvs⟩ := exists_split_at hts
  obtain ⟨x', hx', hxe⟩ := hx us hus
  obtain ⟨y', hy', hye⟩ := hy vs hvs
  exact ⟨.compare op x' y', .compare ht hx' hy', by simp only [Expr.unplaced, hxe, hye]⟩

theorem isNull {ls : List Lexeme} {x : Expr} (hx : Spells 5 ls x) :
    Spells 4 (ls ++ [.keyword .is, .keyword .null]) (.isNull false x) := by
  intro ts hts
  obtain ⟨us, t, vs, rfl, hus, ht, hvs⟩ := exists_split_at hts
  obtain ⟨u, ws, rfl, hu, hws⟩ := List.map_eq_cons_iff.1 hvs
  obtain rfl := List.map_eq_nil_iff.1 hws
  obtain ⟨x', hx', hxe⟩ := hx us hus
  exact ⟨.isNull false x', .isNull ht hu hx', by simp only [Expr.unplaced, hxe]⟩

theorem isNotNull {ls : List Lexeme} {x : Expr} (hx : Spells 5 ls x) :
    Spells 4 (ls ++ [.keyword .is, .keyword .not, .keyword .null]) (.isNull true x) := by
  intro ts hts
  obtain ⟨us, t, vs, rfl, hus, ht, hvs⟩ := exists_split_at hts
  obtain ⟨u, ws, rfl, hu, hws⟩ := List.map_eq_cons_iff.1 hvs
  obtain ⟨w, rest, rfl, hw, hrest⟩ := List.map_eq_cons_iff.1 hws
  obtain rfl := List.map_eq_nil_iff.1 hrest
  obtain ⟨x', hx', hxe⟩ := hx us hus
  exact ⟨.isNull true x', .isNotNull ht hu hw hx', by simp only [Expr.unplaced, hxe]⟩

theorem not {ls : List Lexeme} {x : Expr} (hx : Spells 3 ls x) :
    Spells 3 (.keyword .not :: ls) (.not x) := by
  intro ts hts
  obtain ⟨t, us, rfl, ht, hus⟩ := List.map_eq_cons_iff.1 hts
  obtain ⟨x', hx', hxe⟩ := hx us hus
  exact ⟨.not x', .not ht hx', by simp only [Expr.unplaced, hxe]⟩

theorem sign (op : Sign) {ls : List Lexeme} {x : Expr} (hx : Spells 8 ls x) :
    Spells 8 (Expr.signLexeme op :: ls) (.sign op x) := by
  intro ts hts
  obtain ⟨t, us, rfl, ht, hus⟩ := List.map_eq_cons_iff.1 hts
  obtain ⟨x', hx', hxe⟩ := hx us hus
  have hsign : Signs t.lexeme op := by
    rw [ht]
    cases op with
    | minus => exact .minus
    | plus => exact .plus
  exact ⟨.sign op x', .sign hsign hx', by simp only [Expr.unplaced, hxe]⟩

theorem atom {l : Lexeme} {e : Expr}
    (h : ∀ t : Token, t.lexeme = l → ∃ x, Atom t x ∧ x.unplaced = e.unplaced) :
    Spells 9 [l] e := by
  intro ts hts
  obtain ⟨t, us, rfl, ht, hus⟩ := List.map_eq_cons_iff.1 hts
  obtain rfl := List.map_eq_nil_iff.1 hus
  obtain ⟨x, hx, hxe⟩ := h t ht
  exact ⟨x, .atom hx, hxe⟩

end Spells

theorem Reading.numberValue?_toDigits_eq (n : Nat) :
    Reading.numberValue? (String.ofList (Nat.toDigits 10 n)) =
      (readInt? (Nat.toDigits 10 n)).map Value.int := by
  have hwhole : ((Nat.toDigits 10 n).any fun c => c == '.' || c == 'e' || c == 'E') = false := by
    rw [List.any_eq_false]
    intro c hc
    have hplain := plain_of_mem_toDigits hc
    simp [hplain.ne_point, hplain.ne_e, hplain.ne_E]
  simp only [Reading.numberValue?, String.toList_ofList, hwhole]
  rfl

theorem Reading.numberValue?_toDigits {n : Nat} (hn : (Nat.toDigits 10 n).length ≤ maxDigits) :
    Reading.numberValue? (String.ofList (Nat.toDigits 10 n)) = some (.int n) := by
  rw [Reading.numberValue?_toDigits_eq, readInt?_toDigits hn]
  rfl

theorem spells_literal {v : Value} (hv : v.Writable) :
    Spells 9 (Expr.literalLexemes v) (.literal v) := by
  cases hv with
  | null => exact .atom fun t ht => ⟨_, .null ht, rfl⟩
  | bool b =>
    cases b with
    | true => exact .atom fun t ht => ⟨_, .true ht, rfl⟩
    | false => exact .atom fun t ht => ⟨_, .false ht, rfl⟩
  | int hn => exact .atom fun t ht => ⟨_, .number ht (Reading.numberValue?_toDigits hn), rfl⟩
  | text s => exact .atom fun t ht => ⟨_, .text ht, rfl⟩

theorem spells_lexemes {e : Expr} (he : e.Writable) {place : Nat} (hplace : place ≤ 9) :
    Spells place (e.lexemes place) e := by
  have at3 : 3 ≤ 9 := by decide
  have at5 : 5 ≤ 9 := by decide
  have at8 : 8 ≤ 9 := by decide
  induction he generalizing place with
  | @member name position =>
    have h : Spells 9 [.name name] (.member name position) := .atom fun t ht => ⟨_, .member ht, rfl⟩
    exact h.enclosed (Expr.one_le_level _) hplace
  | literal hv => exact (spells_literal hv).enclosed (Expr.one_le_level _) hplace
  | sign op _ ih => exact (Spells.sign op (ih at8)).enclosed (Expr.one_le_level _) hplace
  | compute op _ _ ihx ihy =>
    cases op with
    | add => exact .joined .add hplace ihx ihy
    | sub => exact .joined .sub hplace ihx ihy
    | rem => exact .joined .rem hplace ihx ihy
    | mul => exact .joined .mul hplace ihx ihy
    | div => exact .joined .div hplace ihx ihy
  | compare op _ _ ihx ihy =>
    exact (Spells.compare op (ihx at5) (ihy at5)).enclosed (Expr.one_le_level _) hplace
  | isNull negated _ ih =>
    cases negated with
    | false => exact (Spells.isNull (ih at5)).enclosed (Expr.one_le_level _) hplace
    | true => exact (Spells.isNotNull (ih at5)).enclosed (Expr.one_le_level _) hplace
  | not _ ih => exact (Spells.not (ih at3)).enclosed (Expr.one_le_level _) hplace
  | and _ _ ihx ihy => exact .joined .and hplace ihx ihy
  | or _ _ ihx ihy => exact .joined .or hplace ihx ihy

theorem legible_enclosed {place n : Nat} {ls : List Lexeme} (h : ∀ l ∈ ls, l.Legible) :
    ∀ l ∈ Expr.enclosed place n ls, l.Legible := by
  intro l hl
  unfold Expr.enclosed at hl
  split at hl
  · rw [List.cons_append, List.mem_cons, List.mem_append, List.mem_singleton] at hl
    rcases hl with rfl | hl | rfl
    · exact Lexeme.legible_opening
    · exact h l hl
    · exact Lexeme.legible_closing
  · exact h l hl

theorem legible_between {ls rs : List Lexeme} {l : Lexeme} (hls : ∀ l ∈ ls, l.Legible)
    (hl : l.Legible) (hrs : ∀ l ∈ rs, l.Legible) : ∀ k ∈ ls ++ l :: rs, k.Legible := by
  intro k hk
  rw [List.mem_append, List.mem_cons] at hk
  rcases hk with hk | rfl | hk
  · exact hls k hk
  · exact hl
  · exact hrs k hk

theorem legible_literal {v : Value} (hv : v.Writable) :
    ∀ l ∈ Expr.literalLexemes v, l.Legible := by
  intro l hl
  cases hv with
  | null => exact List.mem_singleton.1 hl ▸ Lexeme.legible_keyword _
  | bool b => cases b <;> exact List.mem_singleton.1 hl ▸ Lexeme.legible_keyword _
  | @int n _ =>
    obtain ⟨c, cs, hds, hplain⟩ := exists_toDigits n
    rw [List.mem_singleton.1 hl]
    simp only [Int.toNat_natCast, hds]
    exact Lexeme.legible_digits (hplain c List.mem_cons_self).solid fun d hd => (hplain d hd).digit
  | text s => exact List.mem_singleton.1 hl ▸ Lexeme.legible_text s

theorem legible_lexemes {e : Expr} (he : e.Writable) (place : Nat) :
    ∀ l ∈ e.lexemes place, l.Legible := by
  have nil : ∀ l ∈ ([] : List Lexeme), l.Legible := fun l hl => by cases hl
  have keyword (k : Keyword) {ls : List Lexeme} (hls : ∀ l ∈ ls, l.Legible) :
      ∀ l ∈ .keyword k :: ls, l.Legible :=
    legible_between nil (Lexeme.legible_keyword k) hls
  induction he generalizing place with
  | member hblank hbracket =>
    exact legible_enclosed (legible_between nil (Lexeme.legible_name hblank hbracket) nil)
  | literal hv => exact legible_enclosed (legible_literal hv)
  | sign op _ ih =>
    have hsign : (Expr.signLexeme op).Legible := by
      cases op <;> exact Lexeme.legible_arithmetic _
    exact legible_enclosed (legible_between nil hsign (ih 8))
  | compute op _ _ ihx ihy =>
    exact legible_enclosed (legible_between (ihx _) (Lexeme.legible_arithmetic op) (ihy _))
  | compare op _ _ ihx ihy =>
    exact legible_enclosed (legible_between (ihx 5) (Lexeme.legible_comparison op) (ihy 5))
  | isNull negated _ ih =>
    cases negated with
    | false =>
      exact legible_enclosed (legible_between (ih 5) (Lexeme.legible_keyword .is)
        (keyword .null nil))
    | true =>
      exact legible_enclosed (legible_between (ih 5) (Lexeme.legible_keyword .is)
        (keyword .not (keyword .null nil)))
  | not _ ih => exact legible_enclosed (keyword .not (ih 3))
  | and _ _ ihx ihy =>
    exact legible_enclosed (legible_between (ihx 2) (Lexeme.legible_keyword .and) (ihy 3))
  | or _ _ ihx ihy =>
    exact legible_enclosed (legible_between (ihx 1) (Lexeme.legible_keyword .or) (ihy 2))

namespace Expr

/-- The canonical text of an expression is read as the expression, up to positions. -/
theorem exists_read_canonical {e : Expr} (he : e.Writable) :
    ∃ x, Expr.read e.canonical = .ok x ∧ x.unplaced = e.unplaced := by
  have htokens := tokens_of_spaced (String.toList_ofList) (legible_lexemes he 1)
  have hspells : Spells 1 (e.lexemes 1) e := spells_lexemes he (by decide)
  obtain ⟨x, hx, hunplaced⟩ := hspells _ (Token.map_lexeme_placed 0 _)
  refine ⟨x, ?_, hunplaced⟩
  rw [Expr.read, canonical, htokens]
  exact congrArg (attaching e.canonical) (ofTokens_of_derives _ hx)

def sample : Expr :=
  .and
    (.or (.compare .eq (.member "Unit Price" 0) (.literal (.text "it's")))
      (.isNull true (.member "Stock" 0)))
    (.not (.compare .lt
      (.compute .sub (.literal (.int 10))
        (.compute .rem
          (.compute .sub (.member "Stock" 0) (.sign .minus (.literal (.int 2))))
          (.literal (.int 7))))
      (.literal (.int 3))))

theorem exists_read_sample :
    sample.Writable ∧ ∃ x, Expr.read sample.canonical = .ok x ∧ x.unplaced = sample.unplaced := by
  have number {n : Nat} (hn : (Nat.toDigits 10 n).length ≤ maxDigits) :
      Writable (.literal (.int n)) := .literal (.int hn)
  have stock : Writable (.member "Stock" 0) := .member (by decide) (by decide)
  have price : Writable (.member "Unit Price" 0) := .member (by decide) (by decide)
  have rest : Writable
      (.compute .sub (.member "Stock" 0) (.sign .minus (.literal (.int (2 : Nat))))) :=
    .compute .sub stock (.sign .minus (number (by decide)))
  have hsample : sample.Writable :=
    .and (.or (.compare .eq price (.literal (.text "it's"))) (.isNull true stock))
      (.not (.compare .lt
        (.compute .sub (number (n := 10) (by decide))
          (.compute .rem rest (number (n := 7) (by decide))))
        (number (n := 3) (by decide))))
  exact ⟨hsample, exists_read_canonical hsample⟩

end Expr

end RuleCheck
