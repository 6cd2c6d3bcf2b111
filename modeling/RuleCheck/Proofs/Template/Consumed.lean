import RuleCheck.Proofs.Template.Message

/-!
# What is read of a template

Each stage of the reader takes a front of the text and leaves the rest. A text before a field has
half of the braces that are read for it. A field takes one closing brace more than opening ones, as
the braces in its layout match, and where it can be shown its name has none. A layout is no wider
than the greatest number, and it fills with no brace if its braces match.
-/

set_option autoImplicit false

namespace RuleCheck.Template

open Text

theorem exists_of_map_eq_ok {ε α β : Type} {step : Except ε α} {f : α → β} {b : β}
    (h : step.map f = .ok b) : ∃ a, step = .ok a ∧ f a = b := by
  cases step with
  | error failure => cases h
  | ok a => exact ⟨a, rfl, Except.ok.inj h⟩

section

variable {c : Char} {cs rest front text name layout : List Char}

def readings (c : Char) : Nat := if c = '{' ∨ c = '}' then 2 else 1

def StandsFor (front text : List Char) : Prop := ∀ d, front.count d = readings d * text.count d

theorem StandsFor.brace (h : StandsFor front text) (hc : c = '{' ∨ c = '}') :
    StandsFor (c :: c :: front) (c :: text) := by
  intro d
  simp only [List.count_cons, h d]
  by_cases hd : c = d
  · subst hd
    simp only [readings, if_pos hc, beq_self_eq_true, if_true]
    omega
  · simp only [beq_eq_false_iff_ne.2 hd, Bool.false_eq_true, if_false, Nat.add_zero]

theorem StandsFor.plain (h : StandsFor front text) (hc : ¬(c = '{' ∨ c = '}')) :
    StandsFor (c :: front) (c :: text) := by
  intro d
  simp only [List.count_cons, h d]
  by_cases hd : c = d
  · subst hd
    simp only [readings, if_neg hc, Nat.one_mul]
  · simp only [beq_eq_false_iff_ne.2 hd, Bool.false_eq_true, if_false, Nat.add_zero]

def beforeField (front : List Char) : Option (List Char) → List Char
  | none => front
  | some rest => front ++ '{' :: rest

theorem cons_beforeField (c : Char) (front : List Char) (next : Option (List Char)) :
    c :: beforeField front next = beforeField (c :: front) next := by
  cases next <;> rfl

theorem literal_split {next : Option (List Char)} (h : literal cs = .ok (text, next)) :
    ∃ front, cs = beforeField front next ∧ StandsFor front text := by
  have hnone : StandsFor [] [] := fun _ => (Nat.mul_zero _).symm
  fun_induction literal cs generalizing text next with
  | case1 =>
    cases h
    exact ⟨[], rfl, hnone⟩
  | case2 cs ih =>
    obtain ⟨⟨rest, n⟩, hrest, heq⟩ := exists_of_map_eq_ok h
    cases heq
    obtain ⟨front, rfl, hfront⟩ := ih hrest
    exact ⟨'{' :: '{' :: front, by rw [cons_beforeField, cons_beforeField], hfront.brace (.inl rfl)⟩
  | case3 cs ih =>
    obtain ⟨⟨rest, n⟩, hrest, heq⟩ := exists_of_map_eq_ok h
    cases heq
    obtain ⟨front, rfl, hfront⟩ := ih hrest
    exact ⟨'}' :: '}' :: front, by rw [cons_beforeField, cons_beforeField], hfront.brace (.inr rfl)⟩
  | case4 => cases h
  | case5 =>
    cases h
    exact ⟨[], rfl, hnone⟩
  | case6 => cases h
  | case7 c cs _ _ hlone hopening hclosing ih =>
    obtain ⟨⟨rest, n⟩, hrest, heq⟩ := exists_of_map_eq_ok h
    cases heq
    obtain ⟨front, rfl, hfront⟩ := ih hrest
    refine ⟨c :: front, cons_beforeField c front _, hfront.plain ?_⟩
    rintro (rfl | rfl)
    · cases hcs : beforeField front next with
      | nil => exact hlone rfl hcs
      | cons d ds => exact hopening d ds rfl hcs
    · exact hclosing rfl

theorem slotName_split {inside : Bool} {sign : Char}
    (h : slotName inside cs = .ok (name, sign, rest)) :
    cs = name ++ sign :: rest ∧ (sign = '}' ∨ sign = ':' ∨ sign = '!') := by
  induction cs generalizing inside name with
  | nil => cases h
  | cons c cs ih =>
    have hmore {inside : Bool} (hmap : (slotName inside cs).map
        (fun found => (c :: found.1, found.2)) = .ok (name, sign, rest)) :
        c :: cs = name ++ sign :: rest ∧ (sign = '}' ∨ sign = ':' ∨ sign = '!') := by
      obtain ⟨⟨n, s, r⟩, hn, heq⟩ := exists_of_map_eq_ok hmap
      cases heq
      obtain ⟨hsplit, hsign⟩ := ih hn
      exact ⟨by rw [hsplit]; rfl, hsign⟩
    rw [slotName] at h
    split at h
    · exact hmore h
    · split at h
      · cases h
      · split at h
        · rename_i hsign
          cases h
          simp only [Bool.or_eq_true, beq_iff_eq] at hsign
          exact ⟨rfl, by tauto⟩
        · exact hmore h

theorem layoutText_split {opened : Nat} (h : layoutText opened cs = .ok (layout, rest)) :
    cs = layout ++ '}' :: rest ∧ layout.count '{' + opened = layout.count '}' := by
  induction cs generalizing opened layout with
  | nil => cases h
  | cons c cs ih =>
    have hmore {opened : Nat} (hmap : (layoutText opened cs).map
        (fun found => (c :: found.1, found.2)) = .ok (layout, rest)) :
        ∃ text, layout = c :: text ∧ c :: cs = c :: text ++ '}' :: rest ∧
          text.count '{' + opened = text.count '}' := by
      obtain ⟨⟨text, r⟩, htext, heq⟩ := exists_of_map_eq_ok hmap
      cases heq
      obtain ⟨hsplit, hcount⟩ := ih htext
      exact ⟨text, rfl, by rw [hsplit]; rfl, hcount⟩
    rw [layoutText] at h
    split at h
    · rename_i hc
      obtain ⟨text, rfl, hsplit, hcount⟩ := hmore h
      refine ⟨hsplit, ?_⟩
      rw [beq_iff_eq.1 hc, List.count_cons_self, List.count_cons_of_ne (by decide)]
      omega
    · rename_i hopening
      split at h
      · rename_i hc
        split at h
        · cases h
          rename_i hzero
          rw [beq_iff_eq.1 hc, hzero]
          exact ⟨rfl, rfl⟩
        · obtain ⟨text, rfl, hsplit, hcount⟩ := hmore h
          refine ⟨hsplit, ?_⟩
          rw [beq_iff_eq.1 hc, List.count_cons_self, List.count_cons_of_ne (by decide)]
          omega
      · rename_i hclosing
        obtain ⟨text, rfl, hsplit, hcount⟩ := hmore h
        refine ⟨hsplit, ?_⟩
        rw [List.count_cons_of_ne fun hc => hopening (beq_iff_eq.2 hc),
          List.count_cons_of_ne fun hc => hclosing (beq_iff_eq.2 hc)]
        exact hcount

theorem Braceless.append {a b : List Char} (ha : Braceless a) (hb : Braceless b) :
    Braceless (a ++ b) :=
  ⟨fun h => (List.mem_append.1 h).elim ha.1 hb.1, fun h => (List.mem_append.1 h).elim ha.2 hb.2⟩

theorem Braceless.count_eq (h : Braceless cs) : cs.count '{' = 0 ∧ cs.count '}' = 0 :=
  ⟨List.count_eq_zero_of_not_mem h.1, List.count_eq_zero_of_not_mem h.2⟩

structure Slot.Takes (s : Slot) (front : List Char) : Prop where
  layout : s.layout.count '{' = s.layout.count '}'
  braces : Braceless s.name → Braceless s.conversion.toList → front.count '{' + 1 = front.count '}'

theorem Slot.takes {s : Slot} {middle : List Char} (hlayout : s.layout.count '{' = s.layout.count '}')
    (hmiddle : Braceless s.conversion.toList → Braceless middle) :
    s.Takes (s.name ++ (middle ++ (s.layout ++ ['}']))) := by
  refine ⟨hlayout, fun hname hconversion => ?_⟩
  have hname := hname.count_eq
  have hmiddle := (hmiddle hconversion).count_eq
  have hclosing : ['}'].count '{' = 0 ∧ ['}'].count '}' = 1 := by decide
  simp only [List.count_append]
  omega

theorem withLayout_split {conversion : Option Char} {s : Slot}
    (h : withLayout name conversion cs = .ok (s, rest)) :
    ∃ layout, cs = layout ++ '}' :: rest ∧ layout.count '{' = layout.count '}' ∧
      s = ⟨name, conversion, layout, layout.contains '{'⟩ := by
  obtain ⟨⟨layout, r⟩, hlayout, heq⟩ := exists_of_bind_eq_ok h
  cases heq
  obtain ⟨hsplit, hcount⟩ := layoutText_split hlayout
  exact ⟨layout, hsplit, hcount, rfl⟩

theorem slot_split {s : Slot} (h : slot cs = .ok (s, rest)) :
    ∃ front, cs = front ++ rest ∧ s.Takes front := by
  obtain ⟨⟨name, sign, behind⟩, hname, hrest⟩ := exists_of_bind_eq_ok h
  clear h
  obtain ⟨rfl, hsign⟩ := slotName_split hname
  dsimp only at hrest
  split at hrest
  · rename_i hclosing
    cases hrest
    refine ⟨name ++ ([] ++ ([] ++ ['}'])), ?_, Slot.takes rfl fun _ => by decide⟩
    rw [beq_iff_eq.1 hclosing]
    simp
  · rename_i hclosing
    split at hrest
    · rename_i hcolon
      obtain ⟨layout, rfl, hcount, rfl⟩ := withLayout_split hrest
      refine ⟨name ++ ([':'] ++ (layout ++ ['}'])), ?_, Slot.takes hcount fun _ => by decide⟩
      rw [beq_iff_eq.1 hcolon]
      simp
    · rename_i hcolon
      have hbang : sign = '!' := by
        rcases hsign with rfl | rfl | rfl
        · exact absurd rfl hclosing
        · exact absurd rfl hcolon
        · rfl
      subst hbang
      have hmark : Braceless ['!'] := by decide
      split at hrest
      · rename_i conversion r
        cases hrest
        refine ⟨name ++ (['!', conversion] ++ ([] ++ ['}'])), by simp, Slot.takes rfl ?_⟩
        exact hmark.append
      · rename_i conversion r
        obtain ⟨layout, rfl, hcount, rfl⟩ := withLayout_split hrest
        refine ⟨name ++ (['!', conversion, ':'] ++ (layout ++ ['}'])), by simp,
          Slot.takes hcount fun h => (hmark.append h).append (by decide)⟩
      · cases hrest

theorem braceless_of_digits (h : ∀ c ∈ cs, (digitValue? c).isSome) : Braceless cs := by
  refine ⟨fun hopening => ?_, fun hclosing => ?_⟩
  · exact absurd (h '{' hopening) (by decide +kernel)
  · exact absurd (h '}' hclosing) (by decide +kernel)

theorem isSome_of_mapM {f : Char → Option Nat} {ns : List Nat} (h : cs.mapM f = some ns) :
    ∀ c ∈ cs, (f c).isSome := by
  induction cs generalizing ns with
  | nil => exact List.forall_mem_nil _
  | cons c cs ih =>
    rw [List.mapM_cons] at h
    obtain ⟨n, hn, h⟩ := Option.bind_eq_some_iff.1 h
    obtain ⟨ns, hns, -⟩ := Option.bind_eq_some_iff.1 h
    exact List.forall_mem_cons.2 ⟨Option.isSome_of_mem hn, ih hns⟩

theorem number?_eq_ok {n : Option Nat} (h : number? cs = .ok n) :
    n.getD 0 ≤ greatestNumber ∧ (n.isSome → Braceless cs) := by
  unfold number? at h
  split at h
  · cases h
    exact ⟨Nat.zero_le _, fun _ => by decide⟩
  · cases h
    exact ⟨Nat.zero_le _, fun hn => by cases hn⟩
  · rename_i hdigits
    dsimp only at h
    split at h
    · cases h
    · rename_i hle
      cases h
      exact ⟨Nat.le_of_not_lt hle, fun _ => braceless_of_digits (isSome_of_mapM hdigits)⟩

theorem takeNumber_split {n : Option Nat} (h : takeNumber cs = .ok (n, rest)) :
    (∃ front, cs = front ++ rest ∧ Braceless front) ∧ n.getD 0 ≤ greatestNumber := by
  obtain ⟨m, hm, heq⟩ := exists_of_bind_eq_ok h
  cases heq
  have hdigits : ∀ c ∈ cs.takeWhile (fun c => (digitValue? c).isSome), (digitValue? c).isSome :=
    List.all_eq_true.1 List.all_takeWhile
  refine ⟨⟨_, ?_, braceless_of_digits hdigits⟩, (number?_eq_ok hm).1⟩
  have hprefix := List.takeWhile_prefix (fun c => (digitValue? c).isSome) (l := cs)
  exact (List.prefix_iff_eq_append.1 hprefix).symm

theorem readLimit_split {limit : Option Nat} (h : readLimit cs = .ok (limit, rest)) :
    ∃ front, cs = front ++ rest ∧ Braceless front := by
  unfold readLimit at h
  split at h
  · obtain ⟨⟨n, r⟩, hfound, h⟩ := exists_of_bind_eq_ok h
    obtain ⟨⟨front, rfl, hfront⟩, -⟩ := takeNumber_split hfound
    cases n with
    | none => cases h
    | some n =>
      cases h
      exact ⟨'.' :: front, rfl, Braceless.append (a := ['.']) (by decide) hfront⟩
  · cases h
    exact ⟨[], rfl, by decide⟩

theorem braceless_of_alignment {align : Alignment} (h : alignment? c = some align) :
    Braceless [c] := by
  refine ⟨fun hopening => ?_, fun hclosing => ?_⟩
  · rw [← List.mem_singleton.1 hopening] at h
    cases h
  · rw [← List.mem_singleton.1 hclosing] at h
    cases h

theorem readAlignment_split {align : Option Alignment} (h : readAlignment cs = (some c, align, rest)) :
    ∃ a, cs = c :: a :: rest ∧ Braceless [a] := by
  unfold readAlignment at h
  split at h
  · rename_i fill a r
    split at h
    · rename_i halign
      cases h
      exact ⟨a, rfl, braceless_of_alignment halign⟩
    · cases h
    · cases h
  · split at h
    · cases h
    · cases h
  · cases h

theorem readFill_split {fill : Option Char} (h : readFill fill cs = (c, rest)) :
    (fill = some c ∧ rest = cs) ∨ Braceless [c] := by
  unfold readFill at h
  split at h
  · cases h
    exact .inl ⟨rfl, rfl⟩
  · cases h
    exact .inr (by decide)
  · cases h
    exact .inr (by decide)

theorem braceless_of_balanced (h : Braceless cs)
    (hbalanced : (c :: cs).count '{' = (c :: cs).count '}') : Braceless [c] := by
  obtain ⟨hopening, hclosing⟩ := h.count_eq
  refine ⟨fun hmem => ?_, fun hmem => ?_⟩
  · rw [← List.mem_singleton.1 hmem, List.count_cons_self, List.count_cons_of_ne (by decide)]
      at hbalanced
    omega
  · rw [← List.mem_singleton.1 hmem, List.count_cons_self, List.count_cons_of_ne (by decide)]
      at hbalanced
    omega

/-- A layout fills with a brace only where it has a brace without its partner. -/
theorem Layout.read_eq_ok {layout : Layout} (h : Layout.read cs = .ok layout) :
    layout.width ≤ greatestNumber ∧
      (cs.count '{' = cs.count '}' → Braceless [layout.fill]) := by
  unfold Layout.read at h
  rcases halignment : readAlignment cs with ⟨fill?, align, aligned⟩
  rw [halignment] at h
  obtain ⟨-, -, hfilling⟩ := exists_of_bind_eq_ok h
  rcases hfill : readFill fill? aligned with ⟨fill, filled⟩
  rw [hfill] at hfilling
  obtain ⟨⟨width, afterWidth⟩, hwidth, hlimiting⟩ := exists_of_bind_eq_ok hfilling
  obtain ⟨⟨limit, afterLimit⟩, hlimit, hend⟩ := exists_of_bind_eq_ok hlimiting
  clear h hfilling hlimiting
  obtain ⟨⟨numeral, rfl, hnumeral⟩, hbound⟩ := takeNumber_split hwidth
  obtain ⟨precision, rfl, hprecision⟩ := readLimit_split hlimit
  dsimp only at hend
  by_cases hrest : afterLimit ≠ [] ∧ afterLimit ≠ ['s']
  · rw [if_pos hrest] at hend
    cases hend
  rw [if_neg hrest] at hend
  by_cases halign : align = some .afterSign
  · rw [if_pos halign] at hend
    cases hend
  rw [if_neg halign] at hend
  cases hend
  refine ⟨hbound, fun hbalanced => ?_⟩
  have hfilled : Braceless (numeral ++ (precision ++ afterLimit)) := by
    refine hnumeral.append (hprecision.append ?_)
    by_contra hbrace
    refine hrest ⟨?_, ?_⟩
    all_goals
      rintro rfl
      exact hbrace (by decide)
  rcases readFill_split hfill with ⟨rfl, rfl⟩ | hfill
  · obtain ⟨a, rfl, ha⟩ := readAlignment_split halignment
    exact braceless_of_balanced (ha.append hfilled) hbalanced
  · exact hfill

end

end RuleCheck.Template
