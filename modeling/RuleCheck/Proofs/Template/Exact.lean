import Mathlib.Tactic.Ring
import RuleCheck.Proofs.Template.Bare
import RuleCheck.Proofs.Template.Consumed

/-!
# Templates that stand for their text

A template shows its own text, with the subject for each placeholder, only if it is plain. The
argument weighs texts. The subject is longer than any width that a field may have, and a brace
weighs as much as the subject where it is written, but half of that where it is read: a doubled
brace weighs what it stands for, and a field weighs no less than anything that it can show. In a
template that shows its own text no brace is doubled and every field is a placeholder, or the
braces would weigh too much.
-/

set_option autoImplicit false

namespace RuleCheck.Template

open Text
open scoped Things

section

variable {size : Nat} {cs rest front text shown layout name : List Char}

structure Fits (size : Nat) (text : List Char) : Prop where
  braceless : Braceless text
  count : text.count 'x' ≤ size

theorem fits_replicate {n : Nat} (h : n ≤ size) : Fits size (List.replicate n 'x') := by
  refine ⟨⟨fun hmem => ?_, fun hmem => ?_⟩, ?_⟩
  · cases List.eq_of_mem_replicate hmem
  · cases List.eq_of_mem_replicate hmem
  · rwa [List.count_replicate_self]

theorem quotedChars_replicate (n : Nat) :
    quotedChars (List.replicate n 'x') = '\'' :: (List.replicate n 'x' ++ ['\'']) := by
  have hquote : quoteFor (List.replicate n 'x') = '\'' := by
    cases n <;> simp [quoteFor]
  have hletter : escapeChar '\'' 'x' = ['x'] := by decide +kernel
  have hescape : (List.replicate n 'x').flatMap (escapeChar '\'') = List.replicate n 'x' := by
    rw [List.flatMap_replicate, hletter, List.flatten_replicate_singleton]
  rw [quotedChars, hquote, hescape]
  rfl

theorem inAscii_quotedChars_replicate (n : Nat) :
    inAscii (quotedChars (List.replicate n 'x')) = quotedChars (List.replicate n 'x') := by
  have hplain (c : Char) (h : c ∈ quotedChars (List.replicate n 'x')) : c.toNat < 128 := by
    rw [quotedChars_replicate] at h
    simp only [List.mem_cons, List.mem_append, List.mem_replicate, List.not_mem_nil, or_false] at h
    obtain rfl | ⟨-, rfl⟩ | rfl := h
    all_goals decide
  rw [inAscii, List.flatMap_congr fun c h => if_pos (hplain c h), List.flatMap_singleton']

theorem fits_quotedChars {n : Nat} (h : n ≤ size) :
    Fits size (quotedChars (List.replicate n 'x')) := by
  have hquote : Braceless ['\''] ∧ ['\''].count 'x' = 0 := by decide
  obtain ⟨hbraceless, hcount⟩ := fits_replicate h
  rw [quotedChars_replicate]
  refine ⟨hquote.1.append (hbraceless.append hquote.1), ?_⟩
  rw [List.count_cons_of_ne (by decide), List.count_append, hquote.2]
  exact hcount

theorem fits_quotedText {conversion : Char} {n : Nat} (hn : n ≤ size)
    (h : quotedText conversion (List.replicate n 'x') = .ok text) :
    Braceless [conversion] ∧ Fits size text := by
  unfold quotedText at h
  split at h
  · cases h
    exact ⟨by decide, fits_replicate hn⟩
  · cases h
    exact ⟨by decide, fits_quotedChars hn⟩
  · cases h
    rw [inAscii_quotedChars_replicate]
    exact ⟨by decide, fits_quotedChars hn⟩
  · cases h

theorem fits_convert {conversion : Option Char} {n : Nat} {part : Part Empty} (hn : n ≤ size)
    (h : convert conversion (.text (List.replicate n 'x')) = .ok part) :
    Braceless conversion.toList ∧ ∃ text, part = .text text ∧ Fits size text := by
  cases conversion with
  | none =>
    cases h
    exact ⟨by decide, _, rfl, fits_replicate hn⟩
  | some c =>
    obtain ⟨text, htext, rfl⟩ := exists_of_map_eq_ok h
    obtain ⟨hc, hfits⟩ := fits_quotedText hn htext
    exact ⟨hc, text, rfl, hfits⟩

/-- Of a text of one letter only as much can be reached as a number in brackets says. -/
theorem itemOf_eq_ok {n : Nat} {index : List Char} {part : Part Empty}
    (h : itemOf (.text (List.replicate n 'x')) index = .ok part) :
    Braceless index ∧ 0 < n ∧ part = .text ['x'] := by
  obtain ⟨found, hfound, h⟩ := exists_of_bind_eq_ok h
  cases found with
  | none => cases h
  | some i =>
    dsimp only at h
    split at h
    · rename_i c hc
      cases h
      obtain ⟨hi, -⟩ := List.getElem?_eq_some_iff.1 hc
      rw [List.length_replicate] at hi
      obtain rfl : c = 'x' := List.eq_of_mem_replicate (List.mem_of_getElem? hc)
      exact ⟨(number?_eq_ok hfound).2 rfl, Nat.zero_lt_of_lt hi, rfl⟩
    · cases h

theorem select_eq_ok {limit n : Nat} {part found : Part Empty}
    (hpart : part = .text (List.replicate n 'x')) (h : select limit part cs = .ok found) :
    Braceless cs ∧ ∃ k ≤ n, found = .text (List.replicate k 'x') := by
  fun_induction select limit part cs generalizing n with
  | case1 =>
    cases h
    exact ⟨by decide, n, Nat.le_refl n, hpart⟩
  | case2 => cases h
  | case3 => cases h
  | case4 part limit cs sign rest hrest hindex ih =>
    obtain ⟨item, hitem, h⟩ := exists_of_bind_eq_ok h
    rw [hpart] at hitem
    obtain ⟨hnumber, hn, hletter⟩ := itemOf_eq_ok hitem
    obtain ⟨hbraceless, k, hk, hfound⟩ := @ih item 1 hletter h
    have hsign : sign = ']' := by
      have hstop := List.head?_dropWhile_not (· != ']') cs
      rw [hrest] at hstop
      simpa using hstop
    refine ⟨?_, k, by omega, hfound⟩
    rw [← List.takeWhile_append_dropWhile (p := (· != ']')) (l := cs), hrest, hsign]
    have hopening : Braceless ['['] := by decide
    have hclosing : Braceless [']'] := by decide
    exact hopening.append (hnumber.append (hclosing.append hbraceless))
  | case5 => cases h
  | case6 => cases h
  | case7 => cases h

theorem braceless_of_subjectNumber {numbering next : Numbering} {n : Nat}
    (h : subjectNumber numbering name = .ok (n, next)) : Braceless name := by
  obtain ⟨found, hfound, h⟩ := exists_of_bind_eq_ok h
  obtain ⟨-, hname⟩ := number?_eq_ok hfound
  split at h
  · decide
  · decide
  · cases h
  · cases h
  · exact hname rfl
  · exact hname rfl
  · cases h

theorem shownPart_eq_ok {numbering next : Numbering} {s : Slot} {part : Part Empty}
    (h : shownPart (List.replicate size 'x') numbering s = .ok (part, next)) :
    Braceless s.name ∧ Braceless s.conversion.toList ∧
      ∃ text, part = .text text ∧ Fits size text := by
  obtain ⟨⟨n, named⟩, hnamed, h⟩ := exists_of_bind_eq_ok h
  dsimp only at h
  by_cases hn : n ≠ 0
  · rw [if_pos hn] at h
    cases h
  rw [if_neg hn] at h
  obtain ⟨chosen, hchosen, h⟩ := exists_of_bind_eq_ok h
  obtain ⟨shown, hshown, h⟩ := exists_of_bind_eq_ok h
  cases h
  obtain ⟨hrest, k, hk, rfl⟩ := select_eq_ok rfl hchosen
  obtain ⟨hconversion, hfits⟩ := fits_convert hk hshown
  have hname := (braceless_of_subjectNumber hnamed).append hrest
  simp only [List.takeWhile_append_dropWhile] at hname
  exact ⟨hname, hconversion, hfits⟩

/-- A layout shows a part of the text and fills up what is missing on both sides of it. -/
theorem Layout.exists_apply_eq (layout : Layout) (text : List Char) :
    ∃ shown before, shown.Sublist text ∧ before ≤ layout.width - shown.length ∧
      layout.apply text = List.replicate before layout.fill ++ shown ++
        List.replicate (layout.width - shown.length - before) layout.fill := by
  refine ⟨_, _, ?_, ?_, rfl⟩
  · cases layout.limit with
    | none => exact List.Sublist.refl text
    | some n => exact List.take_sublist n text
  · cases layout.align with
    | right => exact Nat.le_refl _
    | centre => exact Nat.div_le_self _ 2
    | left => exact Nat.zero_le _
    | afterSign => exact Nat.zero_le _

theorem Fits.apply {layout : Layout} (h : Fits size text) (hwidth : layout.width ≤ size)
    (hfill : Braceless [layout.fill]) : Fits size (layout.apply text) := by
  obtain ⟨shown, before, hshown, hbefore, heq⟩ := layout.exists_apply_eq text
  have hfilling (n : Nat) : Braceless (List.replicate n layout.fill) :=
    ⟨fun hmem => hfill.1 (List.mem_singleton.2 (List.eq_of_mem_replicate hmem)),
      fun hmem => hfill.2 (List.mem_singleton.2 (List.eq_of_mem_replicate hmem))⟩
  have hbraceless : Braceless shown :=
    ⟨fun hmem => h.braceless.1 (hshown.subset hmem), fun hmem => h.braceless.2 (hshown.subset hmem)⟩
  rw [heq]
  refine ⟨((hfilling before).append hbraceless).append (hfilling _), ?_⟩
  -- Either nothing is filled up or the whole is as long as the width.
  by_cases hlong : layout.width ≤ shown.length
  · obtain rfl : before = 0 := by omega
    rw [Nat.sub_eq_zero_of_le hlong]
    simpa using (hshown.count_le 'x').trans h.count
  · refine List.count_le_length.trans ?_
    simp only [List.length_append, List.length_replicate]
    omega

theorem Fits.layOut (h : Fits size text) (hsize : greatestNumber ≤ size)
    (hlayout : layout.count '{' = layout.count '}') (hrender : layOut text layout = .ok shown) :
    Fits size shown := by
  unfold Template.layOut at hrender
  split at hrender
  · cases hrender
    exact h
  · obtain ⟨how, hread, hshown⟩ := exists_of_bind_eq_ok hrender
    cases hshown
    obtain ⟨hwidth, hfill⟩ := Layout.read_eq_ok hread
    exact h.apply (hwidth.trans hsize) (hfill hlayout)

def weight (brace : Nat) (cs : List Char) : Nat :=
  brace * (cs.count '{' + cs.count '}') + 2 * cs.count 'x'

theorem weight_append (brace : Nat) (a b : List Char) :
    weight brace (a ++ b) = weight brace a + weight brace b := by
  simp only [weight, List.count_append]
  ring

structure Weighed (size : Nat) (cs shown : List Char) : Prop where
  balance : 2 * shown.count '{' + cs.count '}' = 2 * shown.count '}' + cs.count '{'
  weight : weight (2 * size) shown ≤ weight size cs

theorem Weighed.append {cs' shown' : List Char} (h : Weighed size cs shown)
    (h' : Weighed size cs' shown') : Weighed size (cs ++ cs') (shown ++ shown') := by
  obtain ⟨hbalance, hweight⟩ := h
  obtain ⟨hbalance', hweight'⟩ := h'
  refine ⟨?_, ?_⟩
  · simp only [List.count_append]
    omega
  · rw [weight_append, weight_append]
    exact Nat.add_le_add hweight hweight'

theorem StandsFor.weighed (h : StandsFor front text) : Weighed size front text := by
  have hopening : front.count '{' = 2 * text.count '{' := h '{'
  have hclosing : front.count '}' = 2 * text.count '}' := h '}'
  have hletter : front.count 'x' = 1 * text.count 'x' := h 'x'
  refine ⟨by omega, le_of_eq ?_⟩
  rw [weight, weight, hopening, hclosing, hletter]
  ring

theorem Fits.weighed (h : Fits size shown) (hfront : front.count '{' + 1 = front.count '}') :
    Weighed size ('{' :: front) shown := by
  obtain ⟨hopening, hclosing⟩ := h.braceless.count_eq
  refine ⟨?_, ?_⟩
  · rw [List.count_cons_self, List.count_cons_of_ne (by decide)]
    omega
  · have hread : size * 2 ≤ size * (('{' :: front).count '{' + ('{' :: front).count '}') := by
      refine Nat.mul_le_mul_left size ?_
      rw [List.count_cons_self, List.count_cons_of_ne (by decide)]
      omega
    have hcount := h.count
    rw [weight, weight, hopening, hclosing]
    omega

/-- A layout that is computed is in balance if what it is computed from is. -/
theorem writeLayout_balanced {depth limit : Nat} {numbering last : Numbering} {s : Slot}
    (hwrite : ∀ depth limit' numbering cs shown last, limit' < limit →
      write (List.replicate size 'x') depth limit' numbering cs = .ok (shown, last) →
      Weighed size cs shown)
    (hlayout : s.layout.count '{' = s.layout.count '}')
    (h : writeLayout (List.replicate size 'x') depth limit numbering s = .ok (layout, last)) :
    layout.count '{' = layout.count '}' := by
  unfold writeLayout at h
  split at h
  · cases h
    exact hlayout
  · split at h
    · have hbalance := (hwrite _ _ _ _ _ _ (Nat.lt_succ_self _) h).balance
      omega
    · cases h

/-- No template shows more than it weighs, since none of its fields does. -/
theorem weighed_write (hsize : greatestNumber ≤ size) {depth limit : Nat}
    {numbering last : Numbering}
    (h : write (List.replicate size 'x') depth limit numbering cs = .ok (shown, last)) :
    Weighed size cs shown := by
  induction limit using Nat.strong_induction_on generalizing depth numbering cs shown last with
  | _ limit ih =>
  cases limit with
  | zero => cases h
  | succ limit =>
    rw [write] at h
    obtain ⟨⟨text, next⟩, hliteral, hbehind⟩ := exists_of_bind_eq_ok h
    clear h
    obtain ⟨front, rfl, hfront⟩ := literal_split hliteral
    cases next with
    | none =>
      cases hbehind
      exact hfront.weighed
    | some behind =>
      obtain ⟨⟨s, rest⟩, hslot, h⟩ := exists_of_bind_eq_ok hbehind
      clear hbehind
      obtain ⟨⟨part, named⟩, hpart, h⟩ := exists_of_bind_eq_ok h
      obtain ⟨⟨layout, computed⟩, hlayout, h⟩ := exists_of_bind_eq_ok h
      obtain ⟨field, hfield, h⟩ := exists_of_bind_eq_ok h
      obtain ⟨⟨more, final⟩, hmore, h⟩ := exists_of_bind_eq_ok h
      cases h
      obtain ⟨taken, rfl, htaken⟩ := slot_split hslot
      obtain ⟨hname, hconversion, reached, rfl, hfits⟩ := shownPart_eq_ok hpart
      have hbalanced := writeLayout_balanced
        (fun _ _ _ _ _ _ hless hw => ih _ (Nat.lt_succ_of_lt hless) hw) htaken.layout hlayout
      have hshown := hfits.layOut hsize hbalanced hfield
      have hfieldWeighed : Weighed size ('{' :: taken) field :=
        hshown.weighed (htaken.braces hname hconversion)
      have hmoreWeighed := ih limit (Nat.lt_succ_self limit) hmore
      have hweighed := (hfront.weighed.append hfieldWeighed).append hmoreWeighed
      rwa [List.append_assoc] at hweighed

/-- The weight of pieces joined by a text, which stands between each two of them. -/
theorem weight_intercalate (brace : Nat) (new : List Char) (qs : List (List Char)) :
    weight brace (new.intercalate qs) =
      weight brace (List.intercalate [] qs) + (qs.length - 1) * weight brace new := by
  induction qs with
  | nil => rw [List.length_nil, Nat.zero_sub, Nat.zero_mul]; rfl
  | cons q qs ih =>
    cases qs with
    | nil =>
      rw [List.intercalate_singleton, List.intercalate_singleton, List.length_singleton,
        Nat.sub_self, Nat.zero_mul, Nat.add_zero]
    | cons r rs =>
      have hne : r :: rs ≠ [] := List.cons_ne_nil r rs
      rw [intercalate_cons q hne, intercalate_cons q hne]
      simp only [weight_append, ih, List.length_cons, Nat.add_sub_cancel, List.append_nil]
      ring

theorem weight_subject : weight (2 * size) (List.replicate size 'x') = 2 * size := by
  obtain ⟨hopening, hclosing⟩ := (fits_replicate (Nat.le_refl size)).braceless.count_eq
  rw [weight, hopening, hclosing, List.count_replicate_self, Nat.mul_zero, Nat.zero_add]

theorem weight_placeholder : weight size placeholder = 2 * size := by
  show size * 2 + 2 * 0 = 2 * size
  ring

theorem braceless_of_weight_le (hsize : 0 < size) (h : weight (2 * size) cs ≤ weight size cs) :
    Braceless cs := by
  rw [weight, weight, Nat.mul_assoc] at h
  have hzero : size * (cs.count '{' + cs.count '}') = 0 := by omega
  have hcount : cs.count '{' + cs.count '}' = 0 :=
    (Nat.mul_eq_zero.1 hzero).resolve_left hsize.ne'
  obtain ⟨hopening, hclosing⟩ := Nat.add_eq_zero_iff.1 hcount
  exact ⟨List.count_eq_zero.1 hopening, List.count_eq_zero.1 hclosing⟩

end

/-- A template that reaches only texts is plain if and only if every subject is shown in the place
of each placeholder, with the rest of the template as it is. -/
theorem isPlain_iff_fill {template : String} :
    IsPlain template ↔ ∀ subject : String, fill template subject =
      .ok (String.ofList (replace placeholder subject.toList template.toList)) := by
  refine ⟨fill_plain, fun h => ?_⟩
  -- No number is looked at, only that it is greater than each width.
  obtain ⟨size, hsize⟩ : ∃ size, greatestNumber < size := ⟨_, Nat.lt_succ_self _⟩
  have hreplace (new : List Char) : replace placeholder new template.toList =
      new.intercalate (pieces (· == ·) '{' ['0', '}'] template.toList) :=
    replaceWith_eq_intercalate _
  have hfill := h (String.ofList (List.replicate size 'x'))
  obtain ⟨⟨shown, last⟩, hwrite, hshown⟩ := exists_of_fill_eq_ok hfill
  rw [String.toList_ofList] at hwrite hshown
  replace hshown : shown = replace placeholder (List.replicate size 'x') template.toList :=
    String.ofList_injective hshown
  have hweight := (weighed_write hsize.le hwrite).weight
  have hread := weight_intercalate size placeholder (pieces (· == ·) '{' ['0', '}'] template.toList)
  rw [placeholder, intercalate_pieces, ← placeholder, weight_placeholder] at hread
  rw [hshown, hreplace, weight_intercalate, weight_subject, hread] at hweight
  rw [IsPlain, hreplace]
  exact braceless_of_weight_le (Nat.zero_lt_of_lt hsize) (Nat.le_of_add_le_add_right hweight)

/-- A template that is not plain asks a text for an attribute, or it has a subject that it shows
otherwise or not at all. -/
theorem exists_fill_ne [things : Things] {template : String} (h : ¬IsPlain template) :
    (∃ subject, @fill Things.bare template subject = .error (.template .attribute)) ∨
      ∃ subject : String, @fill things template subject ≠
        .ok (String.ofList (replace placeholder subject.toList template.toList)) := by
  obtain ⟨subject, hne⟩ := not_forall.1 fun hall => h (isPlain_iff_fill.2 hall)
  refine (@fill_bare things template subject).imp (fun hasks => ⟨subject, hasks⟩) fun hsame => ?_
  exact ⟨subject, by rwa [hsame]⟩

end RuleCheck.Template
