import RuleCheck.Proofs.Text.Case
import RuleCheck.Proofs.Token.Placeless

/-!
# Characters without case

Folding leaves some characters as they are and makes none of others. Brackets and white space
are such characters, so a text has them where its folding has them: of two texts that differ in
case alone both can be written in brackets as a name, or neither.
-/

set_option autoImplicit false

namespace RuleCheck.Text

def Caseless (c : Char) : Prop := foldChar c = [c] ∧ ∀ d, c ∈ foldChar d → d = c

def untouched (c : Char) : Bool :=
  c.toNat != 0 && foldShifts.shift c.toNat == c.toNat && foldShifts.bringOnly c.toNat c.toNat &&
    foldExpansions.all fun (n, codes) => n != c.toNat && !codes.contains c.toNat

theorem caseless_of_untouched {c : Char} (h : untouched c = true) : Caseless c := by
  simp only [untouched, Bool.and_eq_true, bne_iff_ne, beq_iff_eq, List.all_eq_true,
    Bool.not_eq_true'] at h
  obtain ⟨⟨⟨hpos, hshift⟩, honly⟩, hexpansions⟩ := h
  constructor
  · have hnone : foldExpansions.lookup c.toNat = none := by
      rw [List.lookup_eq_none_iff]
      exact fun entry hentry => bne_iff_ne.2 (Ne.symm (hexpansions entry hentry).1)
    rw [foldChar, hnone, hshift, Char.ofNat_toNat]
  · intro d hd
    unfold foldChar at hd
    split at hd
    · rename_i codes hcodes
      obtain ⟨n, hn, hchar⟩ := List.mem_map.1 hd
      obtain ⟨before, behind, hsplit, -⟩ := List.lookup_eq_some_iff.1 hcodes
      have hentry : (d.toNat, codes) ∈ foldExpansions := by
        rw [hsplit]
        exact List.mem_append_right _ List.mem_cons_self
      have hmem := (hexpansions _ hentry).2
      rw [← toNat_eq_of_ofNat hchar hpos, List.contains_iff_mem.2 hn] at hmem
      cases hmem
    · have hchar := List.mem_singleton.1 hd
      have hmoved := toNat_eq_of_ofNat hchar.symm hpos
      rcases Shifts.of_shift_eq honly (Nat.pos_of_ne_zero hpos) hmoved with hn | hn
      · exact Char.toNat_inj.1 hn
      · exact Char.toNat_inj.1 hn

theorem caseless_bracket : Caseless ']' := caseless_of_untouched (by decide +kernel)

theorem caseless_of_isSpace {c : Char} (hc : isSpace c = true) : Caseless c :=
  caseless_of_untouched (Lexeme.of_isSpace (P := fun c => untouched c = true)
    (by decide +kernel) hc)

theorem foldChar_ne_nil (c : Char) : foldChar c ≠ [] := by
  unfold foldChar
  split
  · rename_i codes hcodes
    obtain ⟨before, behind, hsplit, -⟩ := List.lookup_eq_some_iff.1 hcodes
    have hexpansions : ∀ entry ∈ foldExpansions, entry.2 ≠ [] := by decide +kernel
    have hcodes := hexpansions (c.toNat, codes) (by simp [hsplit])
    simpa using hcodes
  · exact List.cons_ne_nil _ _

theorem mem_foldChars {c : Char} (hc : Caseless c) {cs : List Char} :
    c ∈ foldChars cs ↔ c ∈ cs := by
  rw [foldChars, List.mem_flatMap]
  constructor
  · rintro ⟨d, hd, hmem⟩
    exact hc.2 d hmem ▸ hd
  · intro hmem
    exact ⟨c, hmem, by rw [hc.1]; exact List.mem_singleton_self c⟩

theorem isBlank_foldChars (cs : List Char) : isBlank (foldChars cs) = isBlank cs := by
  rw [Bool.eq_iff_iff, isBlank, isBlank, List.all_eq_true, List.all_eq_true]
  constructor
  · intro h c hc
    obtain ⟨d, ds, hfold⟩ := List.exists_cons_of_ne_nil (foldChar_ne_nil c)
    have hd : d ∈ foldChar c := by
      rw [hfold]
      exact List.mem_cons_self
    have hspace := h d (List.mem_flatMap.2 ⟨c, hc, hd⟩)
    rwa [(caseless_of_isSpace hspace).2 c hd]
  · intro h d hd
    obtain ⟨c, hc, hmem⟩ := List.mem_flatMap.1 hd
    have hspace := h c hc
    rw [(caseless_of_isSpace hspace).1, List.mem_singleton] at hmem
    rwa [hmem]

/-- Of two texts that differ in case alone, both can be written in brackets or neither. -/
theorem writable_of_fold {s t : String} (h : fold s = fold t) (hbracket : ']' ∉ t.toList)
    (hblank : isBlank t.toList = false) : ']' ∉ s.toList ∧ isBlank s.toList = false := by
  have hchars : foldChars s.toList = foldChars t.toList := String.ofList_injective h
  rw [← mem_foldChars caseless_bracket, ← isBlank_foldChars, hchars,
    mem_foldChars caseless_bracket, isBlank_foldChars]
  exact ⟨hbracket, hblank⟩

end RuleCheck.Text
