import RuleCheck.Proofs.Token.Seam
import RuleCheck.Proofs.Token.Taken

/-!
# Texts that are cut off

A token that ends before the place where a text is cut off is read as before. It may look at
what is behind it, as a number does that could have an exponent, but with less text behind it no
token goes further. So a token is read in front of any other text too, if no token goes on with
that.
-/

set_option autoImplicit false

namespace RuleCheck

open Text

namespace Lexeme

variable {a b q cs sign more rest span : List Char} {c d : Char} {l : Lexeme}

theorem any_head?_cut {p : Char → Bool} (h : (b ++ q).head?.any p = false) :
    b.head?.any p = false := by
  cases b with
  | nil => rfl
  | cons c b => exact h

theorem front_cut {p : Char → Bool} (h : front p (a ++ (b ++ q)) = (a, b ++ q)) :
    front p (a ++ b) = (a, b) := by
  have hpass : ∀ c ∈ a, p c = true := by
    have hfront : ∀ c ∈ (front p (a ++ (b ++ q))).1, p c = true := mem_front
    rwa [h] at hfront
  have hstop := any_head?_front p (a ++ (b ++ q))
  rw [h] at hstop
  exact front_append_of_head hpass (any_head?_cut hstop)

theorem fraction_cut (h : fraction (a ++ (b ++ q)) = (a, b ++ q)) :
    fraction (a ++ b) = (a, b) := by
  cases hpoint : (a ++ (b ++ q)).head?.any (· == '.') with
  | false =>
    obtain ⟨rfl, -⟩ := Prod.mk.inj ((fraction_of_head hpoint).symm.trans h)
    exact fraction_of_head (any_head?_cut hpoint)
  | true =>
    obtain ⟨cs, hcs⟩ : ∃ cs, a ++ (b ++ q) = '.' :: cs := by
      cases htext : a ++ (b ++ q) with
      | nil =>
        rw [htext] at hpoint
        cases hpoint
      | cons c cs =>
        rw [htext] at hpoint
        exact ⟨cs, congrArg (· :: cs) (beq_iff_eq.1 hpoint)⟩
    rcases hfront : front isDigit cs with ⟨digits, rest⟩
    rw [hcs] at h
    simp only [fraction, hfront] at h
    obtain ⟨rfl, rfl⟩ := Prod.mk.inj h
    have hdigits : digits ++ (b ++ q) = cs := (List.cons.inj hcs).2
    rw [← hdigits] at hfront
    simp only [List.cons_append, fraction, front_cut hfront]

theorem exponent_ne_nil (hc : isExponentLetter c = true) (hsign : sign ∈ [[], ['+'], ['-']])
    (hd : isDigit d = true) (more : List Char) : (exponent (c :: sign ++ d :: more)).1 ≠ [] := by
  have hdigits : ∀ e ∈ d :: (front isDigit more).1, isDigit e = true :=
    List.forall_mem_cons.2 ⟨hd, mem_front⟩
  have hparts := exponent_of_parts hc hsign hdigits (any_head?_front isDigit more)
  have hsplit : d :: (front isDigit more).1 ++ (front isDigit more).2 = d :: more := by
    rw [List.cons_append, front_append]
  rw [List.append_assoc, hsplit] at hparts
  rw [hparts]
  exact List.cons_ne_nil _ _

theorem any_head?_after_exponent (h : (exponent cs).1 ≠ []) :
    (exponent cs).2.head?.any isDigit = false := by
  cases cs with
  | nil => exact absurd rfl h
  | cons c cs =>
    cases hc : isExponentLetter c with
    | false => exact absurd (congrArg Prod.fst (exponent_of_head (by exact hc))) h
    | true =>
      have hletter : (c == 'e' || c == 'E') = true := hc
      have hstop := any_head?_front isDigit (exponentSign cs).2
      simp only [exponent, hletter, if_true] at h ⊢
      rcases hfront : front isDigit (exponentSign cs).2 with ⟨digits, rest⟩
      rw [hfront] at h hstop
      cases digits with
      | nil => exact absurd rfl h
      | cons d ds => exact hstop

theorem exponent_cut (h : exponent (a ++ (b ++ q)) = (a, b ++ q)) :
    exponent (a ++ b) = (a, b) := by
  have hsame : (exponent (a ++ (b ++ q))).1 = a := congrArg Prod.fst h
  rcases exponent_parts (a ++ (b ++ q)) with hnone | ⟨c, sign, d, ds, hparts, hc, hsign, hdigits⟩
  · obtain rfl : a = [] := hsame.symm.trans hnone
    -- If less text had an exponent, the whole text would have it or a longer one.
    have hsplit := exponent_append b
    rcases exponent_parts b with hb | ⟨c, sign, d, ds, hb, hc, hsign, hdigits⟩
    · rw [hb, List.nil_append] at hsplit
      exact Prod.ext hb hsplit
    · rw [hb] at hsplit
      rw [List.nil_append, ← hsplit, List.append_assoc, List.append_assoc] at hsame
      exact absurd hsame (exponent_ne_nil hc hsign (hdigits d List.mem_cons_self) _)
  · have hne : (exponent (a ++ (b ++ q))).1 ≠ [] := by
      rw [hparts]
      exact List.cons_ne_nil _ _
    have hstop := any_head?_after_exponent hne
    rw [h] at hstop
    rw [hsame] at hparts
    subst hparts
    exact exponent_of_parts hc hsign hdigits (any_head?_cut hstop)

/-- A numeral that ends before a text is cut off is the same in what is left. -/
theorem numeral_cut (h : numeral (a ++ (b ++ q)) = (a, b ++ q)) : numeral (a ++ b) = (a, b) := by
  have hwhole := front_append isDigit (a ++ (b ++ q))
  rcases hfront : front isDigit (a ++ (b ++ q)) with ⟨whole, tail⟩
  have hpart := fraction_append tail
  rcases hfraction : fraction tail with ⟨part, behind⟩
  have hpower := exponent_append behind
  rcases hexponent : exponent behind with ⟨power, rest⟩
  simp only [numeral, hfront, hfraction, hexponent] at h
  obtain ⟨rfl, rfl⟩ := Prod.mk.inj h
  rw [hfraction] at hpart
  rw [hexponent] at hpower
  simp only at hpart hpower
  subst hpower
  subst hpart
  -- Each part of the numeral ends before the text is cut off.
  have hpower : exponent (power ++ b) = (power, b) := exponent_cut hexponent
  have hpart : fraction (part ++ (power ++ b)) = (part, power ++ b) := by
    rw [← List.append_assoc power] at hfraction
    exact fraction_cut hfraction
  have hwhole : front isDigit (whole ++ (part ++ (power ++ b))) =
      (whole, part ++ (power ++ b)) := by
    rw [List.append_assoc, List.append_assoc, ← List.append_assoc power,
      ← List.append_assoc part] at hfront
    exact front_cut hfront
  simp only [numeral, List.append_assoc, hwhole, hpart, hpower]

theorem startsNumber_append (h : startsNumber a = true) (b : List Char) :
    startsNumber (a ++ b) = true := by
  cases a with
  | nil => cases h
  | cons c a =>
    by_cases hc : c = '.'
    · subst hc
      rw [startsNumber_point] at h
      rw [List.cons_append, startsNumber_point]
      cases a with
      | nil => cases h
      | cons d a => exact h
    · rw [List.cons_append, startsNumber_cons hc]
      rwa [startsNumber_cons hc] at h

theorem head?_ne_cut (h : (b ++ q).head? ≠ some c) : b.head? ≠ some c := by
  cases b with
  | nil => exact nofun
  | cons d b => exact h

theorem symbol?_cut (h : symbol? (l.content.toList ++ (b ++ q)) = some (l, b ++ q)) :
    symbol? (l.content.toList ++ b) = some (l, b) := by
  have hhead {c : Char} (hc : ∀ cs, b ++ q = c :: cs → False) : (b ++ q).head? ≠ some c := by
    rw [ne_eq, List.head?_eq_some_iff]
    rintro ⟨cs, hcs⟩
    exact hc cs hcs
  unfold symbol? at h
  split at h <;> cases h
  case h_5 _ hgreater hequal _ =>
    exact symbol?_less (head?_ne_cut (hhead hgreater)) (head?_ne_cut (hhead hequal))
  case h_6 _ hequal _ => exact symbol?_greater (head?_ne_cut (hhead hequal))
  all_goals rfl

/-- What is taken of a text is taken of less text, if it is all there. -/
theorem Taken.cut (h : Taken l span (b ++ q)) : Taken l span b := by
  cases h with
  | number hstart hspan =>
    have hself := startsNumber_numeral hstart
    rw [hspan] at hself
    exact .number (startsNumber_append hself b) (numeral_cut hspan)
  | text content h => exact .text content (head?_ne_cut h)
  | name rest hbracket hblank => exact .name b hbracket hblank
  | word hc hcs h => exact .word hc hcs (any_head?_cut h)
  | symbol h => exact .symbol (symbol?_cut h)

theorem beginsSign_of_symbol? {found : Lexeme × List Char} (h : symbol? (c :: cs) = some found) :
    BeginsSign c := by
  unfold symbol? at h
  split at h
  case h_14 => cases h
  all_goals
    rename_i heq
    rw [(List.cons.inj heq).1]
    decide

/-- What takes the characters at the front of a text is read from it. -/
theorem read_of_taken (h : Taken l (c :: cs) rest) : read c (cs ++ rest) = .ok (l, rest) := by
  generalize hspan : c :: cs = span at h
  cases h with
  | number hstart hnumeral =>
    subst hspan
    refine (read_number hstart).trans ?_
    exact congrArg (fun found => Except.ok (number (String.ofList found.1), found.2)) hnumeral
  | text content h =>
    obtain ⟨rfl, rfl⟩ := List.cons.inj hspan
    show read '\'' (doubled content ++ ['\''] ++ rest) = _
    rw [List.append_assoc]
    exact read_text (quotedContent?_doubled content h)
  | @name content rest hbracket hblank =>
    obtain ⟨rfl, rfl⟩ := List.cons.inj hspan
    show read '[' (content ++ [']'] ++ rest) = _
    rw [List.append_assoc, read_bracket]
    exact (bracketName_closed hbracket rest).trans (if_neg (by simp [hblank]))
  | word hc hcs h =>
    obtain ⟨rfl, rfl⟩ := List.cons.inj hspan
    exact read_word hc hcs h
  | symbol h =>
    rw [← hspan] at h
    exact read_sign (beginsSign_of_symbol? h) h

theorem stops_bracket (rest : List Char) : Stops ('[' :: rest) where
  word := (by decide : isWordPart '[' = false)
  numeral := (by decide : inNumeral '[' = false)
  order := rfl
  quote := by simp

/-- A token is read in front of another text if that stops all tokens. -/
theorem read_stopped (h : read c (cs ++ (b ++ q)) = .ok (l, b ++ q)) (hrest : Stops rest) :
    read c (cs ++ (b ++ rest)) = .ok (l, b ++ rest) := by
  obtain ⟨span, hsplit, htaken⟩ := taken_of_read h
  have hspan : c :: cs = span := by
    rw [← List.cons_append] at hsplit
    exact List.append_cancel_right hsplit
  subst hspan
  have hread : read c (cs ++ b) = .ok (l, b) := read_of_taken htaken.cut
  rw [← List.append_assoc]
  exact read_append hrest hread

end Lexeme

end RuleCheck
