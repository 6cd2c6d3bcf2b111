import RuleCheck.Proofs.Text.Occurrence

/-!
# The leftmost occurrences

A text can be split in one way only into the leftmost occurrences of another text, up to case,
and what stands around them. A replacement that makes no distinction of case writes its new text
in the place of these occurrences and leaves everything else where it is.
-/

set_option autoImplicit false

namespace RuleCheck.Text

def EqualUpToCase (old part : List Char) : Prop := part.map plainForm = old.map plainForm

instance (old part : List Char) : Decidable (EqualUpToCase old part) :=
  inferInstanceAs (Decidable (part.map plainForm = old.map plainForm))

def Begins (old text : List Char) : Prop := ∃ part, part <+: text ∧ EqualUpToCase old part

/-- Parts of a text that are replaced, each with what stands before it, and the rest. -/
inductive Split
  | last (rest : List Char)
  | next (before part : List Char) (after : Split)

namespace Split

def text : Split → List Char
  | last rest => rest
  | next before part after => before ++ (part ++ after.text)

def filled (new : List Char) : Split → List Char
  | last rest => rest
  | next before _ after => before ++ (new ++ after.filled new)

def IsLeftmost (old : List Char) : Split → Prop
  | last rest => ∀ t, t <:+ rest → ¬ Begins old t
  | next before part after =>
    EqualUpToCase old part ∧
      (∀ t, t <:+ before → t ≠ [] → ¬ Begins old (t ++ (part ++ after.text))) ∧
      after.IsLeftmost old

def cons (c : Char) : Split → Split
  | last rest => last (c :: rest)
  | next before part after => next (c :: before) part after

end Split

section

variable {o c : Char} {old part rest text : List Char}

theorem equalUpToCase_iff :
    EqualUpToCase old part ↔ List.Forall₂ (fun d c => sameLetter d c = true) old part := by
  simp only [sameLetter, beq_iff_eq]
  rw [EqualUpToCase, eq_comm, ← List.forall₂_eq_eq_eq, List.forall₂_map_left_iff,
    List.forall₂_map_right_iff]

/-- What is passed in a match is the text that was sought, up to case. -/
theorem afterMatch?_eq_some_iff_equal : afterMatch? sameLetter old text = some rest ↔
    ∃ part, EqualUpToCase old part ∧ text = part ++ rest := by
  simp only [afterMatch?_eq_some_iff, equalUpToCase_iff]

theorem EqualUpToCase.afterMatch? (h : EqualUpToCase old part) (rest : List Char) :
    afterMatch? sameLetter old (part ++ rest) = some rest :=
  afterMatch?_eq_some_iff_equal.2 ⟨part, h, rfl⟩

theorem EqualUpToCase.length_eq (h : EqualUpToCase old part) : part.length = old.length := by
  simpa using congrArg List.length h

theorem EqualUpToCase.append_inj {part' rest' : List Char} (h : EqualUpToCase old part)
    (h' : EqualUpToCase old part') (heq : part ++ rest = part' ++ rest') :
    part = part' ∧ rest = rest' :=
  List.append_inj heq (h.length_eq.trans h'.length_eq.symm)

theorem afterMatch?_eq_none_iff : afterMatch? sameLetter old text = none ↔ ¬ Begins old text := by
  constructor
  · rintro hnone ⟨part, ⟨rest, rfl⟩, hpart⟩
    rw [hpart.afterMatch?] at hnone
    cases hnone
  · intro hnot
    cases hfound : afterMatch? sameLetter old text with
    | none => rfl
    | some rest =>
      obtain ⟨part, hpart, rfl⟩ := afterMatch?_eq_some_iff_equal.1 hfound
      exact absurd ⟨part, List.prefix_append part rest, hpart⟩ hnot

theorem not_begins_nil : ¬ Begins (o :: old) [] := afterMatch?_eq_none_iff.1 rfl

end

namespace Split

variable {o c : Char} {old text : List Char} {s : Split}

theorem text_cons (c : Char) (s : Split) : (s.cons c).text = c :: s.text := by cases s <;> rfl

/-- A character may stand in front if no occurrence begins with it. -/
theorem isLeftmost_cons :
    (s.cons c).IsLeftmost old ↔ ¬ Begins old (c :: s.text) ∧ s.IsLeftmost old := by
  cases s with
  | last rest =>
    constructor
    · exact fun h => ⟨h _ List.suffix_rfl, fun t ht => h t (ht.trans (List.suffix_cons c rest))⟩
    · rintro ⟨hfront, hrest⟩ t ht
      rcases List.suffix_cons_iff.1 ht with rfl | ht
      · exact hfront
      · exact hrest t ht
  | next before part after =>
    constructor
    · rintro ⟨hpart, hbefore, hafter⟩
      exact ⟨hbefore _ List.suffix_rfl (List.cons_ne_nil c before), hpart,
        fun t ht => hbefore t (ht.trans (List.suffix_cons c before)), hafter⟩
    · rintro ⟨hfront, hpart, hbefore, hafter⟩
      refine ⟨hpart, fun t ht hne => ?_, hafter⟩
      rcases List.suffix_cons_iff.1 ht with rfl | ht
      · exact hfront
      · exact hbefore t ht hne

/-- A split begins with an occurrence or with a character that begins none. -/
theorem IsLeftmost.front (h : s.IsLeftmost (o :: old)) :
    s = last [] ∨
      (∃ part after, s = next [] part after ∧ EqualUpToCase (o :: old) part ∧
        after.IsLeftmost (o :: old)) ∨
      ∃ c tail, s = cons c tail ∧ ¬ Begins (o :: old) (c :: tail.text) ∧
        tail.IsLeftmost (o :: old) := by
  cases s with
  | last rest =>
    cases rest with
    | nil => exact .inl rfl
    | cons c rest => exact .inr (.inr ⟨c, last rest, rfl, isLeftmost_cons.1 h⟩)
  | next before part after =>
    cases before with
    | nil => exact .inr (.inl ⟨part, after, rfl, h.1, h.2.2⟩)
    | cons c before => exact .inr (.inr ⟨c, next before part after, rfl, isLeftmost_cons.1 h⟩)

/-- Where an occurrence stands at the front, it is the first part. -/
theorem IsLeftmost.eq_next {part rest : List Char} (h : s.IsLeftmost (o :: old))
    (hpart : EqualUpToCase (o :: old) part) (htext : s.text = part ++ rest) :
    ∃ after, s = next [] part after ∧ after.text = rest ∧ after.IsLeftmost (o :: old) := by
  have hbegins : Begins (o :: old) s.text := ⟨part, ⟨rest, htext.symm⟩, hpart⟩
  rcases h.front with rfl | ⟨part', after, rfl, hpart', hafter⟩ | ⟨c, tail, rfl, hnot, -⟩
  · exact absurd hbegins not_begins_nil
  · obtain ⟨rfl, hrest⟩ := hpart'.append_inj hpart htext
    exact ⟨after, rfl, hrest, hafter⟩
  · rw [text_cons] at hbegins
    exact absurd hbegins hnot

/-- Where no occurrence stands at the front, the first character stays before the parts. -/
theorem IsLeftmost.eq_cons (h : s.IsLeftmost (o :: old)) (hnot : ¬ Begins (o :: old) (c :: text))
    (htext : s.text = c :: text) :
    ∃ tail, s = cons c tail ∧ tail.text = text ∧ tail.IsLeftmost (o :: old) := by
  rcases h.front with rfl | ⟨part, after, rfl, hpart, -⟩ | ⟨d, tail, rfl, -, htail⟩
  · cases htext
  · exact absurd ⟨part, ⟨after.text, htext⟩, hpart⟩ hnot
  · rw [text_cons, List.cons.injEq] at htext
    obtain ⟨rfl, htext⟩ := htext
    exact ⟨tail, rfl, htext, htail⟩

end Split

section

variable {o : Char} {old : List Char}

open Split

/-- There is a split into the leftmost occurrences, and no other. -/
theorem existsUnique_isLeftmost (o : Char) (old text : List Char) :
    ∃ s : Split, (s.text = text ∧ s.IsLeftmost (o :: old)) ∧
      ∀ other : Split, other.text = text → other.IsLeftmost (o :: old) → other = s := by
  fun_induction replaceWith sameLetter o old [] text with
  | case1 text rest hfound ih =>
    obtain ⟨after, ⟨rfl, hafter⟩, honly⟩ := ih
    obtain ⟨part, hpart, rfl⟩ := afterMatch?_eq_some_iff_equal.1 hfound
    refine ⟨next [] part after, ⟨rfl, hpart, fun t ht hne => ?_, hafter⟩, fun other ht hother => ?_⟩
    · exact absurd (List.suffix_nil.1 ht) hne
    · obtain ⟨after', rfl, htext, hafter'⟩ := hother.eq_next hpart ht
      rw [honly after' htext hafter']
  | case2 =>
    refine ⟨last [], ⟨rfl, fun t ht => ?_⟩, fun other ht hother => ?_⟩
    · rw [List.suffix_nil.1 ht]
      exact not_begins_nil
    · rcases hother.front with rfl | ⟨part, after, rfl, hpart, -⟩ | ⟨c, tail, rfl, -⟩
      · rfl
      · exact absurd ⟨part, ⟨after.text, ht⟩, hpart⟩ not_begins_nil
      · rw [text_cons] at ht
        cases ht
  | case3 c text hnone ih =>
    obtain ⟨tail, ⟨rfl, htail⟩, honly⟩ := ih
    have hnot := afterMatch?_eq_none_iff.1 hnone
    refine ⟨tail.cons c, ⟨text_cons c tail, isLeftmost_cons.2 ⟨hnot, htail⟩⟩,
      fun other ht hother => ?_⟩
    obtain ⟨tail', rfl, htext, htail'⟩ := hother.eq_cons hnot ht
    rw [honly tail' htext htail']

theorem replaceWith_before {before rest new : List Char}
    (h : ∀ t, t <:+ before → t ≠ [] → ¬ Begins (o :: old) (t ++ rest)) :
    replaceWith sameLetter o old new (before ++ rest) =
      before ++ replaceWith sameLetter o old new rest := by
  induction before with
  | nil => rfl
  | cons c before ih =>
    have hfront : ¬ Begins (o :: old) (c :: (before ++ rest)) :=
      h _ List.suffix_rfl (List.cons_ne_nil c before)
    rw [List.cons_append, replaceWith_cons (afterMatch?_eq_none_iff.2 hfront),
      ih fun t ht => h t (ht.trans (List.suffix_cons c before)), List.cons_append]

theorem Split.IsLeftmost.replaceWith_text {s : Split} (h : s.IsLeftmost (o :: old))
    (new : List Char) : replaceWith sameLetter o old new s.text = s.filled new := by
  induction s with
  | last rest => exact replaceWith_of_absent fun t ht => afterMatch?_eq_none_iff.2 (h t ht)
  | next before part after ih =>
    obtain ⟨hpart, hbefore, hafter⟩ := h
    rw [Split.text, replaceWith_before hbefore,
      replaceWith_of_match (hpart.afterMatch? _), ih hafter, Split.filled]

/-- Replacement without distinction of case writes the new text, as it is, in the place of the
leftmost occurrences that do not overlap. The text is split into these in exactly one way, and
what is written does not take part in the search. -/
theorem replaceIgnoringCase_leftmost {old : List Char} (hold : old ≠ []) (text : List Char) :
    ∃ s : Split, (s.text = text ∧ s.IsLeftmost old) ∧
      (∀ other : Split, other.text = text → other.IsLeftmost old → other = s) ∧
      ∀ new, replaceIgnoringCase old new text = s.filled new := by
  obtain ⟨o, old, rfl⟩ := List.exists_cons_of_ne_nil hold
  obtain ⟨s, ⟨rfl, hs⟩, honly⟩ := existsUnique_isLeftmost o old text
  exact ⟨s, ⟨rfl, hs⟩, honly, fun new => hs.replaceWith_text new⟩

theorem replaceIgnoringCase_leftmost_overlap :
    ['.', 'a', '.'] ≠ [] ∧
      replaceIgnoringCase ['.', 'a', '.'] ['\\', '1', '.', 'a', '.']
          ['.', 'A', '.', 'a', '.', 'A', '.'] =
        ['\\', '1', '.', 'a', '.', 'a', '\\', '1', '.', 'a', '.'] := by
  refine ⟨List.cons_ne_nil _ _, ?_⟩
  obtain ⟨s, -, honly, hfilled⟩ := replaceIgnoringCase_leftmost
    (List.cons_ne_nil '.' ['a', '.']) ['.', 'A', '.', 'a', '.', 'A', '.']
  have hsplit : (next [] ['.', 'A', '.'] (next ['a'] ['.', 'A', '.'] (last []))).IsLeftmost
      ['.', 'a', '.'] := by
    refine ⟨by decide +kernel, fun t ht hne => absurd (List.suffix_nil.1 ht) hne,
      by decide +kernel, fun t ht hne => ?_, fun t ht => ?_⟩
    · rcases List.suffix_cons_iff.1 ht with rfl | ht
      · exact afterMatch?_eq_none_iff.1 (by decide +kernel)
      · exact absurd (List.suffix_nil.1 ht) hne
    · rw [List.suffix_nil.1 ht]
      exact not_begins_nil
  rw [hfilled, ← honly _ rfl hsplit]
  rfl

end

end RuleCheck.Text
