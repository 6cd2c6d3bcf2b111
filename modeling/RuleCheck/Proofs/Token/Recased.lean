import RuleCheck.Proofs.Text.Fold
import RuleCheck.Proofs.Token.Cut
import RuleCheck.Proofs.Token.Rendering

/-!
# Names in another case

Some of the names that a text refers to can be written in brackets instead, in another mixture of
capitals and small letters. The tokens before such a name end before the bracket, which stops all
of them, so the two texts have the same tokens but for the case of names.
-/

set_option autoImplicit false

namespace RuleCheck

open Text

/-- The second text is the first one with some names in brackets, each spelled as a text that
differs from it in case at most. All other characters are the same. -/
inductive Recased : List Char → List Char → Prop
  | nil : Recased [] []
  | space {c : Char} {cs ds : List Char} (hc : isSpace c = true) (h : Recased cs ds) :
      Recased (c :: cs) (c :: ds)
  | keep {c : Char} {span rest more : List Char} {l : Lexeme} (hc : isSpace c = false)
      (hread : Lexeme.read c (span ++ rest) = .ok (l, rest)) (h : Recased rest more) :
      Recased (c :: (span ++ rest)) (c :: (span ++ more))
  | name {c : Char} {span rest more : List Char} {name spelling : String}
      (hc : isSpace c = false) (hread : Lexeme.read c (span ++ rest) = .ok (.name name, rest))
      (hfold : fold spelling = fold name) (h : Recased rest more) :
      Recased (c :: (span ++ rest)) ('[' :: (spelling.toList ++ ']' :: more))

namespace Lexeme

variable {c : Char} {cs span rest : List Char} {l m : Lexeme} {n : String}

def folded : Lexeme → Lexeme
  | name spelling => name (fold spelling)
  | l => l

theorem eq_of_folded (h : m.folded = l.folded) (hl : ∀ n, l ≠ name n) : m = l := by
  cases l with
  | name n => exact absurd rfl (hl n)
  | _ => cases m <;> first | exact h | cases h

theorem exists_of_folded_name (h : m.folded = (name n).folded) :
    ∃ n', m = name n' ∧ fold n' = fold n := by
  cases m with
  | name n' => exact ⟨n', rfl, name.inj h⟩
  | _ => cases h

theorem writable_of_read (h : read c cs = .ok (name n, rest)) :
    ']' ∉ n.toList ∧ isBlank n.toList = false := by
  obtain ⟨span, -, htaken⟩ := taken_of_read h
  generalize hname : name n = l at htaken
  cases htaken with
  | number _ _ => cases hname
  | text _ _ => cases hname
  | name rest hbracket hblank =>
    cases hname
    rw [String.toList_ofList]
    exact ⟨hbracket, hblank⟩
  | word hc hcs _ =>
    unfold ofWord at hname
    split at hname
    · cases hname
    · cases hname
      rw [String.toList_ofList]
      exact writable_word hc hcs
  | symbol hsymbol =>
    rw [← hname] at hsymbol
    unfold symbol? at hsymbol
    split at hsymbol <;> cases hsymbol

theorem read_recased_name {spelling : String} (h : read c cs = .ok (name n, rest))
    (hfold : fold spelling = fold n) (more : List Char) :
    read '[' (spelling.toList ++ ']' :: more) = .ok (name spelling, more) := by
  obtain ⟨hbracket, hblank⟩ := writable_of_read h
  obtain ⟨hbracket, hblank⟩ := writable_of_fold hfold hbracket hblank
  rw [read_bracket, bracketName_closed hbracket, if_neg (by simp [hblank]), String.ofList_toList]

end Lexeme

namespace Recased

variable {cs ds rest more span : List Char} {c : Char} {l : Lexeme}

/-- Both texts are the same up to the first bracket that is new. -/
theorem split (h : Recased cs ds) :
    cs = ds ∨ ∃ same q r, cs = same ++ q ∧ ds = same ++ '[' :: r := by
  have longer (front : List Char) {cs ds : List Char}
      (h : cs = ds ∨ ∃ same q r, cs = same ++ q ∧ ds = same ++ '[' :: r) :
      front ++ cs = front ++ ds ∨
        ∃ same q r, front ++ cs = same ++ q ∧ front ++ ds = same ++ '[' :: r := by
    rcases h with rfl | ⟨same, q, r, rfl, rfl⟩
    · exact .inl rfl
    · exact .inr ⟨front ++ same, q, r, by simp, by simp⟩
  induction h with
  | nil => exact .inl rfl
  | @space c cs ds _ _ ih => exact longer [c] ih
  | @keep c span rest more l _ _ _ ih => exact longer (c :: span) ih
  | name _ _ _ _ _ => exact .inr ⟨[], _, _, rfl, rfl⟩

theorem read_keep (h : Recased rest more) (hread : Lexeme.read c (span ++ rest) = .ok (l, rest)) :
    Lexeme.read c (span ++ more) = .ok (l, more) := by
  rcases h.split with rfl | ⟨same, q, r, rfl, rfl⟩
  · exact hread
  · exact Lexeme.read_stopped hread (Lexeme.stops_bracket r)

theorem scan (h : Recased cs ds) : ∃ ls ms, Lexeme.scan cs = .ok ls ∧ Lexeme.scan ds = .ok ms ∧
    ms.map Lexeme.folded = ls.map Lexeme.folded := by
  induction h with
  | nil => exact ⟨[], [], Lexeme.scan_nil, Lexeme.scan_nil, rfl⟩
  | space hc _ ih =>
    rw [Lexeme.scan_space hc, Lexeme.scan_space hc]
    exact ih
  | @keep c span rest more l hc hread h ih =>
    obtain ⟨ls, ms, hls, hms, hsame⟩ := ih
    refine ⟨l :: ls, l :: ms, ?_, ?_, congrArg (l.folded :: ·) hsame⟩
    · rw [Lexeme.scan_of_read hc hread, hls]
      rfl
    · rw [Lexeme.scan_of_read hc (h.read_keep hread), hms]
      rfl
  | @name c span rest more n spelling hc hread hfold h ih =>
    obtain ⟨ls, ms, hls, hms, hsame⟩ := ih
    refine ⟨.name n :: ls, .name spelling :: ms, ?_, ?_, ?_⟩
    · rw [Lexeme.scan_of_read hc hread, hls]
      rfl
    · rw [Lexeme.scan_of_read (by decide) (Lexeme.read_recased_name hread hfold more), hms]
      rfl
    · simp only [List.map_cons, Lexeme.folded, hfold, hsame]

end Recased

end RuleCheck
