import RuleCheck.Member.Declared
import RuleCheck.Proofs.Row.Fitting

/-!
# Types with nothing left to resolve

Resolving a type again changes it just where a quoted part, a remark or a bare nothing was left in
it. The types that rules know are among those that stay as they are.
-/

set_option autoImplicit false

namespace RuleCheck

theorem bind_eq_or {α β ε : Type} {x : Except ε α} {next : α → Except ε β} {a : α} {b : β} {e : ε}
    (h : x = .ok a ∨ x = .error e) (hnext : next a = .ok b) :
    (x >>= next) = .ok b ∨ (x >>= next) = .error e := by
  rcases h with rfl | rfl
  · exact .inl hnext
  · exact .inr rfl

theorem mapM_eq_or {α ε : Type} {f : α → Except ε α} {e : ε} {xs : List α}
    (h : ∀ x ∈ xs, f x = .ok x ∨ f x = .error e) : xs.mapM f = .ok xs ∨ xs.mapM f = .error e := by
  induction xs with
  | nil => exact .inl List.mapM_nil
  | cons x xs ih =>
    obtain ⟨hfirst, hrest⟩ := List.forall_mem_cons.1 h
    rw [List.mapM_cons]
    rcases hfirst with hfirst | hfirst
    · rw [hfirst]
      exact bind_eq_or (x := xs.mapM f) (ih hrest) rfl
    · exact .inr (by rw [hfirst]; rfl)

namespace Hint

variable {r : Resolver} {names : Names} {h h' : Hint}

mutual

def isClosed : Hint → Bool
  | single _ => true
  | choice _ parts => areClosed parts
  | final none => true
  | final (some inner) => isClosed inner
  | shared none => true
  | shared (some inner) => isClosed inner
  | generic _ arguments => areClosed arguments
  | constant _ => true
  | other _ parts => areClosed parts
  | improper _ => true
  | nothing => false
  | annotated _ => false
  | forward _ => false
  | unread _ => false

def areClosed : List Hint → Bool
  | [] => true
  | h :: hs => isClosed h && areClosed hs

end

theorem areClosed_iff {hs : List Hint} :
    areClosed hs = true ↔ ∀ h ∈ hs, h.isClosed = true := by
  induction hs with
  | nil => exact ⟨fun _ => nofun, fun _ => rfl⟩
  | cons h rest ih => rw [areClosed, Bool.and_eq_true_iff, ih, List.forall_mem_cons]

theorem asType_of_isClosed (hclosed : h.isClosed = true) : h.asType = h := by
  cases h with
  | nothing => cases hclosed
  | unread => cases hclosed
  | _ => rfl

theorem asReference_of_isClosed (hclosed : h.isClosed = true) : h.asReference = h := by
  cases h with
  | unread => cases hclosed
  | _ => rfl

/-- A closed type is left as it is, unless its parts are too deep. -/
theorem resolve_of_isClosed (hclosed : h.isClosed = true) (depth : Nat) (seen : List String)
    (isWhole : Bool) : resolve r names depth seen isWhole h = .ok h ∨
      resolve r names depth seen isWhole h = .error .other := by
  -- The parts of a type are resolved one level down, also those that a text stands for.
  induction depth generalizing h seen isWhole with
  | zero => exact .inr (by rw [resolve])
  | succ depth ih =>
    have hparts {parts : List Hint} (hclosed : areClosed parts = true) :
        parts.mapM (resolve r names depth seen false) = .ok parts ∨
          parts.mapM (resolve r names depth seen false) = .error .other :=
      mapM_eq_or fun part hpart => ih (areClosed_iff.1 hclosed part hpart) seen false
    cases h with
    | choice barred parts =>
      rw [resolve]
      exact bind_eq_or (hparts hclosed) (if_pos (beqEach_self parts))
    | generic base arguments =>
      have harguments : arguments.map asReference = arguments :=
        (List.map_congr_left fun a ha => asReference_of_isClosed (areClosed_iff.1 hclosed a ha)).trans
          (List.map_id' arguments)
      rw [resolve, harguments]
      exact bind_eq_or (hparts hclosed) rfl
    | other title parts =>
      rw [resolve]
      exact bind_eq_or (hparts hclosed) rfl
    | final inner =>
      cases inner with
      | none => exact .inl rfl
      | some inner =>
        rw [resolve]
        exact bind_eq_or (ih (h := inner) hclosed seen false) rfl
    | shared inner =>
      cases inner with
      | none => exact .inl rfl
      | some inner =>
        rw [resolve]
        exact bind_eq_or (ih (h := inner) hclosed seen false) rfl
    | single c => exact .inl rfl
    | constant digits => exact .inl rfl
    | improper title => exact .inl rfl
    | nothing => cases hclosed
    | annotated inner => cases hclosed
    | forward name => cases hclosed
    | unread text => cases hclosed

def IsKnown (h : Hint) : Prop := h.unwrap.1.kind ≠ .unknown

theorem exists_single_of_kind (hkind : h.kind ≠ .unknown) : ∃ c, h = single c := by
  cases h with
  | single c => exact ⟨c, rfl⟩
  | _ => exact absurd rfl hkind

theorem exists_filter_of_isKnown {barred : Bool} {parts : List Hint}
    (hknown : (choice barred parts).IsKnown) :
    ∃ c, (parts.filter fun part => !part.isNone) = [single c] := by
  simp only [IsKnown, unwrap] at hknown
  split at hknown
  · next inner hinner =>
    obtain ⟨c, rfl⟩ := exists_single_of_kind hknown
    exact ⟨c, hinner⟩
  · exact absurd rfl hknown

theorem exists_single_of_mem {barred : Bool} {parts : List Hint}
    (hknown : (choice barred parts).IsKnown) {part : Hint} (hpart : part ∈ parts) :
    ∃ c, part = single c := by
  obtain ⟨c, hinner⟩ := exists_filter_of_isKnown hknown
  cases hnone : part.isNone with
  | true =>
    cases part with
    | single c => exact ⟨c, rfl⟩
    | _ => cases hnone
  | false =>
    have hmem : part ∈ parts.filter fun part => !part.isNone :=
      List.mem_filter.2 ⟨hpart, by rw [hnone]; rfl⟩
    rw [hinner] at hmem
    exact ⟨c, List.mem_singleton.1 hmem⟩

theorem isClosed_of_isKnown (hknown : h.IsKnown) : h.isClosed = true := by
  cases h with
  | single c => rfl
  | choice barred parts =>
    refine areClosed_iff.2 fun part hpart => ?_
    obtain ⟨c, rfl⟩ := exists_single_of_mem hknown hpart
    rfl
  | _ => exact absurd rfl hknown

/-- A closed type may stand in a place, unless it is of a sort that rules do not know. -/
theorem standing_of_isClosed (hclosed : h.isClosed = true) (isWhole : Bool) :
    (if isWhole then h.asWhole? else h.asArgument?) = some h ∨
      (if isWhole then h.asWhole? else h.asArgument?) = none ∧ ¬ h.IsKnown := by
  cases h with
  | single c => cases isWhole <;> exact .inl rfl
  | choice barred parts => cases isWhole <;> exact .inl rfl
  | generic base arguments => cases isWhole <;> exact .inl rfl
  | constant digits => cases isWhole <;> exact .inl rfl
  | other title parts => cases isWhole <;> exact .inl rfl
  | final inner =>
    cases isWhole with
    | true => exact .inl rfl
    | false => exact .inr ⟨rfl, fun hknown => hknown rfl⟩
  | shared inner =>
    cases isWhole with
    | true => exact .inl rfl
    | false => exact .inr ⟨rfl, fun hknown => hknown rfl⟩
  | improper title => cases isWhole <;> exact .inr ⟨rfl, fun hknown => hknown rfl⟩
  | nothing => cases hclosed
  | annotated inner => cases hclosed
  | forward name => cases hclosed
  | unread text => cases hclosed

def written (r : Resolver) (names : Names) : Hint → Except AnnotationFault Hint
  | unread text => r.evaluate names text
  | h => .ok h

theorem written_of_isClosed (hclosed : h.isClosed = true) : h.written r names = .ok h := by
  cases h with
  | unread => cases hclosed
  | _ => rfl

end Hint

namespace Notes

open Hint

variable {r : Resolver} {notes : Notes} {names : Names} {held hint : Hint}

theorem alone?_eq_some_iff : notes.alone? r held = .ok (some hint) ↔
    held.written r notes.alone = .ok hint ∧ hint ≠ nothing := by
  cases held with
  | unread text =>
    rw [alone?, written]
    constructor
    · intro halone
      split at halone
      · cases halone
      · next found hne hfound =>
        obtain rfl := Option.some.inj (Except.ok.inj halone)
        exact ⟨hfound, fun hnothing => hne (hnothing ▸ rfl)⟩
      · cases halone
      · cases halone
    · rintro ⟨hfound, hne⟩
      rw [hfound]
      cases hint with
      | nothing => exact absurd rfl hne
      | _ => rfl
  | nothing => exact ⟨nofun, fun h => absurd (Except.ok.inj h.1).symm h.2⟩
  | _ =>
    constructor
    · intro halone
      obtain rfl := Option.some.inj (Except.ok.inj halone)
      exact ⟨rfl, nofun⟩
    · exact fun h => congrArg (Except.ok ∘ some) (Except.ok.inj h.1)

theorem alone?_congr {notes' : Notes}
    (h : held.written r notes.alone = held.written r notes'.alone) :
    notes.alone? r held = notes'.alone? r held := by
  cases held with
  | unread text =>
    rw [written, written] at h
    rw [alone?, alone?, h]
  | _ => rfl

/-- What an annotation says is left as it is where nothing is to be resolved in it. Even then it may
be no proper type, or not be read where it is referred to, or its parts be too deep. -/
theorem resolvedIn_of_isClosed (notes : Notes) (hwritten : held.written r names = .ok hint)
    (hclosed : hint.isClosed = true) : notes.resolvedIn r names held = .ok hint ∨
      ∃ fault, notes.resolvedIn r names held = .error fault ∧
        (fault = .unresolved → ¬ hint.IsKnown) := by
  cases held with
  | unread text =>
    rw [resolvedIn]
    cases r.depth with
    | zero => exact .inr ⟨.other, by rw [asType, resolve], nofun⟩
    | succ depth =>
      have hfound : r.evaluate names text = .ok hint := hwritten
      generalize (notes.ofClass && (unread text).isText) = isWhole
      have hsteps : resolve r names depth [text] isWhole hint = .ok hint ∨
          resolve r names depth [text] isWhole hint = .error .other :=
        resolve_of_isClosed hclosed depth [text] isWhole
      rw [asType, resolve]
      rcases r.refer_cases names text with hrefer | hrefer | hevaluate
      · rw [hrefer, hfound]
        rcases standing_of_isClosed hclosed isWhole with hstanding | ⟨hstanding, hknown⟩
        · rcases hsteps with hresolved | hresolved
          · exact .inl (by simp [bind, Except.bind, hstanding, hresolved])
          · exact .inr ⟨.other, by simp [bind, Except.bind, hstanding, hresolved], nofun⟩
        · refine .inr ⟨.unresolved, ?_, fun _ => hknown⟩
          simp [bind, Except.bind, hstanding, throw, throwThe, MonadExceptOf.throw]
      · exact .inr ⟨.unreadable, by rw [hrefer]; rfl, nofun⟩
      · cases hfound.symm.trans hevaluate
  | nothing =>
    cases hwritten
    cases hclosed
  | _ =>
    obtain rfl := Except.ok.inj hwritten
    rw [resolvedIn, asType_of_isClosed hclosed]
    exact (resolve_of_isClosed hclosed _ _ _).imp_right fun hfault => ⟨.other, hfault, nofun⟩

end Notes

end RuleCheck
