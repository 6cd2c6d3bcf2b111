import RuleCheck.Template

/-!
# Templates that reach only texts

A template that asks no text for an attribute does not depend on what attributes there are: each
stage comes to the same whatever things can be reached. The bare things, where every attribute is
refused, tell the templates that ask for one.
-/

set_option autoImplicit false

namespace RuleCheck.Template

open Text

def Reaches {α β : Type} (lift : α → β) (bare : Except TemplateDefect α)
    (run : Except TemplateDefect β) : Prop :=
  bare = .error .attribute ∨ run = bare.map lift

namespace Reaches

variable {α β γ δ : Type} {lift : α → β} {lift' : γ → δ} {bare : Except TemplateDefect α}
  {run : Except TemplateDefect β}

theorem same (x : Except TemplateDefect α) : Reaches id x x := by
  refine .inr ?_
  cases x <;> rfl

theorem bind {next : α → Except TemplateDefect γ} {next' : β → Except TemplateDefect δ}
    (h : Reaches lift bare run) (hnext : ∀ a, Reaches lift' (next a) (next' (lift a))) :
    Reaches lift' (bare >>= next) (run >>= next') := by
  rcases h with rfl | rfl
  · exact .inl rfl
  · cases bare with
    | error defect => exact .inr rfl
    | ok a => exact hnext a

end Reaches

variable [Things]

def Part.lift : Part Empty → Part Things.Thing
  | .text cs => .text cs
  | .thing t => nomatch t

theorem reaches_itemOf (part : Part Empty) (index : List Char) :
    Reaches Part.lift (@itemOf Things.bare part index) (itemOf part.lift index) := by
  cases part with
  | thing t => cases t
  | text cs =>
    refine (Reaches.same (number? index)).bind fun n => ?_
    cases n with
    | none => exact .inr rfl
    | some n =>
      refine .inr ?_
      cases hc : cs[n]? with
      | none =>
        simp only [Part.lift, id, hc]
        rfl
      | some c =>
        simp only [Part.lift, id, hc]
        rfl

theorem select_unread {limit : Nat} {part : Part Things.Thing} {c : Char} {cs : List Char}
    (h : limit = 0 ∨ c ≠ '[' ∧ c ≠ '.') : select limit part (c :: cs) = .error .format := by
  refine select.eq_4 limit part (c :: cs) (List.cons_ne_nil c cs) ?_ ?_
  all_goals
    rintro n ds rfl heq
    obtain rfl := (List.cons.inj heq).1
    rcases h with h | ⟨hopening, hpoint⟩
    · cases h
    · contradiction

theorem reaches_select (limit : Nat) (part : Part Empty) (cs : List Char) :
    Reaches Part.lift (@select Things.bare limit part cs) (select limit part.lift cs) := by
  induction limit generalizing part cs with
  | zero =>
    cases cs with
    | nil => exact .inr rfl
    | cons c cs =>
      rw [@select_unread Things.bare _ _ _ _ (.inl rfl), select_unread (.inl rfl)]
      exact .inr rfl
  | succ limit ih =>
    cases cs with
    | nil => exact .inr rfl
    | cons c cs =>
      by_cases hopening : c = '['
      · subst hopening
        rw [@select.eq_2 Things.bare, select.eq_2]
        cases cs.dropWhile (· != ']') with
        | nil => exact .inr rfl
        | cons sign rest =>
          cases cs.takeWhile (· != ']') with
          | nil => exact .inr rfl
          | cons d index => exact (reaches_itemOf part _).bind fun part => ih part rest
      · by_cases hpoint : c = '.'
        · subst hpoint
          rw [@select.eq_3 Things.bare, select.eq_3]
          cases cs.takeWhile fun c => c != '.' && c != '[' with
          | nil => exact .inr rfl
          | cons d name => exact .inl rfl
        · have hother : limit + 1 = 0 ∨ c ≠ '[' ∧ c ≠ '.' := .inr ⟨hopening, hpoint⟩
          rw [@select_unread Things.bare _ _ _ _ hother, select_unread hother]
          exact .inr rfl

theorem reaches_convert (conversion : Option Char) (part : Part Empty) :
    Reaches Part.lift (@convert Things.bare conversion part) (convert conversion part.lift) := by
  cases part with
  | thing t => cases t
  | text cs =>
    cases conversion with
    | none => exact .inr rfl
    | some c =>
      show Reaches _ ((quotedText c cs).map Part.text) ((quotedText c cs).map Part.text)
      cases quotedText c cs <;> exact .inr rfl

theorem reaches_shownPart (subject : List Char) (numbering : Numbering) (s : Slot) :
    Reaches (Prod.map Part.lift id) (@shownPart Things.bare subject numbering s)
      (shownPart subject numbering s) := by
  refine (Reaches.same (subjectNumber numbering (splitName s.name).1)).bind fun found => ?_
  show Reaches _ (if found.1 ≠ 0 then _ else _) (if found.1 ≠ 0 then _ else _)
  by_cases h : found.1 ≠ 0
  · rw [if_pos h, if_pos h]
    exact .inr rfl
  · rw [if_neg h, if_neg h]
    refine (reaches_select _ (.text subject) _).bind fun part => ?_
    exact (reaches_convert s.conversion part).bind fun shown => .inr rfl

theorem reaches_render (part : Part Empty) (layout : List Char) :
    Reaches id (@render Things.bare part layout) (render part.lift layout) := by
  cases part with
  | thing t => cases t
  | text cs => exact .same _

/-- Writing a template and writing the layout of a field call each other, each time with less left
of the limit. -/
theorem reaches_writing (subject : List Char) (limit : Nat) :
    (∀ depth numbering cs, Reaches id (@write Things.bare subject depth limit numbering cs)
        (write subject depth limit numbering cs)) ∧
      ∀ depth numbering s, Reaches id (@writeLayout Things.bare subject depth limit numbering s)
        (writeLayout subject depth limit numbering s) := by
  induction limit with
  | zero =>
    refine ⟨fun _ _ _ => .same _, fun depth numbering s => ?_⟩
    unfold writeLayout
    cases depth <;> exact .same _
  | succ limit ih =>
    obtain ⟨hwrite, hlayout⟩ := ih
    refine ⟨fun depth numbering cs => ?write, fun depth numbering s => ?layout⟩
    case write =>
      rw [@write.eq_2 Things.bare, write.eq_2]
      refine (Reaches.same (literal cs)).bind fun found => ?_
      rcases found with ⟨text, rest⟩
      cases rest with
      | none => exact .inr rfl
      | some rest =>
        refine (Reaches.same (slot rest)).bind fun found => ?_
        refine (reaches_shownPart subject numbering found.1).bind fun shown => ?_
        refine (hlayout depth shown.2 found.1).bind fun layout => ?_
        refine (reaches_render shown.1 layout.1).bind fun text => ?_
        exact (hwrite depth layout.2 found.2).bind fun more => .inr rfl
    case layout =>
      unfold writeLayout
      cases depth with
      | zero => exact .same _
      | succ depth =>
        by_cases hnested : (!s.nested) = true
        · simp only [hnested, if_true]
          exact .same _
        · simp only [hnested]
          exact hwrite depth numbering s.layout

/-- A template asks for an attribute, or it is filled in alike whatever things there are. -/
theorem fill_bare (template subject : String) :
    @fill Things.bare template subject = .error (.template .attribute) ∨
      fill template subject = @fill Things.bare template subject := by
  rcases (reaches_writing subject.toList (2 * template.toList.length + 2)).1 1 .unset
    template.toList with h | h
  · left
    rw [@fill.eq_1 Things.bare, h]
    rfl
  · right
    rw [@fill.eq_1 Things.bare, fill, h]
    cases @write Things.bare subject.toList 1 (2 * template.toList.length + 2) .unset
      template.toList <;> rfl

end RuleCheck.Template
