import RuleCheck.Proofs.Authored.Checked
import RuleCheck.Proofs.Authored.Untouched
import RuleCheck.Proofs.Row.Single

/-!
# Texts in authored rules

Respelling does not spare texts in quotes: a text stands for what it is respelled as. A rule
that compares a member with its own text holds just if respelling keeps that text, at least
up to distinctions of case where these do not count.
-/

set_option autoImplicit false

namespace RuleCheck.Authored

open Text Lexeme

def textRule (s : String) : List Char :=
  ['N', 'a', 'm', 'e', ' ', '=', ' ', '\''] ++ doubled s.toList ++ ['\'']

def textEntry (title s : String) : Candidate := .mapping title [("Name", .text s)]

def sameText (keepCase : Bool) (s t : String) : Bool :=
  if keepCase then s == t else fold s == fold t

def meant (s : String) : String := String.ofList (respelled s.toList)

theorem contains_textRule (s : String) :
    contains placeholder (textRule s) = contains placeholder s.toList := by
  have hfront : ∀ c ∈ ['N', 'a', 'm', 'e', ' ', '=', ' ', '\''], c ≠ '{' := by decide
  rw [textRule, List.append_assoc, placeholder, contains_pass_all hfront,
    contains_append_cons (by decide), ← placeholder, contains_doubled]
  exact Bool.or_false _

theorem scan_textRule (s : String) :
    scan (respelled (textRule s)) = .ok [name "Name", comparison .eq, text (meant s)] := by
  have hsplit : textRule s = 'N' :: ['a', 'm', 'e'] ++
      ' ' :: (['='] ++ ' ' :: ('\'' :: doubled s.toList ++ ['\''] ++ [])) := by
    simp [textRule]
  have hbegins : BeginsWord 'N' := by decide
  have hparts : ∀ c ∈ ['a', 'm', 'e'], isWordPart c = true := by decide
  have hname : respelled ('N' :: ['a', 'm', 'e']) = ['N', 'a', 'm', 'e'] := by decide +kernel
  have hspace : isWordPart ' ' = false := by decide
  have hnull : afterSpacedNull? (' ' :: ('\'' :: doubled s.toList ++ ['\''] ++ [])) = none :=
    afterNull?_of_head (by exact sameLetter_eq_false (by decide) (by decide))
  have hword : ofWord (String.ofList (respelled ('N' :: ['a', 'm', 'e']))) = name "Name" := by
    rw [hname]
    decide
  rw [hsplit, scan_word hbegins hparts (by exact hspace), hword, scan_respelled_space,
    scan_equality rfl (by simp) hnull, scan_respelled_space, scan_text s.toList (by simp),
    respelled_nil, scan_nil]
  rfl

def textTest (t : String) : Expr := .compare .eq (.member "Name" 0) (.literal (.text t))

theorem spells_textTest (t : String) :
    Spells 1 [name "Name", comparison .eq, text t] (textTest t) := by
  have hname : Spells 9 [name "Name"] (.member "Name" 0) := .atom fun u hu => ⟨_, .member hu, rfl⟩
  have htext : Spells 9 [text t] (.literal (.text t)) := .atom fun u hu => ⟨_, .text hu, rfl⟩
  exact (Spells.compare .eq (hname.enclosed (n := 9) (by decide) (by decide))
    (htext.enclosed (n := 9) (by decide) (by decide))).enclosed (by decide) (by decide)

theorem value_textTest (keepCase : Bool) (s t : String) :
    (textTest t).value (.single "Name" (.text (some s)) keepCase) =
      .ok (.bool (sameText keepCase s t)) := by
  have hget : (Row.single "Name" (.text (some s)) keepCase).get "Name" = .ok (.text s) :=
    Row.get_single (by decide)
  have hcompare : Value.compare .eq (Row.single "Name" (.text (some s)) keepCase).keepCase
      (.text s) (.text t) = .ok (some (sameText keepCase s t)) := by
    cases keepCase <;> rfl
  simp only [textTest, Expr.value, hget, bind, Except.bind, pure, Except.pure, hcompare]
  rfl

theorem sameText_refl (keepCase : Bool) (s : String) : sameText keepCase s s = true := by
  cases keepCase <;> exact beq_self_eq_true _

theorem conclude_eq_passed [Things] {settings : Check.Source} {candidate : Candidate} {c : Check}
    {holds : Bool} : Check.conclude settings candidate c holds = .ok .passed ↔ holds = true := by
  cases holds with
  | true => exact ⟨fun _ => rfl, fun _ => rfl⟩
  | false =>
    refine ⟨fun h => ?_, nofun⟩
    obtain ⟨message, -, houtcome⟩ := exists_of_bind_eq_ok h
    cases houtcome

section

variable (st : Settings) (title : String) (message : Option String) (s : String)

def textBinding : Binding := ⟨"Name", .single .text, .text s⟩

theorem column_textBinding : (textBinding s).column = .ok (.text (some s)) := by
  show Except.ok (Column.text (some (String.ofList s.toList))) = _
  rw [String.ofList_toList]

theorem bindings_textEntry : (textEntry title s).bindings none = .ok [textBinding s] := by
  have hpublic : isPublic "Name" = true := by decide
  have hmembers : (textEntry title s).members = .ok [describeValue "Name" (.text s)] := by
    simp [textEntry, Candidate.members, hpublic]
  have hread : (textEntry title s).read "Name" = .text s := by
    simp [textEntry, Candidate.read]
  have hbind : (textEntry title s).bind (describeValue "Name" (.text s)) = textBinding s := by
    show Binding.mk "Name" _ ((textEntry title s).read "Name") = _
    rw [hread]
    rfl
  have heligible : (describeValue "Name" (.text s)).isEligible = true := rfl
  rw [Candidate.bindings]
  simp only [hmembers, bind, Except.bind]
  simp [heligible, hbind]
  rfl

def textCheck : Check := ⟨some (String.ofList (textRule s)), none, message, none⟩

variable [Things]

theorem validate_textCheck (h : contains placeholder s.toList = false) :
    validate (.ok st) (textEntry title s) (textCheck message s) =
      Check.conclude (.ok st) (textEntry title s) (textCheck message s)
        (sameText st.keepCase s (meant s)) := by
  have hname : (textBinding s).name ≠ resultName := by
    show "Name" ≠ resultName
    decide
  have hvalue := value_textTest st.keepCase s (meant s)
  have hfound := Expr.evaluation_single (b := textBinding s) rfl hname (column_textBinding s) hvalue
    rfl rfl
  have hplain := (contains_textRule s).trans h
  exact validate_of_scan (c := textCheck message s) rfl hplain (scan_textRule s)
    (spells_textTest (meant s)) (bindings_textEntry title s) hfound

/-- Where the text holds a placeholder, there is no member to fill in. -/
theorem validate_textCheck_of_placeholder (h : contains placeholder s.toList = true) :
    validate (.ok st) (textEntry title s) (textCheck message s) =
      .error (.fault ⟨.placeholder, some (String.ofList (textRule s))⟩) := by
  have hmarked := (contains_textRule s).trans h
  have hblank : isBlank (textRule s) = false := rfl
  have hevaluate : Check.evaluate (.ok st) (String.ofList (textRule s)) none [textBinding s] =
      .error (.fault ⟨.placeholder, some (String.ofList (textRule s))⟩) := by
    rw [Check.evaluate, normalize_of_contains hmarked]
    rfl
  refine (validate_eq (.ok st) (textEntry title s) (textCheck message s) (textRule s)).trans ?_
  rw [hblank]
  show (do let bindings ← (textEntry title s).bindings none; _) = _
  rw [bindings_textEntry]
  show (do let found ← Check.evaluate (.ok st) _ none [textBinding s]; _) = _
  rw [hevaluate]
  rfl

/-- The check succeeds just if the text holds no placeholder and stands for itself, and then in
particular if no entry of the tables occurs in it. -/
theorem validate_text :
    (validate (.ok st) (textEntry title s) (textCheck message s) = .ok .passed ↔
      contains placeholder s.toList = false ∧ sameText st.keepCase s (meant s) = true) ∧
    (Untouched s.toList →
      validate (.ok st) (textEntry title s) (textCheck message s) = .ok .passed) := by
  have hiff : validate (.ok st) (textEntry title s) (textCheck message s) = .ok .passed ↔
      contains placeholder s.toList = false ∧ sameText st.keepCase s (meant s) = true := by
    cases h : contains placeholder s.toList with
    | true =>
      rw [validate_textCheck_of_placeholder st title message s h]
      exact ⟨nofun, nofun⟩
    | false =>
      rw [validate_textCheck st title message s h, conclude_eq_passed]
      exact ⟨fun hsame => ⟨rfl, hsame⟩, And.right⟩
  refine ⟨hiff, fun h => hiff.2 ⟨h.unmarked, ?_⟩⟩
  rw [meant, h.respelled_eq, String.ofList_toList, sameText_refl]

end

open scoped Things in
theorem validate_company :
    Untouched "O'Neil & Co".toList ∧
      validate (.ok { plainSettings with keepCase := true }) (textEntry "dict" "O'Neil & Co")
        (textCheck none "O'Neil & Co") = .ok .passed := by
  have h : Untouched "O'Neil & Co".toList :=
    ⟨by decide, by decide, by decide, by decide, by decide,
      by decide, by decide⟩
  exact ⟨h, (validate_text _ "dict" none "O'Neil & Co").2 h⟩

open scoped Things in
/-- Of two spaces in a text one is lost. -/
theorem validate_twoSpaces :
    (validate (.ok plainSettings) (textEntry "dict" "a  b") (textCheck none "a  b")).toOption =
      some (.failed (some "The field dict is invalid.") []) := by
  decide +kernel

end RuleCheck.Authored
