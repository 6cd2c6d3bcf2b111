import RuleCheck.Proofs.Authored.Respelled

/-!
# Texts that are respelled apart

Characters that stand in no entry of the tables part a rule into texts that are respelled apart,
and the placeholder is kept. In a text without operators and spaces nothing changes but the word
for nothing.
-/

set_option autoImplicit false

namespace RuleCheck.Authored

open Text

theorem operators_append_cons {c : Char} (hc : c ∉ marks) (a b : List Char) :
    operators (a ++ c :: b) = operators a ++ c :: operators b := by
  have apart {p : List Char} (hp : ∀ d ∈ p, d ∈ marks) : ∀ d ∈ p, (d == c) = false :=
    fun d hd => beq_eq_false_iff_ne.2 fun h => hc (h ▸ hp d hd)
  simp only [operators_eq]
  rw [replaceWith_append_cons (apart (by decide)), replaceWith_append_cons (apart (by decide)),
    replaceWith_append_cons (apart (by decide)), replaceWith_append_cons (apart (by decide)),
    replaceWith_append_cons (apart (by decide))]

theorem sameLetter_mark {c : Char} (hc : c ∉ marks) {d : Char} (hd : d ∈ nullLetters) :
    sameLetter d c = false := by
  have hmarks : ∀ d ∈ nullLetters, d.toLower ∈ marks ∧ d.toUpper ∈ marks := by decide
  exact sameLetter_eq_false hd
    ⟨fun h => hc (h ▸ (hmarks d hd).1), fun h => hc (h ▸ (hmarks d hd).2)⟩

theorem nulls_append_cons {c : Char} (hc : c ∉ marks) (a b : List Char) :
    nulls (a ++ c :: b) = nulls a ++ c :: nulls b := by
  have apart {p : List Char} (hp : ∀ d ∈ p, d ∈ nullLetters) : ∀ d ∈ p, sameLetter d c = false :=
    fun d hd => sameLetter_mark hc (hp d hd)
  simp only [nulls_eq, equalNulls, unequalNulls, capitalNulls]
  rw [replaceWith_append_cons (apart (by decide)), replaceWith_append_cons (apart (by decide)),
    replaceWith_append_cons (apart (by decide))]

/-- A character that stands in no entry of the tables parts the rule in two. -/
theorem respelled_append_cons {c : Char} (hc : c ∉ marks) (a b : List Char) :
    respelled (a ++ c :: b) = respelled a ++ c :: respelled b := by
  have hspace : c ≠ ' ' := by
    rintro rfl
    exact hc (by decide)
  simp only [respelled]
  rw [squeeze_append_cons hspace, operators_append_cons hc, nulls_append_cons hc,
    squeeze_append_cons hspace]

def written : List Char :=
  [' ', '<', '>', '=', 'N', 'O', 'T', 'A', 'D', 'R', 'I', 'S', 'U', 'L']

/-- A text of characters that stand in no rule for nothing occurs as before. -/
theorem contains_nulls {d : Char} {p : List Char}
    (hletters : ∀ e ∈ d :: p, ∀ x ∈ nullLetters, e ≠ x.toLower ∧ e ≠ x.toUpper)
    (hwritten : ∀ e ∈ d :: p, e ∉ written) (text : List Char) :
    contains (d :: p) (nulls text) = contains (d :: p) text := by
  have hold {o : Char} {old : List Char} (hold : ∀ x ∈ o :: old, x ∈ nullLetters) :
      ∀ e ∈ d :: p, ∀ x ∈ o :: old, sameLetter x e = false :=
    fun e he x hx => sameLetter_eq_false (hold x hx) (hletters e he x (hold x hx))
  have hnew {new : List Char} (hnew : ∀ c ∈ new, c ∈ written) : ∀ c ∈ new, c ∉ d :: p :=
    fun c hc he => hwritten c he (hnew c hc)
  rw [nulls_eq, capitalNulls, contains_replaceWith (hold (by decide)) (hnew (by decide)),
    unequalNulls, contains_replaceWith (hold (by decide)) (hnew (by decide)), equalNulls,
    contains_replaceWith (hold (by decide)) (hnew (by decide))]

theorem contains_respelled (text : List Char) :
    contains placeholder (respelled text) = contains placeholder text := by
  rw [respelled, placeholder, contains_squeeze (by decide), contains_nulls (by decide) (by decide),
    operators_eq, contains_replaceWith (by decide) (by decide),
    contains_replaceWith (by decide) (by decide), contains_replaceWith (by decide) (by decide),
    contains_replaceWith (by decide) (by decide), contains_replaceWith (by decide) (by decide),
    contains_squeeze (by decide)]

theorem contains_canonical (text : List Char) :
    contains placeholder (canonical text) = contains placeholder text := by
  rw [canonical_eq, placeholder, contains_trim (by decide), ← placeholder, contains_respelled]

theorem mem_respelled {c : Char} {text : List Char} (h : c ∈ respelled text) :
    c ∈ text ∨ c ∈ written := by
  have step {same : Char → Char → Bool} {o : Char} {old new text : List Char} {p : Prop}
      (hnew : ∀ c ∈ new, c ∈ written) (hrest : c ∈ text → p ∨ c ∈ written)
      (h : c ∈ replaceWith same o old new text) : p ∨ c ∈ written :=
    (mem_replaceWith h).elim hrest fun hc => .inr (hnew c hc)
  rw [respelled, nulls_eq, operators_eq] at h
  exact step (by decide) (step (by decide) (step (by decide) (step (by decide) (step (by decide)
    (step (by decide) (step (by decide) (step (by decide) fun hc => .inl (mem_squeeze hc))))))))
    (mem_squeeze h)

def signs : List Char := ['!', '=', '&', '|', '<', ' ']

/-- In a text without operators and spaces nothing changes but the word for nothing. -/
theorem respelled_plain {cs : List Char} (hcs : ∀ c ∈ cs, c ∉ signs) (text : List Char) :
    respelled (cs ++ text) =
      squeeze (capitalNulls (cs ++ unequalNulls (equalNulls (operators (squeeze text))))) := by
  have hspace : ∀ c ∈ cs, c ≠ ' ' := by
    rintro c hc rfl
    exact hcs _ hc (by decide)
  have hoperator : ∀ c ∈ cs, c ∉ operatorFronts :=
    fun c hc h => hcs c hc (List.mem_append_left _ h)
  have hsign {x : Char} (hx : x ∈ nullLetters) (hlower : x.toLower ∈ signs)
      (hupper : x.toUpper ∈ signs) : ∀ c ∈ cs, sameLetter x c = false :=
    fun c hc => sameLetter_eq_false hx
      ⟨fun h => hcs c hc (h ▸ hlower), fun h => hcs c hc (h ▸ hupper)⟩
  rw [respelled, squeeze_append hspace, operators_pass_all hoperator, nulls_eq, equalNulls,
    replaceWith_pass_all (hsign (by decide) (by decide) (by decide)), unequalNulls,
    replaceWith_pass_all (hsign (by decide) (by decide) (by decide))]
  rfl

theorem mem_capitalNulls {c : Char} {cs : List Char} (h : c ∈ capitalNulls cs) :
    c ∈ cs ∨ c ∈ ['N', 'U', 'L', 'L'] := mem_replaceWith h

theorem ne_space_of_mem_capitalNulls {cs : List Char} (hcs : ∀ c ∈ cs, c ∉ signs) :
    ∀ c ∈ capitalNulls cs, c ≠ ' ' := by
  rintro c hc rfl
  rcases mem_capitalNulls hc with h | h
  · exact hcs _ h (by decide)
  · exact absurd h (by decide)

theorem respelled_eq_capitalNulls {cs : List Char} (hcs : ∀ c ∈ cs, c ∉ signs) :
    respelled cs = capitalNulls cs := by
  have hplain := respelled_plain hcs []
  have hsqueeze := squeeze_append (ne_space_of_mem_capitalNulls hcs) []
  rw [List.append_nil] at hplain hsqueeze
  rw [hplain, squeeze, operators_nil, equalNulls, replaceWith_nil, unequalNulls, replaceWith_nil,
    List.append_nil, hsqueeze, squeeze, List.append_nil]

def continuesNull (c : Char) : Bool := nullWord.any fun d => eitherCase d c

theorem apart_of_continuesNull {text : List Char} (h : text.head?.any continuesNull = false) :
    ∀ c ∈ text.head?, ∀ d ∈ nullWord, sameLetter d c = false := by
  intro c hc d hd
  have hletters : ∀ d ∈ nullWord, d ∈ nullLetters := by decide
  rw [Option.mem_def.1 hc] at h
  rw [sameLetter_eq (hletters d hd)]
  exact Bool.eq_false_iff.2 (List.any_eq_false.1 h d hd)

/-- The word for nothing at the front of a text is found in it alone, unless what follows
goes on with a letter of that word. -/
theorem afterNull?_append {cs text : List Char} (h : text.head?.any continuesNull = false) :
    afterNull? (cs ++ text) = (afterNull? cs).map (· ++ text) := by
  have hapart := apart_of_continuesNull h
  cases text with
  | nil =>
    cases hfound : afterNull? cs <;> simp [hfound]
  | cons c text => exact afterMatch?_append_cons (hapart c rfl) cs

/-- A text without operators and spaces is respelled apart from what follows it, unless that
goes on with a letter of the word for nothing. -/
theorem respelled_plain_append {cs : List Char} (hcs : ∀ c ∈ cs, c ∉ signs) {text : List Char}
    (h : text.head?.any continuesNull = false) :
    respelled (cs ++ text) = respelled cs ++ respelled text := by
  have hhead : (unequalNulls (equalNulls (operators (squeeze text)))).head?.any continuesNull =
      false := by
    have hspace : continuesNull ' ' = false := by decide
    have hless : continuesNull '<' = false := by decide
    refine any_head?_replaceWith (fun _ _ hp => absurd hp (by simp [hspace])) ?_
    refine any_head?_replaceWith (fun _ _ hp => absurd hp (by simp [hspace])) ?_
    exact any_head?_operators hless hspace (by rwa [head?_squeeze])
  rw [respelled_plain hcs, capitalNulls, replaceWith_append (apart_of_continuesNull hhead),
    ← capitalNulls, squeeze_append (ne_space_of_mem_capitalNulls hcs),
    respelled_eq_capitalNulls hcs]
  rfl

/-- The first character of a text without operators and spaces stays, or becomes a capital. -/
theorem respelled_plain_cons {c : Char} {cs : List Char} (hcs : ∀ d ∈ c :: cs, d ∉ signs) :
    ∃ d ds, respelled (c :: cs) = d :: ds ∧ (d = c ∨ d = 'N') ∧
      ∀ e ∈ ds, e ∈ cs ∨ e ∈ ['N', 'U', 'L', 'L'] := by
  rw [respelled_eq_capitalNulls hcs, capitalNulls]
  cases hfound : afterMatch? sameLetter ['n', 'u', 'l', 'l'] (c :: cs) with
  | none => exact ⟨c, capitalNulls cs, replaceWith_cons hfound, .inl rfl, fun _ => mem_capitalNulls⟩
  | some rest =>
    refine ⟨'N', ['U', 'L', 'L'] ++ capitalNulls rest, replaceWith_of_match hfound, .inr rfl, ?_⟩
    have hrest : rest <:+ cs := by
      simp only [afterMatch?] at hfound
      split at hfound
      · exact suffix_of_afterMatch? (p := ['u', 'l', 'l']) hfound
      · cases hfound
    intro e he
    rcases List.mem_append.1 he with he | he
    · exact .inr (List.mem_cons_of_mem 'N' he)
    · exact (mem_capitalNulls he).imp_left fun he => hrest.subset he

theorem isBlank_of_replaceWith {same : Char → Char → Bool} {o : Char} {old new text : List Char}
    (hnew : isBlank new = false) (h : isBlank (replaceWith same o old new text) = true) :
    isBlank text = true := by
  fun_induction replaceWith same o old new text with
  | case1 text rest hfound ih =>
    rw [isBlank, List.all_append, ← isBlank, hnew] at h
    cases h
  | case2 => rfl
  | case3 c text hnone ih =>
    rw [isBlank, List.all_cons, Bool.and_eq_true] at h ⊢
    exact ⟨h.1, ih h.2⟩

theorem isBlank_of_respelled {text : List Char} (h : isBlank (respelled text) = true) :
    isBlank text = true := by
  rw [respelled, isBlank_squeeze, nulls_eq, operators_eq] at h
  have h := isBlank_of_replaceWith (by decide) h
  have h := isBlank_of_replaceWith (by decide) h
  have h := isBlank_of_replaceWith (by decide) h
  have h := isBlank_of_replaceWith (by decide) h
  have h := isBlank_of_replaceWith (by decide) h
  have h := isBlank_of_replaceWith (by decide) h
  have h := isBlank_of_replaceWith (by decide) h
  rw [← isBlank_squeeze]
  exact isBlank_of_replaceWith (by decide) h

end RuleCheck.Authored
