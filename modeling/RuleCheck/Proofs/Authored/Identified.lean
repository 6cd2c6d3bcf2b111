import RuleCheck.Proofs.Authored.Literal
import RuleCheck.Proofs.Authored.Printed
import RuleCheck.Proofs.Expr.Verdict
import RuleCheck.Proofs.Member.Mapping
import RuleCheck.Proofs.Template.Message

/-!
# Identifiers in authored rules

Respelling does not spare identifiers: the word for nothing becomes capitals also inside a
name, which look-up without distinctions of case mends where only one entry has the name but
for its case. Behind an equality the word for nothing is taken off the front of a name, and
nothing mends that. A rule that two entries of a mapping are equal holds just if their
integers are, unless the names are of these sorts.
-/

set_option autoImplicit false

namespace RuleCheck.Authored

open Text Lexeme

theorem flatMap_afterMatch? {f : Char → List Char} {p text rest : List Char}
    (hf : ∀ d ∈ nullWord, f d.toUpper = f d) (hp : ∀ d ∈ p, d ∈ nullWord)
    (h : afterMatch? sameLetter p text = some rest) :
    text.flatMap f = p.flatMap f ++ rest.flatMap f := by
  induction p generalizing text with
  | nil =>
    cases h
    rfl
  | cons d p ih =>
    cases text with
    | nil => cases h
    | cons c text =>
      have hd := hp d List.mem_cons_self
      have hsmall : ∀ d ∈ nullWord, d ∈ nullLetters ∧ d.toLower = d := by decide
      cases hc : sameLetter d c with
      | false =>
        rw [afterMatch?_eq_none hc] at h
        cases h
      | true =>
        rw [afterMatch?_cons hc] at h
        -- Only the small letter and its capital count as the same letter here.
        have hsame : f c = f d := by
          rcases eq_of_sameLetter (hsmall d hd).1 hc with rfl | rfl
          · rw [(hsmall d hd).2]
          · exact hf d hd
        rw [List.flatMap_cons, List.flatMap_cons, hsame, List.append_assoc,
          ih (fun e he => hp e (List.mem_cons_of_mem d he)) h]

/-- Capitals in the word for nothing are nothing to a map that makes no distinction of case. -/
theorem flatMap_capitalNulls {f : Char → List Char} (hf : ∀ d ∈ nullWord, f d.toUpper = f d)
    (text : List Char) : (capitalNulls text).flatMap f = text.flatMap f := by
  have hword : ['N', 'U', 'L', 'L'].flatMap f = nullWord.flatMap f := by
    have hmap : ['N', 'U', 'L', 'L'] = nullWord.map Char.toUpper := by decide
    rw [hmap, List.flatMap_map]
    exact List.flatMap_congr hf
  rw [capitalNulls]
  fun_induction replaceWith sameLetter 'n' ['u', 'l', 'l'] ['N', 'U', 'L', 'L'] text with
  | case1 text rest hfound ih =>
    rw [List.flatMap_append, ih, hword,
      flatMap_afterMatch? (p := nullWord) hf (fun _ => id) hfound]
  | case2 => rfl
  | case3 c text hnone ih => rw [List.flatMap_cons, List.flatMap_cons, ih]

theorem fold_meant {name : String} (h : ∀ c ∈ name.toList, c ∉ signs) :
    fold (meant name) = fold name := by
  rw [fold, meant, String.toList_ofList, respelled_eq_capitalNulls h, foldChars,
    flatMap_capitalNulls (by decide), fold, foldChars]

theorem ofWord?_meant {name : String} (h : ∀ c ∈ name.toList, c ∉ signs) :
    Keyword.ofWord? (meant name) = Keyword.ofWord? name := by
  have hcapitals : capitals (meant name) = capitals name := by
    rw [capitals, meant, String.toList_ofList, respelled_eq_capitalNulls h,
      ← List.flatMap_pure_eq_map, flatMap_capitalNulls (by decide), capitals,
      List.flatMap_pure_eq_map]
  rw [Keyword.ofWord?, hcapitals, Keyword.ofWord?]

structure Identifier (name : String) : Prop where
  start : name.toList.head?.any (fun c => c.isAlpha || c == '_') = true
  parts : ∀ c ∈ name.toList, (c.isAlphanum || c == '_') = true
  notKeyword : Keyword.ofWord? name = none

instance (name : String) : Decidable (Identifier name) :=
  decidable_of_iff (_ ∧ _ ∧ _)
    ⟨fun h => ⟨h.1, h.2.1, h.2.2⟩, fun h => ⟨h.start, h.parts, h.notKeyword⟩⟩

namespace Identifier

variable {name : String}

theorem not_sign (h : Identifier name) : ∀ c ∈ name.toList, c ∉ signs :=
  fun c hc => isWordPart_sign (isWordPart_of_plain (h.parts c hc))

/-- An identifier is read as the member of the name that it is respelled as. -/
theorem reads (h : Identifier name) (position : Nat) :
    Reads 9 name.toList (.member (meant name) position) :=
  reads_word position h.start h.parts ((ofWord?_meant h.not_sign).trans h.notKeyword)

theorem unmarked (h : Identifier name) : Unmarked name.toList :=
  .of_not_mem fun hmem => absurd (h.parts _ hmem) (by decide)

theorem afterSpacedNull? (h : Identifier name) (hnull : afterNull? name.toList = none)
    {text : List Char} (htext : Closes text) :
    Authored.afterSpacedNull? (' ' :: (name.toList ++ text)) = none := by
  have happ : afterNull? (name.toList ++ text) = none := by
    rw [afterNull?_append (htext.any_head? (by decide) (by decide)), hnull]
    rfl
  have hstart := h.start
  cases hcs : name.toList with
  | nil =>
    rw [hcs] at hstart
    cases hstart
  | cons c cs =>
    have hspace : c ≠ ' ' := by
      rintro rfl
      have hletter : (' '.isAlpha || ' ' == '_') = false := by decide
      rw [hcs] at hstart
      exact Bool.eq_false_iff.1 hletter hstart
    rw [hcs, List.cons_append] at happ
    show afterNull? ((c :: (cs ++ text)).dropWhile (· == ' ')) = none
    rwa [List.dropWhile_cons_of_neg (by simpa using hspace)]

end Identifier

/-- The entry of a public key that is an identifier holds an integer of 64 bits. -/
structure Holds (entries : List (String × Value)) (name : String) (n : Int) : Prop where
  identifier : Identifier name
  isPublic : isPublic name = true
  held : (entries.lookup name).bind Value.integer? = some n
  inRange : Column.word64.has n = true

instance (entries : List (String × Value)) (name : String) (n : Int) :
    Decidable (Holds entries name n) :=
  decidable_of_iff (_ ∧ _ ∧ _ ∧ _)
    ⟨fun h => ⟨h.1, h.2.1, h.2.2.1, h.2.2.2⟩,
      fun h => ⟨h.identifier, h.isPublic, h.held, h.inRange⟩⟩

/-- The name stands for its own entry: it is respelled as itself, or no other usable entry has
the name but for its case. -/
def Told (entries : List (String × Value)) (name : String) : Prop :=
  meant name = name ∨ Alone entries name

instance (entries : List (String × Value)) (name : String) : Decidable (Told entries name) :=
  inferInstanceAs (Decidable (_ ∨ _))

section

variable {entries : List (String × Value)} {a b : String} {m n : Int}

theorem Holds.get (h : Holds entries a m) (keepCase : Bool) (hentries : Wellformed entries)
    (htold : Told entries a) :
    (entriesRow entries keepCase).resolve (meant a) = .ok a ∧
      (entriesRow entries keepCase).get (meant a) = .ok (.int m) := by
  obtain ⟨v, hlookup, hv⟩ := Option.bind_eq_some_iff.1 h.held
  have hmem : (a, v) ∈ entries := mem_of_lookup hlookup
  have husable : isUsable (a, v) = true :=
    Bool.and_eq_true_iff.2 ⟨h.isPublic, isEligible_of_integer? hv⟩
  have hresolve : (entriesRow entries keepCase).resolve (meant a) = .ok a :=
    resolve_entriesRow hentries hmem husable (fold_meant h.identifier.not_sign) htold
  have hcolumn : (entriesRow entries keepCase).columns.lookup a = some (.int (some m)) :=
    lookup_entriesRow hentries hmem husable (column_of_integer? hv h.inRange)
  exact ⟨hresolve, Row.get_of_lookup hresolve hcolumn⟩

def equalTest (a b : String) : Expr := .compare .eq (.member (meant a) 0) (.member (meant b) 0)

theorem verdict_equalTest (keepCase : Bool) (hentries : Wellformed entries)
    (ha : Holds entries a m) (hb : Holds entries b n) (htolda : Told entries a)
    (htoldb : Told entries b) :
    (equalTest a b).verdict ((entries.filter isUsable).map entryBinding) keepCase =
      .ok (m == n) := by
  obtain ⟨hresolvea, hgeta⟩ := ha.get keepCase hentries htolda
  obtain ⟨hresolveb, hgetb⟩ := hb.get keepCase hentries htoldb
  have hbind : (equalTest a b).bind (entriesRow entries keepCase) = .ok () := by
    refine Expr.bind_eq_ok fun name hname => ?_
    rcases List.mem_cons.1 hname with rfl | hname
    · exact ⟨a, hresolvea⟩
    · exact ⟨b, List.mem_singleton.1 hname ▸ hresolveb⟩
  have hvalue : (equalTest a b).value (entriesRow entries keepCase) = .ok (.bool (m == n)) := by
    simp only [equalTest, Expr.value, hgeta, hgetb, bind, Except.bind, Value.compare_ints]
    rfl
  exact Expr.verdict_eq_ok.2 ⟨_, _, ofBindings_entries hentries _, hbind, hvalue, rfl⟩

def equalRule (a b : String) : List Char := Expr.between a.toList ['=', '='] b.toList

theorem reads_equalRule (ha : Identifier a) (hb : Identifier b)
    (hnull : afterNull? b.toList = none) : Reads 4 (equalRule a b) (equalTest a b) :=
  Reads.compare .eq (ha.reads 0) (hb.reads 0) fun _ htext => hb.afterSpacedNull? hnull htext

def equalCheck (a b : String) : Check := ⟨some (a ++ " == " ++ b), none, none, none⟩

theorem validate_eq_conclude [Things] (st : Settings) (title : String) (hentries : Wellformed entries)
    (ha : Holds entries a m) (hb : Holds entries b n) (htolda : Told entries a)
    (htoldb : Told entries b) (hnull : afterNull? b.toList = none) :
    validate (.ok st) (.mapping title entries) (equalCheck a b) =
      Check.conclude (.ok st) (.mapping title entries) (equalCheck a b) (m == n) := by
  have htext : a ++ " == " ++ b = String.ofList (equalRule a b) := by
    refine String.toList_inj.1 ?_
    simp [equalRule, Expr.between]
  have hreads := (reads_equalRule ha.identifier hb.identifier hnull).loosen (m := 1) (by decide)
  have hunmarked : Unmarked (equalRule a b) :=
    ha.identifier.unmarked.between (by decide) hb.identifier.unmarked
  have hblank : isBlank (equalRule a b) = false := by
    refine List.all_eq_false.2 ⟨'=', ?_, by decide⟩
    simp [equalRule, Expr.between]
  have hverdict := hreads.validate_eq (c := equalCheck a b) hunmarked hblank
    (bindings_mapping title hentries.names)
    (verdict_equalTest st.keepCase hentries ha hb htolda htoldb)
  rwa [← htext] at hverdict

/-- A rule that two entries are equal holds just if their integers are, and otherwise fails with
the message of the settings, which the default one always makes. -/
theorem validate_equalCheck [Things] (st : Settings) (title : String) (hentries : Wellformed entries)
    (ha : Holds entries a m) (hb : Holds entries b n) (htolda : Told entries a)
    (htoldb : Told entries b) (hnull : afterNull? b.toList = none) :
    (validate (.ok st) (.mapping title entries) (equalCheck a b) =
      if m = n then .ok .passed
      else (Template.fill st.message title).map fun message => .failed (some message) []) ∧
    (st.message = Settings.defaultMessage →
      validate (.ok st) (.mapping title entries) (equalCheck a b) =
        .ok (if m = n then .passed
          else .failed (some ("The field " ++ title ++ " is invalid.")) [])) := by
  have hvalidate := validate_eq_conclude st title hentries ha hb htolda htoldb hnull
  -- The check has no template of its own, so a failure takes that of the settings.
  rw [conclude_eq st _ (by rfl)] at hvalidate
  simp only [beq_iff_eq] at hvalidate
  refine ⟨hvalidate, fun hdefault => ?_⟩
  rw [hvalidate, hdefault]
  by_cases hmn : m = n
  · rw [if_pos hmn, if_pos hmn]
  · rw [if_neg hmn, if_neg hmn, Template.fill_defaultMessage]
    rfl

end

def stockEntries : List (String × Value) :=
  [("nullable", .int 3), ("Stock", .derivedInt "Money" 4), ("_null", .list []), ("note", .text "x")]

open scoped Things in
theorem validate_stockEntries :
    Wellformed stockEntries ∧ Holds stockEntries "nullable" 3 ∧ Holds stockEntries "Stock" 4 ∧
      Told stockEntries "nullable" ∧ Told stockEntries "Stock" ∧
      afterNull? "Stock".toList = none ∧
      validate (.ok plainSettings) (.mapping "dict" stockEntries) (equalCheck "nullable" "Stock") =
        .ok (.failed (some "The field dict is invalid.") []) := by
  have hentries : Wellformed stockEntries := by decide +kernel
  have hnullable : Holds stockEntries "nullable" 3 := by decide
  have hstock : Holds stockEntries "Stock" 4 := by decide
  have htold : Told stockEntries "nullable" := by decide +kernel
  have htold' : Told stockEntries "Stock" := by decide +kernel
  have hnull : afterNull? "Stock".toList = none := by decide
  have hvalidate := (validate_equalCheck plainSettings "dict" hentries hnullable hstock htold htold'
    hnull).2 rfl
  exact ⟨hentries, hnullable, hstock, htold, htold', hnull, by simpa using hvalidate⟩

def caseEntries : List (String × Value) := [("isNull", .int 1), ("isNULL", .int 2)]

def frontEntries : List (String × Value) := [("rate", .int 1), ("nullable", .int 1)]

open scoped Things in
/-- Of two names that are respelled alike one is taken for the other, and a name that begins with
the word for nothing spoils a rule where it stands behind an equality. -/
theorem validate_nullNames :
    (Wellformed caseEntries ∧ Holds caseEntries "isNull" 1 ∧ Holds caseEntries "isNULL" 2 ∧
      validate (.ok plainSettings) (.mapping "dict" caseEntries) (equalCheck "isNull" "isNULL") =
        .ok .passed) ∧
    Wellformed frontEntries ∧ Holds frontEntries "rate" 1 ∧ Holds frontEntries "nullable" 1 ∧
      (validate (.ok plainSettings) (.mapping "dict" frontEntries)
        (equalCheck "rate" "nullable")).toOption = none := by
  decide +kernel

end RuleCheck.Authored
