import RuleCheck.Journal
import RuleCheck.Proofs.Text.Line

/-!
# Lines of the log

The log is read line by line, so a record should be one line of it. Of the texts that the record
of a verdict is made of, the expression is quoted and can not end the line. The name of the member
and the fields are written as they are, and every character of theirs that ends a line makes one
more.
-/

set_option autoImplicit false

namespace RuleCheck

open Text

section

variable {isBreak : Char → Bool}

namespace Record

def plainTexts (member : Option String) (fields : List (String × String)) : List String :=
  member.toList ++ fields.flatMap fun (key, text) => [key, text]

def breaks (isBreak : Char → Bool) (texts : List String) : Nat :=
  (texts.flatMap String.toList).countP isBreak

theorem breaks_append (texts more : List String) :
    breaks isBreak (texts ++ more) = breaks isBreak texts + breaks isBreak more := by
  rw [breaks, List.flatMap_append, List.countP_append, ← breaks, ← breaks]

theorem breaks_cons (text : String) (texts : List String) :
    breaks isBreak (text :: texts) = text.toList.countP isBreak + breaks isBreak texts := by
  rw [breaks, List.flatMap_cons, List.countP_append, ← breaks]

theorem breaks_eq_zero_iff {texts : List String} :
    breaks isBreak texts = 0 ↔ ∀ text ∈ texts, OnOneLine isBreak text.toList := by
  induction texts with
  | nil => exact ⟨fun _ => List.forall_mem_nil _, fun _ => rfl⟩
  | cons text texts ih =>
    rw [breaks_cons, Nat.add_eq_zero_iff, ih, countP_eq_zero_iff, List.forall_mem_cons]

/-- A separator on one line leaves only what the joined texts have. -/
theorem countP_intercalate {separator : List Char} (h : OnOneLine isBreak separator)
    (texts : List String) : (separator.intercalate (texts.map String.toList)).countP isBreak =
      breaks isBreak texts := by
  induction texts with
  | nil => rfl
  | cons text texts ih =>
    cases texts with
    | nil =>
      rw [List.map_singleton, List.intercalate_singleton, breaks_cons]
      rfl
    | cons next texts =>
      rw [List.map_cons, List.map_cons, List.intercalate_cons_cons, ← List.map_cons,
        List.countP_append, List.countP_append, ih, countP_eq_zero_iff.2 h, Nat.add_zero,
        ← breaks_cons]

theorem countP_part (h : EndsLines isBreak) (label text : String) :
    (part label text).toList.countP isBreak =
      label.toList.countP isBreak + text.toList.countP isBreak := by
  have hsign : OnOneLine isBreak "=".toList := h.onOneLine_of_isLineBreak (by decide)
  rw [part, String.toList_append, String.toList_append, List.countP_append, List.countP_append,
    countP_eq_zero_iff.2 hsign, Nat.add_zero]

theorem breaks_member (h : EndsLines isBreak) (member : Option String) :
    breaks isBreak (member.map (part "member")).toList = breaks isBreak member.toList := by
  have hlabel : OnOneLine isBreak "member".toList := h.onOneLine_of_isLineBreak (by decide)
  cases member with
  | none => rfl
  | some name =>
    show breaks isBreak [part "member" name] = breaks isBreak [name]
    rw [breaks_cons, breaks_cons, countP_part h, countP_eq_zero_iff.2 hlabel, Nat.zero_add]

theorem breaks_fields (h : EndsLines isBreak) (fields : List (String × String)) :
    breaks isBreak (fields.map fun (key, text) => part key text) =
      breaks isBreak (fields.flatMap fun (key, text) => [key, text]) := by
  induction fields with
  | nil => rfl
  | cons entry fields ih =>
    obtain ⟨key, text⟩ := entry
    rw [List.map_cons, List.flatMap_cons, breaks_append, breaks_cons, ih, countP_part h,
      breaks_cons, breaks_cons]
    rfl

/-- All ends of lines in the record of a verdict come from the texts that are written as they
are. -/
theorem countP_outcome (h : EndsLines isBreak) (expression : String) (success : Bool)
    (member : Option String) (fields : List (String × String)) :
    (outcome expression success member fields).text.toList.countP isBreak =
      breaks isBreak (plainTexts member fields) := by
  have hseparator : OnOneLine isBreak " | ".toList := h.onOneLine_of_isLineBreak (by decide)
  have hverdict : OnOneLine isBreak (if success then "[VALID]" else "[INVALID]").toList :=
    h.onOneLine_of_isLineBreak (by cases success <;> decide)
  have hlabel : OnOneLine isBreak "expr".toList := h.onOneLine_of_isLineBreak (by decide)
  have hquoted : OnOneLine isBreak (quoted expression).toList := by
    rw [quoted, String.toList_ofList]
    exact h.onOneLine_quotedChars _
  rw [outcome, String.toList_intercalate, countP_intercalate hseparator, breaks_append, breaks_cons,
    breaks_cons, countP_part h, countP_eq_zero_iff.2 hverdict, countP_eq_zero_iff.2 hlabel,
    countP_eq_zero_iff.2 hquoted, breaks_member h, breaks_fields h, plainTexts, breaks_append]
  omega

end Record

namespace Journal

theorem lines_text (h : EndsLines isBreak) (entries : List String) :
    lines isBreak (text entries).toList =
      entries.flatMap fun entry => lines isBreak (entry.toList ++ ['\n']) := by
  rw [text, String.toList_join, List.flatMap_map]
  induction entries with
  | nil => rfl
  | cons entry entries ih =>
    rw [List.flatMap_cons, List.flatMap_cons, String.toList_append, ← ih,
      ← lines_append_ended h.written, List.append_assoc]
    rfl

theorem countP_line (h : EndsLines isBreak) (r : Record) :
    (line r.level mainName r.text).toList.countP isBreak = r.text.toList.countP isBreak := by
  have hlevel : OnOneLine isBreak r.level.name.toList :=
    h.onOneLine_of_isLineBreak (by cases r.level <;> decide)
  have hname : OnOneLine isBreak mainName.toList := h.onOneLine_of_isLineBreak (by decide)
  have hseparator : OnOneLine isBreak " | ".toList := h.onOneLine_of_isLineBreak (by decide)
  simp only [line, String.toList_append, List.countP_append, countP_eq_zero_iff.2 hlevel,
    countP_eq_zero_iff.2 hname, countP_eq_zero_iff.2 hseparator, Nat.zero_add]

/-- The record of a verdict that is kept is one entry of the log. Read back, it is one line and one
more for each end of a line in the name of the member and in the fields, and nothing that was there
before is read otherwise. So it is one line just if there is none, whatever the expression is. -/
theorem add_outcome (h : EndsLines isBreak) (j : Journal) (expression : String) (success : Bool)
    (member : Option String) (fields : List (String × String)) :
    let r := Record.outcome expression success member fields
    (j.keeps r.level = false → j.add r = j) ∧
    (j.keeps r.level = true →
      j.add r = ⟨j.threshold, j.main ++ [line r.level mainName r.text], j.errors⟩ ∧
      ∃ added : List (List Char),
        lines isBreak (text (j.add r).main).toList =
          lines isBreak (text j.main).toList ++ added ∧
        added.length = 1 + Record.breaks isBreak (Record.plainTexts member fields) ∧
        (added = [(line r.level mainName r.text).toList] ↔
          ∀ plain ∈ Record.plainTexts member fields, OnOneLine isBreak plain.toList)) := by
  intro r
  have hcount : (line r.level mainName r.text).toList.countP isBreak =
      Record.breaks isBreak (Record.plainTexts member fields) :=
    (countP_line h r).trans (Record.countP_outcome h expression success member fields)
  refine ⟨fun hlow => by rw [add, hlow]; rfl, fun hkept => ?_⟩
  have hadd : j.add r =
      ⟨j.threshold, j.main ++ [line r.level mainName r.text], j.errors⟩ := by
    rw [add, hkept]
    rfl
  refine ⟨hadd, lines isBreak ((line r.level mainName r.text).toList ++ ['\n']), ?_, ?_, ?_⟩
  · rw [hadd, lines_text h, lines_text h, List.flatMap_append, List.flatMap_singleton]
  · rw [length_lines_ended h.written, hcount, Nat.add_comm]
  · rw [lines_eq_singleton_iff h.written, ← countP_eq_zero_iff, hcount, Record.breaks_eq_zero_iff]

/-- A reader may take every such character for the end of a line. -/
theorem endsLines_isLineBreak : EndsLines isLineBreak := ⟨by decide, fun _ h => h⟩

theorem add_brokenExpression :
    EndsLines isLineBreak ∧ keeps ⟨20, [], []⟩ .info = true ∧
    lines isLineBreak (text (add ⟨20, [], []⟩
        (.outcome "x >\n0\u2028\r" false (some "x") [("type", "dict")])).main).toList =
      [("INFO | expression_validation | [INVALID] | " ++
        "expr='x >\\n0\\u2028\\r' | member=x | type=dict").toList] := by
  have hadd := add_outcome endsLines_isLineBreak ⟨20, [], []⟩ "x >\n0\u2028\r" false (some "x")
    [("type", "dict")]
  obtain ⟨-, added, hlines, -, hsingle⟩ := hadd.2 (by decide)
  refine ⟨endsLines_isLineBreak, by decide, hlines.trans ?_⟩
  rw [hsingle.2 (by decide)]
  decide +kernel

def forgedName : String := "a\nINFO | expression_validation | [INVALID] | expr='y > 0'"

/-- One verdict is read back as two lines, and they are those of two other verdicts. -/
theorem add_forgedName :
    start "INFO" = .ok ⟨20, [], []⟩ ∧
    lines (· == '\n')
        (text (add ⟨20, [], []⟩ (.outcome "x > 0" false (some forgedName) [])).main).toList =
      ["INFO | expression_validation | [INVALID] | expr='x > 0' | member=a".toList,
        "INFO | expression_validation | [INVALID] | expr='y > 0'".toList] ∧
    text (add ⟨20, [], []⟩ (.outcome "x > 0" false (some forgedName) [])).main =
      text (add (add ⟨20, [], []⟩ (.outcome "x > 0" false (some "a") []))
        (.outcome "y > 0" false none [])).main := by
  decide +kernel

end Journal

end

end RuleCheck
