import RuleCheck.Proofs.Number.Nearest
import RuleCheck.Proofs.Row.Cell
import RuleCheck.Proofs.Row.Referents
import RuleCheck.Proofs.Value.Held

/-!
# What rows keep

Where all members are held to their declared types, an identifier gives the value of its member as
one of the declared kind: nothing of nothing, a truth value or an integer that is equal to the
value, the double next to it, or its text. Two things are not as they seem. A text may name a NaN,
which is nothing, and a text of a class of its own is given as it is. An integer of more than 64
bits has no place in a column of integers, and a row with such a member fails over it, which is a
fault unless the integer is too long to be shown.
-/

set_option autoImplicit false

namespace RuleCheck

open Number Text

/-- A value that is not nothing is kept as one of some kind: it is plain, of the kind, and equal or
next to what was given. A text of a class of its own is kept as it is, and what a text gives that
names a NaN is of no kind. -/
structure Kept (k : Kind) (given v : Value) : Prop where
  plain : (v.Plain ∧ v ≠ .absent) ∨ ∃ className s, given = .derivedText className s ∧ v = given
  kind : v.kind = k ∨ k = .float ∧ v.kind = .missing ∧
    ∃ s, given.text? = some s ∧ namesNaN (Column.withoutNul s) = true
  truth : k = .bool → ∃ b : Bool, v = .bool b ∧ given.Worth b.toNat
  whole : k = .int → ∃ n, v = .int n ∧ given.Worth n ∧ -2 ^ 63 ≤ n ∧ n ≤ 2 ^ 63 - 1
  near : k = .float → ∃ x, v = .float x ∧ given.Near x

namespace Value

variable {v : Value} {x : Float} {n : Int}

/-- The double next to a value is a NaN only if the value is one, or a text that names one. -/
theorem Near.namesNaN (h : v.Near x) (hnull : v.isNull = false) (hx : isNaN x = true) :
    ∃ s, v.text? = some s ∧ namesNaN (Column.withoutNul s) = true := by
  cases h with
  | whole _ h => cases (isNaN_ofInt? h).symm.trans hx
  | float h =>
    cases v with
    | float y =>
      cases h
      simp [isNull, kind, hx] at hnull
    | _ => cases h
  | real h =>
    cases v with
    | real t y =>
      cases h
      simp [isNull, kind, hx] at hnull
    | _ => cases h
  | text h hread => exact ⟨_, h, (isNaN_readFloat? hread).symm.trans hx⟩

end Value

namespace Column

theorem Takes.kept {v : Value} {k : Kind} {c : Column} (h : Takes v k c)
    (hnull : v.isNull = false) : Kept k v c.value := by
  cases h with
  | empty hempty => cases hempty.symm.trans hnull
  | @bool b hworth =>
    exact ⟨.inl ⟨.bool b, nofun⟩, .inl rfl, fun _ => ⟨b, rfl, hworth⟩, nofun, nofun⟩
  | @int n hworth hrange =>
    exact ⟨.inl ⟨.int n, nofun⟩, .inl rfl, nofun,
      fun _ => ⟨n, rfl, hworth, word64_has_iff.1 hrange⟩, nofun⟩
  | @float x _ hnear =>
    refine ⟨.inl ⟨.float x, nofun⟩, ?_, nofun, nofun, fun _ => ⟨x, rfl, hnear⟩⟩
    cases hx : isNaN x with
    | false => exact .inl (if_neg (Bool.eq_false_iff.1 hx))
    | true => exact .inr ⟨rfl, if_pos hx, hnear.namesNaN hnull hx⟩
  | text => exact ⟨.inl ⟨.text _, nofun⟩, .inl rfl, nofun, nofun, nofun⟩
  | derivedText hvalue => exact ⟨.inr ⟨_, _, hvalue, hvalue.symm⟩, .inl rfl, nofun, nofun, nofun⟩

theorem Takes.value_of_isNull {v : Value} {k : Kind} {c : Column} (h : Takes v k c)
    (hnull : v.isNull = true) : c.value = .absent := by
  cases h with
  | empty _ hempty => cases k <;> cases hempty <;> rfl
  | bool hworth => cases hworth.isNull.symm.trans hnull
  | int hworth => cases hworth.isNull.symm.trans hnull
  | float hfalse => cases hfalse.symm.trans hnull
  | text hfalse => cases hfalse.symm.trans hnull
  | derivedText hvalue =>
    subst hvalue
    cases hnull

end Column

theorem Value.Worth.length_digits {v : Value} {n : Int} (h : v.Worth n) (hshown : v.shown? = none) :
    maxDigits < (Nat.toDigits 10 n.natAbs).length := by
  have long {m : Int} (hplace : (Scalar.int m).place? = some (.ofInt n))
      (hwritten : writeInt? m = none) : maxDigits < (Nat.toDigits 10 n.natAbs).length := by
    rw [← Scalar.eq_of_place? hplace]
    exact Nat.lt_of_not_le fun hfew => nomatch (if_pos hfew).symm.trans hwritten
  cases v with
  | int m =>
    rcases h with h | ⟨h, hplace⟩ | ⟨h, -⟩ <;> cases h
    exact long hplace hshown
  | derivedInt _ m =>
    rcases h with h | ⟨h, hplace⟩ | ⟨h, -⟩ <;> cases h
    exact long hplace hshown
  | word t m =>
    rcases h with h | ⟨h, hplace⟩ | ⟨h, -⟩ <;> cases h
    exact long hplace (Option.map_eq_none_iff.1 hshown)
  | enumerated _ _ m =>
    rcases h with h | ⟨h, hplace⟩ | ⟨h, -⟩ <;> cases h
    exact long hplace (Option.map_eq_none_iff.1 hshown)
  | list items => rcases h with h | ⟨h, -⟩ | ⟨h, -⟩ <;> cases h
  | _ => cases hshown

namespace Binding

variable {b : Binding} {n : Int}

theorem exists_column_of_isNull (hkind : b.kind = .int) (hnull : b.value.isNull = true) :
    ∃ c, b.column = .ok c := by
  have hfit : Column.fit? b.kind b.value = some (.fits (.int none)) := by
    rw [hkind]
    exact congrArg some (if_pos hnull)
  exact ⟨_, by rw [column, hfit]⟩

theorem exists_column_of_worth (hkind : b.kind = .int) (hworth : b.value.Worth n)
    (hrange : -2 ^ 63 ≤ n ∧ n ≤ 2 ^ 63 - 1) : ∃ c, b.column = .ok c := by
  have hint : Column.fitInt b.value = some (.int (some n)) := by
    rw [Column.fitInt_of_worth hworth]
    exact if_pos (Column.word64_has_iff.2 hrange)
  have hfit : Column.fit? b.kind b.value = some (.fits (.int (some n))) := by
    simp only [hkind, Column.fit?, Column.empty?, hworth.isNull, hint]
    rfl
  exact ⟨_, by rw [column, hfit]⟩

end Binding

/-- A member of integers that is equal to one of more than 64 bits. -/
structure Binding.Oversized (b : Binding) (n : Int) : Prop where
  name : b.name ≠ resultName
  kind : b.kind = .int
  worth : b.value.Worth n
  range : ¬ (-2 ^ 63 ≤ n ∧ n ≤ 2 ^ 63 - 1)

namespace Binding.Oversized

variable {b : Binding} {n : Int}

theorem column (h : b.Oversized n) : b.column = .error b.misfit := by
  have hrange : ¬ Column.word64.has n = true := fun hhas => h.range (Column.word64_has_iff.1 hhas)
  rw [Binding.column, h.kind, Column.fit?_int_of_worth h.worth hrange]

/-- That the integer does not fit is a fault, unless it is too long for the message. -/
theorem misfit (h : b.Oversized n) :
    (∃ text, b.misfit = .unfit (.memberValue b.name text b.typeName)) ∨
      b.misfit = .longInteger ∧ maxDigits < (Nat.toDigits 10 n.natAbs).length := by
  unfold Binding.misfit
  cases hshown : b.value.shown? with
  | some text => exact .inl ⟨_, rfl⟩
  | none => exact .inr ⟨rfl, h.worth.length_digits hshown⟩

end Binding.Oversized

namespace Row

variable {bindings before behind : List Binding} {b : Binding} {keepCase : Bool} {row : Row}
  {used : Option (List String)} {columns : List (String × Column)}

theorem foldlM_ordinary : (ordinary bindings).foldlM (addBinding used) columns =
    bindings.foldlM (addBinding used) columns := by
  induction bindings generalizing columns with
  | nil => rfl
  | cons b rest ih =>
    by_cases hname : b.name = resultName
    · have hskip : ordinary (b :: rest) = ordinary rest := by simp [ordinary, hname]
      rw [hskip, ih, List.foldlM_cons, addBinding_result hname]
      rfl
    · have hkeep : ordinary (b :: rest) = b :: ordinary rest := by simp [ordinary, hname]
      rw [hkeep, List.foldlM_cons, List.foldlM_cons]
      exact congrArg (addBinding used columns b >>= ·) (funext fun next => ih)

/-- The name of a member that is held to its declared type gives what is in its own column. -/
theorem get_ofBindings (hnames : (bindings.map Binding.name).Nodup)
    (hrow : ofBindings bindings keepCase none = .ok row) (hb : b ∈ ordinary bindings) :
    ∃ c, b.column = .ok c ∧ row.get b.name = .ok c.value := by
  have hplaced := exists_ofBindings.1 ⟨row, hrow⟩
  have hfits : ∀ b ∈ ordinary bindings, b.Fits := by
    intro b hb
    obtain ⟨hmem, hname⟩ := mem_ordinary.1 hb
    exact ⟨hname, (hplaced b hmem).strict hname rfl⟩
  have hnodup : ((ordinary bindings).map Binding.name).Nodup :=
    hnames.sublist (List.filter_sublist.map _)
  rw [ofBindings, ← foldlM_ordinary] at hrow
  cases (ofBindings_of_fits hfits hnodup).symm.trans hrow
  obtain ⟨hname, c, hc⟩ := hfits b hb
  have hentries := entryNames_columnsOf hfits
  have hmem : b.name ∈ entryNames (columnsOf (ordinary bindings)) :=
    hentries ▸ List.mem_map_of_mem hb
  have hlookup := lookup_of_mem (hentries ▸ hnodup) (mem_columnsOf hb hc)
  exact ⟨c, hc, get_of_lookup (resolve_of_mem hmem hname) hlookup⟩

theorem ofBindings_of_column_error {f : Failure} (hname : b.name ≠ resultName)
    (hcolumn : b.column = .error f) (hbefore : ofBindings before keepCase none = .ok row) :
    ofBindings (before ++ b :: behind) keepCase none = .error f := by
  obtain ⟨columns, hfold, -⟩ := exists_of_bind_eq_ok hbefore
  have hadd : addBinding none columns b = .error f := by
    rw [addBinding, if_neg hname, isUsed, if_pos rfl, hcolumn]
    rfl
  rw [ofBindings, List.foldlM_append, hfold]
  simp only [bind, Except.bind, List.foldlM_cons, hadd]

/-- Where all members have names of their own and are held to their declared types, the name of
each gives nothing of nothing and else the value as it is kept in a column of the declared kind.
Members of integers that are nothing or equal to integers of 64 bits form a row. One that is equal
to a greater integer spoils the row: if the members before it fit, the row fails over it, by a fault
unless the integer is too long to be shown. -/
theorem ofBindings_kept (hnames : (bindings.map Binding.name).Nodup) :
    (∀ row, ofBindings bindings keepCase none = .ok row → ∀ b ∈ ordinary bindings,
      ∃ v, row.get b.name = .ok v ∧ (b.value.isNull = true → v = .absent) ∧
        (b.value.isNull = false → Kept b.kind b.value v)) ∧
      ((∀ b ∈ ordinary bindings, b.kind = .int ∧ (b.value.isNull = true ∨
        ∃ n, b.value.Worth n ∧ -2 ^ 63 ≤ n ∧ n ≤ 2 ^ 63 - 1)) →
          ∃ row, ofBindings bindings keepCase none = .ok row) ∧
      ∀ before b behind n, bindings = before ++ b :: behind → b.Oversized n →
        (∀ row, ofBindings bindings keepCase none ≠ .ok row) ∧
          ∀ row, ofBindings before keepCase none = .ok row →
            ∃ f, ofBindings bindings keepCase none = .error f ∧
              ((∃ text, f = .unfit (.memberValue b.name text b.typeName)) ∨
                f = .longInteger ∧ maxDigits < (Nat.toDigits 10 n.natAbs).length) := by
  refine ⟨?_, ?_, ?_⟩
  · intro row hrow b hb
    obtain ⟨c, hc, hget⟩ := get_ofBindings hnames hrow hb
    have htakes := Column.takes_of_fit (Binding.fit_of_column hc)
    exact ⟨c.value, hget, htakes.value_of_isNull, htakes.kept⟩
  · intro hints
    refine exists_ofBindings.2 fun b hb => ?_
    constructor
    · intro hname _
      obtain ⟨hkind, hvalue⟩ := hints b (mem_ordinary.2 ⟨hb, hname⟩)
      rcases hvalue with hnull | ⟨n, hworth, hrange⟩
      · exact Binding.exists_column_of_isNull hkind hnull
      · exact Binding.exists_column_of_worth hkind hworth hrange
    · intro _ hunused
      cases hunused
  · rintro before b behind n rfl hsize
    constructor
    · intro row hrow
      have hmem : b ∈ before ++ b :: behind := List.mem_append_right _ List.mem_cons_self
      obtain ⟨c, hc⟩ := (exists_ofBindings.1 ⟨row, hrow⟩ b hmem).strict hsize.name rfl
      cases hc.symm.trans hsize.column
    · intro row hrow
      exact ⟨b.misfit, ofBindings_of_column_error hsize.name hsize.column hrow, hsize.misfit⟩

def greatestCount : Binding := ⟨"count", .single .int, .text "9223372036854775807"⟩

def greaterSize : Binding := ⟨"size", .single .int, .int (2 ^ 63)⟩

theorem ofBindings_kept_limit :
    ([greatestCount, greaterSize].map Binding.name).Nodup ∧
      (∃ row, ofBindings [greatestCount] false none = .ok row ∧
        ∃ v, row.get "count" = .ok v ∧ Kept .int greatestCount.value v) ∧
      greaterSize.Oversized (2 ^ 63) ∧
      ∃ f, ofBindings [greatestCount, greaterSize] false none = .error f := by
  have hnames : ([greatestCount, greaterSize].map Binding.name).Nodup := by decide
  have hone : ([greatestCount].map Binding.name).Nodup := by decide
  have hrow : ofBindings [greatestCount] false none =
      .ok ⟨[("count", .int (some 9223372036854775807))], none, false⟩ := rfl
  have hsize : greaterSize.Oversized (2 ^ 63) :=
    ⟨by decide, rfl, .number rfl rfl, by decide⟩
  obtain ⟨v, hget, -, hkept⟩ :=
    (ofBindings_kept hone).1 _ hrow greatestCount (mem_ordinary.2 ⟨List.mem_cons_self, by decide⟩)
  obtain ⟨f, hf, -⟩ :=
    ((ofBindings_kept hnames).2.2 [greatestCount] greaterSize [] _ rfl hsize).2 _ hrow
  exact ⟨hnames, ⟨_, hrow, v, hget, hkept rfl⟩, hsize, f, hf⟩

def labelMember : Binding := ⟨"X", .single .text, .derivedText "Label" "x"⟩

/-- A text of a class of its own is not given as a plain one, and not every integer that does not
fit is a fault. -/
theorem ofBindings_not_kept :
    (∃ row, ofBindings [labelMember] false none = .ok row ∧
        row.get "X" = .ok (.derivedText "Label" "x") ∧ ¬ (Value.derivedText "Label" "x").Plain) ∧
      longCount.Oversized (10 ^ 4300) ∧
        ofBindings [longCount] false none = .error .longInteger := by
  have hsize : longCount.Oversized (10 ^ 4300) :=
    ⟨by decide, rfl, .number rfl rfl, by decide +kernel⟩
  have hshown : longCount.value.shown? = none := by decide +kernel
  have hmisfit : longCount.misfit = .longInteger := by rw [Binding.misfit, hshown]
  have hnone : ofBindings [] false none = .ok ⟨[], none, false⟩ := rfl
  have hplain : ¬ (Value.derivedText "Label" "x").Plain := by rintro ⟨⟩
  refine ⟨⟨_, rfl, rfl, hplain⟩, hsize, ?_⟩
  rw [← hmisfit, ← List.nil_append [longCount]]
  exact ofBindings_of_column_error hsize.name hsize.column hnone

end Row

end RuleCheck
