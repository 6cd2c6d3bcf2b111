import RuleCheck.Proofs.Number.Place
import RuleCheck.Proofs.Row.Declared
import RuleCheck.Proofs.Row.Fitting

/-!
# The result of a row

Whatever a row is asked, it keeps its members, and identifiers stand for what they stood for at
first. Its result is one register: it tells whether the value that was stored last is true, and
a value that can not be stored leaves it alone. A sheet that keeps the result among the members,
and looks identifiers up in a table that is made only once, answers every request as the row.
-/

set_option autoImplicit false

namespace RuleCheck

open Number Text

namespace Value

theorem same_int_true (n : Int) : same (.int n) (.bool true) = (n == 1) := by
  show (some (Ord.compare n 1) == some Ordering.eq) = (n == 1)
  rw [Bool.eq_iff_iff, beq_iff_eq, beq_iff_eq, Option.some_inj, Std.LawfulEqOrd.compare_eq_iff_eq]

theorem same_float_true (x : Float) : same (.float x) (.bool true) = (toInt? x == some 1) := by
  show (Scalar.order? (rank? x) (some (.ofInt 1)) == some Ordering.eq) = _
  rw [Bool.eq_iff_iff, beq_iff_eq, beq_iff_eq, Scalar.order?_eq_iff, toInt?_eq_some_iff]
  exact ⟨And.left, fun h => ⟨h, h ▸ rfl⟩⟩

theorem isNaN_of_isNull {x : Float} (h : isNull (.float x) = true) : decode x = .nan := by
  cases hx : isNaN x with
  | true => exact beq_iff_eq.1 hx
  | false =>
    simp only [isNull, kind, hx] at h
    cases h

theorem same_true_of_isNull {v : Value} (h : v.isNull = true) : v.same (.bool true) = false := by
  cases v with
  | null => rfl
  | absent => rfl
  | float x =>
    rw [same_float_true, toInt?, isNaN_of_isNull h]
    rfl
  | real t x =>
    have hx : rank? x = none := by rw [rank?, isNaN_of_isNull (x := x) h]
    simp only [same, scalar?, number?, Scalar.compare?, Scalar.whole?, Scalar.meet]
    cases toFloat (true.toNat : Int) with
    | error _ => rfl
    | ok y => simp [bind, Except.bind, pure, Except.pure, hx, Scalar.order?]
  | _ => cases h

end Value

namespace Column

theorem truthOfInt_eq {n : Int} {cell : Option Bool} (h : truthOfInt n = some (bool cell)) :
    cell = some (n == 1) := by
  obtain ⟨b, hc, rfl⟩ := exists_of_truthOfInt h
  cases hc
  cases b <;> rfl

theorem fit_of_result {v : Value} {truth : Truth} (h : result v = .ok truth) :
    fit? .bool v = some (.fits (bool truth)) := by
  unfold result at h
  split at h
  · rename_i n
    split at h
    · cases h
    · cases h
      show some (ofOption (truthOfInt n)) = _
      rw [‹truthOfInt n = _›]
      rfl
    · cases h
  · split at h
    · cases h
      assumption
    · cases h
    · cases h

theorem getD_result {v : Value} {truth : Truth} (h : result v = .ok truth) :
    truth.getD false = v.same (.bool true) := by
  have whole {n : Int} (h : ofOption (truthOfInt n) = .fits (bool truth)) :
      truth.getD false = (n == 1) := by
    rw [truthOfInt_eq (ofOption_eq_fits h)]
    rfl
  have hfit := fit_of_result h
  rw [fit?, empty?, Option.map_some, Option.some_inj] at hfit
  by_cases hnull : v.isNull = true
  · rw [if_pos hnull] at hfit
    cases hfit
    exact (Value.same_true_of_isNull hnull).symm
  · rw [if_neg hnull] at hfit
    cases v with
    | bool b =>
      cases hfit
      cases b <;> rfl
    | flag b =>
      cases hfit
      cases b <;> rfl
    | int n => exact (whole hfit).trans (Value.same_int_true n).symm
    | derivedInt _ n => exact (whole hfit).trans (Value.same_int_true n).symm
    | enumerated _ _ n => exact (whole hfit).trans (Value.same_int_true n).symm
    | float x =>
      obtain ⟨n, hn, htruth⟩ := Option.bind_eq_some_iff.1 (ofOption_eq_fits hfit)
      rw [Value.same_float_true, hn, truthOfInt_eq htruth]
      rfl
    | list items =>
      simp only [fitBool] at hfit
      split at hfit <;> cases hfit
    | _ => cases hfit

end Column

inductive Request
  | store (v : Value)
  | verdict
  | get (name : String)
  | resolve (name : String)
  | names
  | entries

inductive Reply
  | stored (outcome : Except Failure Unit)
  | verdict (outcome : Except Failure Bool)
  | value (outcome : Except Failure Value)
  | name (outcome : Except Failure String)
  | names (names : List String)
  | entries (entries : List (String × Value))

def stored? : Request × Reply → Option Value
  | (.store v, .stored (.ok ())) => some v
  | _ => none

def lastStored (exchanges : List (Request × Reply)) : Option Value :=
  (exchanges.filterMap stored?).getLast?

def serveAll {σ : Type} (serve : σ → Request → Reply × σ) (s : σ) :
    List Request → List (Request × Reply) × σ
  | [] => ([], s)
  | q :: qs =>
    let (reply, next) := serve s q
    let (exchanges, last) := serveAll serve next qs
    ((q, reply) :: exchanges, last)

section

variable {σ τ : Type} {serve : σ → Request → Reply × σ} {serve' : τ → Request → Reply × τ}

/-- Two sides that give one reply to each request, and stay related, give the same replies. -/
theorem serveAll_related {R : σ → τ → Prop}
    (hstep : ∀ s t q, R s t → (serve s q).1 = (serve' t q).1 ∧ R (serve s q).2 (serve' t q).2)
    {s : σ} {t : τ} (hst : R s t) (qs : List Request) :
    (serveAll serve s qs).1 = (serveAll serve' t qs).1 := by
  induction qs generalizing s t with
  | nil => rfl
  | cons q qs ih =>
    obtain ⟨hreply, hnext⟩ := hstep s t q hst
    simp only [serveAll, hreply, ih hnext]

end

def replyStored {σ : Type} (before : σ) : Except Failure σ → Reply × σ
  | .ok after => (.stored (.ok ()), after)
  | .error failure => (.stored (.error failure), before)

namespace Row

def serve (r : Row) : Request → Reply × Row
  | .store v => replyStored r (r.store v)
  | .verdict => (.verdict r.verdict, r)
  | .get name => (.value (r.get name), r)
  | .resolve name => (.name (r.resolve name), r)
  | .names => (.names r.names, r)
  | .entries => (.entries r.entries, r)

theorem serve_cases (r : Row) (q : Request) :
    (∃ v truth, q = .store v ∧ Column.result v = .ok truth ∧
        r.serve q = (.stored (.ok ()), { r with result := some truth })) ∨
      (stored? (q, (r.serve q).1) = none ∧ (r.serve q).2 = r) := by
  cases q with
  | store v =>
    rw [serve, store]
    cases hv : Column.result v with
    | ok truth => exact .inl ⟨v, truth, rfl, hv, rfl⟩
    | error failure => exact .inr ⟨rfl, rfl⟩
  | verdict => exact .inr ⟨rfl, rfl⟩
  | get name => exact .inr ⟨rfl, rfl⟩
  | resolve name => exact .inr ⟨rfl, rfl⟩
  | names => exact .inr ⟨rfl, rfl⟩
  | entries => exact .inr ⟨rfl, rfl⟩

theorem columns_serve (r : Row) (q : Request) : (r.serve q).2.columns = r.columns := by
  rcases r.serve_cases q with ⟨v, truth, -, -, h⟩ | ⟨-, h⟩
  · rw [h]
  · rw [h]

theorem columns_serveAll (r : Row) (qs : List Request) :
    (serveAll serve r qs).2.columns = r.columns := by
  induction qs generalizing r with
  | nil => rfl
  | cons q qs ih => exact (ih _).trans (columns_serve r q)

def verdictOf (unstored : Except Failure Bool) : Option Value → Except Failure Bool
  | some v => .ok (v.same (.bool true))
  | none => unstored

theorem verdict_serveAll (r : Row) (qs : List Request) :
    (serveAll serve r qs).2.verdict =
      verdictOf r.verdict (lastStored (serveAll serve r qs).1) := by
  induction qs generalizing r with
  | nil => rfl
  | cons q qs ih =>
    have hrest := ih (r.serve q).2
    rw [serveAll, lastStored, List.filterMap_cons]
    rcases r.serve_cases q with ⟨v, truth, rfl, hv, h⟩ | ⟨hnone, h⟩
    · have hverdict : (r.serve (.store v)).2.verdict = .ok (v.same (.bool true)) := by
        rw [h, ← Column.getD_result hv]
        rfl
      have hstored : stored? (.store v, (r.serve (.store v)).1) = some v := by rw [h]; rfl
      simp only [hstored, List.getLast?_cons]
      refine hrest.trans ?_
      rw [hverdict, lastStored]
      cases ((serveAll serve (r.serve (.store v)).2 qs).1.filterMap stored?).getLast? <;> rfl
    · simp only [hnone]
      rw [h] at hrest ⊢
      exact hrest

end Row

/-- A row in which the result stands among the members. What names there are up to case is
listed apart, when the sheet is made. -/
structure Sheet where
  cells : List (String × Column)
  listed : List (String × List String)

namespace Sheet

def under (listed : List (String × List String)) (key : String) : List String :=
  (listed.lookup key).getD []

def listing (names : List String) : List (String × List String) :=
  names.foldl (fun listed n => assign (fold n) (under listed (fold n) ++ [n]) listed) []

def ofColumns (columns : List (String × Column)) : Sheet :=
  ⟨columns, listing (entryNames columns)⟩

def names (s : Sheet) : List String := (entryNames s.cells).filter (· ≠ resultName)

def resolve (s : Sheet) (name : String) : Except Failure String :=
  if name ∈ entryNames s.cells ∧ name ≠ resultName then .ok name
  else
    match under s.listed (fold name) with
    | [found] => .ok found
    | [] => .error (.ofCause (.unknownName name s.names))
    | several => .error (.ofCause (.ambiguousName name several))

def get (s : Sheet) (name : String) : Except Failure Value := do
  let found ← s.resolve name
  match s.cells.lookup found with
  | some column => return column.value
  | none => throw (.ofCause (.unknownName name s.names))

def store (s : Sheet) (v : Value) : Except Failure Sheet := do
  return { s with cells := assign resultName (.bool (← Column.result v)) s.cells }

def verdict (s : Sheet) : Except Failure Bool :=
  match s.cells.lookup resultName with
  | some column => .ok (column.value.truth?.getD false)
  | none => .error .noResult

def entries (s : Sheet) : List (String × Value) :=
  s.cells.map fun (name, column) => (name, Row.cellValue column)

def serve (s : Sheet) : Request → Reply × Sheet
  | .store v => replyStored s (s.store v)
  | .verdict => (.verdict s.verdict, s)
  | .get name => (.value (s.get name), s)
  | .resolve name => (.name (s.resolve name), s)
  | .names => (.names s.names, s)
  | .entries => (.entries s.entries, s)

theorem under_listing (names : List String) (key : String) :
    under (listing names) key = names.filter fun n => fold n == key := by
  have folded (listed : List (String × List String)) :
      under (names.foldl (fun listed n => assign (fold n) (under listed (fold n) ++ [n]) listed)
        listed) key = under listed key ++ names.filter fun n => fold n == key := by
    induction names generalizing listed with
    | nil => exact (List.append_nil _).symm
    | cons n names ih =>
      rw [List.foldl_cons, ih, List.filter_cons]
      by_cases hn : fold n = key
      · subst hn
        rw [under, lookup_assign_self, if_pos (beq_self_eq_true _)]
        exact List.append_assoc _ _ _
      · rw [under, lookup_assign_ne (Ne.symm hn), if_neg (by simpa using hn)]
        rfl
  exact folded []

structure Mirrors (s : Sheet) (r : Row) : Prop where
  cells : s.cells = r.cells
  listed : ∀ key, under s.listed key = r.names.filter fun n => fold n == key
  reserved : resultName ∉ r.names

namespace Mirrors

variable {s : Sheet} {r : Row}

theorem ofColumns {columns : List (String × Column)} {keepCase : Bool}
    (h : resultName ∉ entryNames columns) :
    Mirrors (.ofColumns columns) ⟨columns, none, keepCase⟩ :=
  ⟨(List.append_nil _).symm, under_listing _, h⟩

theorem entryNames_cells (h : Mirrors s r) :
    entryNames s.cells = r.names ++ (r.result.map fun _ => resultName).toList := by
  rw [h.cells, Row.cells, entryNames, List.map_append, Row.names, entryNames]
  cases r.result <;> rfl

theorem names (h : Mirrors s r) : s.names = r.names := by
  have hmembers : r.names.filter (· ≠ resultName) = r.names := by
    refine List.filter_eq_self.2 fun n hn => decide_eq_true ?_
    rintro rfl
    exact h.reserved hn
  rw [Sheet.names, h.entryNames_cells, List.filter_append, hmembers]
  cases r.result <;> simp

theorem resolve (h : Mirrors s r) (name : String) : s.resolve name = r.resolve name := by
  have hmem : (name ∈ entryNames s.cells ∧ name ≠ resultName) ↔
      name ∈ r.names ∧ name ≠ resultName := by
    rw [h.entryNames_cells]
    cases r.result <;> simp +contextual
  rw [Sheet.resolve, Row.resolve, h.listed, h.names]
  exact if_congr hmem rfl rfl

theorem lookup_result (h : Mirrors s r) :
    s.cells.lookup resultName = r.result.map Column.bool := by
  have hmember : r.columns.lookup resultName = none := by
    rw [List.lookup_eq_none_iff]
    rintro entry hentry
    rw [bne_iff_ne]
    intro hname
    exact h.reserved (hname ▸ List.mem_map_of_mem hentry)
  rw [h.cells, Row.cells, List.lookup_append, hmember, Option.none_or]
  cases r.result with
  | none => rfl
  | some truth => exact List.lookup_cons_self

theorem lookup_member (h : Mirrors s r) {name : String} (hname : name ∈ r.names) :
    s.cells.lookup name = r.columns.lookup name := by
  obtain ⟨c, hc⟩ := exists_lookup_of_mem hname
  rw [h.cells, Row.cells, List.lookup_append, hc, Option.some_or]

theorem get (h : Mirrors s r) (name : String) : s.get name = r.get name := by
  rw [Sheet.get, Row.get, h.resolve, h.names]
  cases hfound : r.resolve name with
  | error failure => rfl
  | ok found =>
    have hname := (Row.resolve_spec hfound).1
    obtain ⟨c, hc⟩ := exists_lookup_of_mem hname
    simp only [bind, Except.bind, h.lookup_member hname, hc]

theorem verdict (h : Mirrors s r) : s.verdict = r.verdict := by
  rw [Sheet.verdict, Row.verdict, h.lookup_result]
  rcases r.result with _ | _ | b <;> rfl

theorem assign_result (h : Mirrors s r) (truth : Truth) :
    Mirrors { s with cells := assign resultName (.bool truth) s.cells }
      { r with result := some truth } := by
  refine ⟨?_, h.listed, h.reserved⟩
  rw [h.cells, Row.cells, assign_append h.reserved]
  cases r.result with
  | none => rfl
  | some old => exact congrArg (r.columns ++ ·) (if_pos rfl)

/-- One request is answered alike, and leaves sheet and row the same. -/
theorem serve (h : Mirrors s r) (q : Request) :
    (s.serve q).1 = (r.serve q).1 ∧ Mirrors (s.serve q).2 (r.serve q).2 := by
  cases q with
  | store v =>
    rw [Sheet.serve, Row.serve, Sheet.store, Row.store]
    cases Column.result v with
    | error failure => exact ⟨rfl, h⟩
    | ok truth => exact ⟨rfl, h.assign_result truth⟩
  | verdict => exact ⟨congrArg Reply.verdict h.verdict, h⟩
  | get name => exact ⟨congrArg Reply.value (h.get name), h⟩
  | resolve name => exact ⟨congrArg Reply.name (h.resolve name), h⟩
  | names => exact ⟨congrArg Reply.names h.names, h⟩
  | entries =>
    refine ⟨congrArg Reply.entries ?_, h⟩
    rw [Sheet.entries, Row.entries, h.cells]

end Mirrors

end Sheet

namespace Row

/-- The row holds the members of another, in which identifiers stand for what they do there. -/
structure Keeps (row after : Row) : Prop where
  names : after.names = row.names
  resolve : ∀ name, after.resolve name = row.resolve name
  get : ∀ name, after.get name = row.get name
  reserved : ∀ name, after.resolve name ≠ .ok resultName
  entries : withdraw resultName after.entries = row.entries

variable {row after : Row} {bindings : List Binding} {keepCase : Bool}
  {used : Option (List String)}

theorem keeps_of_columns (hfresh : row.result = none) (hreserved : resultName ∉ row.names)
    (h : after.columns = row.columns) : Keeps row after where
  names := congrArg entryNames h
  resolve name := by rw [resolve, resolve, names, names, h]
  get name := by rw [get, get, resolve, resolve, names, names, h]
  reserved name hname := by
    have hmem := (resolve_spec hname).1
    rw [names, h] at hmem
    exact hreserved hmem
  entries := by
    have hmembers : withdraw resultName (row.columns.map fun (name, c) => (name, cellValue c)) =
        row.columns.map fun (name, c) => (name, cellValue c) := by
      refine List.filter_eq_self.2 fun entry hentry => decide_eq_true ?_
      obtain ⟨⟨name, c⟩, hc, rfl⟩ := List.mem_map.1 hentry
      rintro rfl
      exact hreserved (List.mem_map_of_mem hc)
    rw [entries, entries, cells, cells, h, hfresh, Option.map_none, Option.toList_none,
      List.append_nil, List.map_append, withdraw, List.filter_append]
    refine (congrArg₂ (· ++ ·) hmembers ?_).trans (List.append_nil _)
    cases after.result <;> rfl

/-- Whatever a row of some members is asked, it keeps them, no identifier stands for its result,
and the result is that of the value stored last. A store that fails changes nothing. All replies
are those of a sheet, in which the result stands among the members. -/
theorem serveAll_ofBindings (hrow : ofBindings bindings keepCase used = .ok row)
    (requests : List Request) :
    ∃ exchanges after, serveAll serve row requests = (exchanges, after) ∧ Keeps row after ∧
      after.verdict = verdictOf (.error .noResult) (lastStored exchanges) ∧
      (∀ v failure, after.store v = .error failure →
        after.serve (.store v) = (.stored (.error failure), after)) ∧
      (serveAll Sheet.serve (.ofColumns row.columns) requests).1 = exchanges := by
  have hreserved := (declared_ofBindings hrow).reserved
  obtain ⟨columns, -, hcolumns⟩ := exists_of_bind_eq_ok hrow
  cases hcolumns
  refine ⟨_, _, rfl, keeps_of_columns rfl hreserved ?_, verdict_serveAll _ requests, ?_, ?_⟩
  · exact columns_serveAll _ requests
  · intro v failure hv
    rw [serve, hv]
    rfl
  · exact serveAll_related (R := Sheet.Mirrors) (fun _ _ q h => h.serve q)
      (Sheet.Mirrors.ofColumns hreserved) requests

def twinBindings : List Binding :=
  [⟨"_IS_VALID", .single .int, .int 5⟩, ⟨"Age", .single .int, .int 3⟩]

def twinRow : Row :=
  ⟨[("_IS_VALID", .int (some 5)), ("Age", .int (some 3))], none, false⟩

def twinRequests : List Request :=
  [.verdict, .store (.bool true), .store (.text "no"), .get "_is_valid", .entries, .verdict]

theorem serveAll_twinRow :
    ofBindings twinBindings false none = .ok twinRow ∧
      ∃ exchanges after, serveAll serve twinRow twinRequests = (exchanges, after) ∧
        Keeps twinRow after ∧
        after.verdict = verdictOf (.error .noResult) (lastStored exchanges) ∧
        (∀ v failure, after.store v = .error failure →
          after.serve (.store v) = (.stored (.error failure), after)) ∧
        (serveAll Sheet.serve (.ofColumns twinRow.columns) twinRequests).1 = exchanges :=
  have hrow : ofBindings twinBindings false none = .ok twinRow := rfl
  ⟨hrow, serveAll_ofBindings hrow twinRequests⟩

end Row

end RuleCheck
