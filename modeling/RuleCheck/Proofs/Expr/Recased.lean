import RuleCheck.Proofs.Expr.Unresolved
import RuleCheck.Proofs.Row.Columns
import RuleCheck.Proofs.Token.Recased

/-!
# Members in another case

Where the names of all members differ by more than case, no two columns are candidates for one
identifier, so an identifier stands for the column whose name differs from it in case at most,
or for none. An expression that spells its identifiers in another case is therefore read alike,
uses the same members and has the same value, and where it fails it fails alike.
-/

set_option autoImplicit false

namespace RuleCheck

open Text

def Failure.nameless : Failure → Failure
  | fault ⟨.unknownName _ _, _⟩ => ofCause (.unknownName "" [])
  | fault ⟨cause, _⟩ => ofCause cause
  | other => other

theorem Failure.nameless_attach (source : String) (f : Failure) :
    (f.attach source).nameless = f.nameless := by
  cases f with
  | fault f =>
    obtain ⟨cause, expression⟩ := f
    cases cause <;> rfl
  | _ => rfl

theorem nameless_attaching {α : Type} (source : String) (x : Except Failure α) :
    (attaching source x).mapError Failure.nameless = x.mapError Failure.nameless := by
  cases x with
  | ok a => rfl
  | error f => exact congrArg Except.error (f.nameless_attach source)

theorem Joins.ne_name {l : Lexeme} {n : Nat} {f : Expr → Expr → Expr} (h : Joins l n f)
    (name : String) : l ≠ .name name := by
  cases h <;> exact nofun

theorem Signs.ne_name {l : Lexeme} {op : Sign} (h : Signs l op) (name : String) :
    l ≠ .name name := by
  cases h <;> exact nofun

namespace Expr

/-- Two expressions that differ in the case of names at most, and in positions. -/
inductive Recased : Expr → Expr → Prop
  | member {n m : String} (position place : Nat) (h : fold m = fold n) :
      Recased (member n position) (member m place)
  | literal (v : Value) : Recased (literal v) (literal v)
  | sign (op : Sign) {x y : Expr} (h : Recased x y) : Recased (sign op x) (sign op y)
  | compute (op : Arithmetic) {l l' r r' : Expr} (hl : Recased l l') (hr : Recased r r') :
      Recased (compute op l r) (compute op l' r')
  | compare (op : Comparison) {l l' r r' : Expr} (hl : Recased l l') (hr : Recased r r') :
      Recased (compare op l r) (compare op l' r')
  | isNull (negated : Bool) {x y : Expr} (h : Recased x y) :
      Recased (isNull negated x) (isNull negated y)
  | not {x y : Expr} (h : Recased x y) : Recased (not x) (not y)
  | and {l l' r r' : Expr} (hl : Recased l l') (hr : Recased r r') :
      Recased (and l r) (and l' r')
  | or {l l' r r' : Expr} (hl : Recased l l') (hr : Recased r r') : Recased (or l r) (or l' r')

variable {x y : Expr} {row : Row} {bindings : List Binding} {keepCase : Bool}

def foldedLexeme (t : Token) : Lexeme := t.lexeme.folded

theorem lexeme_eq_of_folded {t u : Token} {l : Lexeme} (hu : foldedLexeme u = foldedLexeme t)
    (ht : t.lexeme = l) (hl : ∀ n, l ≠ .name n) : u.lexeme = l :=
  Lexeme.eq_of_folded (hu.trans (congrArg Lexeme.folded ht)) hl

theorem exists_atom_recased {t u : Token} (h : Atom t x) (hu : foldedLexeme u = foldedLexeme t) :
    ∃ y, Atom u y ∧ x.Recased y := by
  cases h with
  | number ht hv => exact ⟨_, .number (lexeme_eq_of_folded hu ht nofun) hv, .literal _⟩
  | text ht => exact ⟨_, .text (lexeme_eq_of_folded hu ht nofun), .literal _⟩
  | member ht =>
    obtain ⟨n, hn, hfold⟩ :=
      Lexeme.exists_of_folded_name (hu.trans (congrArg Lexeme.folded ht))
    exact ⟨_, .member hn, .member _ _ hfold⟩
  | true ht => exact ⟨_, .true (lexeme_eq_of_folded hu ht nofun), .literal _⟩
  | false ht => exact ⟨_, .false (lexeme_eq_of_folded hu ht nofun), .literal _⟩
  | null ht => exact ⟨_, .null (lexeme_eq_of_folded hu ht nofun), .literal _⟩

theorem Recased.join {l : Lexeme} {n : Nat} {f : Expr → Expr → Expr} (h : Joins l n f)
    {x' y' : Expr} (hx : x.Recased x') (hy : y.Recased y') : (f x y).Recased (f x' y') := by
  cases h with
  | or => exact .or hx hy
  | and => exact .and hx hy
  | _ => exact .compute _ hx hy

/-- Tokens around one of them are matched by tokens around the one that matches it. -/
theorem exists_around {us ls rs : List Token} {t : Token}
    (h : us.map foldedLexeme = (ls ++ t :: rs).map foldedLexeme) :
    ∃ ls' u rs', us = ls' ++ u :: rs' ∧ ls'.map foldedLexeme = ls.map foldedLexeme ∧
      foldedLexeme u = foldedLexeme t ∧ rs'.map foldedLexeme = rs.map foldedLexeme := by
  rw [List.map_append, List.map_cons] at h
  obtain ⟨ls', vs, rfl, hls, hvs⟩ := List.map_eq_append_iff.1 h
  obtain ⟨u, rs', rfl, hu, hrs⟩ := List.map_eq_cons_iff.1 hvs
  exact ⟨ls', u, rs', rfl, hls, hu, hrs⟩

theorem exists_alone {us : List Token} {t : Token}
    (h : us.map foldedLexeme = [t].map foldedLexeme) :
    ∃ u, us = [u] ∧ foldedLexeme u = foldedLexeme t := by
  obtain ⟨u, rest, rfl, hu, hrest⟩ := List.map_eq_cons_iff.1 h
  exact ⟨u, congrArg (u :: ·) (List.map_eq_nil_iff.1 hrest), hu⟩

/-- Tokens that differ in the case of names are read as the same phrase, in that case. -/
theorem exists_derives_recased {n : Nat} {ts us : List Token} (h : Derives n ts x)
    (hus : us.map foldedLexeme = ts.map foldedLexeme) : ∃ y, Derives n us y ∧ x.Recased y := by
  induction h generalizing us with
  | tighter _ ih =>
    obtain ⟨y, hy, hxy⟩ := ih hus
    exact ⟨y, .tighter hy, hxy⟩
  | @join n f t _ _ _ _ ht _ _ ihl ihr =>
    obtain ⟨ls, u, rs, rfl, hls, hu, hrs⟩ := exists_around hus
    obtain ⟨l, hl, hleft⟩ := ihl hls
    obtain ⟨r, hr, hright⟩ := ihr hrs
    have hjoins : Joins u.lexeme n f := by
      rwa [lexeme_eq_of_folded hu rfl ht.ne_name]
    exact ⟨_, .join hjoins hl hr, .join ht hleft hright⟩
  | not ht _ ih =>
    obtain ⟨u, us', rfl, hu, hus'⟩ := List.map_eq_cons_iff.1 hus
    obtain ⟨y, hy, hxy⟩ := ih hus'
    exact ⟨_, .not (lexeme_eq_of_folded hu ht nofun) hy, .not hxy⟩
  | compare ht _ _ ihl ihr =>
    obtain ⟨ls, u, rs, rfl, hls, hu, hrs⟩ := exists_around hus
    obtain ⟨l, hl, hleft⟩ := ihl hls
    obtain ⟨r, hr, hright⟩ := ihr hrs
    exact ⟨_, .compare (lexeme_eq_of_folded hu ht nofun) hl hr, .compare _ hleft hright⟩
  | isNull his hnull _ ih =>
    obtain ⟨us', u, rest, rfl, hus', hu, hrest⟩ := exists_around hus
    obtain ⟨v, rfl, hv⟩ := exists_alone hrest
    obtain ⟨y, hy, hxy⟩ := ih hus'
    exact ⟨_, .isNull (lexeme_eq_of_folded hu his nofun) (lexeme_eq_of_folded hv hnull nofun) hy,
      .isNull _ hxy⟩
  | isNotNull his hnot hnull _ ih =>
    obtain ⟨us', u, rest, rfl, hus', hu, hrest⟩ := exists_around hus
    obtain ⟨v, ws, rfl, hv, hws⟩ := List.map_eq_cons_iff.1 hrest
    obtain ⟨w, rfl, hw⟩ := exists_alone hws
    obtain ⟨y, hy, hxy⟩ := ih hus'
    exact ⟨_, .isNotNull (lexeme_eq_of_folded hu his nofun) (lexeme_eq_of_folded hv hnot nofun)
      (lexeme_eq_of_folded hw hnull nofun) hy, .isNull _ hxy⟩
  | @sign op t _ _ ht _ ih =>
    obtain ⟨u, us', rfl, hu, hus'⟩ := List.map_eq_cons_iff.1 hus
    obtain ⟨y, hy, hxy⟩ := ih hus'
    have hsigns : Signs u.lexeme op := by
      rwa [lexeme_eq_of_folded hu rfl ht.ne_name]
    exact ⟨_, .sign hsigns hy, .sign _ hxy⟩
  | atom hx =>
    obtain ⟨u, rfl, hu⟩ := exists_alone hus
    obtain ⟨y, hy, hxy⟩ := exists_atom_recased hx hu
    exact ⟨y, .atom hy, hxy⟩
  | paren hopening hclosing _ ih =>
    obtain ⟨us', v, rest, rfl, hus', hv, hrest⟩ := exists_around hus
    obtain rfl : rest = [] := List.map_eq_nil_iff.1 hrest
    obtain ⟨u, inner, rfl, hu, hinner⟩ := List.map_eq_cons_iff.1 hus'
    obtain ⟨y, hy, hxy⟩ := ih hinner
    exact ⟨y, .paren (lexeme_eq_of_folded hu hopening nofun)
      (lexeme_eq_of_folded hv hclosing nofun) hy, hxy⟩

/-- A text with names in another case is read as the expression with names in that case. -/
theorem exists_read_recased {source source' : String} (hread : read source = .ok x)
    (h : RuleCheck.Recased source.toList source'.toList) :
    ∃ y, read source' = .ok y ∧ x.Recased y := by
  obtain ⟨ts, htokens, hderives⟩ := exists_tokens_of_read hread
  obtain ⟨ls, ms, hls, hms, hsame⟩ := h.scan
  have hts : ls = ts.map Token.lexeme := by
    rcases Token.scan_cases 0 source.toList with ⟨ts', hts', hls'⟩ | ⟨_, _, hts', -⟩
    · cases (scan_of_tokens htokens).symm.trans hts'
      exact Except.ok.inj (hls.symm.trans hls')
    · cases (scan_of_tokens htokens).symm.trans hts'
  rcases Token.scan_cases 0 source'.toList with ⟨us, hus, hms'⟩ | ⟨_, _, -, hms'⟩
  · have hlexemes : us.map foldedLexeme = ts.map foldedLexeme := by
      cases Except.ok.inj (hms.symm.trans hms')
      rw [hts, List.map_map, List.map_map] at hsame
      exact hsame
    obtain ⟨y, hy, hxy⟩ := exists_derives_recased hderives hlexemes
    refine ⟨y, ?_, hxy⟩
    rw [read, tokens, hus]
    exact congrArg (attaching source') (ofTokens_of_derives _ hy)
  · cases hms.symm.trans hms'

theorem Recased.map_fold_names (h : x.Recased y) : y.names.map fold = x.names.map fold := by
  induction h with
  | member _ _ h => exact congrArg (fun s => [s]) h
  | literal v => rfl
  | sign _ _ ih => exact ih
  | isNull _ _ ih => exact ih
  | not _ ih => exact ih
  | compute _ _ _ ihl ihr => simp only [names, List.map_append, ihl, ihr]
  | compare _ _ _ ihl ihr => simp only [names, List.map_append, ihl, ihr]
  | and _ _ ihl ihr => simp only [names, List.map_append, ihl, ihr]
  | or _ _ ihl ihr => simp only [names, List.map_append, ihl, ihr]

theorem Recased.symm (h : x.Recased y) : y.Recased x := by
  induction h with
  | member position place h => exact .member place position h.symm
  | literal v => exact .literal v
  | sign op _ ih => exact .sign op ih
  | isNull negated _ ih => exact .isNull negated ih
  | not _ ih => exact .not ih
  | compute op _ _ ihl ihr => exact .compute op ihl ihr
  | compare op _ _ ihl ihr => exact .compare op ihl ihr
  | and _ _ ihl ihr => exact .and ihl ihr
  | or _ _ ihl ihr => exact .or ihl ihr

theorem Recased.exists_name (h : x.Recased y) {n : String} (hn : n ∈ x.names) :
    ∃ m ∈ y.names, fold m = fold n := by
  have hmem : fold n ∈ y.names.map fold := h.map_fold_names ▸ List.mem_map_of_mem hn
  obtain ⟨m, hm, hfold⟩ := List.mem_map.1 hmem
  exact ⟨m, hm, hfold⟩

theorem isUsed_members (e : Expr) (name : String) :
    Row.isUsed (some e.members) name = (e.names.map fold).contains (fold name) := by
  rw [Bool.eq_iff_iff, List.contains_iff_mem, List.mem_map]
  refine List.any_eq_true.trans ?_
  simp only [members, mem_firsts, beq_iff_eq]

theorem ofBindings_recased (h : x.Recased y) (bindings : List Binding) (keepCase : Bool) :
    Row.ofBindings bindings keepCase (some y.members) =
      Row.ofBindings bindings keepCase (some x.members) := by
  have hused : Row.isUsed (some y.members) = Row.isUsed (some x.members) := by
    funext name
    rw [isUsed_members, isUsed_members, h.map_fold_names]
  have hadd : Row.addBinding (some y.members) = Row.addBinding (some x.members) := by
    funext columns b
    unfold Row.addBinding
    rw [hused]
  rw [Row.ofBindings, Row.ofBindings, hadd]

end Expr

namespace Row

variable {row : Row} {n m : String}

/-- Where no two columns differ in case alone, an identifier stands for the column whose name
differs from it in case at most, and is unknown if there is none. -/
theorem resolve_cases (hfolds : (row.names.map fold).Nodup) (n : String) :
    (∃ found, ∀ m, fold m = fold n → row.resolve m = .ok found) ∨
      ∀ m, fold m = fold n → row.resolve m = .error (.ofCause (.unknownName m row.names)) := by
  by_cases hfound : ∃ found ∈ row.names, fold found = fold n
  · obtain ⟨found, hmem, hfold⟩ := hfound
    refine .inl ⟨found, fun m hm => ?_⟩
    exact resolve_of_only (List.Nodup.of_map fold hfolds) hmem (hm.trans hfold.symm)
      fun k hk hsame => List.inj_on_of_nodup_map hfolds hk hmem hsame
  · refine .inr fun m hm => ?_
    have hnone (k : String) (hk : k ∈ row.names) : fold k ≠ fold m := fun hsame =>
      hfound ⟨k, hk, hsame.trans hm⟩
    have hcandidates : (row.names.filter fun k => fold k == fold m) = [] :=
      List.filter_eq_nil_iff.2 fun k hk => by simpa using hnone k hk
    rw [resolve, if_neg fun hmem => hnone m hmem.1 rfl, hcandidates]

theorem get_of_fold (hfolds : (row.names.map fold).Nodup) {found : String}
    (hfound : row.resolve n = .ok found) (h : fold m = fold n) : row.get m = row.get n := by
  rcases resolve_cases hfolds n with ⟨found', hsame⟩ | hunknown
  · obtain ⟨c, hc, hget⟩ := exists_get (hsame n rfl)
    rw [hget, get_of_lookup (hsame m h) hc]
  · cases hfound.symm.trans (hunknown n rfl)

end Row

namespace Expr

variable {x y : Expr} {row : Row} {bindings : List Binding} {keepCase : Bool}

theorem missing_recased (h : x.Recased y) (hfolds : (row.names.map fold).Nodup)
    (hx : x.missing? row = none) : y.missing? row = none := by
  refine List.find?_eq_none.2 fun m hm => ?_
  obtain ⟨n, hn, hfold⟩ := h.symm.exists_name hm
  obtain ⟨found, hfound⟩ := resolve_of_not_missing hx n hn
  rw [Bool.not_eq_true, Row.misses_eq_false]
  rcases Row.resolve_cases hfolds m with ⟨found, hsame⟩ | hunknown
  · exact ⟨found, hsame m rfl⟩
  · cases hfound.symm.trans (hunknown n hfold)

theorem bind_of_missing (hfolds : (row.names.map fold).Nodup) {n : String}
    (hx : x.missing? row = some n) :
    x.bind row = .error (.ofCause (.unknownName n row.names)) := by
  rw [bind_eq, hx]
  rcases Row.resolve_cases hfolds n with ⟨found, hsame⟩ | hunknown
  · have hfound := Row.misses_eq_false.2 ⟨found, hsame n rfl⟩
    cases (misses_of_missing hx).symm.trans hfound
  · simp only [hunknown n rfl]
    rfl

/-- All members are found in both cases, or one is unknown in each. -/
theorem bind_recased (h : x.Recased y) (hfolds : (row.names.map fold).Nodup) :
    (x.bind row = .ok () ∧ y.bind row = .ok ()) ∨
      ∃ n m, x.bind row = .error (.ofCause (.unknownName n row.names)) ∧
        y.bind row = .error (.ofCause (.unknownName m row.names)) := by
  cases hx : x.missing? row with
  | none =>
    have hy := missing_recased h hfolds hx
    exact .inl ⟨bind_eq_ok (resolve_of_not_missing hx), bind_eq_ok (resolve_of_not_missing hy)⟩
  | some n =>
    cases hy : y.missing? row with
    | none => cases hx.symm.trans (missing_recased h.symm hfolds hy)
    | some m => exact .inr ⟨n, m, bind_of_missing hfolds hx, bind_of_missing hfolds hy⟩

/-- Where all members are found, the value is the same in both cases. -/
theorem value_recased (h : x.Recased y) (hfolds : (row.names.map fold).Nodup)
    (hfound : ∀ n ∈ x.names, ∃ found, row.resolve n = .ok found) : x.value row = y.value row := by
  induction h with
  | member _ _ h =>
    obtain ⟨found, hfound⟩ := hfound _ (List.mem_singleton_self _)
    exact (Row.get_of_fold hfolds hfound h).symm
  | literal v => rfl
  | sign _ _ ih => simp only [value, ih hfound]
  | isNull _ _ ih => simp only [value, ih hfound]
  | not _ ih => simp only [value, ih hfound]
  | compute _ _ _ ihl ihr =>
    obtain ⟨hl, hr⟩ := List.forall_mem_append.1 hfound
    simp only [value, ihl hl, ihr hr]
  | compare _ _ _ ihl ihr =>
    obtain ⟨hl, hr⟩ := List.forall_mem_append.1 hfound
    simp only [value, ihl hl, ihr hr]
  | and _ _ ihl ihr =>
    obtain ⟨hl, hr⟩ := List.forall_mem_append.1 hfound
    simp only [value, ihl hl, ihr hr]
  | or _ _ ihl ihr =>
    obtain ⟨hl, hr⟩ := List.forall_mem_append.1 hfound
    simp only [value, ihl hl, ihr hr]

theorem verdict_recased (h : x.Recased y) (hnames : (bindings.map fun b => fold b.name).Nodup)
    (keepCase : Bool) :
    (x.verdict bindings keepCase).mapError Failure.nameless =
      (y.verdict bindings keepCase).mapError Failure.nameless := by
  have hdistinct : (bindings.map Binding.name).Nodup := by
    refine List.Nodup.of_map fold ?_
    rwa [List.map_map]
  rw [verdict, verdict, ofBindings_recased h]
  cases hrow : Row.ofBindings bindings keepCase (some x.members) with
  | error f => rfl
  | ok row =>
    have hfolds : (row.names.map fold).Nodup := by
      refine List.Nodup.sublist ((Row.names_sublist hdistinct hrow).map fold) ?_
      rwa [List.map_map]
    rcases bind_recased h hfolds with ⟨hx, hy⟩ | ⟨n, m, hx, hy⟩
    · simp only [Bind.bind, Except.bind, hx, hy,
        value_recased h hfolds (exists_resolve_of_bind hx)]
    · simp only [Bind.bind, Except.bind, hx, hy]
      rfl

end Expr

/-- Where the names of all members differ by more than case, the spelling of identifiers does not
matter: with some of them in brackets in another case, an expression has the same verdict, or
fails in the same way, but for the expression that the failure names and a name that is unknown. -/
theorem evaluate_recased {source source' : String} {bindings : List Binding} {e : Expr}
    (he : Expr.read source = .ok e) (h : Recased source.toList source'.toList)
    (hnames : (bindings.map fun b => fold b.name).Nodup) (keepCase : Bool) :
    (evaluate source' bindings keepCase).mapError Failure.nameless =
      (evaluate source bindings keepCase).mapError Failure.nameless := by
  obtain ⟨e', he', hrecased⟩ := Expr.exists_read_recased he h
  rw [evaluate_eq, evaluate_eq, he, he']
  change (attaching source' (e'.verdict bindings keepCase)).mapError _ =
    (attaching source (e.verdict bindings keepCase)).mapError _
  rw [nameless_attaching, nameless_attaching]
  exact (Expr.verdict_recased hrecased hnames keepCase).symm

def sizeRule : String := "Größe<5"

def recasedSizeRule : String := "[GRÖSSE]<5"

def sizeExpr : Expr := .compare .lt (.member "Größe" 0) (.literal (.int 5))

def sized : List Binding :=
  [⟨"größe", .single .int, .int 3⟩, ⟨"Farbe", .single .text, .text "rot"⟩]

theorem recased_sizeRule : Recased sizeRule.toList recasedSizeRule.toList := by
  have hname : Lexeme.read 'G' ("röße".toList ++ ['<', '5']) = .ok (.name "Größe", ['<', '5']) := by
    decide +kernel
  have hless : Lexeme.read '<' ([] ++ ['5']) = .ok (.comparison .lt, ['5']) := by decide +kernel
  have hnumber : Lexeme.read '5' ([] ++ []) = .ok (.number "5", []) := by decide +kernel
  have hbehind : Recased ['<', '5'] ['<', '5'] :=
    .keep (by decide) hless (.keep (by decide) hnumber .nil)
  have htext : sizeRule.toList = 'G' :: ("röße".toList ++ ['<', '5']) := by decide
  have hrecased : recasedSizeRule.toList = '[' :: ("GRÖSSE".toList ++ ']' :: ['<', '5']) := by
    decide
  rw [htext, hrecased]
  exact .name (by decide) hname (by decide +kernel) hbehind

theorem evaluate_recased_sizeRule :
    Expr.read sizeRule = .ok sizeExpr ∧ Recased sizeRule.toList recasedSizeRule.toList ∧
      (sized.map fun b => fold b.name).Nodup ∧ evaluate sizeRule sized false = .ok true ∧
      (evaluate recasedSizeRule sized false).mapError Failure.nameless =
        (evaluate sizeRule sized false).mapError Failure.nameless := by
  have hread : Expr.read sizeRule = .ok sizeExpr := by
    have htokens : tokens sizeRule =
        .ok [⟨.name "Größe", 0⟩, ⟨.comparison .lt, 5⟩, ⟨.number "5", 6⟩] := by decide +kernel
    rw [Expr.read, htokens]
    rfl
  have hnames : (sized.map fun b => fold b.name).Nodup := by decide +kernel
  have hverdict : sizeExpr.verdict sized false = .ok true := by decide +kernel
  exact ⟨hread, recased_sizeRule, hnames, evaluate_eq_ok.2 ⟨sizeExpr, hread, hverdict⟩,
    evaluate_recased hread recased_sizeRule hnames false⟩

end RuleCheck
