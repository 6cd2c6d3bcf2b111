import RuleCheck.Command.Arguments

/-!
# Spelling a check

Every check can be asked for on the command line, with any texts for its expression, its data file,
its member and its message, and with any verbosity: a value is attached to its option with an
equality sign, and the expression stands behind a divider, so neither is taken for an option.
-/

set_option autoImplicit false

namespace RuleCheck.Command

namespace Word

def AreNames (flags : List Flag) : Prop := ∀ f ∈ flags, ∀ name ∈ f.names, '=' ∉ name.toList

instance (flags : List Flag) : Decidable (AreNames flags) :=
  inferInstanceAs (Decidable (∀ f ∈ flags, ∀ name ∈ f.names, '=' ∉ name.toList))

section

variable {flags : List Flag} {name : String}

theorem named?_eq_none (hflags : AreNames flags) {text : String} (h : '=' ∈ text.toList) :
    named? flags text = none := by
  rw [named?, List.find?_eq_none]
  intro f hf hcontains
  exact hflags f hf text (List.contains_iff_mem.1 hcontains) h

theorem split_attached (hname : '=' ∉ name.toList) (value : List Char) :
    split (name.toList ++ '=' :: value) = (name.toList, some value) := by
  have hbefore : ∀ c ∈ name.toList, (c != '=') = true := by
    rintro c hc
    exact bne_iff_ne.2 fun h => hname (h ▸ hc)
  have htake : (name.toList ++ '=' :: value).takeWhile (· != '=') = name.toList := by
    rw [List.takeWhile_append_of_pos hbefore]
    simp
  simp only [split, htake]
  simp

/-- An option of two dashes is found by its name, or else by the names that it begins. -/
theorem read_attached {rest : List Char} (hflags : AreNames flags)
    (hstart : name.toList = '-' :: '-' :: rest) (hname : '=' ∉ name.toList) (value : String) :
    read flags (name ++ "=" ++ value) =
      match named? flags name with
      | some f => .ok (ofFlag f (some value.toList))
      | none =>
        match abbreviated flags name.toList with
        | [] => .ok (ofOther (name.toList ++ '=' :: value.toList))
        | [f] => .ok (ofFlag f (some value.toList))
        | _ => .error .misuse := by
  have htext : (name ++ "=" ++ value).toList = name.toList ++ '=' :: value.toList := by
    simp [String.toList_append]
  have hwhole : named? flags (name ++ "=" ++ value) = none :=
    named?_eq_none hflags (by simp [htext])
  have hsplit := split_attached hname value.toList
  rw [hstart, List.cons_append, List.cons_append] at hsplit
  rw [read, htext, hstart, List.cons_append, List.cons_append]
  simp only [hsplit, hwhole]
  rw [← hstart, String.ofList_toList]
  cases named? flags name <;> rfl

theorem readAll_cons {text : String} {texts : List String} {w : Word} {ws : List Word}
    (htext : text ≠ "--") (hw : read flags text = .ok w) (hws : readAll flags texts = .ok ws) :
    readAll flags (text :: texts) = .ok (w :: ws) := by
  rw [readAll.eq_3 _ _ _ htext, hw, hws]
  rfl

end

end Word

def Verbosity.argument : Verbosity → String
  | quiet => "-q"
  | verbose => "-v"
  | debug => "--debug"

def valueNames : List (Topic × String) :=
  [(.data, "--data"), (.member, "--member"), (.message, "--message")]

def attached (options : List (Topic × String)) : List String :=
  options.map fun (topic, value) => (valueNames.lookup topic).getD "" ++ "=" ++ value

def checkOptions (data : String) (member message : Option String) : List (Topic × String) :=
  (.data, data) :: member.toList.map (.member, ·) ++ message.toList.map (.message, ·)

def checkArguments (expression data : String) (member message : Option String) (json : Bool) :
    List String :=
  attached (checkOptions data member message) ++
    ((if json then ["--json"] else []) ++ ["--", expression])

def arguments (verbosity : Option Verbosity) (expression data : String)
    (member message : Option String) (json : Bool) : List String :=
  (verbosity.map Verbosity.argument).toList ++
    "check" :: checkArguments expression data member message json

section

variable {flags : List Flag} {options : List (Topic × String)} {texts : List String}
  {ws : List Word}

theorem topic_mem_checkOptions (data : String) (member message : Option String) :
    ∀ option ∈ checkOptions data member message, option.1 ∈ [Topic.data, .member, .message] := by
  cases member <;> cases message <;> simp [checkOptions]

namespace Word

theorem read_option {topic : Topic} (h : topic ∈ [Topic.data, .member, .message])
    (value : String) :
    read Flag.ofCheck ((valueNames.lookup topic).getD "" ++ "=" ++ value) =
        .ok (valued topic (some value)) ∧
      ∃ w, read Flag.common ((valueNames.lookup topic).getD "" ++ "=" ++ value) = .ok w := by
  have hflags : AreNames Flag.ofCheck ∧ AreNames Flag.common := by decide
  have hvalue : (some value.toList).map String.ofList = some value := by simp
  simp only [List.mem_cons, List.not_mem_nil, or_false] at h
  rcases h with rfl | rfl | rfl
  all_goals
    refine ⟨(read_attached hflags.1 rfl (by decide) value).trans ?_,
      _, read_attached hflags.2 rfl (by decide) value⟩
    exact congrArg (fun attached => Except.ok (valued _ attached)) hvalue

theorem ne_divider (name value : String) : name ++ "=" ++ value ≠ "--" := by
  intro h
  have hmem : '=' ∈ (name ++ "=" ++ value).toList := by simp [String.toList_append]
  rw [h] at hmem
  exact absurd hmem (by decide)

theorem readAll_attached (h : ∀ option ∈ options, option.1 ∈ [Topic.data, .member, .message])
    (hrest : readAll Flag.ofCheck texts = .ok ws) :
    readAll Flag.ofCheck (attached options ++ texts) =
      .ok (options.map (fun (topic, value) => valued topic (some value)) ++ ws) := by
  induction options with
  | nil => exact hrest
  | cons option options ih =>
    obtain ⟨hoption, hoptions⟩ := List.forall_mem_cons.1 h
    exact readAll_cons (ne_divider _ _) (read_option hoption option.2).1 (ih hoptions)

theorem exists_readAll_attached
    (h : ∀ option ∈ options, option.1 ∈ [Topic.data, .member, .message])
    (hrest : ∃ ws, readAll Flag.common texts = .ok ws) :
    ∃ ws, readAll Flag.common (attached options ++ texts) = .ok ws := by
  induction options with
  | nil => exact hrest
  | cons option options ih =>
    obtain ⟨hoption, hoptions⟩ := List.forall_mem_cons.1 h
    obtain ⟨w, hw⟩ := (read_option hoption option.2).2
    obtain ⟨ws, hws⟩ := ih hoptions
    exact ⟨w :: ws, readAll_cons (ne_divider _ _) hw hws⟩

end Word

theorem Found.take_valued (found : Found) :
    take true found (options.map (fun (topic, value) => .valued topic (some value)) ++ ws) =
      take true { found with values := options.reverse ++ found.values } ws := by
  induction options generalizing found with
  | nil => rfl
  | cons option options ih =>
    rw [List.map_cons, List.cons_append, take, ih, List.reverse_cons, List.append_assoc]
    rfl

end

theorem Request.read_checkArguments (expression data : String) (member message : Option String)
    (json : Bool) :
    read "check" (checkArguments expression data member message json) =
      .ok (.check expression data member message json) := by
  have htopics := topic_mem_checkOptions data member message
  have hend : Word.readAll Flag.ofCheck ((if json then ["--json"] else []) ++ ["--", expression]) =
      .ok ((if json then [.marks [.json]] else []) ++ [.divider, .plain expression]) := by
    cases json <;> rfl
  rw [read, found, checkArguments, Word.readAll_attached htopics hend]
  show (do let f ← Found.take true .nothing _; _) = _
  rw [Found.take_valued]
  cases json <;> cases member <;> cases message <;> rfl

theorem Invocation.read_arguments (verbosity : Option Verbosity) (expression data : String)
    (member message : Option String) (json : Bool) :
    read (arguments verbosity expression data member message json) =
      .ok ⟨verbosity, some (.check expression data member message json)⟩ := by
  have htopics := topic_mem_checkOptions data member message
  have hend : ∃ ws, Word.readAll Flag.common
      ((if json then ["--json"] else []) ++ ["--", expression]) = .ok ws := by
    cases json <;> exact ⟨_, rfl⟩
  obtain ⟨ws, hws⟩ := Word.exists_readAll_attached htopics hend
  have hcheck : Word.readAll Flag.common
      ("check" :: checkArguments expression data member message json) =
        .ok (.plain "check" :: ws) := Word.readAll_cons (by decide) rfl hws
  cases verbosity with
  | none =>
    show (do let ws ← Word.readAll Flag.common ("check" :: checkArguments _ _ _ _ _); _) = _
    rw [hcheck]
    show (do let request ← Request.read "check" (checkArguments _ _ _ _ _); _) = _
    rw [Request.read_checkArguments]
    rfl
  | some v =>
    have hverbosity : Word.readAll Flag.common (v.argument ::
        "check" :: checkArguments expression data member message json) =
          .ok (.marks [.verbosity v] :: .plain "check" :: ws) := by
      refine Word.readAll_cons ?_ ?_ hcheck
      · cases v <;> decide
      · cases v <;> rfl
    show (do let ws ← Word.readAll Flag.common (v.argument :: "check" :: _); _) = _
    rw [hverbosity]
    show (do let request ← Request.read "check" (checkArguments _ _ _ _ _); _) = _
    rw [Request.read_checkArguments]
    rfl

end RuleCheck.Command
