import RuleCheck.Proofs.Alike
import RuleCheck.Proofs.Token.Spelling
import RuleCheck.Proofs.Token.Taken

/-!
# Tokens tile their text

Every token owns the characters it is read from, which begin at its position and end before the
next token or at the end of the text. All other characters are white space. So each character
that is no white space belongs to just one token, and no token is longer than what stands for
its lexeme.
-/

set_option autoImplicit false

namespace RuleCheck

open Text

namespace Lexeme

def StandsFor (span : List Char) : Lexeme → Prop
  | name spelling =>
    span = if span.head? = some '[' then (name spelling).spelling else spelling.toList
  | keyword k => capitals (String.ofList span) = k.word
  | l => span = l.spelling

variable {c : Char} {cs text span rest : List Char} {l : Lexeme}

theorem standsFor_ofWord (hc : c ≠ '[') :
    (ofWord (String.ofList (c :: cs))).StandsFor (c :: cs) := by
  unfold ofWord
  split
  · rename_i k hk
    have hfound := List.find?_some hk
    exact (beq_iff_eq.1 hfound).symm
  · have hhead : (c :: cs).head? ≠ some '[' := by simpa using hc
    rw [StandsFor, if_neg hhead, String.toList_ofList]

theorem standsFor_of_symbol? (h : symbol? text = some (l, rest)) :
    l.StandsFor l.content.toList := by
  unfold symbol? at h
  split at h <;> cases h <;> rfl

theorem Taken.standsFor (h : Taken l span rest) : l.StandsFor span := by
  cases h with
  | number _ _ => exact String.toList_ofList.symm
  | text content _ =>
    show _ = '\'' :: (doubled (String.ofList content).toList ++ ['\''])
    rw [String.toList_ofList, List.cons_append]
  | @name cs _ _ _ =>
    have hhead : ('[' :: cs ++ [']']).head? = some '[' := rfl
    rw [StandsFor, if_pos hhead, spelling, String.toList_ofList]
  | word hc _ _ => exact standsFor_ofWord hc.2.2.2.2.1
  | symbol hsymbol => exact standsFor_of_symbol? hsymbol

end Lexeme

theorem scan_of_tokens {source : String} {ts : List Token} (h : tokens source = .ok ts) :
    Token.scan 0 source.toList = .ok ts := by
  unfold tokens at h
  split at h
  · cases h
    assumption
  · cases h

structure Tile where
  token : Token
  span : List Char

namespace Tile

def start (t : Tile) : Nat := t.token.position

def stop (t : Tile) : Nat := t.start + t.span.length

inductive Cover : Nat → List Char → List Tile → Prop
  | nil (position : Nat) : Cover position [] []
  | space {position : Nat} {c : Char} {cs : List Char} {tiles : List Tile}
      (hc : isSpace c = true) (h : Cover (position + 1) cs tiles) : Cover position (c :: cs) tiles
  | tile {position : Nat} {l : Lexeme} {span rest : List Char} {tiles : List Tile}
      (hspan : span ≠ []) (htaken : l.Taken span rest)
      (h : Cover (position + span.length) rest tiles) :
      Cover position (span ++ rest) (⟨⟨l, position⟩, span⟩ :: tiles)

theorem exists_cover {position : Nat} {cs : List Char} {ts : List Token}
    (h : Token.scan position cs = .ok ts) :
    ∃ tiles : List Tile, tiles.map token = ts ∧ Cover position cs tiles := by
  fun_induction Token.scan position cs generalizing ts with
  | case1 position =>
    cases h
    exact ⟨[], rfl, .nil position⟩
  | case2 position c cs hc ih =>
    obtain ⟨tiles, htiles, hcover⟩ := ih h
    exact ⟨tiles, htiles, .space hc hcover⟩
  | case3 => cases h
  | case4 position c cs hc l rest hread ih =>
    cases hrest : Token.scan (position + ((c :: cs).length - rest.length)) rest with
    | error cause =>
      rw [hrest] at h
      cases h
    | ok more =>
      rw [hrest] at h
      cases h
      obtain ⟨tiles, rfl, hcover⟩ := ih hrest
      obtain ⟨span, hsplit, htaken⟩ := Lexeme.taken_of_read hread
      have hshorter := Lexeme.length_read_lt hread
      have hspan : span ≠ [] := by
        rintro rfl
        rw [hsplit] at hshorter
        exact Nat.lt_irrefl _ hshorter
      rw [hsplit, List.length_append, Nat.add_sub_cancel] at hcover
      exact ⟨⟨⟨l, position⟩, span⟩ :: tiles, rfl, hsplit ▸ .tile hspan htaken hcover⟩

variable {position : Nat} {cs : List Char} {tiles : List Tile}

theorem Cover.within (h : Cover position cs tiles) :
    ∀ t ∈ tiles, position ≤ t.start ∧ t.stop ≤ position + cs.length := by
  induction h with
  | nil => exact List.forall_mem_nil _
  | space _ _ ih =>
    intro t ht
    have := ih t ht
    rw [List.length_cons]
    omega
  | @tile position l span rest tiles _ _ _ ih =>
    rw [List.forall_mem_cons, List.length_append]
    refine ⟨⟨Nat.le_refl _, ?_⟩, fun t ht => ?_⟩
    · show position + span.length ≤ _
      omega
    · have := ih t ht
      omega

theorem Cover.apart (h : Cover position cs tiles) :
    tiles.Pairwise fun s t => s.stop ≤ t.start := by
  induction h with
  | nil => exact .nil
  | space _ _ ih => exact ih
  | tile _ _ h ih => exact .cons (fun t ht => (h.within t ht).1) ih

/-- A tile stands in the text where its token says, and for the lexeme of that. -/
theorem Cover.stands (h : Cover position cs tiles) :
    ∀ t ∈ tiles, t.span ≠ [] ∧ t.token.lexeme.StandsFor t.span ∧
      t.span <+: cs.drop (t.start - position) := by
  induction h with
  | nil => exact List.forall_mem_nil _
  | @space position c cs tiles _ h ih =>
    intro t ht
    obtain ⟨hspan, hl, hprefix⟩ := ih t ht
    have hstart : t.start - position = t.start - (position + 1) + 1 := by
      have := (h.within t ht).1
      omega
    rw [hstart, List.drop_succ_cons]
    exact ⟨hspan, hl, hprefix⟩
  | @tile position l span rest tiles hspan htaken h ih =>
    rw [List.forall_mem_cons]
    refine ⟨⟨hspan, htaken.standsFor, ?_⟩, fun t ht => ?_⟩
    · show span <+: (span ++ rest).drop (position - position)
      rw [Nat.sub_self]
      exact List.prefix_append span rest
    · obtain ⟨hspan', hl, hprefix⟩ := ih t ht
      have hstart : t.start - position = span.length + (t.start - (position + span.length)) := by
        have := (h.within t ht).1
        omega
      rw [hstart, List.drop_length_add_append]
      exact ⟨hspan', hl, hprefix⟩

theorem Cover.blank (h : Cover position cs tiles) {i : Nat} {c : Char} (hc : cs[i]? = some c) :
    isSpace c = true ∨ ∃ t ∈ tiles, t.start ≤ position + i ∧ position + i < t.stop := by
  induction h generalizing i with
  | nil => cases hc
  | @space position d cs tiles hd _ ih =>
    cases i with
    | zero =>
      cases hc
      exact .inl hd
    | succ i =>
      have := ih (i := i) hc
      rwa [Nat.add_right_comm, Nat.add_assoc] at this
  | @tile position l span rest tiles _ _ _ ih =>
    by_cases hi : i < span.length
    · exact .inr ⟨_, List.mem_cons_self, Nat.le_add_right _ _, Nat.add_lt_add_left hi _⟩
    · rw [List.getElem?_append_right (by omega)] at hc
      have hplace : position + span.length + (i - span.length) = position + i := by omega
      rcases ih hc with hspace | ⟨t, ht, hplaces⟩
      · exact .inl hspace
      · exact .inr ⟨t, List.mem_cons_of_mem _ ht, hplace ▸ hplaces⟩

/-- The tiles of tokens in a text. The positions ascend, with the end of the expression listed
behind the last token. Each tile stands in the text where its token says and for the lexeme of
that. No two overlap, and what is in none of them is white space. -/
structure Tiling (source : String) (ts : List Token) (tiles : List Tile) : Prop where
  tokens : tiles.map token = ts
  ascending : (ts.map Token.position ++ [source.length]).Pairwise (· < ·)
  stands : ∀ t ∈ tiles, t.span ≠ [] ∧ t.token.lexeme.StandsFor t.span ∧
    t.span <+: source.toList.drop t.start
  apart : tiles.Pairwise fun s t => s.stop ≤ t.start
  within : ∀ t ∈ tiles, t.stop ≤ source.length
  blank : ∀ i c, source.toList[i]? = some c →
    isSpace c = true ∨ ∃ t ∈ tiles, t.start ≤ i ∧ i < t.stop

end Tile

/-- The tokens of an expression tile it. -/
theorem exists_tiling {source : String} {ts : List Token} (h : tokens source = .ok ts) :
    ∃ tiles, Tile.Tiling source ts tiles := by
  obtain ⟨tiles, rfl, hcover⟩ := Tile.exists_cover (scan_of_tokens h)
  have hlength : 0 + source.toList.length = source.length := by
    rw [Nat.zero_add, String.length_toList]
  have hwithin : ∀ t ∈ tiles, t.stop ≤ source.length :=
    fun t ht => hlength ▸ (hcover.within t ht).2
  have hnonempty : ∀ t ∈ tiles, t.start < t.stop := fun t ht =>
    Nat.lt_add_of_pos_right (List.length_pos_iff.2 (hcover.stands t ht).1)
  refine ⟨tiles, rfl, ?_, hcover.stands, hcover.apart, hwithin, fun i c hc => ?_⟩
  · rw [List.map_map, List.pairwise_append]
    refine ⟨?_, List.pairwise_singleton _ _, fun p hp stop hstop => ?_⟩
    · rw [List.pairwise_map]
      exact hcover.apart.imp_of_mem fun hs _ hst => Nat.lt_of_lt_of_le (hnonempty _ hs) hst
    · obtain ⟨t, ht, rfl⟩ := List.mem_map.1 hp
      rw [List.mem_singleton.1 hstop]
      exact Nat.lt_of_lt_of_le (hnonempty t ht) (hwithin t ht)
  · have := hcover.blank hc
    rwa [Nat.zero_add] at this

def adjacentRule : String := "[a b]<='it''s'and .5ex"

def adjacentTokens : List Token :=
  [⟨.name "a b", 0⟩, ⟨.comparison .le, 5⟩, ⟨.text "it's", 7⟩, ⟨.keyword .and, 14⟩,
    ⟨.number ".5", 18⟩, ⟨.name "ex", 20⟩]

theorem exists_tiling_adjacentRule :
    tokens adjacentRule = .ok adjacentTokens ∧
      ∃ tiles, Tile.Tiling adjacentRule adjacentTokens tiles :=
  have htokens : tokens adjacentRule = .ok adjacentTokens := by decide +kernel
  ⟨htokens, exists_tiling htokens⟩

end RuleCheck
