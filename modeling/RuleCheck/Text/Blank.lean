import RuleCheck.Text.Ranges

/-!
# White space

White space is the 29 characters that separate words in any script, the four information
separators included. Runs of the plain space are collapsed in two ways that agree: by
replacing pairs until none is left, and by one pass that drops every space before a space.
-/

set_option autoImplicit false

namespace RuleCheck.Text

def spaceRanges : Ranges :=
  [(0x9, 0xD), (0x1C, 0x20), (0x85, 0x85), (0xA0, 0xA0), (0x1680, 0x1680), (0x2000, 0x200A),
   (0x2028, 0x2029), (0x202F, 0x202F), (0x205F, 0x205F), (0x3000, 0x3000)]

def isSpace (c : Char) : Bool := spaceRanges.has c.toNat

def trimLeft (cs : List Char) : List Char := cs.dropWhile isSpace

def trimRight (cs : List Char) : List Char := (cs.reverse.dropWhile isSpace).reverse

def trim (cs : List Char) : List Char := trimRight (trimLeft cs)

def isBlank (cs : List Char) : Bool := cs.all isSpace

def mergePairs : List Char → List Char
  | ' ' :: ' ' :: rest => ' ' :: mergePairs rest
  | c :: rest => c :: mergePairs rest
  | [] => []

def hasPair : List Char → Bool
  | ' ' :: ' ' :: _ => true
  | _ :: rest => hasPair rest
  | [] => false

theorem length_mergePairs_le (cs : List Char) : (mergePairs cs).length ≤ cs.length := by
  fun_induction mergePairs cs with
  | case1 rest ih =>
    simp only [List.length_cons]
    omega
  | case2 c rest _ ih =>
    simp only [List.length_cons]
    omega
  | case3 => exact Nat.le_refl 0

theorem length_mergePairs_lt {cs : List Char} (h : hasPair cs = true) :
    (mergePairs cs).length < cs.length := by
  fun_induction mergePairs cs with
  | case1 rest =>
    have := length_mergePairs_le rest
    simp only [List.length_cons]
    omega
  | case2 c rest hne ih =>
    have : hasPair rest = true := by
      unfold hasPair at h
      split at h
      · rename_i heq
        injection heq with hc hr
        exact (hne _ hc hr).elim
      · simp_all
      · simp_all
    simpa using ih this
  | case3 => simp [hasPair] at h

def collapse (cs : List Char) : List Char :=
  if hasPair cs = true then collapse (mergePairs cs) else cs
termination_by cs.length
decreasing_by exact length_mergePairs_lt (by assumption)

def squeeze : List Char → List Char
  | ' ' :: ' ' :: rest => squeeze (' ' :: rest)
  | c :: rest => c :: squeeze rest
  | [] => []

end RuleCheck.Text
