import EmsDnp3.Json.Nesting

/-!
# The depth check of the client

`_validate_json_depth` of `client.py`: a loop over the matches of `["\\{}\[\]]`, which remembers the index that a
backslash escapes. A bracket that closes nothing makes the depth negative.
-/

namespace EmsDnp3.Python

open Json

/-- `_MAX_JSON_DEPTH` -/
def maxJsonDepth : Nat := 64

/-- A match of `_JSON_STRUCTURE`. -/
def isJsonStructure (c : CodePoint) : Bool := c = point '"' || c = point '\\' || isOpening c || isClosing c

/-- `_JSON_STRUCTURE.finditer(text)`: the matches and where they start. -/
def structureMatches : (index : Nat) → Text → List (Nat × CodePoint)
  | _, [] => []
  | index, c :: rest =>
    if isJsonStructure c then (index, c) :: structureMatches (index + 1) rest else structureMatches (index + 1) rest

/-- The local variables of `_validate_json_depth`. -/
structure DepthScan where
  depth : Int := 0
  quoted : Bool := false
  escapedIndex : Int := -1

/-- `_ProtocolViolation` -/
def depthViolation : String := "response JSON nesting exceeds 64 levels"

/-- The body of the loop. -/
def DepthScan.visit (s : DepthScan) (found : Nat × CodePoint) : Except String DepthScan :=
  if (found.1 : Int) = s.escapedIndex then .ok s
  else if s.quoted then
    if found.2 = point '\\' then .ok { s with escapedIndex := found.1 + 1 }
    else if found.2 = point '"' then .ok { s with quoted := false }
    else .ok s
  else if found.2 = point '"' then .ok { s with quoted := true }
  else if isOpening found.2 then
    if (maxJsonDepth : Int) < s.depth + 1 then .error depthViolation else .ok { s with depth := s.depth + 1 }
  else if isClosing found.2 then .ok { s with depth := s.depth - 1 }
  else .ok s

/-- The loop from an index on. -/
def DepthScan.scan (s : DepthScan) (index : Nat) (t : Text) : Except String Unit := do
  let _ ← (structureMatches index t).foldlM DepthScan.visit s
  return ()

/-- `_validate_json_depth` -/
def validateJsonDepth (t : Text) : Except String Unit := DepthScan.scan {} 0 t

/-! ## The loop as a scanner -/

namespace DepthScan

/-- Where the scanner is at an index. -/
def place (s : DepthScan) (index : Nat) : ScanMode :=
  if s.quoted then if s.escapedIndex = index then .escaped else .quoted else .outside

/-- What holds at an index: nothing behind it is escaped, and it is escaped only inside of a string. -/
structure Before (s : DepthScan) (index : Nat) : Prop where
  near : s.escapedIndex ≤ index
  outside : s.quoted = false → s.escapedIndex < index

/-- The scanner of the loop. -/
def nests : ScanMode → Int → Text → Bool := nestsBeyond (· - 1) maxJsonDepth

variable {s : DepthScan} {index : Nat} {c : CodePoint}

theorem Before.next (before : s.Before index) : s.Before (index + 1) := by
  have near := before.near
  exact ⟨by push_cast; omega, fun _ => by push_cast; omega⟩

/-- What was escaped is behind. -/
theorem place_next (before : s.Before index) : s.place (index + 1) = if s.quoted then .quoted else .outside := by
  have near := before.near
  have behind : s.escapedIndex ≠ (index + 1 : Nat) := by push_cast; omega
  unfold place
  rw [if_neg behind]

/-- What the expression does not match is no structure. -/
theorem nests_unmatched (before : s.Before index) (unmatched : isJsonStructure c = false) (t : Text) :
    nests (s.place index) s.depth (c :: t) = nests (s.place (index + 1)) s.depth t := by
  simp only [isJsonStructure, Bool.or_eq_false_iff, decide_eq_false_iff_not] at unmatched
  obtain ⟨⟨⟨notQuote, notBackslash⟩, notOpening⟩, notClosing⟩ := unmatched
  rw [place_next before]
  unfold place nests
  split
  · split
    · rw [nestsBeyond]
    · rw [nestsBeyond, if_neg notBackslash, if_neg notQuote]
  · rw [nestsBeyond, if_neg notQuote, if_neg (by simp [notOpening]), if_neg (by simp [notClosing])]

/-- A match is what the scanner does with its character. -/
theorem visit_step (before : s.Before index) (c : CodePoint) :
    (s.visit (index, c) = .error depthViolation ∧ ∀ t, nests (s.place index) s.depth (c :: t) = true) ∨
      ∃ s', s.visit (index, c) = .ok s' ∧ s'.Before (index + 1) ∧
        ∀ t, nests (s.place index) s.depth (c :: t) = nests (s'.place (index + 1)) s'.depth t := by
  have next := place_next before
  have near := before.near
  have later : (index : Int) < (index + 1 : Nat) := by push_cast; omega
  unfold visit
  dsimp only
  by_cases here : (index : Int) = s.escapedIndex
  · -- the character after a backslash
    have inside : s.quoted = true := by
      by_contra outside
      have := before.outside (by simpa using outside)
      omega
    refine .inr ⟨s, if_pos here, before.next, fun t => ?_⟩
    rw [next, place, if_pos inside, if_pos here.symm, if_pos inside, nests, nestsBeyond]
  rw [if_neg here]
  by_cases inside : s.quoted = true
  · have quoted : s.place index = .quoted := by rw [place, if_pos inside, if_neg (Ne.symm here)]
    rw [if_pos inside] at next
    rw [if_pos inside, quoted]
    by_cases backslash : c = point '\\'
    · refine .inr ⟨_, if_pos backslash, ⟨by push_cast; omega, fun outside => ?_⟩, fun t => ?_⟩
      · rw [inside] at outside
        cases outside
      · rw [nests, nestsBeyond, if_pos backslash, place]
        dsimp only
        rw [if_pos inside, if_pos (by push_cast; rfl)]
    rw [if_neg backslash]
    by_cases quote : c = point '"'
    · refine .inr ⟨_, if_pos quote, ⟨by push_cast; omega, fun _ => by push_cast; omega⟩, fun t => ?_⟩
      rw [nests, nestsBeyond, if_neg backslash, if_pos quote]
      rfl
    · refine .inr ⟨s, if_neg quote, before.next, fun t => ?_⟩
      rw [next, nests, nestsBeyond, if_neg backslash, if_neg quote]
  · have outside : s.place index = .outside := by rw [place, if_neg inside]
    rw [if_neg inside] at next
    rw [if_neg inside, outside]
    by_cases quote : c = point '"'
    · refine .inr ⟨_, if_pos quote, ⟨by push_cast; omega, fun _ => by push_cast; omega⟩, fun t => ?_⟩
      rw [nests, nestsBeyond, if_pos quote, place]
      dsimp only
      rw [if_pos rfl, if_neg (by push_cast; omega)]
    rw [if_neg quote]
    by_cases opening : isOpening c = true
    · rw [if_pos opening]
      by_cases full : (maxJsonDepth : Int) < s.depth + 1
      · refine .inl ⟨if_pos full, fun t => ?_⟩
        rw [nests, nestsBeyond, if_neg quote, if_pos opening, decide_eq_true full, Bool.true_or]
      · refine .inr ⟨_, if_neg full, ⟨by push_cast; omega, fun _ => by push_cast; omega⟩, fun t => ?_⟩
        rw [nests, nestsBeyond, if_neg quote, if_pos opening, decide_eq_false full, Bool.false_or, place]
        dsimp only
        rw [if_neg inside]
    rw [if_neg opening]
    by_cases closing : isClosing c = true
    · refine .inr ⟨_, if_pos closing, ⟨by push_cast; omega, fun _ => by push_cast; omega⟩, fun t => ?_⟩
      rw [nests, nestsBeyond, if_neg quote, if_neg opening, if_pos closing, place]
      dsimp only
      rw [if_neg inside]
    · refine .inr ⟨s, if_neg closing, before.next, fun t => ?_⟩
      rw [next, nests, nestsBeyond, if_neg quote, if_neg opening, if_neg closing]

/-- The loop raises exactly what the scanner finds. -/
theorem scan_eq (before : s.Before index) (t : Text) :
    s.scan index t = if nests (s.place index) s.depth t then .error depthViolation else .ok () := by
  induction t generalizing s index with
  | nil =>
    rw [nests, nestsBeyond]
    rfl
  | cons c t ih =>
    unfold scan
    rw [structureMatches]
    by_cases matched : isJsonStructure c = true
    · rw [if_pos matched, List.foldlM_cons]
      rcases visit_step before c with ⟨raised, found⟩ | ⟨s', visited, after, same⟩
      · rw [raised, found]
        rfl
      · rw [visited, same]
        exact ih after
    · rw [if_neg matched, nests_unmatched before (by simpa using matched)]
      exact ih before.next

end DepthScan

/-- The check of the client is a scanner. -/
theorem validateJsonDepth_eq (t : Text) : validateJsonDepth t =
    if nestsBeyond (· - 1) maxJsonDepth .outside 0 t then .error depthViolation else .ok () :=
  DepthScan.scan_eq ⟨by decide, fun _ => by decide⟩ t

end EmsDnp3.Python
