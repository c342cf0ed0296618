import EmsDnp3.Json.Parse

/-!
# Nesting

The scanner of `json.loads` calls itself for every container inside of another, and the interpreter
raises `RecursionError` where more of them are open than it has room for. The error comes before
whatever is wrong with the text behind it.
-/

namespace EmsDnp3.Json

mutual

/-- The number of containers around the innermost value. -/
def depth : Json → Nat
  | .arr xs => depthItems xs + 1
  | .obj ms => depthMembers ms + 1
  | _ => 0

def depthItems : List Json → Nat
  | [] => 0
  | x :: xs => max (depth x) (depthItems xs)

def depthMembers : List (Text × Json) → Nat
  | [] => 0
  | (_, x) :: ms => max (depth x) (depthMembers ms)

end

mutual

/-- The scanner opens more than `limit` containers at once, at the value that starts here. -/
def valueDeep : (limit fuel : Nat) → Text → Bool
  | _, 0, _ => false
  | _, _ + 1, [] => false
  | limit, fuel + 1, c :: rest =>
    if c = point '[' then
      decide (limit = 0) ||
        match skip rest with
        | [] => false
        | d :: more => if d = point ']' then false else itemsDeep (limit - 1) fuel (d :: more)
    else if c = point '\x7b' then
      decide (limit = 0) ||
        match skip rest with
        | [] => false
        | d :: more => if d = point '\x7d' then false else membersDeep (limit - 1) fuel (d :: more)
    else false

/-- The same at the items of an array, up to the first that fails. -/
def itemsDeep : (limit fuel : Nat) → Text → Bool
  | _, 0, _ => false
  | limit, fuel + 1, t =>
    valueDeep limit fuel t ||
      match value fuel t with
      | none => false
      | some (_, rest) =>
        match skip rest with
        | [] => false
        | d :: more => if d = point ',' then itemsDeep limit fuel (skip more) else false

/-- The same at the members of an object. -/
def membersDeep : (limit fuel : Nat) → Text → Bool
  | _, 0, _ => false
  | limit, fuel + 1, t =>
    match string t with
    | none => false
    | some (_, rest) =>
      match skip rest with
      | [] => false
      | colon :: rest =>
        if colon = point ':' then
          valueDeep limit fuel (skip rest) ||
            match value fuel (skip rest) with
            | none => false
            | some (_, rest) =>
              match skip rest with
              | [] => false
              | d :: more => if d = point ',' then membersDeep limit fuel (skip more) else false
        else false

end

/-- `RecursionError` -/
def tooDeep (limit : Nat) (t : Text) : Bool := valueDeep limit (2 * t.length + 2) (skip t)

/-- What `json.loads` raises. -/
inductive LoadError where
  | value
  | recursion
deriving DecidableEq, Repr

/-- `json.loads` in an interpreter with room for `limit` containers. -/
def loadsWithin (limit : Nat) (t : Text) : Except LoadError Json :=
  if tooDeep limit t then .error .recursion
  else
    match loads t with
    | some v => .ok v
    | none => .error .value

/-- On a text that is read, the scanner is as deep as the value. -/
structure DeepAt (fuel : Nat) : Prop where
  value : ∀ {limit t v rest}, Json.value fuel t = some (v, rest) → valueDeep limit fuel t = decide (limit < v.depth)
  items : ∀ {limit t xs rest}, Json.items fuel t = some (xs, rest) →
    itemsDeep limit fuel t = decide (limit < depthItems xs)
  members : ∀ {limit t ms rest}, Json.members fuel t = some (ms, rest) →
    membersDeep limit fuel t = decide (limit < depthMembers ms)

/-- A number is flat. -/
theorem number_depth {t : Text} {v : Json} {rest : Text} (found : number t = some (v, rest)) : v.depth = 0 := by
  have flat : ∀ {negative : Bool} {t : Text}, unsigned negative t = some (v, rest) → v.depth = 0 := by
    intro negative t found
    unfold unsigned at found
    split at found
    · cases found
    · dsimp only at found
      split_ifs at found <;> obtain ⟨rfl, -⟩ := Prod.mk.inj (Option.some.inj found) <;> rfl
  unfold number at found
  split at found
  · cases found
  · split at found
    · exact flat found
    · exact flat found

/-- A scalar has no depth. -/
theorem scalar_depth {t : Text} {v : Json} {rest : Text} (found : scalar t = some (v, rest)) : v.depth = 0 := by
  unfold scalar at found
  split at found
  · obtain ⟨rfl, -⟩ := Prod.mk.inj (Option.some.inj found)
    rfl
  split at found
  · obtain ⟨rfl, -⟩ := Prod.mk.inj (Option.some.inj found)
    rfl
  split at found
  · obtain ⟨rfl, -⟩ := Prod.mk.inj (Option.some.inj found)
    rfl
  · exact number_depth found

/-- One more container around what is `inner` deep. -/
theorem decide_depth_succ (limit inner : Nat) :
    (decide (limit = 0) || decide (limit - 1 < inner)) = decide (limit < inner + 1) := by
  rw [← Bool.decide_or, decide_eq_decide]
  omega

/-- A container is one level above its contents. -/
theorem DeepAt.value_succ {fuel : Nat} (ih : DeepAt fuel) {limit : Nat} {t : Text} {v : Json} {rest : Text}
    (found : Json.value (fuel + 1) t = some (v, rest)) : valueDeep limit (fuel + 1) t = decide (limit < v.depth) := by
  match t with
  | [] => simp [Json.value] at found
  | c :: t =>
    rw [Json.value] at found
    rw [valueDeep]
    split at found
    · next quoted =>
      subst quoted
      obtain ⟨s, -, same⟩ := Option.map_eq_some_iff.mp found
      obtain ⟨rfl, -⟩ := Prod.mk.inj same
      rfl
    next notString =>
    split at found
    · next bracket =>
      subst bracket
      rw [if_pos rfl]
      cases read : skip t with
      | nil => simp [read] at found
      | cons d more =>
        rw [read] at found
        dsimp only at found ⊢
        split at found
        · next close =>
          obtain ⟨rfl, -⟩ := Prod.mk.inj (Option.some.inj found)
          rw [if_pos close, Json.depth, ← decide_depth_succ]
          simp [depthItems]
        · next open_ =>
          obtain ⟨⟨xs, after⟩, inner, same⟩ := Option.map_eq_some_iff.mp found
          obtain ⟨rfl, -⟩ := Prod.mk.inj same
          rw [if_neg open_, ih.items inner, Json.depth, decide_depth_succ]
    next notArray =>
    rw [if_neg notArray]
    split at found
    · next brace =>
      subst brace
      rw [if_pos rfl]
      cases read : skip t with
      | nil => simp [read] at found
      | cons d more =>
        rw [read] at found
        dsimp only at found ⊢
        split at found
        · next close =>
          obtain ⟨rfl, -⟩ := Prod.mk.inj (Option.some.inj found)
          rw [if_pos close, Json.depth, ← decide_depth_succ]
          simp [depthMembers]
        · next open_ =>
          split at found
          · cases found
          · next ms after inner =>
            obtain ⟨w, kept, same⟩ := Option.map_eq_some_iff.mp found
            unfold rejectDuplicateKeys at kept
            split at kept
            · obtain rfl := Option.some.inj kept
              obtain ⟨rfl, -⟩ := Prod.mk.inj same
              rw [if_neg open_, ih.members inner, Json.depth, decide_depth_succ]
            · cases kept
    next notObject =>
    rw [if_neg notObject, scalar_depth found]
    simp

/-- The deepest of two parts. -/
theorem decide_depth_max (limit first rest : Nat) :
    (decide (limit < first) || decide (limit < rest)) = decide (limit < max first rest) := by
  rw [← Bool.decide_or, decide_eq_decide, lt_max_iff]

/-- An element, and then the elements behind it. -/
theorem DeepAt.items_succ {fuel : Nat} (ih : DeepAt fuel) {limit : Nat} {t : Text} {xs : List Json} {rest : Text}
    (found : Json.items (fuel + 1) t = some (xs, rest)) :
    itemsDeep limit (fuel + 1) t = decide (limit < depthItems xs) := by
  rw [Json.items] at found
  rw [itemsDeep]
  cases read : Json.value fuel t with
  | none => simp [read] at found
  | some r =>
    obtain ⟨x, after⟩ := r
    rw [read] at found
    dsimp only at found ⊢
    rw [ih.value read]
    cases next : skip after with
    | nil => simp [next] at found
    | cons d more =>
      rw [next] at found
      dsimp only at found ⊢
      split at found
      · next comma =>
        obtain ⟨⟨ys, last⟩, inner, same⟩ := Option.map_eq_some_iff.mp found
        obtain ⟨rfl, -⟩ := Prod.mk.inj same
        rw [if_pos comma, ih.items inner, depthItems, decide_depth_max]
      · next notComma =>
        split at found
        · obtain ⟨rfl, -⟩ := Prod.mk.inj (Option.some.inj found)
          simp [notComma, depthItems]
        · cases found

/-- A member, and then the members behind it. -/
theorem DeepAt.members_succ {fuel : Nat} (ih : DeepAt fuel) {limit : Nat} {t : Text} {ms : List (Text × Json)}
    {rest : Text} (found : Json.members (fuel + 1) t = some (ms, rest)) :
    membersDeep limit (fuel + 1) t = decide (limit < depthMembers ms) := by
  rw [Json.members] at found
  rw [membersDeep]
  cases key : string t with
  | none => simp [key] at found
  | some r =>
    obtain ⟨k, afterKey⟩ := r
    rw [key] at found
    dsimp only at found ⊢
    cases mark : skip afterKey with
    | nil => simp [mark] at found
    | cons colon behind =>
      rw [mark] at found
      dsimp only at found ⊢
      split at found
      · next isColon =>
        rw [if_pos isColon]
        cases read : Json.value fuel (skip behind) with
        | none => simp [read] at found
        | some r =>
          obtain ⟨x, after⟩ := r
          rw [read] at found
          dsimp only at found ⊢
          rw [ih.value read]
          cases next : skip after with
          | nil => simp [next] at found
          | cons d more =>
            rw [next] at found
            dsimp only at found ⊢
            split at found
            · next comma =>
              obtain ⟨⟨others, last⟩, inner, same⟩ := Option.map_eq_some_iff.mp found
              obtain ⟨rfl, -⟩ := Prod.mk.inj same
              rw [if_pos comma, ih.members inner, depthMembers, decide_depth_max]
            · next notComma =>
              split at found
              · obtain ⟨rfl, -⟩ := Prod.mk.inj (Option.some.inj found)
                simp [notComma, depthMembers]
              · cases found
      · cases found

/-- The guard sees the depth of whatever is parsed, by induction on the fuel. -/
theorem deepAt (fuel : Nat) : DeepAt fuel := by
  induction fuel with
  | zero => exact ⟨fun found => by simp [value] at found, fun found => by simp [items] at found,
      fun found => by simp [members] at found⟩
  | succ fuel ih => exact ⟨ih.value_succ, ih.items_succ, ih.members_succ⟩

/-- A text that is read is too deep exactly when its value is. -/
theorem tooDeep_of_loads {t : Text} {v : Json} (found : loads t = some v) (limit : Nat) :
    tooDeep limit t = decide (limit < v.depth) := by
  unfold loads at found
  split at found
  · next w rest read =>
    split at found
    · obtain rfl := Option.some.inj found
      exact (deepAt _).value read
    · cases found
  · cases found

/-- A text is loaded exactly where it is a document of that depth. -/
theorem loadsWithin_ok_iff {limit : Nat} {t : Text} {v : Json} :
    loadsWithin limit t = .ok v ↔ loads t = some v ∧ v.depth ≤ limit := by
  unfold loadsWithin
  cases read : loads t with
  | none =>
    split <;> simp
  | some w =>
    rw [tooDeep_of_loads read]
    by_cases deep : limit < w.depth
    · rw [decide_eq_true deep]
      refine iff_of_false (by simp) ?_
      rintro ⟨same, shallow⟩
      obtain rfl := Option.some.inj same
      omega
    · rw [decide_eq_false deep]
      simp only [Bool.false_eq_true, if_false, Except.ok.injEq, Option.some.injEq]
      exact ⟨fun same => ⟨same, same ▸ Nat.le_of_not_lt deep⟩, And.left⟩

end EmsDnp3.Json
