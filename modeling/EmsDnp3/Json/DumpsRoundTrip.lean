import EmsDnp3.Json.Dumps
import EmsDnp3.Json.RoundTrip

/-!
# Reading back what `json.dumps` writes

`json.loads` of a text that was written with any indentation and any blanks around the separators,
without `ensure_ascii` and with floats as literals.
-/

namespace EmsDnp3.Json

theorem isBlank_of_mem {c : CodePoint} (blank : c ∈ blanks) : isBlank c = true := by
  simp only [blanks, List.mem_cons, List.not_mem_nil, or_false] at blank
  obtain rfl | rfl | rfl | rfl := blank <;> decide

/-- Blanks are skipped. -/
theorem skip_blanks {w : Text} (blank : ∀ c ∈ w, c ∈ blanks) (t : Text) : skip (w ++ t) = skip t := by
  induction w with
  | nil => rfl
  | cons c w ih =>
    rw [List.cons_append, skip, isBlank_of_mem (blank c List.mem_cons_self), if_pos rfl]
    exact ih fun d mem => blank d (List.mem_cons_of_mem _ mem)

/-- A number ends at a blank. -/
theorem ends_blanks {w t : Text} (blank : ∀ c ∈ w, c ∈ blanks) (stop : ends t = true) : ends (w ++ t) = true := by
  cases w with
  | nil => exact stop
  | cons c w =>
    have first := blank c List.mem_cons_self
    simp only [blanks, List.mem_cons, List.not_mem_nil, or_false] at first
    obtain rfl | rfl | rfl | rfl := first <;> rfl

namespace DumpsOptions
variable (o : DumpsOptions)

/-- The texts that this module is about: code points as they are, floats as literals. -/
structure Literal : Prop where
  points : o.ensureAscii = false
  floats : ∀ x, o.floatRepr x = dumpFloat x

/-- A line break and its indentation are blank. -/
theorem newline_blank (level : Nat) : ∀ c ∈ o.newline level, c ∈ blanks := by
  intro c mem
  have indents := o.indentBlank
  unfold newline at mem
  split at mem
  · cases mem
  · next unit indent =>
    rw [indent, Option.getD_some] at indents
    obtain rfl | unit := List.mem_cons.mp mem
    · decide
    · obtain ⟨piece, copy, inside⟩ := List.mem_flatten.mp unit
      rw [List.eq_of_mem_replicate copy] at inside
      exact indents c inside

/-- What stands behind the comma of a separator. -/
theorem separator_blank (level : Nat) : ∀ c ∈ o.afterComma ++ o.newline level, c ∈ blanks := by
  intro c mem
  obtain comma | line := List.mem_append.mp mem
  · exact o.commaBlank c comma
  · exact o.newline_blank level c line

theorem joined_cons (level : Nat) (first second : Text) (rest : List Text) :
    o.joined level (first :: second :: rest) =
      first ++ point ',' :: ((o.afterComma ++ o.newline level) ++ o.joined level (second :: rest)) := by
  simp only [joined, List.flatMap_cons, separator, List.append_assoc, List.cons_append]
  rfl

variable {o}

/-- Where every escape is literal, a string is written in the plain way. -/
theorem string_eq (literal : o.Literal) (s : Text) : o.string s = dumpString s := by
  have escaped : o.escaped = escape := by
    funext c
    rw [DumpsOptions.escaped, literal.points]
    rfl
  rw [string, escaped, dumpString]

/-- No value starts with a blank or with a closing bracket. -/
theorem head_dumps (literal : o.Literal) (level : Nat) (v : Json) :
    ∃ c rest, o.dumps level v = c :: rest ∧ isBlank c = false ∧ c ≠ point ']' ∧ c ≠ point '\x7d' := by
  match v with
  | .null => exact ⟨point 'n', text "ull", rfl, by decide⟩
  | .bool true => exact ⟨point 't', text "rue", rfl, by decide⟩
  | .bool false => exact ⟨point 'f', text "alse", rfl, by decide⟩
  | .int n => exact head_dump (.int n)
  | .float x =>
    obtain ⟨c, rest, shape, head⟩ := head_dump (.float x)
    exact ⟨c, rest, by rw [dumps, literal.floats]; exact shape, head⟩
  | .str s =>
    obtain ⟨c, rest, shape, head⟩ := head_dump (.str s)
    exact ⟨c, rest, by rw [dumps, string_eq literal]; exact shape, head⟩
  | .arr items =>
    rw [dumps, wrapped]
    split
    · exact ⟨_, _, rfl, by decide⟩
    · exact ⟨_, _, rfl, by decide⟩
  | .obj members =>
    rw [dumps, wrapped]
    split
    · exact ⟨_, _, rfl, by decide⟩
    · exact ⟨_, _, rfl, by decide⟩

/-- An array that is not empty, up to what follows it. -/
theorem dumps_arr (level : Nat) (x : Json) (xs : List Json) (r : Text) :
    o.dumps level (.arr (x :: xs)) ++ r = point '[' :: (o.newline (level + 1) ++
      (o.joined (level + 1) (o.dumpsItems (level + 1) (x :: xs)) ++ (o.newline level ++ point ']' :: r))) := by
  rw [dumps, wrapped, if_neg (by simp [dumpsItems])]
  simp only [List.cons_append, List.append_assoc, List.nil_append]
  rfl

/-- An object that is not empty, up to what follows it. -/
theorem dumps_obj (level : Nat) (m : Text × Json) (ms : List (Text × Json)) (r : Text) :
    o.dumps level (.obj (m :: ms)) ++ r = point '\x7b' :: (o.newline (level + 1) ++
      (o.joined (level + 1) (o.dumpsMembers (level + 1) (m :: ms)) ++ (o.newline level ++ point '\x7d' :: r))) := by
  rw [dumps, wrapped, if_neg (by simp [dumpsMembers])]
  simp only [List.cons_append, List.append_assoc, List.nil_append]
  rfl

/-- The items of an array start as its first one does. -/
theorem head_items (literal : o.Literal) (level : Nat) (x : Json) (xs : List Json) :
    ∃ c rest, o.joined level (o.dumpsItems level (x :: xs)) = c :: rest ∧ isBlank c = false ∧ c ≠ point ']' := by
  obtain ⟨c, rest, shape, mark, close, -⟩ := head_dumps literal level x
  rw [dumpsItems, joined, shape]
  exact ⟨c, _, rfl, mark, close⟩

/-- The members of an object start with a quote. -/
theorem head_members (level : Nat) (m : Text × Json) (ms : List (Text × Json)) :
    ∃ rest, o.joined level (o.dumpsMembers level (m :: ms)) = quote :: rest := by
  obtain ⟨k, x⟩ := m
  exact ⟨_, rfl⟩

/-- A member before what follows it. -/
theorem member_append (literal : o.Literal) (k value r : Text) :
    o.member k value ++ r = dumpString k ++ (o.beforeColon ++ (point ':' :: (o.afterColon ++ (value ++ r)))) := by
  rw [member, string_eq literal]
  simp only [List.append_assoc, List.cons_append]
  rfl

theorem colon_blank : (∀ c ∈ o.beforeColon, c ∈ blanks) ∧ ∀ c ∈ o.afterColon, c ∈ blanks :=
  ⟨fun c mem => o.colonBlank c (List.mem_append_left _ mem), fun c mem => o.colonBlank c (List.mem_append_right _ mem)⟩

mutual

/-- A written value is read back. -/
theorem value_dumps (literal : o.Literal) : ∀ {v : Json}, Writable v → ∀ {level fuel : Nat} {r : Text}, ends r = true →
    (o.dumps level v).length < fuel → value fuel (o.dumps level v ++ r) = some (v, r)
  | _, _, _, 0, _, _, enough => absurd enough (Nat.not_lt_zero _)
  | .null, _, _, _ + 1, _, _, _ => rfl
  | .bool true, _, _, _ + 1, _, _, _ => rfl
  | .bool false, _, _, _ + 1, _, _, _ => rfl
  | .int n, short, _, fuel + 1, r, stop, _ => value_int fuel short stop
  | .float x, _, _, fuel + 1, r, stop, _ => by
    rw [dumps, literal.floats]
    exact value_float fuel x stop
  | .str s, _, _, fuel + 1, r, _, _ => by
    rw [dumps, string_eq literal, dumpString_append, value, if_pos (show quote = point '"' by decide), stringBody_dump]
    · rfl
    · simp
  | .arr [], _, _, _ + 1, _, _, _ => rfl
  | .arr (x :: xs), writable, level, fuel + 1, r, _, enough => by
    have length := congrArg List.length (o.dumps_arr level x xs [])
    simp only [List.append_nil, List.length_cons, List.length_append] at length
    have read := @items_dumps literal (x :: xs) writable (by simp) (level + 1) fuel (o.newline level) r
      (o.newline_blank level) (by omega)
    obtain ⟨c, rest, start, mark, open_⟩ := head_items literal (level + 1) x xs
    rw [start, List.cons_append] at read
    rw [dumps_arr, start, value, if_neg (by decide), if_pos rfl, skip_blanks (o.newline_blank _), List.cons_append,
      skip_cons mark]
    simp only [if_neg open_, read, Option.map_some]
  | .obj [], _, _, _ + 1, _, _, _ => rfl
  | .obj (m :: ms), writable, level, fuel + 1, r, _, enough => by
    have length := congrArg List.length (o.dumps_obj level m ms [])
    simp only [List.append_nil, List.length_cons, List.length_append] at length
    have read := @members_dumps literal (m :: ms) writable.2 (by simp) (level + 1) fuel (o.newline level) r
      (o.newline_blank level) (by omega)
    obtain ⟨rest, start⟩ := o.head_members (level + 1) m ms
    rw [start, List.cons_append] at read
    rw [dumps_obj, start, value, if_neg (by decide), if_neg (by decide), if_pos rfl, skip_blanks (o.newline_blank _),
      List.cons_append, skip_cons (by decide)]
    simp only [if_neg (show quote ≠ point '\x7d' by decide), read, rejectDuplicateKeys, if_pos writable.1,
      Option.map_some]

/-- The elements that were written are read again. -/
theorem items_dumps (literal : o.Literal) : ∀ {xs : List Json}, WritableItems xs → xs ≠ [] →
    ∀ {level fuel : Nat} {w r : Text}, (∀ c ∈ w, c ∈ blanks) →
    (o.joined level (o.dumpsItems level xs)).length + 1 < fuel →
    items fuel (o.joined level (o.dumpsItems level xs) ++ (w ++ point ']' :: r)) = some (xs, r)
  | _, _, _, _, 0, _, _, _, enough => absurd enough (Nat.not_lt_zero _)
  | [], _, some_, _, _ + 1, _, _, _, _ => absurd rfl some_
  | [x], writable, _, level, fuel + 1, w, r, blank, enough => by
    have one : o.joined level (o.dumpsItems level [x]) = o.dumps level x := List.append_nil _
    have length := congrArg List.length one
    obtain ⟨c, rest, shape, -⟩ := head_dumps literal level x
    have read := @value_dumps literal x writable.1 level fuel (w ++ point ']' :: r) (ends_blanks blank rfl) (by omega)
    rw [one, items, read]
    simp only [skip_blanks blank, skip_cons (show isBlank (point ']') = false by decide),
      if_neg (show point ']' ≠ point ',' by decide), if_true]
  | x :: y :: ys, writable, _, level, fuel + 1, w, r, blank, enough => by
    have split : o.joined level (o.dumpsItems level (x :: y :: ys)) = o.dumps level x ++
        point ',' :: ((o.afterComma ++ o.newline level) ++ o.joined level (o.dumpsItems level (y :: ys))) :=
      o.joined_cons level _ _ _
    have length := congrArg List.length split
    simp only [List.length_append, List.length_cons] at length
    have first := @value_dumps literal x writable.1 level fuel
      (point ',' :: ((o.afterComma ++ o.newline level) ++
        (o.joined level (o.dumpsItems level (y :: ys)) ++ (w ++ point ']' :: r)))) rfl (by omega)
    have read := @items_dumps literal (y :: ys) writable.2 (by simp) level fuel w r blank (by omega)
    obtain ⟨c, rest, start, mark, -⟩ := head_items literal level y ys
    rw [start, List.cons_append] at read
    rw [split, List.append_assoc, List.cons_append, List.append_assoc, items, first]
    simp only [skip_cons (show isBlank (point ',') = false by decide), if_true,
      skip_blanks (o.separator_blank level), start, List.cons_append, skip_cons mark, read, Option.map_some]

/-- The members that were written are read again. -/
theorem members_dumps (literal : o.Literal) : ∀ {ms : List (Text × Json)}, WritableMembers ms → ms ≠ [] →
    ∀ {level fuel : Nat} {w r : Text}, (∀ c ∈ w, c ∈ blanks) →
    (o.joined level (o.dumpsMembers level ms)).length + 1 < fuel →
    members fuel (o.joined level (o.dumpsMembers level ms) ++ (w ++ point '\x7d' :: r)) = some (ms, r)
  | _, _, _, _, 0, _, _, _, enough => absurd enough (Nat.not_lt_zero _)
  | [], _, some_, _, _ + 1, _, _, _, _ => absurd rfl some_
  | [(k, x)], writable, _, level, fuel + 1, w, r, blank, enough => by
    have one : o.joined level (o.dumpsMembers level [(k, x)]) = o.member k (o.dumps level x) := List.append_nil _
    have length := congrArg List.length one
    simp only [member, List.length_append, List.length_cons] at length
    have first := @value_dumps literal x writable.1 level fuel (w ++ point '\x7d' :: r) (ends_blanks blank rfl)
      (by omega)
    obtain ⟨c, rest, shape, mark, -⟩ := head_dumps literal level x
    rw [shape, List.cons_append] at first
    rw [one, member_append literal, members, string_dump]
    simp only [skip_blanks (colon_blank (o := o)).1, skip_cons (show isBlank (point ':') = false by decide), if_true,
      skip_blanks (colon_blank (o := o)).2, shape, List.cons_append, skip_cons mark, first, skip_blanks blank,
      skip_cons (show isBlank (point '\x7d') = false by decide), if_neg (show point '\x7d' ≠ point ',' by decide)]
  | (k, x) :: m :: ms, writable, _, level, fuel + 1, w, r, blank, enough => by
    have split : o.joined level (o.dumpsMembers level ((k, x) :: m :: ms)) = o.member k (o.dumps level x) ++
        point ',' :: ((o.afterComma ++ o.newline level) ++ o.joined level (o.dumpsMembers level (m :: ms))) :=
      o.joined_cons level _ _ _
    have length := congrArg List.length split
    simp only [member, List.length_append, List.length_cons] at length
    have first := @value_dumps literal x writable.1 level fuel
      (point ',' :: ((o.afterComma ++ o.newline level) ++
        (o.joined level (o.dumpsMembers level (m :: ms)) ++ (w ++ point '\x7d' :: r)))) rfl (by omega)
    have read := @members_dumps literal (m :: ms) writable.2 (by simp) level fuel w r blank (by omega)
    obtain ⟨rest, start⟩ := o.head_members level m ms
    obtain ⟨c, later, shape, mark, -⟩ := head_dumps literal level x
    rw [start, List.cons_append] at read first
    rw [shape, List.cons_append] at first
    rw [split, List.append_assoc, List.cons_append, List.append_assoc, member_append literal, members, string_dump]
    simp only [skip_blanks (colon_blank (o := o)).1, skip_cons (show isBlank (point ':') = false by decide), if_true,
      skip_blanks (colon_blank (o := o)).2, shape, List.cons_append, skip_cons mark, first,
      skip_cons (show isBlank (point ',') = false by decide), skip_blanks (o.separator_blank level), start,
      skip_cons (show isBlank quote = false by decide), read, Option.map_some]

end

/-- `json.loads(json.dumps(v))`, with blanks after the text. -/
theorem loads_dumps (literal : o.Literal) {v : Json} (writable : Writable v) {r : Text} (blank : skip r = [])
    (stop : ends r = true) : loads (o.dumps 0 v ++ r) = some v := by
  obtain ⟨c, rest, shape, mark, -⟩ := head_dumps literal 0 v
  have read := @value_dumps o literal v writable 0 (2 * (o.dumps 0 v ++ r).length + 2) r stop (by simp; omega)
  rw [shape, List.cons_append] at read
  rw [loads, shape, List.cons_append, skip_cons mark, read]
  simp only [blank, if_true]

end DumpsOptions

end EmsDnp3.Json
