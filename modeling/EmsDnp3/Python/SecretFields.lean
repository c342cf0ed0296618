import EmsDnp3.Python.SecretPattern

/-!
# Secret fields of JSON documents

Documents written by `json.dumps`, one of them with a secret field whose value is substituted. Behind each document
the scanner is outside of strings, and so it is in front of the key of the field.
-/

namespace EmsDnp3.Python

open Json (DumpsOptions)

/-- A container around a field. -/
inductive Frame where
  | item (before after : List Json)
  | member (before : List (Text × Json)) (key : Text) (after : List (Text × Json))

/-- The value with a value inside. -/
def Frame.wrap : Frame → Json → Json
  | .item before after, x => .arr (before ++ x :: after)
  | .member before key after, x => .obj (before ++ (key, x) :: after)

/-- A field with a redacted name, and the containers around its object from the outermost on. -/
structure SecretField where
  frames : List Frame
  before : List (Text × Json)
  name : Text
  after : List (Text × Json)
  isSecret : name ∈ secretNames

/-- The document with this value in the field. -/
def SecretField.fill (f : SecretField) (value : Text) : Json :=
  f.frames.foldr Frame.wrap (.obj (f.before ++ (f.name, .str value) :: f.after))

/-- A document as it was written, and the blanks behind it. -/
structure Line where
  options : DumpsOptions
  document : Json
  gap : Text
  blank : ∀ c ∈ gap, c ∈ Json.blanks

/-- A text that consists of documents. -/
def textOf (lines : List Line) : Text := lines.flatMap fun l => l.options.dumps 0 l.document ++ l.gap

/-- A text with a value in a field of one of its documents. -/
structure SecretLines where
  front : List Line
  options : DumpsOptions
  field : SecretField
  gap : Text
  blank : ∀ c ∈ gap, c ∈ Json.blanks
  back : List Line

/-- The evidence with a value in its secret field. -/
def SecretLines.text (s : SecretLines) (value : Text) : Text :=
  textOf (s.front ++ ⟨s.options, s.field.fill value, s.gap, s.blank⟩ :: s.back)

/-! ## Scans -/

/-- From either place outside of strings a text leads behind a value. -/
def Whole (t : Text) : Prop := scan .outside t = some .outside ∧ scan .behindColon t = some .outside

theorem isSpace_blanks {c : CodePoint} (blank : c ∈ Json.blanks) : isSpace c = true := by
  have all : (Json.blanks.all isSpace) = true := by decide
  exact List.all_eq_true.mp all c blank

theorem scan_blanks {t : Text} (blank : ∀ c ∈ t, c ∈ Json.blanks) {place : Place}
    (out : place = .outside ∨ place = .behindColon) : scan place t = some place :=
  scan_spaces (fun c inside => isSpace_blanks (blank c inside)) out

/-- Characters of numbers and names lead behind a value. -/
theorem whole_scalar {t : Text} (some_ : t ≠ []) (points : ∀ c ∈ t, c ∈ outsidePoints) : Whole t := by
  have ordinary : (outsidePoints.all fun c => c ≠ Json.quote && c ≠ colon && !isSpace c) = true := by decide
  have step {c : CodePoint} (known : c ∈ outsidePoints) {place : Place}
      (out : place = .outside ∨ place = .behindColon) : place.next c = some .outside := by
    have kept := List.all_eq_true.mp ordinary c known
    simp only [Bool.and_eq_true, decide_eq_true_eq, Bool.not_eq_true'] at kept
    rcases out with rfl | rfl <;> simp [Place.next, kept.1.1, kept.1.2, kept.2, known]
  have go (t : Text) (points : ∀ c ∈ t, c ∈ outsidePoints) : scan .outside t = some .outside := by
    induction t with
    | nil => rfl
    | cons c t ih =>
      rw [scan_cons, step (points c List.mem_cons_self) (.inl rfl)]
      exact ih fun d member => points d (List.mem_cons_of_mem _ member)
  refine ⟨go t points, ?_⟩
  cases t with
  | nil => exact absurd rfl some_
  | cons c t =>
    rw [scan_cons, step (points c List.mem_cons_self) (.inr rfl)]
    exact go t fun d member => points d (List.mem_cons_of_mem _ member)

theorem hexPoint_plain (d : Fin 16) : hexPoint d ≠ Json.quote ∧ hexPoint d ≠ Json.backslash := by
  revert d
  decide

/-- A code point in a string literal: the scanner stays inside, and only a quote is written with a quote. -/
structure Stays (c : CodePoint) (t : Text) : Prop where
  scans : scan .inside t = some .inside
  plain : c ≠ Json.quote → Json.quote ∉ t

/-- An escape of anything but a quote stays inside the string. -/
theorem stays_backslash {c e : CodePoint} {t : Text} (other : e ≠ Json.quote) (noQuote : Json.quote ∉ t)
    (noBackslash : Json.backslash ∉ t) : Stays c (Json.backslash :: e :: t) := by
  refine ⟨?_, fun _ => ?_⟩
  · have steps : scan .inside (Json.backslash :: e :: t) = scan .inside t := rfl
    rw [steps, scan_unescaped noQuote noBackslash]
  · rw [List.mem_cons, List.mem_cons, not_or, not_or]
    exact ⟨by decide, Ne.symm other, noQuote⟩

/-- Every escape of a character stays inside the string. -/
theorem stays_escape (c : CodePoint) : Stays c (Json.escape c) := by
  unfold Json.escape
  split
  · next same => exact ⟨rfl, fun other => absurd same other⟩
  · next notQuote =>
    split
    · exact stays_backslash (by decide) (by simp) (by simp)
    · next notBackslash =>
      iterate 5 (split; · exact stays_backslash (by decide) (by simp) (by simp))
      split
      · have high := hexPoint_plain ⟨c.val / 16 % 16, by omega⟩
        have low := hexPoint_plain ⟨c.val % 16, by omega⟩
        apply stays_backslash (by decide)
        · simp only [List.mem_cons, List.not_mem_nil, or_false, not_or]
          exact ⟨by decide, by decide, Ne.symm high.1, Ne.symm low.1⟩
        · simp only [List.mem_cons, List.not_mem_nil, or_false, not_or]
          exact ⟨by decide, by decide, Ne.symm high.2, Ne.symm low.2⟩
      · refine ⟨?_, fun other => by simpa using Ne.symm other⟩
        rw [scan_cons, Place.next, if_neg (show c ≠ Json.quote from notQuote),
          if_neg (show c ≠ Json.backslash from notBackslash)]
        rfl

/-- A numeric escape stays inside the string. -/
theorem stays_unicodeEscape (c : CodePoint) (n : Nat) : Stays c (Json.unicodeEscape n) := by
  apply stays_backslash (by decide)
  · intro inside
    obtain ⟨shift, -, same⟩ := List.mem_map.mp inside
    exact (hexPoint_plain _).1 same
  · intro inside
    obtain ⟨shift, -, same⟩ := List.mem_map.mp inside
    exact (hexPoint_plain _).2 same

variable (o : DumpsOptions)

/-- A character stays inside the string as it is written. -/
theorem stays_escaped (c : CodePoint) : Stays c (o.escaped c) := by
  unfold DumpsOptions.escaped
  split
  · unfold Json.escapeAscii
    split
    · exact stays_escape c
    · split
      · exact stays_unicodeEscape c c.val
      · have high := stays_unicodeEscape c (0xD800 + (c.val - 0x10000) / 1024 % 1024)
        have low := stays_unicodeEscape c (0xDC00 + (c.val - 0x10000) % 1024)
        refine ⟨?_, fun other => ?_⟩
        · rw [scan_append, high.scans, Option.bind_some, low.scans]
        · rw [List.mem_append, not_or]
          exact ⟨high.plain other, low.plain other⟩
  · exact stays_escape c

theorem scan_escaped (s : Text) : scan .inside (s.flatMap o.escaped) = some .inside := by
  induction s with
  | nil => rfl
  | cons c s ih => rw [List.flatMap_cons, scan_append, (stays_escaped o c).scans, Option.bind_some, ih]

/-- Only a quote is written with a quote. -/
theorem quote_mem_escaped {s : Text} (plain : Json.quote ∉ s) : Json.quote ∉ s.flatMap o.escaped := by
  intro inside
  obtain ⟨c, member, isIn⟩ := List.mem_flatMap.mp inside
  refine (stays_escaped o c).plain ?_ isIn
  rintro rfl
  exact plain member

theorem whole_string (s : Text) : Whole (o.string s) := by
  have body : scan .inside (s.flatMap o.escaped ++ [Json.quote]) = some .outside := by
    rw [scan_append, scan_escaped, Option.bind_some]
    rfl
  constructor
  · exact body
  · exact body

theorem Whole.scan {t : Text} (whole : Whole t) {place : Place} (out : place = .outside ∨ place = .behindColon) :
    scan place t = some .outside := by
  rcases out with rfl | rfl
  · exact whole.1
  · exact whole.2

/-- A line break and its indentation are blanks. -/
theorem newline_blank (level : Nat) : ∀ c ∈ o.newline level, c ∈ Json.blanks := by
  have unit := o.indentBlank
  unfold DumpsOptions.newline
  split
  · simp
  · next indent same =>
    rw [same] at unit
    intro c member
    rcases List.mem_cons.mp member with rfl | inside
    · decide
    · obtain ⟨copy, isCopy, isIn⟩ := List.mem_flatten.mp inside
      rw [List.eq_of_mem_replicate isCopy] at isIn
      exact unit c isIn

theorem scan_separator (level : Nat) : scan .outside (o.separator level) = some .outside := by
  have comma : Place.next .outside 0x2C = some .outside := by decide
  rw [DumpsOptions.separator, scan_cons, comma, Option.bind_some, scan_append, scan_blanks o.commaBlank (.inl rfl),
    Option.bind_some, scan_blanks (newline_blank o level) (.inl rfl)]

/-- Items, each with a separator behind it. -/
theorem scan_items (level : Nat) {items : List Text} (whole : ∀ t ∈ items, Whole t) :
    scan .outside (items.flatMap fun t => t ++ o.separator level) = some .outside := by
  induction items with
  | nil => rfl
  | cons t items ih =>
    rw [List.flatMap_cons, scan_append, scan_append, (whole t List.mem_cons_self).1, Option.bind_some, scan_separator,
      Option.bind_some, ih fun t' member => whole t' (List.mem_cons_of_mem _ member)]

/-- Items between brackets are whole. -/
theorem scan_wrapped {opening closing : CodePoint} (opens : Whole [opening]) (closes : Whole [closing]) (level : Nat)
    {items : List Text} (whole : ∀ t ∈ items, Whole t) : Whole (o.wrapped opening closing level items) := by
  have from_ {place : Place} (out : place = .outside ∨ place = .behindColon) :
      scan place (o.wrapped opening closing level items) = some .outside := by
    unfold DumpsOptions.wrapped
    split
    · rw [← List.singleton_append, scan_append, opens.scan out]
      exact closes.1
    · next some_ =>
      obtain ⟨items', last, rfl⟩ := List.eq_nil_or_concat' items |>.resolve_left some_
      rw [o.joined_append]
      rw [← List.singleton_append, scan_append, opens.scan out, Option.bind_some, scan_append,
        scan_blanks (newline_blank o _) (.inl rfl), Option.bind_some, scan_append, scan_append,
        scan_items o _ fun t member => whole t (List.mem_append_left _ member), Option.bind_some, List.flatMap_nil,
        List.append_nil, (whole last (by simp)).1, Option.bind_some, scan_append,
        scan_blanks (newline_blank o _) (.inl rfl)]
      exact closes.1
  exact ⟨from_ (.inl rfl), from_ (.inr rfl)⟩

/-- The text up to the value of a member leads behind a colon. -/
theorem scan_member (key : Text) : scan .outside (o.string key ++ (o.beforeColon ++ colon :: o.afterColon)) =
    some .behindColon := by
  have blank := fun c (inside : c ∈ o.beforeColon) => isSpace_blanks (o.colonBlank c (List.mem_append_left _ inside))
  have blank' := fun c (inside : c ∈ o.afterColon) => isSpace_blanks (o.colonBlank c (List.mem_append_right _ inside))
  rw [scan_append, (whole_string o key).1, Option.bind_some, scan_colon blank blank' (.inl rfl)]

theorem member_eq (key value : Text) :
    o.member key value = o.string key ++ (o.beforeColon ++ colon :: o.afterColon) ++ value := by
  rw [DumpsOptions.member, List.append_assoc, List.append_assoc]
  rfl

/-- A member is whole if its value is. -/
theorem whole_member (key : Text) {value : Text} (whole : Whole value) : Whole (o.member key value) := by
  have rest {place : Place} (out : place = .outside ∨ place = .behindColon) :
      scan place (o.member key value) = some .outside := by
    have start : scan place (o.string key ++ (o.beforeColon ++ colon :: o.afterColon)) = some .behindColon := by
      rw [← scan_member o key, scan_append, scan_append, (whole_string o key).scan out, (whole_string o key).1]
    rw [member_eq, scan_append, start]
    exact whole.2
  exact ⟨rest (.inl rfl), rest (.inr rfl)⟩

theorem whole_brackets : Whole [0x5B] ∧ Whole [0x5D] ∧ Whole [0x7B] ∧ Whole [0x7D] := by
  unfold Whole
  decide

theorem whole_int (n : Int) : Whole (Json.dumpInt n) := by
  have digits (n : Nat) : ∀ c ∈ decimal n, c ∈ outsidePoints := fun c inside =>
    List.mem_append_left _ ((Json.decimal_points n).2 c inside)
  unfold Json.dumpInt
  split
  · apply whole_scalar
    · exact List.append_ne_nil_of_left_ne_nil (by decide) _
    · intro c inside
      rcases List.mem_append.mp inside with sign | digit
      · have known : ((text "-").all fun d => d ∈ outsidePoints) = true := by decide
        exact of_decide_eq_true (List.all_eq_true.mp known c sign)
      · exact digits _ c digit
  · exact whole_scalar (Json.decimal_points _).1 (digits _)

mutual

/-- Behind a document the scanner is outside of strings. -/
theorem whole_dumps (level : Nat) : ∀ x : Json, Whole (o.dumps level x)
  | .null => by
    unfold DumpsOptions.dumps Whole
    decide
  | .bool true => by
    unfold DumpsOptions.dumps Whole
    decide
  | .bool false => by
    unfold DumpsOptions.dumps Whole
    decide
  | .int n => whole_int n
  | .float x => whole_scalar (o.floatPoints x).1 fun c inside => List.mem_append_left _ ((o.floatPoints x).2 c inside)
  | .str s => whole_string o s
  | .arr items => scan_wrapped o whole_brackets.1 whole_brackets.2.1 level (whole_dumpsItems (level + 1) items)
  | .obj members =>
    scan_wrapped o whole_brackets.2.2.1 whole_brackets.2.2.2 level (whole_dumpsMembers (level + 1) members)

theorem whole_dumpsItems (level : Nat) : ∀ items : List Json, ∀ t ∈ o.dumpsItems level items, Whole t
  | [], t, member => by cases member
  | x :: items, t, member => by
    rcases List.mem_cons.mp member with rfl | later
    · exact whole_dumps level x
    · exact whole_dumpsItems level items t later

theorem whole_dumpsMembers (level : Nat) : ∀ members : List (Text × Json), ∀ t ∈ o.dumpsMembers level members, Whole t
  | [], t, member => by cases member
  | (key, x) :: members, t, member => by
    rcases List.mem_cons.mp member with rfl | later
    · exact whole_member o key (whole_dumps level x)
    · exact whole_dumpsMembers level members t later

end

/-! ## The text of a secret field -/

/-- A text before and a text behind a field, whatever its value is; the first leads to a place outside of strings. -/
def Splits (level : Nat) (name : Text) (g : Text → Json) : Prop :=
  ∃ front back, (∀ value, o.dumps level (g value) = front ++ (o.member name (o.string value) ++ back)) ∧
    ∀ place, place = .outside ∨ place = .behindColon → scan place front = some .outside

theorem wrapped_append (opening closing : CodePoint) (level : Nat) (front back : List Text) (item : Text) :
    o.wrapped opening closing level (front ++ item :: back) =
      (opening :: (o.newline (level + 1) ++ front.flatMap fun t => t ++ o.separator (level + 1))) ++
        (item ++ ((back.flatMap fun t => o.separator (level + 1) ++ t) ++ (o.newline level ++ [closing]))) := by
  rw [DumpsOptions.wrapped, if_neg (by simp), o.joined_append]
  simp only [List.append_assoc, List.cons_append]

theorem scan_opening {opening : CodePoint} (opens : Whole [opening]) (level : Nat) {front : List Text}
    (whole : ∀ t ∈ front, Whole t) {place : Place} (out : place = .outside ∨ place = .behindColon) :
    scan place (opening :: (o.newline level ++ front.flatMap fun t => t ++ o.separator level)) = some .outside := by
  rw [← List.singleton_append, scan_append, opens.scan out, Option.bind_some, scan_append,
    scan_blanks (newline_blank o level) (.inl rfl), Option.bind_some, scan_items o level whole]

/-- A secret member of an object is found by its key. -/
theorem splits_object (level : Nat) (before after : List (Text × Json)) (name : Text) :
    Splits o level name fun value => .obj (before ++ (name, .str value) :: after) := by
  refine ⟨0x7B :: (o.newline (level + 1) ++
      (o.dumpsMembers (level + 1) before).flatMap fun t => t ++ o.separator (level + 1)),
    ((o.dumpsMembers (level + 1) after).flatMap fun t => o.separator (level + 1) ++ t) ++ (o.newline level ++ [0x7D]),
    fun value => ?_, fun place => ?_⟩
  · rw [DumpsOptions.dumps, o.dumpsMembers_append, DumpsOptions.dumpsMembers, wrapped_append, DumpsOptions.dumps]
  · exact scan_opening o whole_brackets.2.2.1 (level + 1) (whole_dumpsMembers o (level + 1) before)

/-- A value that encloses it does not hide it. -/
theorem splits_wrap (level : Nat) {name : Text} {g : Text → Json} (inner : Splits o (level + 1) name g) :
    ∀ frame : Frame, Splits o level name fun value => frame.wrap (g value) := by
  obtain ⟨front, back, same, outside⟩ := inner
  rintro (⟨before, after⟩ | ⟨before, key, after⟩)
  · refine ⟨(0x5B :: (o.newline (level + 1) ++
        (o.dumpsItems (level + 1) before).flatMap fun t => t ++ o.separator (level + 1))) ++ front,
      back ++ (((o.dumpsItems (level + 1) after).flatMap fun t => o.separator (level + 1) ++ t) ++
        (o.newline level ++ [0x5D])), fun value => ?_, fun place out => ?_⟩
    · change o.dumps level (.arr (before ++ g value :: after)) = _
      rw [DumpsOptions.dumps, o.dumpsItems_append, DumpsOptions.dumpsItems, wrapped_append, same]
      simp only [List.append_assoc]
    · rw [scan_append, scan_opening o whole_brackets.1 (level + 1) (whole_dumpsItems o (level + 1) before) out]
      exact outside .outside (.inl rfl)
  · refine ⟨(0x7B :: (o.newline (level + 1) ++
        (o.dumpsMembers (level + 1) before).flatMap fun t => t ++ o.separator (level + 1))) ++
        (o.string key ++ (o.beforeColon ++ colon :: o.afterColon) ++ front),
      back ++ (((o.dumpsMembers (level + 1) after).flatMap fun t => o.separator (level + 1) ++ t) ++
        (o.newline level ++ [0x7D])), fun value => ?_, fun place out => ?_⟩
    · change o.dumps level (.obj (before ++ (key, g value) :: after)) = _
      rw [DumpsOptions.dumps, o.dumpsMembers_append, DumpsOptions.dumpsMembers, wrapped_append, same, member_eq]
      simp only [List.append_assoc]
    · rw [scan_append, scan_opening o whole_brackets.2.2.1 (level + 1) (whole_dumpsMembers o (level + 1) before) out,
        Option.bind_some, scan_append, scan_member]
      exact outside .behindColon (.inr rfl)

theorem SecretField.splits (f : SecretField) (level : Nat) : Splits o level f.name f.fill := by
  unfold SecretField.fill
  induction f.frames generalizing level with
  | nil => exact splits_object o level f.before f.after f.name
  | cons frame frames ih => exact splits_wrap o level (ih (level + 1)) frame

end EmsDnp3.Python
