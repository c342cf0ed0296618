import EmsDnp3.Json.Decimal

/-!
# `json.dumps`

The text that Python writes for a value, with its options: `ensure_ascii`, `indent`, and separators that are a comma
and a colon with blanks around them. How a float is written (`float.__repr__`) is left open; it takes digits, signs,
a dot, an exponent, or the names of the three special values.
-/

namespace EmsDnp3.Json

/-- Blanks of JSON. -/
def blanks : Text := [0x20, 0x09, 0x0A, 0x0D]

/-- The characters of numbers and names. -/
def scalarPoints : Text := text "0123456789+-.eEnulltruefalseNaNInfinity"

/-- The options of `json.dumps`. -/
structure DumpsOptions where
  ensureAscii : Bool
  indent : Option Text
  afterComma : Text
  beforeColon : Text
  afterColon : Text
  floatRepr : FloatLit → Text
  indentBlank : ∀ c ∈ indent.getD [], c ∈ blanks
  commaBlank : ∀ c ∈ afterComma, c ∈ blanks
  colonBlank : ∀ c ∈ beforeColon ++ afterColon, c ∈ blanks
  floatPoints : ∀ x, floatRepr x ≠ [] ∧ ∀ c ∈ floatRepr x, c ∈ scalarPoints

theorem noBlanks : ∀ c ∈ ([] : Text), c ∈ blanks := by simp

theorem oneBlank : ∀ c ∈ ([0x20] : Text), c ∈ blanks := by simp [blanks]

theorem twoBlanks : ∀ c ∈ ([0x20, 0x20] : Text), c ∈ blanks := by simp [blanks]

/-- `'{0:04x}'.format(n)` -/
def hexFour (n : Nat) : Text :=
  [12, 8, 4, 0].map fun shift => hexPoint ⟨n / 2 ^ shift % 16, Nat.mod_lt _ (by decide)⟩

def unicodeEscape (n : Nat) : Text := backslash :: 0x75 :: hexFour n

/-- `py_encode_basestring_ascii`: what `escape` leaves as it is and is not printable ASCII is written in hexadecimal. -/
def escapeAscii (c : CodePoint) : Text :=
  if escape c ≠ [c] ∨ 0x20 ≤ c.val ∧ c.val ≤ 0x7E then escape c
  else if c.val < 0x10000 then unicodeEscape c.val
  else unicodeEscape (0xD800 + (c.val - 0x10000) / 1024 % 1024) ++ unicodeEscape (0xDC00 + (c.val - 0x10000) % 1024)

namespace DumpsOptions
variable (o : DumpsOptions)

/-- How a code point stands inside a string literal. -/
def escaped (c : CodePoint) : Text := if o.ensureAscii then escapeAscii c else escape c

/-- A string, with the escapes that the options ask for. -/
def string (s : Text) : Text := quote :: s.flatMap o.escaped ++ [quote]

/-- The line break before an item at a level. -/
def newline (level : Nat) : Text :=
  match o.indent with
  | none => []
  | some unit => 0x0A :: (List.replicate level unit).flatten

/-- What stands between two items. -/
def separator (level : Nat) : Text := 0x2C :: (o.afterComma ++ o.newline level)

/-- Items, with the separator between them. -/
def joined (level : Nat) : List Text → Text
  | [] => []
  | first :: rest => first ++ rest.flatMap fun item => o.separator level ++ item

/-- The items of a container between its brackets. -/
def wrapped (opening closing : CodePoint) (level : Nat) (items : List Text) : Text :=
  if items = [] then [opening, closing]
  else opening :: (o.newline (level + 1) ++ (o.joined (level + 1) items ++ (o.newline level ++ [closing])))

/-- A member: its key, the colon and its value. -/
def member (key value : Text) : Text := o.string key ++ (o.beforeColon ++ 0x3A :: (o.afterColon ++ value))

mutual

/-- The text of a value at a level. -/
def dumps (level : Nat) : Json → Text
  | .null => text "null"
  | .bool true => text "true"
  | .bool false => text "false"
  | .int n => dumpInt n
  | .float x => o.floatRepr x
  | .str s => o.string s
  | .arr items => o.wrapped 0x5B 0x5D level (dumpsItems (level + 1) items)
  | .obj members => o.wrapped 0x7B 0x7D level (dumpsMembers (level + 1) members)

/-- The elements of an array, each one written. -/
def dumpsItems (level : Nat) : List Json → List Text
  | [] => []
  | x :: rest => dumps level x :: dumpsItems level rest

/-- The members of an object, each one written. -/
def dumpsMembers (level : Nat) : List (Text × Json) → List Text
  | [] => []
  | (key, x) :: rest => o.member key (dumps level x) :: dumpsMembers level rest

end

/-- An item in the middle has a separator on each side. -/
theorem joined_append (level : Nat) (front back : List Text) (item : Text) :
    o.joined level (front ++ item :: back) =
      (front.flatMap fun x => x ++ o.separator level) ++ (item ++ back.flatMap fun x => o.separator level ++ x) := by
  cases front with
  | nil => rfl
  | cons x front =>
    have shift (l : List Text) : (l.flatMap fun item => o.separator level ++ item) ++ o.separator level =
        o.separator level ++ l.flatMap fun x => x ++ o.separator level := by
      induction l with
      | nil => simp
      | cons y l ih => simp only [List.flatMap_cons, List.append_assoc, ih]
    simp only [List.cons_append, joined, List.flatMap_append, List.flatMap_cons, List.append_assoc]
    rw [← List.append_assoc (front.flatMap _) (o.separator level), shift]
    simp only [List.append_assoc]

theorem dumpsItems_append (level : Nat) (front back : List Json) :
    o.dumpsItems level (front ++ back) = o.dumpsItems level front ++ o.dumpsItems level back := by
  induction front with
  | nil => rfl
  | cons x front ih => rw [List.cons_append, dumpsItems, ih, dumpsItems, List.cons_append]

theorem dumpsMembers_append (level : Nat) (front back : List (Text × Json)) :
    o.dumpsMembers level (front ++ back) = o.dumpsMembers level front ++ o.dumpsMembers level back := by
  induction front with
  | nil => rfl
  | cons m front ih => rw [List.cons_append, dumpsMembers, ih, dumpsMembers, List.cons_append]

end DumpsOptions

/-! ## The default options -/

/-- A number is written, and in characters of scalars. -/
theorem decimal_points (n : Nat) : decimal n ≠ [] ∧ ∀ c ∈ decimal n, c ∈ scalarPoints := by
  constructor
  · rw [decimal_eq]
    exact List.append_ne_nil_of_right_ne_nil _ (List.cons_ne_nil _ _)
  · intro c inside
    have known : ∀ d : Fin 10, digitPoint d ∈ scalarPoints := by decide +kernel
    have digit := decimal_isDigit inside
    simp only [isDigit, Bool.and_eq_true, decide_eq_true_eq] at digit
    have point : c = digitPoint ⟨c.val - 0x30, by omega⟩ := Fin.ext (by simp only [digitPoint]; omega)
    rw [point]
    exact known _

/-- A float as its literal. -/
theorem dumpFloat_points (x : FloatLit) : dumpFloat x ≠ [] ∧ ∀ c ∈ dumpFloat x, c ∈ scalarPoints := by
  have digit : ∀ d : Fin 10, digitPoint d ∈ scalarPoints := by decide +kernel
  have digits (ds : List (Fin 10)) : ∀ c ∈ ds.map digitPoint, c ∈ scalarPoints := by
    intro c inside
    obtain ⟨d, -, rfl⟩ := List.mem_map.mp inside
    exact digit d
  have mark {s : Text} (known : (s.all fun c => c ∈ scalarPoints) = true) : ∀ c ∈ s, c ∈ scalarPoints :=
    fun c inside => of_decide_eq_true (List.all_eq_true.mp known c inside)
  have sign (negative : Bool) : ∀ c ∈ if negative then text "-" else [], c ∈ scalarPoints := by
    cases negative
    · simp
    · exact mark (by decide +kernel)
  have exponent : ∀ c ∈ dumpExponent x.exponent, c ∈ scalarPoints := by
    unfold dumpExponent
    split
    · simp
    · next negative d ds _ =>
      intro c inside
      simp only [List.mem_append] at inside
      rcases inside with (e | minus) | power
      · exact mark (by decide +kernel) c e
      · exact sign negative c minus
      · exact digits _ c power
  constructor
  · intro none_
    simp only [dumpFloat, List.append_eq_nil_iff] at none_
    exact (decimal_points x.whole).1 none_.1.1.2
  · intro c inside
    simp only [dumpFloat, List.mem_append] at inside
    rcases inside with ((minus | whole) | fraction) | power
    · exact sign x.negative c minus
    · exact (decimal_points x.whole).2 c whole
    · split at fraction
      · cases fraction
      · rcases List.mem_append.mp fraction with dot | decimals
        · exact mark (by decide +kernel) c dot
        · exact digits _ c decimals
    · exact exponent c power

/-- The defaults of `json.dumps`. -/
def DumpsOptions.default : DumpsOptions where
  ensureAscii := true
  indent := none
  afterComma := [0x20]
  beforeColon := []
  afterColon := [0x20]
  floatRepr := dumpFloat
  indentBlank := noBlanks
  commaBlank := oneBlank
  colonBlank := oneBlank
  floatPoints := dumpFloat_points

end EmsDnp3.Json
