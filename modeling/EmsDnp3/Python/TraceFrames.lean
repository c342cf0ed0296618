import EmsDnp3.Python.TraceDecoder

/-!
# Frames on the wire

The octets of a frame: `wireFrame` writes a header and the blocks of a payload, each with
its checksum, and `IntactFrame` says that a decoded frame has that form. `readBlocks`
recovers the payload of what was written, and accepts nothing that was not.
-/

namespace EmsDnp3.Python

/-- A block as it stands on the wire. -/
def wireBlock (block : List Byte) : List Byte := block ++ crcBytes block

/-- The blocks of a payload: sixteen octets each, the last one shorter. -/
def payloadBlocks : Nat → List Byte → List (List Byte)
  | 0, _ => []
  | _, [] => []
  | fuel + 1, payload => payload.take 16 :: payloadBlocks fuel (payload.drop 16)

/-- The checksums of a frame hold. Its octets are a header of eight and the blocks of its payload, each followed by its
checksum; there are as many as the header announces, and the decoded addresses are those of the header. -/
structure IntactFrame (f : TraceFrame) : Prop where
  wire : ∃ head : List Byte, head.length = 8 ∧
    f.raw = wireBlock head ++ (payloadBlocks f.payload.length f.payload).flatMap wireBlock
  announced : f.raw.length = expectedSize (byteAt f.raw 2)
  link : f.link = linkHeader f.raw

/-- The route that the octets of a frame name: the destination in octets 4 and 5, the source in octets 6 and 7. -/
def wireRoute (f : TraceFrame) : Route where
  sessionId := f.sessionId
  direction := f.direction
  source := littleEndian ((f.raw.drop 6).take 2)
  destination := littleEndian ((f.raw.drop 4).take 2)

/-- The route of an intact frame is the one that its octets name. -/
theorem IntactFrame.route {f : TraceFrame} (intact : IntactFrame f) : TraceDecoder.route f = wireRoute f := by
  unfold TraceDecoder.route wireRoute
  rw [intact.link]
  rfl

theorem length_crcBytes (data : List Byte) : (crcBytes data).length = 2 := rfl

/-- Two octets that read as a number are its octets. -/
theorem twoBytes_of_littleEndian {a b : Byte} {n : Fin 65536} (same : n.val = littleEndian [a, b]) :
    [a, b] = twoBytes n := by
  simp only [littleEndian] at same
  have ha : (⟨n.val % 256, Nat.mod_lt _ (by decide)⟩ : Byte) = a := Fin.ext (by simp only; omega)
  have hb : (⟨n.val / 256, by omega⟩ : Byte) = b := Fin.ext (by simp only; omega)
  rw [twoBytes, ha, hb]

/-- Two octets that pass the check are the checksum. -/
theorem take_two_eq_crcBytes {block rest : List Byte} (long : 2 ≤ rest.length)
    (valid : (crc block).val = littleEndian (rest.take 2)) : rest.take 2 = crcBytes block := by
  match rest, long with
  | a :: b :: _, _ => exact twoBytes_of_littleEndian valid

/-- The size of the blocks of a payload of `n` octets. -/
def blocksSize (n : Nat) : Nat := n + (n + 15) / 16 * 2

/-- One round of the loop over the blocks. -/
theorem readBlocks_succ {fuel : Nat} {rest : List Byte} (some_ : 0 < rest.length) :
    readBlocks (fuel + 1) rest =
      (((crc (rest.take (min 16 (rest.length - 2)))).val =
          littleEndian ((rest.drop (min 16 (rest.length - 2))).take 2)) &&
        (readBlocks fuel (rest.drop (min 16 (rest.length - 2) + 2))).1,
       rest.take (min 16 (rest.length - 2)) ++ (readBlocks fuel (rest.drop (min 16 (rest.length - 2) + 2))).2) := by
  cases rest with
  | nil => exact absurd some_ (Nat.lt_irrefl _)
  | cons a tail => rfl

/-- Valid blocks are the blocks of the payload that is read from them, each followed by its checksum. -/
theorem readBlocks_valid {fuel count : Nat} {rest : List Byte} {n : Nat} (enough : rest.length ≤ fuel) (counted : n ≤ count)
    (size : rest.length = blocksSize n) (valid : (readBlocks fuel rest).1 = true) :
    (readBlocks fuel rest).2.length = n ∧
      rest = (payloadBlocks count (readBlocks fuel rest).2).flatMap wireBlock := by
  induction fuel generalizing rest n count with
  | zero =>
    obtain rfl := List.length_eq_zero_iff.mp (Nat.le_zero.mp enough)
    rw [List.length_nil, blocksSize] at size
    obtain rfl : n = 0 := by omega
    exact ⟨rfl, by cases count <;> rfl⟩
  | succ fuel ih =>
    cases rest with
    | nil =>
      rw [List.length_nil, blocksSize] at size
      obtain rfl : n = 0 := by omega
      exact ⟨rfl, by cases count <;> rfl⟩
    | cons a tail =>
      have positive : 0 < (a :: tail).length := Nat.succ_pos _
      generalize a :: tail = rest at *
      rw [readBlocks_succ positive] at valid ⊢
      rw [Bool.and_eq_true, decide_eq_true_eq] at valid
      unfold blocksSize at size
      obtain ⟨count, rfl⟩ : ∃ c, count = c + 1 := ⟨count - 1, by omega⟩
      have blockSize : min 16 (rest.length - 2) = min 16 n := by omega
      rw [blockSize] at valid ⊢
      have shorter : (rest.drop (min 16 n + 2)).length ≤ fuel := by rw [List.length_drop]; omega
      have restSize : (rest.drop (min 16 n + 2)).length = blocksSize (n - 16) := by
        rw [List.length_drop, blocksSize]
        omega
      obtain ⟨moreLength, wire⟩ := ih shorter (show n - 16 ≤ count by omega) restSize valid.2
      have blockLength : (rest.take (min 16 n)).length = min 16 n := by
        rw [List.length_take]
        omega
      generalize (readBlocks fuel (rest.drop (min 16 n + 2))).2 = more at moreLength wire ⊢
      -- the blocks of the payload: the first is the one just read
      have first : payloadBlocks (count + 1) (rest.take (min 16 n) ++ more) =
          rest.take (min 16 n) :: payloadBlocks count more := by
        have taken : (rest.take (min 16 n) ++ more).take 16 = rest.take (min 16 n) ∧
            (rest.take (min 16 n) ++ more).drop 16 = more := by
          by_cases full : 16 ≤ n
          · have sixteen : (rest.take (min 16 n)).length = 16 := by omega
            exact ⟨List.take_left' sixteen, List.drop_left' sixteen⟩
          · obtain rfl : more = [] := List.length_eq_zero_iff.mp (by omega)
            rw [List.append_nil]
            exact ⟨List.take_of_length_le (by omega), List.drop_eq_nil_of_le (by omega)⟩
        have some_ : rest.take (min 16 n) ++ more ≠ [] := by
          apply List.ne_nil_of_length_pos
          rw [List.length_append]
          omega
        obtain ⟨b, others, split⟩ := List.exists_cons_of_ne_nil some_
        rw [split] at taken ⊢
        show (b :: others).take 16 :: payloadBlocks count ((b :: others).drop 16) = _
        rw [taken.1, taken.2]
      have checksum := take_two_eq_crcBytes (by rw [List.length_drop]; omega) valid.1
      have tail : rest.drop (min 16 n + 2) = (rest.drop (min 16 n)).drop 2 := by rw [List.drop_drop]
      constructor
      · rw [List.length_append]
        omega
      · calc rest = rest.take (min 16 n) ++ rest.drop (min 16 n) := (List.take_append_drop _ _).symm
          _ = rest.take (min 16 n) ++ ((rest.drop (min 16 n)).take 2 ++ rest.drop (min 16 n + 2)) := by
              rw [tail, List.take_append_drop 2]
          _ = (payloadBlocks (count + 1) (rest.take (min 16 n) ++ more)).flatMap wireBlock := by
              rw [first, checksum, wire, List.flatMap_cons, wireBlock, List.append_assoc]

/-- One written block is read, and the rest after it. -/
theorem readBlocks_wireBlock {fuel : Nat} {block more : List Byte} (short : block.length ≤ 16)
    (full : block.length = 16 ∨ more = []) :
    readBlocks (fuel + 1) (wireBlock block ++ more) = ((readBlocks fuel more).1, block ++ (readBlocks fuel more).2) := by
  have size : (wireBlock block ++ more).length = block.length + 2 + more.length := by
    rw [List.length_append, wireBlock, List.length_append, length_crcBytes]
  have blockSize : min 16 ((wireBlock block ++ more).length - 2) = block.length := by
    rcases full with full | rfl
    · omega
    · rw [size, List.length_nil]
      omega
  rw [readBlocks_succ (by omega), blockSize]
  have first : (wireBlock block ++ more).take block.length = block := by
    rw [wireBlock, List.append_assoc, List.take_left]
  have second : ((wireBlock block ++ more).drop block.length).take 2 = crcBytes block := by
    rw [wireBlock, List.append_assoc, List.drop_left]
    exact List.take_left' (length_crcBytes block)
  have third : (wireBlock block ++ more).drop (block.length + 2) = more := by
    refine List.drop_left' ?_
    rw [wireBlock, List.length_append, length_crcBytes]
  rw [first, second, third, crcBytes, littleEndian_twoBytes]
  simp

/-- Written blocks are read back. -/
theorem readBlocks_payloadBlocks {count fuel : Nat} {payload : List Byte} (counted : payload.length ≤ count)
    (enough : ((payloadBlocks count payload).flatMap wireBlock).length ≤ fuel) :
    readBlocks fuel ((payloadBlocks count payload).flatMap wireBlock) = (true, payload) := by
  induction count generalizing payload fuel with
  | zero =>
    obtain rfl := List.length_eq_zero_iff.mp (Nat.le_zero.mp counted)
    cases fuel <;> rfl
  | succ count ih =>
    cases payload with
    | nil => cases fuel <;> rfl
    | cons a tail =>
      have positive : 0 < (a :: tail).length := Nat.succ_pos _
      have step : payloadBlocks (count + 1) (a :: tail) =
          (a :: tail).take 16 :: payloadBlocks count ((a :: tail).drop 16) := rfl
      rw [step] at enough ⊢
      generalize a :: tail = payload at *
      rw [List.flatMap_cons] at enough ⊢
      rw [List.length_append] at enough
      have blockLength : (payload.take 16).length = min 16 payload.length := List.length_take
      have wireLength : (wireBlock (payload.take 16)).length = min 16 payload.length + 2 := by
        rw [wireBlock, List.length_append, blockLength, length_crcBytes]
      obtain ⟨fuel, rfl⟩ : ∃ f, fuel = f + 1 := ⟨fuel - 1, by omega⟩
      have full : (payload.take 16).length = 16 ∨
          (payloadBlocks count (payload.drop 16)).flatMap wireBlock = [] := by
        by_cases long : 16 ≤ payload.length
        · exact Or.inl (by omega)
        · rw [List.drop_eq_nil_of_le (by omega)]
          exact Or.inr (by cases count <;> rfl)
      rw [readBlocks_wireBlock (by omega) full, ih (by rw [List.length_drop]; omega) (by omega),
        List.take_append_drop]

/-- A frame of the announced size whose checksums hold is intact. -/
theorem linkFrame_intact {pending : LinkPending} {record : TraceRecord}
    (size : pending.data.length = expectedSize (byteAt pending.data 2))
    (valid : (linkFrame pending record).crcValid = true) : IntactFrame (linkFrame pending record) := by
  refine ⟨⟨pending.data.take 8, ?_, ?_⟩, size, rfl⟩
  · rw [List.length_take, size, expectedSize]
    omega
  generalize byteAt pending.data 2 = length at size
  have size : pending.data.length = 10 + blocksSize (length.val - 5) := by
    rw [size, expectedSize, blocksSize, Nat.add_assoc]
  obtain ⟨header, body⟩ := Bool.and_eq_true_iff.mp valid
  have header := take_two_eq_crcBytes (by rw [List.length_drop]; omega) (of_decide_eq_true header)
  have rest : (pending.data.drop 10).length = blocksSize (length.val - 5) := by
    rw [List.length_drop]
    omega
  obtain ⟨payload, wire⟩ := readBlocks_valid (by rw [List.length_drop]; omega) le_rfl rest body
  rw [← payload] at wire
  have tail : pending.data.drop 10 = (pending.data.drop 8).drop 2 := by rw [List.drop_drop]
  calc pending.data = pending.data.take 8 ++ pending.data.drop 8 := (List.take_append_drop _ _).symm
    _ = pending.data.take 8 ++ ((pending.data.drop 8).take 2 ++ pending.data.drop 10) := by
        rw [tail, List.take_append_drop 2]
    _ = wireBlock (pending.data.take 8) ++ (payloadBlocks _ _).flatMap wireBlock := by
        rw [header, wire, wireBlock, List.append_assoc]
        rfl

/-- User data: no error, valid checksums, and the transport octet at the head of the payload. -/
theorem classify_transport {valid : Bool} {control : Byte} {payload : List Byte} {header : TransportHeader}
    (found : (classify valid control payload).2 = some header) :
    valid = true ∧ ∃ first rest, payload = first :: rest ∧ header = transportHeader first := by
  simp only [classify] at found
  split at found
  · cases found
  · next ok =>
    refine ⟨by simpa using ok, ?_⟩
    split at found
    · cases found
    split at found
    · cases found
    split at found
    · cases found
    split at found
    · split at found
      · cases found
      · next first rest => exact ⟨first, rest, rfl, (Option.some.inj found).symm⟩
    split at found <;> cases found

end EmsDnp3.Python
