import EmsDnp3.Native.JsonLineProtocol
import EmsDnp3.Python.Client

/-!
# Both ends frame lines alike

The host reads a byte at a time and gives up one byte past the limit; the client reads at most two bytes past
it and drains the rest of an over-long line in blocks. Each line is the same frame for both, and both go on
behind its LF.
-/

namespace EmsDnp3.FramingAgreement

open Native Python

/-- What a line is to its reader. -/
inductive Frame where
  | payload (bytes : List Byte)
  | tooLarge
deriving DecidableEq

/-- A line without its LF: one carriage return at the end does not count. -/
def frame (limit : Nat) (line : List Byte) : Frame :=
  if (stripReturn line).length ≤ limit then .payload (stripReturn line) else .tooLarge

/-- The frames of an LF-terminated stream. -/
def frames (limit : Nat) (bytes : List Byte) : List Frame := (bytes.splitOn newline).dropLast.map (frame limit)

/-- The frame a result of the host's reader stands for. -/
def ofResult (result : ReadLineResult) : Option Frame :=
  match result.status with
  | .line => some (.payload result.line)
  | .tooLarge => some .tooLarge
  | _ => none

/-- The frame of an item: `_parse_response` takes the payload of a raw line. -/
def ofItem : StdoutItem → Option Frame
  | .raw bytes => (responsePayload bytes).map .payload
  | .failure _ => some .tooLarge
  | .eof => none

/-- At most one carriage return is removed. -/
theorem stripReturn_length (line : List Byte) : (stripReturn line).length ≤ line.length ∧ line.length ≤ (stripReturn line).length + 1 := by
  unfold stripReturn
  split
  · rw [List.length_dropLast]
    omega
  · omega

theorem frame_small {limit : Nat} {line : List Byte} (small : line.length ≤ limit) :
    frame limit line = .payload (stripReturn line) :=
  if_pos ((stripReturn_length line).1.trans small)

theorem frame_large {limit : Nat} {line : List Byte} (large : limit + 1 < line.length) : frame limit line = .tooLarge := by
  apply if_neg
  have := stripReturn_length line
  omega

/-- At one byte past the limit the carriage return decides. -/
theorem frame_edge {limit : Nat} {line : List Byte} (edge : line.length = limit + 1) :
    frame limit line = if line.getLast? = some carriageReturn then .payload line.dropLast else .tooLarge := by
  unfold frame stripReturn
  by_cases isReturn : line.getLast? = some 0x0D
  · rw [if_pos isReturn, if_pos (show line.getLast? = some carriageReturn from isReturn), List.length_dropLast, edge]
    exact if_pos (Nat.le_refl limit)
  · rw [if_neg isReturn, if_neg (show line.getLast? ≠ some carriageReturn from isReturn), edge]
    exact if_neg (Nat.not_succ_le_self limit)

/-! ## The host -/

section
variable {limit : Nat} {line rest : List Byte}

/-- The bytes of the line go one by one into the state; the LF ends the loop. -/
theorem readBytes_line {state : LineState} {input : Source Byte} (contents : input.contents = line ++ lineFeed :: rest)
    (inside : lineFeed ∉ line) :
    ∃ after, after.contents = rest ∧
      readBytes limit state input = ({ line.foldl (LineState.push limit) state with receivedAnything := true }, after) := by
  induction line generalizing state input with
  | nil =>
    obtain ⟨after, taken, here⟩ := Source.next_eq_some contents
    refine ⟨after, here, ?_⟩
    rw [readBytes, taken]
    rfl
  | cons b line ih =>
    obtain ⟨after, taken, here⟩ := Source.next_eq_some contents
    rw [List.mem_cons, not_or] at inside
    obtain ⟨last, behind, read⟩ := ih here inside.2
    refine ⟨last, behind, ?_⟩
    rw [readBytes, taken]
    dsimp only
    rw [if_neg (Ne.symm inside.1), read]
    rfl

/-- The state holds the line until the limit is passed by two. -/
theorem foldl_push (limit : Nat) (line : List Byte) :
    (line.foldl (LineState.push limit) {}).ended = false ∧
      ((line.foldl (LineState.push limit) {}).exceededLimit = false ∧ line.length ≤ limit + 1 ∧
          (line.foldl (LineState.push limit) {}).line = line ∨
        (line.foldl (LineState.push limit) {}).exceededLimit = true ∧ limit + 1 < line.length) := by
  induction line using List.reverseRecOn with
  | nil => exact ⟨rfl, .inl ⟨rfl, Nat.zero_le _, rfl⟩⟩
  | append_singleton front b ih =>
    rw [List.foldl_concat, List.length_append, List.length_singleton]
    generalize front.foldl (LineState.push limit) {} = state at ih ⊢
    unfold LineState.push
    dsimp only
    obtain ⟨ended, ⟨inside, small, held⟩ | ⟨exceeded, large⟩⟩ := ih
    · rw [inside, held]
      split
      · cases ‹false = true›
      split
      · exact ⟨ended, .inl ⟨rfl, by omega, rfl⟩⟩
      · exact ⟨ended, .inr ⟨rfl, by omega⟩⟩
    · rw [if_pos exceeded]
      exact ⟨ended, .inr ⟨exceeded, by omega⟩⟩

/-- One `read_line`: the frame of the line, and the stream behind its LF. -/
theorem readLine_frame {input : Source Byte} (contents : input.contents = line ++ lineFeed :: rest) (inside : lineFeed ∉ line) :
    ofResult (readLine limit input).1 = some (frame limit line) ∧ (readLine limit input).2.contents = rest := by
  obtain ⟨after, behind, read⟩ : ∃ after, after.contents = rest ∧ readBytes limit {} input =
      ({ line.foldl (LineState.push limit) {} with receivedAnything := true }, after) := readBytes_line contents inside
  obtain ⟨ended, held⟩ := foldl_push limit line
  unfold readLine
  rw [read]
  dsimp only
  rw [ended]
  simp only [Bool.false_and, Bool.false_eq_true, if_false]
  rcases held with ⟨within, small, held⟩ | ⟨exceeded, large⟩
  · rw [within, held]
    simp only [Bool.false_eq_true, if_false]
    split
    · next past =>
      have edge : line.length = limit + 1 := by omega
      rw [frame_edge edge]
      split
      · next isReturn =>
        rw [if_pos isReturn.2]
        exact ⟨rfl, behind⟩
      · next other =>
        rw [if_neg fun isReturn => other ⟨edge, isReturn⟩]
        exact ⟨rfl, behind⟩
    · next fits =>
      rw [frame_small (Nat.le_of_not_lt fits)]
      unfold stripReturn
      split
      · next isReturn =>
        rw [if_pos (show line.getLast? = some 0x0D from isReturn)]
        exact ⟨rfl, behind⟩
      · next other =>
        rw [if_neg (show line.getLast? ≠ some 0x0D from other)]
        exact ⟨rfl, behind⟩
  · rw [exceeded, frame_large large]
    exact ⟨rfl, behind⟩

end

/-! ## The client -/

section
variable {line rest : List Byte}

/-- A line that is shorter than the size is read with its LF. -/
theorem readline_short {size : Nat} {stream : Source Byte} (contents : stream.contents = line ++ newline :: rest)
    (inside : newline ∉ line) (short : line.length < size) :
    ∃ after, after.contents = rest ∧ readline size stream = (line ++ [newline], after) := by
  induction line generalizing size stream with
  | nil =>
    obtain ⟨after, taken, here⟩ := Source.next_eq_some contents
    cases size with
    | zero => cases short
    | succ size =>
      refine ⟨after, here, ?_⟩
      rw [readline, taken]
      rfl
  | cons b line ih =>
    obtain ⟨after, taken, here⟩ := Source.next_eq_some contents
    rw [List.mem_cons, not_or] at inside
    cases size with
    | zero => cases short
    | succ size =>
      obtain ⟨last, behind, read⟩ := ih here inside.2 (Nat.lt_of_succ_lt_succ short)
      refine ⟨last, behind, ?_⟩
      rw [readline, taken]
      dsimp only
      rw [if_neg (Ne.symm inside.1), read]
      rfl

/-- Of a longer one, `size` bytes are read and none of them is the LF. -/
theorem readline_long {size : Nat} {stream : Source Byte} (contents : stream.contents = line ++ newline :: rest)
    (inside : newline ∉ line) (long : size ≤ line.length) :
    ∃ after, after.contents = line.drop size ++ newline :: rest ∧ readline size stream = (line.take size, after) := by
  induction size generalizing line stream with
  | zero => exact ⟨stream, contents, rfl⟩
  | succ size ih =>
    cases line with
    | nil => cases long
    | cons b line =>
      obtain ⟨after, taken, here⟩ := Source.next_eq_some contents
      rw [List.mem_cons, not_or] at inside
      obtain ⟨last, behind, read⟩ := ih here inside.2 (Nat.le_of_succ_le_succ long)
      refine ⟨last, behind, ?_⟩
      rw [readline, taken]
      dsimp only
      rw [if_neg (Ne.symm inside.1), read]
      rfl

theorem getLast?_take_ne {size : Nat} (inside : newline ∉ line) : (line.take size).getLast? ≠ some newline := by
  intro last
  exact inside (List.mem_of_mem_take (List.mem_of_getLast? last))

/-- Draining ends behind the LF of the line. -/
theorem drainLine_line {stream : Source Byte} (contents : stream.contents = line ++ newline :: rest) (inside : newline ∉ line) :
    (drainLine stream).contents = rest := by
  induction size : line.length using Nat.strongRecOn generalizing line stream with
  | ind size ih =>
    by_cases short : line.length < 4096
    · obtain ⟨after, behind, read⟩ := readline_short contents inside short
      rw [drainLine, read, dif_neg (by simp), if_pos List.getLast?_concat]
      exact behind
    · obtain ⟨after, behind, read⟩ := readline_long contents inside (Nat.le_of_not_lt short)
      have more : line.take 4096 ≠ [] := by
        intro none
        have empty := congrArg List.length none
        rw [List.length_take, List.length_nil] at empty
        omega
      rw [drainLine, read, dif_neg more, if_neg (getLast?_take_ne inside)]
      refine ih _ ?_ behind (fun member => inside (List.mem_of_mem_drop member)) rfl
      rw [List.length_drop]
      omega

/-- One turn of the reader thread: the frame of the line, and the stream behind its LF. -/
theorem readStdoutOnce_frame {limit : Nat} {stream : Source Byte} (contents : stream.contents = line ++ newline :: rest)
    (inside : newline ∉ line) : ∃ item, (readStdoutOnce limit stream).1 = some item ∧
      ofItem item = some (frame limit line) ∧ (readStdoutOnce limit stream).2.contents = rest := by
  unfold readStdoutOnce
  by_cases short : line.length < limit + 2
  · obtain ⟨after, behind, read⟩ := readline_short contents inside short
    rw [read]
    dsimp only
    rw [if_neg (by simp), if_pos List.getLast?_concat, List.dropLast_concat]
    unfold frame
    split
    · next large =>
      refine ⟨oversized, rfl, ?_, behind⟩
      rw [if_neg (Nat.not_le_of_lt large)]
      rfl
    · next small =>
      refine ⟨.raw (line ++ [newline]), rfl, ?_, behind⟩
      rw [if_pos (Nat.le_of_not_lt small), ofItem, responsePayload, if_pos List.getLast?_concat, List.dropLast_concat]
      rfl
  · have long := Nat.le_of_not_lt short
    obtain ⟨after, behind, read⟩ := readline_long contents inside long
    have taken : (line.take (limit + 2)).length = limit + 2 := List.length_take_of_le long
    have more : line.take (limit + 2) ≠ [] := by
      intro none
      rw [none] at taken
      cases taken
    rw [read]
    dsimp only
    rw [if_neg more, if_neg (getLast?_take_ne inside), if_pos (by omega), frame_large (by omega)]
    exact ⟨oversized, rfl, rfl, drainLine_line behind fun member => inside (List.mem_of_mem_drop member)⟩

end

/-! ## Whole streams -/

/-- A stream that is empty or ends with an LF. -/
def Terminated (bytes : List Byte) : Prop := ∀ b ∈ bytes.getLast?, b = newline

/-- Terminated input is empty or begins with a line. -/
theorem terminated_cases {bytes : List Byte} (terminated : Terminated bytes) :
    bytes = [] ∨ ∃ line rest, bytes = line ++ newline :: rest ∧ newline ∉ line ∧ Terminated rest := by
  cases last : bytes.getLast? with
  | none => exact .inl (List.getLast?_eq_none_iff.mp last)
  | some b =>
    obtain rfl := terminated b last
    obtain ⟨line, rest, split, inside⟩ := List.eq_append_cons_of_mem (List.mem_of_getLast? last)
    refine .inr ⟨line, rest, split, inside, ?_⟩
    intro b isLast
    apply terminated b
    rw [split, List.getLast?_append, List.getLast?_cons, isLast]
    rfl

/-- The frame of the first line, and the frames of the rest. -/
theorem frames_cons (limit : Nat) {line rest : List Byte} (inside : newline ∉ line) :
    frames limit (line ++ newline :: rest) = frame limit line :: frames limit rest := by
  unfold frames
  rw [List.splitOn_append_cons_self_of_not_mem inside, List.dropLast_cons_of_ne_nil (List.splitOn_ne_nil _ _), List.map_cons]

section
variable (limit : Nat)

/-- The host's reader yields the frames of its input. -/
theorem readLines_frames {bytes : List Byte} (terminated : Terminated bytes) {input : Source Byte}
    (contents : input.contents = bytes) : (readLines limit input).map ofResult = (frames limit bytes).map some := by
  induction size : bytes.length using Nat.strongRecOn generalizing bytes input with
  | ind size ih =>
    rcases terminated_cases terminated with rfl | ⟨line, rest, rfl, inside, more⟩
    · have ended : (readLine limit input).1.status = .endOfFile := by
        rw [readLine, readBytes, Source.next_eq_none.mpr contents]
        rfl
      rw [readLines, dif_pos ended]
      rfl
    · obtain ⟨isFrame, behind⟩ : ofResult (readLine limit input).1 = some (frame limit line) ∧
          (readLine limit input).2.contents = rest := readLine_frame contents inside
      have goesOn : (readLine limit input).1.status ≠ .endOfFile := by
        intro ended
        rw [ofResult, ended] at isFrame
        cases isFrame
      rw [readLines, dif_neg goesOn, List.map_cons, isFrame, frames_cons limit inside, ih _ ?_ more behind rfl]
      · rfl
      rw [← size, List.length_append, List.length_cons]
      omega

/-- The client's reader yields the frames of its input, with the end behind them. -/
theorem readStdout_frames {bytes : List Byte} (terminated : Terminated bytes) {stream : Source Byte}
    (contents : stream.contents = bytes) : (readStdout limit stream).map ofItem = (frames limit bytes).map some ++ [none] := by
  induction size : bytes.length using Nat.strongRecOn generalizing bytes stream with
  | ind size ih =>
    rcases terminated_cases terminated with rfl | ⟨line, rest, rfl, inside, others⟩
    · have ended : (readStdoutOnce limit stream).1 = none := by
        rw [readStdoutOnce, readline, Source.next_eq_none.mpr contents]
        rfl
      rw [readStdout]
      split
      · rfl
      · next item more =>
        rw [ended] at more
        cases more
    · obtain ⟨item, isItem, isFrame, behind⟩ : ∃ item, (readStdoutOnce limit stream).1 = some item ∧
          ofItem item = some (frame limit line) ∧ (readStdoutOnce limit stream).2.contents = rest :=
        readStdoutOnce_frame contents inside
      rw [readStdout]
      split
      · next none =>
        rw [isItem] at none
        cases none
      · next found more =>
        obtain rfl : item = found := Option.some.inj (isItem.symm.trans more)
        rw [List.map_cons, isFrame, frames_cons limit inside, ih _ ?_ others behind rfl]
        · rfl
        rw [← size, List.length_append, List.length_cons]
        omega

end

/-- For every LF-terminated stream, however it arrives at either end, both ends see the same frames, one a
line (the client then sees the end), and a read that starts at a line ends behind its LF. -/
theorem framing_agrees (limit : Nat) (bytes : List Byte) (terminated : Terminated bytes) (input stream : Source Byte)
    (isInput : input.contents = bytes) (isStream : stream.contents = bytes) :
    ((readLines limit input).map ofResult = (frames limit bytes).map some ∧
        (readStdout limit stream).map ofItem = (frames limit bytes).map some ++ [none]) ∧
      ∀ line rest, bytes = line ++ newline :: rest → newline ∉ line →
        (readLine limit input).2.contents = rest ∧ (readStdoutOnce limit stream).2.contents = rest := by
  refine ⟨⟨readLines_frames limit terminated isInput, readStdout_frames limit terminated isStream⟩, ?_⟩
  rintro line rest rfl inside
  obtain ⟨item, -, -, behind⟩ := readStdoutOnce_frame isStream inside
  exact ⟨(readLine_frame isInput inside).2, behind⟩

/-- With a limit of two bytes: a line of three, one of two and a carriage return, cut at odd places. -/
theorem framing_agrees_example :
    ((readLines 2 [[0x61, 0x62], [], [0x63, 0x0A, 0x61], [0x62, 0x0D, 0x0A]]).map ofResult =
          (frames 2 [0x61, 0x62, 0x63, 0x0A, 0x61, 0x62, 0x0D, 0x0A]).map some ∧
        (readStdout 2 [[0x61, 0x62, 0x63, 0x0A, 0x61, 0x62, 0x0D, 0x0A]]).map ofItem =
          (frames 2 [0x61, 0x62, 0x63, 0x0A, 0x61, 0x62, 0x0D, 0x0A]).map some ++ [none]) ∧
      ∀ line rest, [0x61, 0x62, 0x63, 0x0A, 0x61, 0x62, 0x0D, 0x0A] = line ++ newline :: rest → newline ∉ line →
        (readLine 2 [[0x61, 0x62], [], [0x63, 0x0A, 0x61], [0x62, 0x0D, 0x0A]]).2.contents = rest ∧
          (readStdoutOnce 2 [[0x61, 0x62, 0x63, 0x0A, 0x61, 0x62, 0x0D, 0x0A]]).2.contents = rest :=
  framing_agrees 2 _ (by rintro b ⟨⟩; rfl) _ _ rfl rfl

example : frames 2 [0x61, 0x62, 0x63, 0x0A, 0x61, 0x62, 0x0D, 0x0A] = [.tooLarge, .payload [0x61, 0x62]] := by decide

end EmsDnp3.FramingAgreement
