import EmsDnp3.Base.Bytes
import EmsDnp3.Base.Source

/-!
# The client's reader thread

`_read_stdout` of `client.py`. The host's standard output is an unbuffered pipe, so `readline(size)` reads
it a byte at a time up to an LF, the size or the end. What goes into the queue of responses is a list here.
-/

namespace EmsDnp3.Python

def newline : Byte := 0x0A

/-- `stream.readline(size)` -/
def readline : Nat → Source Byte → List Byte × Source Byte
  | 0, stream => ([], stream)
  | size + 1, stream =>
    match stream.next with
    | none => ([], [])
    | some (b, rest) => if b = newline then ([b], rest) else (b :: (readline size rest).1, (readline size rest).2)

/-- `readline` takes no more than there is. -/
theorem readline_le (size : Nat) (stream : Source Byte) :
    (readline size stream).1.length + (readline size stream).2.contents.length ≤ stream.contents.length := by
  induction size generalizing stream with
  | zero => simp [readline]
  | succ size ih =>
    rw [readline]
    split
    · simp
    · next b rest taken =>
      have first := congrArg List.length (Source.contents_of_next taken)
      rw [List.length_cons] at first
      split
      · dsimp only
        rw [List.length_singleton]
        omega
      · have more := ih rest
        dsimp only
        rw [List.length_cons]
        omega

/-- A line that is not empty is taken from the stream. -/
theorem readline_shorter {size : Nat} {stream : Source Byte} (some_ : (readline size stream).1 ≠ []) :
    (readline size stream).2.contents.length < stream.contents.length := by
  have le := readline_le size stream
  have positive := List.length_pos_of_ne_nil some_
  omega

/-- `while raw and not raw.endswith(b"\n"): raw = stream.readline(4096)`, entered with such a `raw`. -/
def drainLine (stream : Source Byte) : Source Byte :=
  if _more : (readline 4096 stream).1 = [] then (readline 4096 stream).2
  else if (readline 4096 stream).1.getLast? = some newline then (readline 4096 stream).2
  else drainLine (readline 4096 stream).2
termination_by stream.contents.length
decreasing_by exact readline_shorter ‹_›

/-- Skipping the rest of a line adds nothing. -/
theorem drainLine_le (stream : Source Byte) : (drainLine stream).contents.length ≤ stream.contents.length := by
  induction stream using drainLine.induct with
  | case1 stream empty =>
    rw [drainLine, dif_pos empty]
    have le := readline_le 4096 stream
    omega
  | case2 stream more isLast =>
    rw [drainLine, dif_neg more, if_pos isLast]
    exact (readline_shorter more).le
  | case3 stream more notLast ih =>
    rw [drainLine, dif_neg more, if_neg notLast]
    exact ih.trans (readline_shorter more).le

/-- An item of the response queue: a raw line, `_StreamFailure` or `_STDOUT_EOF`. -/
inductive StdoutItem where
  | raw (bytes : List Byte)
  | failure (message : String)
  | eof
deriving DecidableEq

/-- One carriage return at the end is not part of a line. -/
def stripReturn (line : List Byte) : List Byte :=
  if line.getLast? = some 0x0D then line.dropLast else line

def oversized : StdoutItem := .failure "response line exceeds max_response_bytes"

/-- One turn of the loop of `_read_stdout`; no item at the end of the stream. -/
def readStdoutOnce (limit : Nat) (stream : Source Byte) : Option StdoutItem × Source Byte :=
  let raw := (readline (limit + 2) stream).1
  let rest := (readline (limit + 2) stream).2
  if raw = [] then (none, rest)
  else if raw.getLast? = some newline then
    if limit < (stripReturn raw.dropLast).length then (some oversized, rest) else (some (.raw raw), rest)
  else if limit < raw.length then (some oversized, drainLine rest)
  else (some (.raw raw), rest)

/-- Every item takes something from the stream, so the reader ends. -/
theorem readStdoutOnce_shorter {limit : Nat} {stream : Source Byte} (some_ : (readStdoutOnce limit stream).1 ≠ none) :
    (readStdoutOnce limit stream).2.contents.length < stream.contents.length := by
  revert some_
  unfold readStdoutOnce
  dsimp only
  split
  · exact fun some_ => absurd rfl some_
  next more =>
  have shorter := readline_shorter more
  intro _
  split
  · split
    · exact shorter
    · exact shorter
  · split
    · exact (drainLine_le _).trans_lt shorter
    · exact shorter

/-- `_read_stdout`: the items that it enqueues. -/
def readStdout (limit : Nat) (stream : Source Byte) : List StdoutItem :=
  match _more : (readStdoutOnce limit stream).1 with
  | none => [.eof]
  | some item => item :: readStdout limit (readStdoutOnce limit stream).2
termination_by stream.contents.length
decreasing_by exact readStdoutOnce_shorter (by simp [_more])

/-- The payload that `_parse_response` takes from a raw line. -/
def responsePayload (raw : List Byte) : Option (List Byte) :=
  if raw.getLast? = some newline then some (stripReturn raw.dropLast) else none

end EmsDnp3.Python
