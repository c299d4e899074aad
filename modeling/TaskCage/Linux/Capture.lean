import TaskCage.Core.Output
import Mathlib.Data.List.Rotate
import Mathlib.Order.Nat

/-!
# Capturing the tail of a stream

A reader keeps the end of its stream in a ring of fixed size.  A piece that is
at least as long as the ring replaces it; a shorter piece first discards what
it has no room beside.
-/

namespace TaskCage
namespace Linux

/-- A ring of `limit` bytes, of which `len` are in use from `start` on. -/
structure BoundedTail (limit : ℕ) where
  buffer : List UInt8
  start : ℕ
  len : ℕ
  truncated : Bool
  sized : buffer.length = limit
  start_lt : start < limit
  len_le : len ≤ limit

namespace BoundedTail

variable {limit : ℕ}

/-- Copy bytes over those from an index on. -/
def copyAt (buffer : List UInt8) (index : ℕ) (bytes : List UInt8) :
    List UInt8 :=
  buffer.take index ++ bytes ++ buffer.drop (index + bytes.length)

variable {bytes history : List UInt8} {tail : BoundedTail limit}
variable {buffer : List UInt8} {index : ℕ}

theorem length_copyAt (fits : index + bytes.length ≤ buffer.length) :
    (copyAt buffer index bytes).length = buffer.length := by
  unfold copyAt
  rw [List.length_append, List.length_append, List.length_take,
    List.length_drop]
  omega

/-- A ring that has kept nothing. -/
def new (limit : ℕ) (positive : 0 < limit) : BoundedTail limit where
  buffer := List.replicate limit 0
  start := 0
  len := 0
  truncated := false
  sized := List.length_replicate
  start_lt := positive
  len_le := Nat.zero_le limit

/-- Keep the end of a piece that fills the ring. -/
def replace (tail : BoundedTail limit) (bytes : List UInt8)
    (large : limit ≤ bytes.length) : BoundedTail limit where
  buffer := bytes.drop (bytes.length - limit)
  start := 0
  len := limit
  truncated := tail.truncated || 0 < tail.len || limit < bytes.length
  sized := by
    rw [List.length_drop]
    omega
  start_lt := Nat.zero_lt_of_lt tail.start_lt
  len_le := Nat.le_refl limit

/-- Discard the oldest bytes that a piece of so many has no room beside. -/
def makeRoom (tail : BoundedTail limit) (count : ℕ) : BoundedTail limit :=
  let free := limit - tail.len
  if free < count then
    let discarded := count - free
    { tail with
      start := (tail.start + discarded) % limit
      len := tail.len - discarded
      truncated := true
      start_lt := Nat.mod_lt _ (Nat.zero_lt_of_lt tail.start_lt)
      len_le := (Nat.sub_le _ _).trans tail.len_le }
  else
    tail

theorem len_makeRoom_le {count : ℕ} (small : count < limit) :
    (tail.makeRoom count).len + count ≤ limit := by
  have bound := tail.len_le
  unfold makeRoom
  dsimp only
  split
  · dsimp only
    omega
  · omega

/-- Write a piece behind the bytes in use, around the end of the ring. -/
def append (tail : BoundedTail limit) (bytes : List UInt8)
    (fits : tail.len + bytes.length ≤ limit) : BoundedTail limit :=
  let writeStart := (tail.start + tail.len) % limit
  let first := min bytes.length (limit - writeStart)
  { tail with
    buffer := copyAt (copyAt tail.buffer writeStart (bytes.take first)) 0
      (bytes.drop first)
    len := tail.len + bytes.length
    sized := by
      have inside : writeStart < limit :=
        Nat.mod_lt _ (Nat.zero_lt_of_lt tail.start_lt)
      have sized := tail.sized
      have written : (copyAt tail.buffer writeStart
          (bytes.take first)).length = limit := by
        rw [length_copyAt, sized]
        rw [List.length_take, sized]
        omega
      rw [length_copyAt, written]
      rw [written, List.length_drop]
      omega
    len_le := fits }

/-- Take the next piece of the stream. -/
def push (tail : BoundedTail limit) (bytes : List UInt8) :
    BoundedTail limit :=
  if bytes = [] then
    tail
  else if large : limit ≤ bytes.length then
    tail.replace bytes large
  else
    (tail.makeRoom bytes.length).append bytes
      (len_makeRoom_le (Nat.lt_of_not_le large))

/-- The kept bytes in their order. -/
def finish (tail : BoundedTail limit) : CapturedStream where
  tail := (tail.buffer.rotate tail.start).take tail.len
  truncated := tail.truncated

theorem length_finish (tail : BoundedTail limit) :
    tail.finish.tail.length = tail.len := by
  have sized := tail.sized
  have bound := tail.len_le
  unfold finish
  rw [List.length_take, List.length_rotate]
  omega

/-! ### The ring holds the end of the stream -/

/-- The byte at an index after a copy. -/
theorem getElem?_copyAt (fits : index + bytes.length ≤ buffer.length)
    (place : ℕ) :
    (copyAt buffer index bytes)[place]? =
      if index ≤ place ∧ place < index + bytes.length then
        bytes[place - index]?
      else buffer[place]? := by
  have taken : (buffer.take index).length = index := by
    rw [List.length_take]
    omega
  unfold copyAt
  by_cases before : place < index
  · rw [if_neg (by omega), List.append_assoc,
      List.getElem?_append_left (by omega), List.getElem?_take_of_lt before]
  · by_cases inside : place < index + bytes.length
    · rw [if_pos (by omega), List.getElem?_append_left (by
        rw [List.length_append]
        omega), List.getElem?_append_right (by omega), taken]
    · rw [if_neg (by omega), List.getElem?_append_right (by
        rw [List.length_append]
        omega), List.getElem?_drop, List.length_append, taken]
      congr 1
      omega

/-- The bytes in use are those of the finished tail. -/
theorem getElem?_finish {place : ℕ} (inside : place < tail.len) :
    tail.finish.tail[place]? = tail.buffer[(tail.start + place) % limit]? := by
  have bound := tail.len_le
  have sized := tail.sized
  unfold finish
  rw [List.getElem?_take_of_lt inside,
    List.getElem?_rotate (by omega), sized, Nat.add_comm]

theorem finish_makeRoom (tail : BoundedTail limit) (count : ℕ) :
    (tail.makeRoom count).finish.tail =
      tail.finish.tail.drop (tail.len - (tail.makeRoom count).len) := by
  have bound := tail.len_le
  have sized := tail.sized
  by_cases full : limit - tail.len < count
  · have room : tail.makeRoom count = { tail with
        start := (tail.start + (count - (limit - tail.len))) % limit
        len := tail.len - (count - (limit - tail.len))
        truncated := true
        start_lt := Nat.mod_lt _ (Nat.zero_lt_of_lt tail.start_lt)
        len_le := (Nat.sub_le _ _).trans tail.len_le } := if_pos full
    rw [room]
    unfold finish
    dsimp only
    generalize count - (limit - tail.len) = discarded
    by_cases few : discarded ≤ tail.len
    · have turned : tail.buffer.rotate ((tail.start + discarded) % limit) =
          (tail.buffer.rotate tail.start).rotate discarded := by
        have modulo := List.rotate_mod tail.buffer (tail.start + discarded)
        rw [sized] at modulo
        rw [modulo, List.rotate_rotate]
      rw [turned, List.rotate_eq_drop_append_take (by
          rw [List.length_rotate]
          omega), List.take_append_of_le_length (by
          rw [List.length_drop, List.length_rotate]
          omega), List.drop_take]
      congr 2 <;> omega
    · have none : tail.len - discarded = 0 := by omega
      rw [none, List.take_zero, Nat.sub_zero, List.drop_eq_nil_of_le]
      exact (List.length_take_le _ _)
  · have room : tail.makeRoom count = tail := if_neg full
    rw [room, Nat.sub_self, List.drop_zero]

/-- A piece that fits is put behind the bytes in use. -/
theorem finish_append (tail : BoundedTail limit) (bytes : List UInt8)
    (fits : tail.len + bytes.length ≤ limit) :
    (tail.append bytes fits).finish.tail = tail.finish.tail ++ bytes := by
  have sized := tail.sized
  have begins := tail.start_lt
  have kept := length_finish tail
  apply List.ext_getElem?
  intro place
  by_cases outside : tail.len + bytes.length ≤ place
  · rw [List.getElem?_eq_none (by
      rw [length_finish]
      exact outside), List.getElem?_eq_none (by
      rw [List.length_append, kept]
      exact outside)]
  have inside : place < (tail.append bytes fits).len := Nat.lt_of_not_le outside
  rw [getElem?_finish inside]
  unfold append
  dsimp only
  -- The place of the first new byte, and how many fit before the end.
  have write : (tail.start + tail.len) % limit < limit :=
    Nat.mod_lt _ (Nat.zero_lt_of_lt begins)
  have wraps : ∀ offset, offset ≤ limit →
      (tail.start + offset) % limit = tail.start + offset ∧
          tail.start + offset < limit ∨
        (tail.start + offset) % limit + limit = tail.start + offset := by
    intro offset small
    by_cases short : tail.start + offset < limit
    · exact .inl ⟨Nat.mod_eq_of_lt short, short⟩
    · right
      rw [Nat.mod_eq_sub_mod (by omega), Nat.mod_eq_of_lt (by omega)]
      omega
  have writes := wraps tail.len tail.len_le
  have reads := wraps place (by omega)
  generalize (tail.start + tail.len) % limit = writeStart at write writes ⊢
  generalize readIs : (tail.start + place) % limit = readPlace at reads ⊢
  have first : (bytes.take (min bytes.length (limit - writeStart))).length =
      min bytes.length (limit - writeStart) := by
    rw [List.length_take]
    omega
  have copied : (copyAt tail.buffer writeStart
      (bytes.take (min bytes.length (limit - writeStart)))).length = limit := by
    rw [length_copyAt (by omega), sized]
  rw [getElem?_copyAt (by
      rw [copied, List.length_drop]
      omega), getElem?_copyAt (by omega), List.length_drop, first]
  by_cases old : place < tail.len
  · rw [if_neg (by omega), if_neg (by omega),
      List.getElem?_append_left (by omega), getElem?_finish old, readIs]
  · rw [List.getElem?_append_right (by omega), kept]
    by_cases wrapped : readPlace < writeStart
    · rw [if_pos (by omega), List.getElem?_drop]
      congr 1
      omega
    · rw [if_neg (by omega), if_pos (by omega),
        List.getElem?_take_of_lt (by omega)]
      congr 1
      omega

/-- The ring has the end of the bytes that came, and says whether some are
missing. -/
structure Holds (history : List UInt8) (tail : BoundedTail limit) : Prop where
  finish : tail.finish.tail = history.drop (history.length - limit)
  truncated : tail.truncated = decide (limit < history.length)

theorem Holds.len_eq (holds : Holds history tail) :
    tail.len = min limit history.length := by
  rw [← length_finish, holds.finish, List.length_drop]
  omega

theorem holds_new (positive : 0 < limit) : Holds [] (new limit positive) where
  finish := by
    rw [List.drop_nil]
    rfl
  truncated := (decide_eq_false (Nat.not_lt_zero limit)).symm

theorem Holds.replace (holds : Holds history tail)
    (large : limit ≤ bytes.length) :
    Holds (history ++ bytes) (tail.replace bytes large) := by
  have used := holds.len_eq
  have sized : (bytes.drop (bytes.length - limit)).length = limit := by
    rw [List.length_drop]
    omega
  constructor
  · have whole : (tail.replace bytes large).finish.tail =
        bytes.drop (bytes.length - limit) := by
      unfold BoundedTail.replace BoundedTail.finish
      dsimp only
      rw [List.rotate_zero, List.take_of_length_le sized.le]
    have gone : history.drop ((history ++ bytes).length - limit) = [] := by
      apply List.drop_eq_nil_of_le
      rw [List.length_append]
      omega
    rw [whole, List.drop_append, gone, List.nil_append, List.length_append]
    congr 1
    omega
  · unfold BoundedTail.replace
    dsimp only
    rw [holds.truncated, List.length_append, ← Bool.decide_or, ← Bool.decide_or]
    apply decide_eq_decide.mpr
    omega

theorem Holds.push (holds : Holds history tail) (bytes : List UInt8) :
    Holds (history ++ bytes) (tail.push bytes) := by
  unfold BoundedTail.push
  split
  · rename_i empty
    rwa [empty, List.append_nil]
  split
  · rename_i large
    exact holds.replace large
  · rename_i small
    have used := holds.len_eq
    have room : (tail.makeRoom bytes.length).len =
        min tail.len (limit - bytes.length) ∧
        (tail.makeRoom bytes.length).truncated =
          (tail.truncated || decide (limit < tail.len + bytes.length)) := by
      unfold makeRoom
      dsimp only
      split
      · refine ⟨by dsimp only; omega, ?_⟩
        rw [decide_eq_true (by omega), Bool.or_true]
      · refine ⟨by omega, ?_⟩
        rw [decide_eq_false (by omega), Bool.or_false]
    constructor
    · rw [finish_append, finish_makeRoom, holds.finish, List.drop_drop,
        room.1, List.length_append, List.drop_append]
      have whole : history.length + bytes.length - limit - history.length =
          0 := by omega
      rw [whole, List.drop_zero]
      congr 2
      omega
    · have same : ((tail.makeRoom bytes.length).append bytes
          (len_makeRoom_le (Nat.lt_of_not_le small))).truncated =
          (tail.makeRoom bytes.length).truncated := rfl
      rw [same, room.2, holds.truncated, List.length_append, ← Bool.decide_or]
      apply decide_eq_decide.mpr
      omega

end BoundedTail

/-- What a reader has captured when its reads returned these pieces. -/
def drainOutput (limit : ℕ) (positive : 0 < limit)
    (pieces : List (List UInt8)) : CapturedStream :=
  (pieces.foldl BoundedTail.push (BoundedTail.new limit positive)).finish

variable {limit : ℕ}

/-- A captured tail is within its limit. -/
theorem length_drainOutput_le (positive : 0 < limit)
    (pieces : List (List UInt8)) :
    (drainOutput limit positive pieces).tail.length ≤ limit := by
  unfold drainOutput
  rw [BoundedTail.length_finish]
  exact BoundedTail.len_le _

/-- The end of a stream that a limit leaves, and whether that is not all. -/
def capturedEnd (limit : ℕ) (stream : List UInt8) : CapturedStream where
  tail := stream.drop (stream.length - limit)
  truncated := limit < stream.length

theorem BoundedTail.Holds.finish_eq {history : List UInt8}
    {tail : BoundedTail limit} (holds : Holds history tail) :
    tail.finish = capturedEnd limit history := by
  unfold capturedEnd
  rw [← holds.finish, ← holds.truncated]
  rfl

example :
    drainOutput 4 (by decide) [[97, 98, 99], [100, 101], [102]] =
      ⟨[99, 100, 101, 102], true⟩ := by
  decide

/-! ### The loop of a reader -/

/-- The size of the buffer that a reader reads into. -/
def readBufferBytes : ℕ :=
  8 * 1024

/-- What `poll` answers. -/
inductive PollAnswer (Error : Type) where
  | ready
  | timeout
  | interrupted
  | failed (error : Error)

/-- What `read` answers; no bytes are the end of the file. -/
inductive ReadAnswer (Error : Type) where
  | data (bytes : List UInt8) (filled : bytes ≠ [])
      (fits : bytes.length ≤ readBufferBytes)
  | endOfFile
  | wouldBlock
  | interrupted
  | failed (error : Error)

/-- What a reader meets next: that it is cancelled, or the answer to the call
that it makes otherwise. -/
inductive ReaderTurn (Error : Type) where
  | cancelled
  | poll (answer : PollAnswer Error)
  | read (answer : ReadAnswer Error)

/-- Where a reader is. -/
inductive Reader (limit : ℕ) (Error : Type) where
  | polling (tail : BoundedTail limit)
  | reading (tail : BoundedTail limit)
  | ended (outcome : Except Error CapturedStream)

namespace Reader

variable {Error : Type}

/-- A reader before its first call. -/
def start (positive : 0 < limit) : Reader limit Error :=
  polling (.new limit positive)

/-- The outer loop polls, the inner one reads until it would block. -/
def step : Reader limit Error → ReaderTurn Error → Option (Reader limit Error)
  | polling tail, .cancelled => some (ended (.ok tail.finish))
  | reading tail, .cancelled => some (ended (.ok tail.finish))
  | polling tail, .poll answer =>
      match answer with
      | .ready => some (reading tail)
      | .timeout => some (polling tail)
      | .interrupted => some (polling tail)
      | .failed error => some (ended (.error error))
  | reading tail, .read answer =>
      match answer with
      | .data bytes _ _ => some (reading (tail.push bytes))
      | .endOfFile => some (ended (.ok tail.finish))
      | .wouldBlock => some (polling tail)
      | .interrupted => some (reading tail)
      | .failed error => some (ended (.error error))
  | _, _ => none

/-- A reader after several turns. -/
def run (reader : Reader limit Error) :
    List (ReaderTurn Error) → Option (Reader limit Error)
  | [] => some reader
  | turn :: rest => (reader.step turn).bind fun next => next.run rest

end Reader

/-- The bytes that a turn gives. -/
def ReaderTurn.bytes {Error : Type} : ReaderTurn Error → List UInt8
  | .read (.data bytes _ _) => bytes
  | _ => []

/-- The part of the stream that was read. -/
def received {Error : Type} (turns : List (ReaderTurn Error)) : List UInt8 :=
  turns.flatMap ReaderTurn.bytes

namespace Reader

variable {Error : Type}

/-- A reader at work has the end of what came. -/
def Keeps (history : List UInt8) : Reader limit Error → Prop
  | polling tail => tail.Holds history
  | reading tail => tail.Holds history
  | ended _ => True

variable {reader : Reader limit Error}
variable {history : List UInt8} {turns : List (ReaderTurn Error)}

/-- One turn keeps the end of the stream. -/
theorem Keeps.step {next : Reader limit Error} {turn : ReaderTurn Error}
    (keeps : reader.Keeps history) (stepped : reader.step turn = some next) :
    next.Keeps (history ++ turn.bytes) := by
  cases reader with
  | polling tail =>
      cases turn with
      | cancelled =>
          cases stepped
          trivial
      | poll answer =>
          cases answer <;> cases stepped
          · simpa [ReaderTurn.bytes, Keeps] using keeps
          · simpa [ReaderTurn.bytes, Keeps] using keeps
          · simpa [ReaderTurn.bytes, Keeps] using keeps
          · trivial
      | read answer => cases stepped
  | reading tail =>
      cases turn with
      | cancelled =>
          cases stepped
          trivial
      | poll answer => cases stepped
      | read answer =>
          cases answer <;> cases stepped
          · exact BoundedTail.Holds.push keeps _
          · trivial
          · simpa [ReaderTurn.bytes, Keeps] using keeps
          · simpa [ReaderTurn.bytes, Keeps] using keeps
          · trivial
  | ended outcome => cases turn <;> cases stepped

/-- Whatever the turns are, a reader at work has the end of what came. -/
theorem Keeps.run {last : Reader limit Error} (keeps : reader.Keeps history)
    (ran : reader.run turns = some last) :
    last.Keeps (history ++ received turns) := by
  induction turns generalizing history reader with
  | nil =>
      cases ran
      simpa [received] using keeps
  | cons turn rest inductionHypothesis =>
      obtain ⟨next, stepped, further⟩ := Option.bind_eq_some_iff.mp ran
      have later := inductionHypothesis (keeps.step stepped) further
      rwa [List.append_assoc] at later

theorem run_append {others : List (ReaderTurn Error)} :
    reader.run (turns ++ others) =
      (reader.run turns).bind fun next => next.run others := by
  induction turns generalizing reader with
  | nil => rfl
  | cons turn rest inductionHypothesis =>
      simp only [List.cons_append, run, Option.bind_assoc, inductionHypothesis]

/-- The turns in which each piece is read at once. -/
theorem exists_turns {pieces : List (List UInt8)}
    (cut : ∀ piece ∈ pieces, piece ≠ [] ∧ piece.length ≤ readBufferBytes)
    (tail : BoundedTail limit) :
    ∃ (turns : List (ReaderTurn Error)) (reached : BoundedTail limit),
      received turns = pieces.flatten ∧
        (reading tail).run turns = some (reading reached) := by
  induction pieces generalizing tail with
  | nil => exact ⟨[], tail, rfl, rfl⟩
  | cons piece rest inductionHypothesis =>
      obtain ⟨filled, fits⟩ := cut piece List.mem_cons_self
      obtain ⟨turns, reached, whole, ran⟩ := inductionHypothesis
        (fun other member => cut other (List.mem_cons_of_mem _ member))
        (tail.push piece)
      refine ⟨.read (.data piece filled fits) :: turns, reached, ?_, ran⟩
      rw [List.flatten_cons, ← whole]
      rfl

/-- A reader that comes to the end of the file has captured the end of the
stream, however it was cut and whatever came between the pieces; and for every
cut of a stream there is a reader that comes to its end. -/
theorem captured_exact (positive : 0 < limit) :
    (∀ (turns : List (ReaderTurn Error)) (outcome : Except Error CapturedStream),
      (start positive).run (turns ++ [.read .endOfFile]) =
          some (ended outcome) →
        outcome = .ok (capturedEnd limit (received turns))) ∧
      ∀ pieces : List (List UInt8),
        (∀ piece ∈ pieces, piece ≠ [] ∧ piece.length ≤ readBufferBytes) →
        ∃ turns : List (ReaderTurn Error), received turns = pieces.flatten ∧
          (start positive).run (turns ++ [.read .endOfFile]) =
            some (ended (.ok (capturedEnd limit pieces.flatten))) := by
  have begins : (start positive : Reader limit Error).Keeps [] :=
    BoundedTail.holds_new positive
  have ends : ∀ (turns : List (ReaderTurn Error)) (last : Reader limit Error),
      (start positive).run (turns ++ [.read .endOfFile]) = some last →
        last = ended (.ok (capturedEnd limit (received turns))) := by
    intro turns last ran
    rw [run_append] at ran
    obtain ⟨reader, worked, ended⟩ := Option.bind_eq_some_iff.mp ran
    obtain ⟨next, stepped, done⟩ := Option.bind_eq_some_iff.mp ended
    cases done
    have keeps := begins.run worked
    cases reader with
    | polling tail => cases stepped
    | reading tail =>
        cases stepped
        rw [BoundedTail.Holds.finish_eq keeps, List.nil_append]
    | ended outcome => cases stepped
  constructor
  · intro turns outcome ran
    cases ends turns _ ran
    rfl
  · intro pieces cut
    obtain ⟨turns, reached, whole, ran⟩ :=
      exists_turns cut (BoundedTail.new limit positive)
    have all : received (.poll .ready :: turns) = pieces.flatten := whole
    refine ⟨.poll .ready :: turns, all, ?_⟩
    have finished : (start positive).run
        (.poll .ready :: turns ++ [.read .endOfFile]) =
        some (ended (.ok reached.finish) : Reader limit Error) := by
      rw [run_append]
      change ((reading _).run turns).bind _ = _
      rw [ran]
      rfl
    rw [finished, ends _ _ finished, all]

theorem captured_exact_four :
    (∀ (turns : List (ReaderTurn String))
        (outcome : Except String CapturedStream),
      (start (by decide : 0 < 4)).run (turns ++ [.read .endOfFile]) =
          some (ended outcome) →
        outcome = .ok (capturedEnd 4 (received turns))) ∧
      ∀ pieces : List (List UInt8),
        (∀ piece ∈ pieces, piece ≠ [] ∧ piece.length ≤ readBufferBytes) →
        ∃ turns : List (ReaderTurn String),
          received turns = pieces.flatten ∧
          (start (by decide : 0 < 4)).run (turns ++ [.read .endOfFile]) =
            some (ended (.ok (capturedEnd 4 pieces.flatten))) :=
  captured_exact (by decide)

end Reader

end Linux
end TaskCage
