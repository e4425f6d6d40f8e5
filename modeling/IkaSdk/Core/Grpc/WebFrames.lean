import IkaSdk.Core.Grpc.Transport
import IkaSdk.Lib.Framing

/-! The frames of a gRPC-Web body: how a frame is written, and the reader that
cuts the frames of a body out of the chunks it arrives in. -/

namespace Ika

open Wire

/-! ## Errors -/

/-- The names of the gRPC statuses, in the order of their codes. -/
def grpcWebStatusNames : List String :=
  ["OK", "CANCELLED", "UNKNOWN", "INVALID_ARGUMENT", "DEADLINE_EXCEEDED", "NOT_FOUND",
    "ALREADY_EXISTS", "PERMISSION_DENIED", "RESOURCE_EXHAUSTED", "FAILED_PRECONDITION", "ABORTED",
    "OUT_OF_RANGE", "UNIMPLEMENTED", "INTERNAL", "UNAVAILABLE", "DATA_LOSS", "UNAUTHENTICATED"]

/-- The code of a status, by its name. -/
def grpcWebStatus (name : String) : ℕ := grpcWebStatusNames.idxOf name

def grpcWebError (code : ℕ) (details : String) : GrpcError :=
  let name := grpcWebStatusNames.getD code "UNKNOWN"
  { code := some code
    details := some details
    message := s!"{code} {name}: {details}" }

/-! ## Frames -/

structure GrpcWebFrame where
  flag : UInt8
  payload : Bytes
deriving DecidableEq, Repr

def frameHeaderLength : ℕ := 5

def grpcWebMaxAnswerBytes : ℕ := 16 * 1024 * 1024

/-- A number as `setUint32` writes it, big-endian. -/
def be32 (v : ℕ) : Bytes := (leBytes 4 v).reverse

/-- The number that `getUint32` reads after the flag byte of a header. -/
def headerLength (header : Bytes) : ℕ := leValue ((header.drop 1).take 4).reverse

def headerFlag (header : Bytes) : UInt8 := header.headD 0

def encodeFrame (frame : GrpcWebFrame) : Bytes :=
  frame.flag :: be32 frame.payload.length ++ frame.payload

/-- Why a reader stops: at a frame that declares too much, or where its caller throws. -/
inductive FrameRefusal (ε : Type)
  | frame (error : GrpcError)
  | onFrame (error : ε)
deriving DecidableEq, Repr

def oversizedFrame (length : ℕ) : GrpcError :=
  grpcWebError (grpcWebStatus "RESOURCE_EXHAUSTED")
    (s!"a gRPC-Web frame declares {length} bytes, more than the " ++
      s!"{grpcWebMaxAnswerBytes} bytes the client takes")

/-! ## The reader -/

/-- The bytes that arrived and are not part of a returned frame yet. -/
structure GrpcWebFrameReader where
  chunks : List Bytes
  buffered : ℕ
  buffered_eq : buffered = chunks.flatten.length

namespace GrpcWebFrameReader

def bytes (reader : GrpcWebFrameReader) : Bytes := reader.chunks.flatten

/-- The first `count` bytes of the chunks, and the chunks without them. -/
def readChunks : ℕ → List Bytes → Bytes × List Bytes
  | _, [] => ([], [])
  | 0, chunks => ([], chunks)
  | count + 1, chunk :: chunks =>
    if chunk.length ≤ count + 1 then
      let read := readChunks (count + 1 - chunk.length) chunks
      (chunk ++ read.1, read.2)
    else (chunk.take (count + 1), chunk.drop (count + 1) :: chunks)

theorem readChunks_eq (count : ℕ) (chunks : List Bytes) :
    (readChunks count chunks).1 = chunks.flatten.take count ∧
      (readChunks count chunks).2.flatten = chunks.flatten.drop count := by
  induction chunks generalizing count with
  | nil =>
    rw [readChunks]
    simp
  | cons chunk chunks ih =>
    cases count with
    | zero =>
      rw [readChunks]
      · simp
      · simp
    | succ count =>
      rw [readChunks]
      split_ifs with hlong
      · obtain ⟨hread, hleft⟩ := ih (count + 1 - chunk.length)
        dsimp only
        rw [List.flatten_cons, List.take_append, List.drop_append, hread, hleft,
          List.take_of_length_le hlong, List.drop_of_length_le hlong]
        exact ⟨rfl, rfl⟩
      · have hshort : count + 1 ≤ chunk.length := by omega
        rw [List.flatten_cons, List.take_append_of_le_length hshort,
          List.drop_append_of_le_length hshort]
        exact ⟨rfl, rfl⟩

/-- The first `count` bytes, which are dropped when `consume` is set. -/
def read (reader : GrpcWebFrameReader) (count : ℕ) (consume : Bool) :
    Bytes × GrpcWebFrameReader :=
  ((readChunks count reader.chunks).1,
    if consume then
      { chunks := (readChunks count reader.chunks).2
        buffered := reader.buffered - count
        buffered_eq := by
          rw [reader.buffered_eq, (readChunks_eq count reader.chunks).2, List.length_drop] }
    else reader)

def empty : GrpcWebFrameReader := ⟨[], 0, rfl⟩

def add (reader : GrpcWebFrameReader) (chunk : Bytes) : GrpcWebFrameReader :=
  if 0 < chunk.length then
    { chunks := reader.chunks ++ [chunk]
      buffered := reader.buffered + chunk.length
      buffered_eq := by
        rw [reader.buffered_eq, List.flatten_append, List.length_append]
        simp }
  else reader

def pendingBytes (reader : GrpcWebFrameReader) : ℕ := reader.buffered

/-- What a push ends with: the frames it returns, or what it throws with the
frames it had cut by then. -/
inductive Pushed (σ ε : Type)
  | returned (frames : List GrpcWebFrame) (reader : GrpcWebFrameReader) (state : σ)
  | threw (refusal : FrameRefusal ε) (frames : List GrpcWebFrame) (reader : GrpcWebFrameReader)
      (state : σ)

section Push

variable {σ ε : Type} (onFrame : σ → GrpcWebFrame → σ × Option ε)

/-- Each round of the loop takes at least a header, so there are at most as many
rounds as bytes. -/
def pushLoop : ℕ → GrpcWebFrameReader → σ → List GrpcWebFrame → Pushed σ ε
  | 0, reader, state, frames => .returned frames reader state
  | rounds + 1, reader, state, frames =>
    if reader.buffered < frameHeaderLength then .returned frames reader state
    else
      let header := (reader.read frameHeaderLength false).1
      let length := headerLength header
      if grpcWebMaxAnswerBytes < length then
        .threw (.frame (oversizedFrame length)) frames reader state
      else if reader.buffered < frameHeaderLength + length then .returned frames reader state
      else
        let afterHeader := (reader.read frameHeaderLength true).2
        let payload := afterHeader.read length true
        let frame : GrpcWebFrame := ⟨headerFlag header, payload.1⟩
        match onFrame state frame with
        | (state, some error) => .threw (.onFrame error) frames payload.2 state
        | (state, none) => pushLoop rounds payload.2 state (frames ++ [frame])

/-- Add a chunk, and hand over every frame that is now complete. -/
def push (reader : GrpcWebFrameReader) (chunk : Bytes) (state : σ) : Pushed σ ε :=
  pushLoop onFrame (reader.add chunk).buffered (reader.add chunk) state []

end Push

end GrpcWebFrameReader

/-! ## The framing -/

def cutFrame (bytes : Bytes) : Option (Except GrpcError (GrpcWebFrame × Bytes)) :=
  if bytes.length < frameHeaderLength then none
  else if grpcWebMaxAnswerBytes < headerLength bytes then
    some (.error (oversizedFrame (headerLength bytes)))
  else if bytes.length < frameHeaderLength + headerLength bytes then none
  else
    let body := bytes.drop frameHeaderLength
    some (.ok (⟨headerFlag bytes, body.take (headerLength bytes)⟩, body.drop (headerLength bytes)))

theorem headerLength_append {bytes : Bytes} (h : frameHeaderLength ≤ bytes.length)
    (more : Bytes) : headerLength (bytes ++ more) = headerLength bytes := by
  have hfour : 4 ≤ (bytes.drop 1).length := by
    rw [List.length_drop]
    unfold frameHeaderLength at h
    omega
  have hone : 1 ≤ bytes.length := le_trans (by decide) h
  unfold headerLength
  rw [List.drop_append_of_le_length hone, List.take_append_of_le_length hfour]

theorem headerFlag_append {bytes : Bytes} (h : frameHeaderLength ≤ bytes.length)
    (more : Bytes) : headerFlag (bytes ++ more) = headerFlag bytes := by
  cases bytes with
  | nil => exact absurd h (by decide)
  | cons b bytes => rfl

theorem be32_length (v : ℕ) : (be32 v).length = 4 := by
  unfold be32
  rw [List.length_reverse, leBytes_length]

theorem encodeFrame_header (frame : GrpcWebFrame) :
    ∃ header : Bytes, header.length = frameHeaderLength ∧ headerFlag header = frame.flag ∧
      headerLength header = frame.payload.length % 256 ^ 4 ∧
      encodeFrame frame = header ++ frame.payload := by
  refine ⟨frame.flag :: be32 frame.payload.length, ?_, rfl, ?_, rfl⟩
  · rw [List.length_cons, be32_length]
    rfl
  · have htake : (be32 frame.payload.length).take 4 = be32 frame.payload.length :=
      List.take_of_length_le (be32_length _).le
    unfold headerLength
    rw [List.drop_one, List.tail_cons, htake, be32, List.reverse_reverse, leValue_leBytes]

/-- A header is the flag and the length that it reads as. -/
theorem header_eq {header : Bytes} (h : header.length = frameHeaderLength) :
    header = headerFlag header :: be32 (headerLength header) := by
  cases header with
  | nil => cases h
  | cons flag digits =>
    have hfour : digits.length = 4 := Nat.succ.inj h
    have htake : digits.take 4 = digits := List.take_of_length_le hfour.le
    have hvalue : leBytes 4 (leValue digits.reverse) = digits.reverse := by
      rw [← hfour, ← List.length_reverse, leBytes_leValue]
    unfold headerLength be32
    rw [List.drop_one, List.tail_cons, htake, hvalue, List.reverse_reverse]
    rfl

theorem cutFrame_encode {frame : GrpcWebFrame}
    (h : frame.payload.length ≤ grpcWebMaxAnswerBytes) (rest : Bytes) :
    cutFrame (encodeFrame frame ++ rest) = some (.ok (frame, rest)) := by
  obtain ⟨header, hheader, hflag, hlength, hencode⟩ := encodeFrame_header frame
  have hsmall : frame.payload.length < 256 ^ 4 :=
    lt_of_le_of_lt h (by decide : grpcWebMaxAnswerBytes < 256 ^ 4)
  rw [Nat.mod_eq_of_lt hsmall] at hlength
  rw [hencode, List.append_assoc]
  have hlong : ¬(header ++ (frame.payload ++ rest)).length < frameHeaderLength := by
    rw [List.length_append]
    omega
  have hwhole : ¬(header ++ (frame.payload ++ rest)).length <
      frameHeaderLength + frame.payload.length := by
    rw [List.length_append, List.length_append]
    omega
  have hbody : (header ++ (frame.payload ++ rest)).drop frameHeaderLength =
      frame.payload ++ rest := by
    rw [← hheader, List.drop_left]
  unfold cutFrame
  rw [if_neg hlong, headerLength_append hheader.ge, hlength, if_neg (not_lt.mpr h),
    if_neg hwhole, headerFlag_append hheader.ge, hflag, hbody]
  simp

theorem cutFrame_ok {bytes rest : Bytes} {frame : GrpcWebFrame}
    (h : cutFrame bytes = some (.ok (frame, rest))) :
    frame.payload.length ≤ grpcWebMaxAnswerBytes ∧ bytes = encodeFrame frame ++ rest := by
  unfold cutFrame at h
  split_ifs at h with hlong hmax hwhole
  · cases h
  have hframe := Except.ok.inj (Option.some.inj h)
  obtain ⟨rfl, rfl⟩ := Prod.mk.inj hframe
  have hlength : ((bytes.drop frameHeaderLength).take (headerLength bytes)).length =
      headerLength bytes := by
    rw [List.length_take, List.length_drop]
    omega
  have htake : (bytes.take frameHeaderLength).length = frameHeaderLength := by
    rw [List.length_take]
    omega
  have hsplit : bytes.take frameHeaderLength ++ bytes.drop frameHeaderLength = bytes :=
    List.take_append_drop _ _
  have hheader := header_eq htake
  rw [← headerFlag_append htake.ge (bytes.drop frameHeaderLength),
    ← headerLength_append htake.ge (bytes.drop frameHeaderLength), hsplit] at hheader
  refine ⟨hlength.trans_le (not_lt.mp hmax), ?_⟩
  unfold encodeFrame
  rw [hlength, ← hheader, List.append_assoc, List.take_append_drop, hsplit]

theorem cutFrame_error {bytes : Bytes} {error : GrpcError}
    (h : cutFrame bytes = some (.error error)) (more : Bytes) :
    cutFrame (bytes ++ more) = some (.error error) := by
  unfold cutFrame at h
  split_ifs at h with hlong hmax
  · have hlonger : ¬(bytes ++ more).length < frameHeaderLength := by
      rw [List.length_append]
      omega
    unfold cutFrame
    rw [if_neg hlonger, headerLength_append (not_lt.mp hlong), if_pos hmax]
    exact h
  · cases h

/-- The frames of gRPC-Web, whose payloads are held to the limit. -/
def grpcWebFraming (ε : Type) : Framing GrpcWebFrame (FrameRefusal ε) where
  fits frame := frame.payload.length ≤ grpcWebMaxAnswerBytes
  encode := encodeFrame
  cut bytes := (cutFrame bytes).map (·.mapError .frame)
  encode_pos frame := Nat.succ_pos _
  cut_encode frame h rest := by
    rw [cutFrame_encode h rest]
    rfl
  cut_ok {bytes frame rest} h := by
    obtain ⟨read, hread, hok⟩ := Option.map_eq_some_iff.mp h
    exact cutFrame_ok (hread.trans (congrArg some (mapError_ok hok)))
  cut_error {bytes refusal} h more := by
    obtain ⟨read, hread, herror⟩ := Option.map_eq_some_iff.mp h
    cases read with
    | ok read => cases herror
    | error error =>
      rw [cutFrame_error hread more]
      exact congrArg some herror

/-! ## The reader cuts the framing -/

namespace GrpcWebFrameReader

variable {σ ε : Type}

/-- What the loop does with a frame: hand it over, then keep it to return it. -/
def taking (onFrame : σ → GrpcWebFrame → σ × Option ε)
    (kept : List GrpcWebFrame × σ) (frame : GrpcWebFrame) :
    (List GrpcWebFrame × σ) × Option (FrameRefusal ε) :=
  match onFrame kept.2 frame with
  | (state, some error) => ((kept.1, state), some (.onFrame error))
  | (state, none) => ((kept.1 ++ [frame], state), none)

/-- A push, as a reading of the bytes that the reader held. -/
def Pushed.reading : Pushed σ ε → Reading (FrameRefusal ε) (List GrpcWebFrame × σ)
  | .returned frames reader state => .waits (frames, state) reader.bytes
  | .threw refusal frames _ state => .stops refusal (frames, state)

/-- A push that had already cut the frames `front`. -/
def Pushed.after (front : List GrpcWebFrame) : Pushed σ ε → Pushed σ ε
  | .returned frames reader state => .returned (front ++ frames) reader state
  | .threw refusal frames reader state => .threw refusal (front ++ frames) reader state

theorem bytes_length (reader : GrpcWebFrameReader) : reader.bytes.length = reader.buffered :=
  reader.buffered_eq.symm

theorem read_fst (reader : GrpcWebFrameReader) (count : ℕ) (consume : Bool) :
    (reader.read count consume).1 = reader.bytes.take count :=
  (readChunks_eq count reader.chunks).1

theorem read_bytes (reader : GrpcWebFrameReader) (count : ℕ) :
    (reader.read count true).2.bytes = reader.bytes.drop count :=
  (readChunks_eq count reader.chunks).2

theorem add_bytes (reader : GrpcWebFrameReader) (chunk : Bytes) :
    (reader.add chunk).bytes = reader.bytes ++ chunk := by
  unfold add
  split_ifs with hchunk
  · unfold bytes
    rw [List.flatten_append, List.flatten_singleton]
  · have hempty : chunk = [] := List.eq_nil_of_length_eq_zero (by omega)
    rw [hempty, List.append_nil]

theorem header_take {bytes : Bytes} (h : frameHeaderLength ≤ bytes.length) :
    headerLength (bytes.take frameHeaderLength) = headerLength bytes ∧
      headerFlag (bytes.take frameHeaderLength) = headerFlag bytes := by
  have htake : frameHeaderLength ≤ (bytes.take frameHeaderLength).length := by
    rw [List.length_take, min_eq_left h]
  have hlength := headerLength_append htake (bytes.drop frameHeaderLength)
  have hflag := headerFlag_append htake (bytes.drop frameHeaderLength)
  rw [List.take_append_drop] at hlength hflag
  exact ⟨hlength.symm, hflag.symm⟩

variable {onFrame : σ → GrpcWebFrame → σ × Option ε}

theorem taking_kept {front : List GrpcWebFrame} {frame : GrpcWebFrame} {state next : σ}
    (h : onFrame state frame = (next, none)) :
    taking onFrame (front, state) frame = ((front ++ [frame], next), none) := by
  unfold taking
  rw [h]

theorem taking_thrown {front : List GrpcWebFrame} {frame : GrpcWebFrame} {state next : σ}
    {error : ε} (h : onFrame state frame = (next, some error)) :
    taking onFrame (front, state) frame = ((front, next), some (.onFrame error)) := by
  unfold taking
  rw [h]

/-- The reader once the frame at its front is read. -/
def afterFrame (reader : GrpcWebFrameReader) : GrpcWebFrameReader :=
  ((reader.read frameHeaderLength true).2.read (headerLength reader.bytes) true).2

/-- A round of the loop does what the front of the buffered bytes says. -/
theorem pushLoop_round (rounds : ℕ) (reader : GrpcWebFrameReader) (state : σ)
    (frames : List GrpcWebFrame) :
    pushLoop onFrame (rounds + 1) reader state frames =
      match cutFrame reader.bytes with
      | none => .returned frames reader state
      | some (.error error) => .threw (.frame error) frames reader state
      | some (.ok (frame, _)) =>
        match onFrame state frame with
        | (state, some error) => .threw (.onFrame error) frames reader.afterFrame state
        | (state, none) => pushLoop onFrame rounds reader.afterFrame state (frames ++ [frame]) := by
  rw [pushLoop, cutFrame, bytes_length]
  by_cases hshort : reader.buffered < frameHeaderLength
  · rw [if_pos hshort, if_pos hshort]
  · have hlong : frameHeaderLength ≤ reader.bytes.length := by
      rw [bytes_length]
      exact not_lt.mp hshort
    obtain ⟨hlength, hflag⟩ := header_take hlong
    rw [if_neg hshort, if_neg hshort, read_fst]
    dsimp only
    rw [hlength, hflag]
    by_cases hmax : grpcWebMaxAnswerBytes < headerLength reader.bytes
    · rw [if_pos hmax, if_pos hmax]
    · rw [if_neg hmax, if_neg hmax]
      by_cases hpart : reader.buffered < frameHeaderLength + headerLength reader.bytes
      · rw [if_pos hpart, if_pos hpart]
      · rw [if_neg hpart, if_neg hpart, read_fst, read_bytes]
        rfl

theorem afterFrame_of_cut {reader : GrpcWebFrameReader} {frame : GrpcWebFrame} {rest : Bytes}
    (h : cutFrame reader.bytes = some (.ok (frame, rest))) :
    reader.afterFrame.bytes = rest ∧ reader.afterFrame.buffered < reader.buffered := by
  have hbytes : reader.afterFrame.bytes = rest := by
    unfold cutFrame at h
    split_ifs at h
    · cases h
    obtain ⟨-, hrest⟩ := Prod.mk.inj (Except.ok.inj (Option.some.inj h))
    unfold afterFrame
    rw [read_bytes, read_bytes, hrest]
  refine ⟨hbytes, ?_⟩
  obtain ⟨-, hall⟩ := cutFrame_ok h
  have hlonger := congrArg List.length hall
  rw [List.length_append] at hlonger
  have hpos : 0 < (encodeFrame frame).length := Nat.succ_pos _
  rw [← bytes_length, ← bytes_length, hbytes]
  omega

/-- The loop, with a round for every byte, takes every frame that is complete. -/
theorem pushLoop_reading {rounds : ℕ} {reader : GrpcWebFrameReader} {state : σ}
    {frames : List GrpcWebFrame} (h : reader.buffered ≤ rounds) :
    (pushLoop onFrame rounds reader state frames).reading =
      (grpcWebFraming ε).drain (taking onFrame) (frames, state) reader.bytes := by
  induction rounds generalizing reader state frames with
  | zero =>
    have hempty : reader.bytes = [] := by
      apply List.eq_nil_of_length_eq_zero
      rw [bytes_length]
      exact Nat.le_zero.mp h
    have hcut : (grpcWebFraming ε).cut reader.bytes = none := by
      rw [hempty]
      rfl
    rw [Framing.drain_waits hcut]
    rfl
  | succ rounds ih =>
    rw [pushLoop_round]
    have hfront : (grpcWebFraming ε).cut reader.bytes =
      (cutFrame reader.bytes).map (·.mapError .frame) := rfl
    cases hcut : cutFrame reader.bytes with
    | none =>
      rw [hcut] at hfront
      rw [Framing.drain_waits hfront]
      rfl
    | some result =>
      rw [hcut] at hfront
      cases result with
      | error error =>
        rw [Framing.drain_refused hfront]
        rfl
      | ok read =>
        obtain ⟨frame, rest⟩ := read
        obtain ⟨hbytes, hfewer⟩ := afterFrame_of_cut hcut
        cases hframe : onFrame state frame with
        | mk next thrown =>
          cases thrown with
          | some error =>
            rw [Framing.drain_stopped hfront (taking_thrown hframe)]
            dsimp only
            rw [hframe]
            rfl
          | none =>
            rw [Framing.drain_taken hfront (taking_kept hframe), ← hbytes]
            dsimp only
            rw [hframe]
            exact ih (by omega)

theorem pushLoop_after (front : List GrpcWebFrame) {rounds : ℕ} {reader : GrpcWebFrameReader}
    {state : σ} {frames : List GrpcWebFrame} :
    (pushLoop onFrame rounds reader state frames).after front =
      pushLoop onFrame rounds reader state (front ++ frames) := by
  induction rounds generalizing reader state frames with
  | zero => rfl
  | succ rounds ih =>
    rw [pushLoop_round, pushLoop_round]
    cases cutFrame reader.bytes with
    | none => rfl
    | some result =>
      cases result with
      | error error => rfl
      | ok read =>
        dsimp only
        cases onFrame state read.1 with
        | mk next thrown =>
          cases thrown with
          | some error => rfl
          | none =>
            dsimp only
            rw [ih, List.append_assoc]

/-- A push, after the frames `front`, reads on from the bytes that were pending. -/
theorem push_reading (reader : GrpcWebFrameReader) (chunk : Bytes) (state : σ)
    (front : List GrpcWebFrame) :
    ((reader.push onFrame chunk state).after front).reading =
      (grpcWebFraming ε).drain (taking onFrame) (front, state) (reader.bytes ++ chunk) := by
  unfold push
  rw [pushLoop_after, pushLoop_reading le_rfl, add_bytes, List.append_nil]

/-! ## One push after the other -/

/-- Push the chunks of a stream until a push throws, and keep what is returned. -/
def pushEach (onFrame : σ → GrpcWebFrame → σ × Option ε) :
    GrpcWebFrameReader → σ → List GrpcWebFrame → List Bytes → Pushed σ ε
  | reader, state, frames, [] => .returned frames reader state
  | reader, state, frames, chunk :: chunks =>
    match (reader.push onFrame chunk state).after frames with
    | .returned frames reader state => pushEach onFrame reader state frames chunks
    | .threw refusal frames reader state => .threw refusal frames reader state

theorem pushEach_reading (chunks : List Bytes) {reader : GrpcWebFrameReader} {state : σ}
    {frames : List GrpcWebFrame} :
    (pushEach onFrame reader state frames chunks).reading =
      (grpcWebFraming ε).feed (taking onFrame) (frames, state) reader.bytes chunks := by
  induction chunks generalizing reader state frames with
  | nil => rfl
  | cons chunk chunks ih =>
    rw [Framing.feed, ← push_reading, pushEach]
    cases (reader.push onFrame chunk state).after frames with
    | threw refusal frames reader state => rfl
    | returned frames reader state => exact ih

/-- However a stream is cut into chunks, the pushes read what one push of the whole
stream reads. -/
theorem pushEach_flatten (chunks : List Bytes) (state : σ) :
    (pushEach onFrame empty state [] chunks).reading =
      (empty.push onFrame chunks.flatten state).reading := by
  have hempty : (grpcWebFraming ε).cut empty.bytes = none := rfl
  have hafter : ∀ pushed : Pushed σ ε, pushed.after [] = pushed := by
    intro pushed
    cases pushed <;> rfl
  rw [pushEach_reading, Framing.feed_eq_drain chunks hempty, ← push_reading, hafter]

/-- The frames that are returned are those that the caller took. -/
theorem takeAll_taking {frames front kept : List GrpcWebFrame} {state state' : σ} :
    Framing.takeAll (taking onFrame) (front, state) frames = ((kept, state'), none) ↔
      kept = front ++ frames ∧ Framing.takeAll onFrame state frames = (state', none) := by
  induction frames generalizing front state with
  | nil =>
    rw [Framing.takeAll, Framing.takeAll, List.append_nil]
    simp [eq_comm]
  | cons frame frames ih =>
    rw [Framing.takeAll, Framing.takeAll]
    cases hframe : onFrame state frame with
    | mk next thrown =>
      cases thrown with
      | some error =>
        rw [taking_thrown hframe]
        simp
      | none =>
        rw [taking_kept hframe]
        dsimp only
        rw [ih, List.append_assoc, List.singleton_append]

/-- The pushes of a stream return exactly when it is frames that the caller took,
and the beginning of a frame, which is left pending. -/
theorem pushEach_returned_iff {chunks : List Bytes} {state state' : σ} {tail : Bytes} :
    (∃ frames reader, pushEach onFrame empty state [] chunks = .returned frames reader state' ∧
      reader.bytes = tail) ↔
    ∃ frames, (∀ frame ∈ frames, frame.payload.length ≤ grpcWebMaxAnswerBytes) ∧
      chunks.flatten = frames.flatMap encodeFrame ++ tail ∧
      Framing.takeAll onFrame state frames = (state', none) ∧ cutFrame tail = none := by
  have hempty : (grpcWebFraming ε).cut empty.bytes = none := rfl
  have hreading : (pushEach onFrame empty state [] chunks).reading =
      (grpcWebFraming ε).drain (taking onFrame) ([], state) chunks.flatten := by
    rw [pushEach_reading, Framing.feed_eq_drain chunks hempty]
    rfl
  constructor
  · rintro ⟨frames, reader, hreturned, rfl⟩
    rw [hreturned] at hreading
    obtain ⟨taken, hfits, hflatten, htake, hcut⟩ := Framing.drain_waits_iff.mp hreading.symm
    exact ⟨taken, hfits, hflatten, (takeAll_taking.mp htake).2, Option.map_eq_none_iff.mp hcut⟩
  · rintro ⟨frames, hfits, hflatten, htake, hcut⟩
    have htaking : Framing.takeAll (taking onFrame) ([], state) frames =
        ((frames, state'), none) := takeAll_taking.mpr ⟨rfl, htake⟩
    have hwaits := hreading.trans (Framing.drain_waits_iff.mpr
      ⟨frames, hfits, hflatten, htaking, Option.map_eq_none_iff.mpr hcut⟩)
    cases hpushed : pushEach onFrame empty state [] chunks with
    | threw refusal frames reader state =>
      rw [hpushed] at hwaits
      cases hwaits
    | returned frames reader state =>
      rw [hpushed] at hwaits
      cases hwaits
      exact ⟨_, _, rfl, rfl⟩

/-! ## What a caller sees -/

/-- Hand every frame over to `onFrame`, and keep the list of what was handed over. -/
def handing (onFrame : σ → GrpcWebFrame → σ × Option ε) (kept : List GrpcWebFrame × σ)
    (frame : GrpcWebFrame) : (List GrpcWebFrame × σ) × Option ε :=
  ((kept.1 ++ [frame], (onFrame kept.2 frame).1), (onFrame kept.2 frame).2)

/-- What is seen of the pushes: the frames handed over, then the number of bytes
left pending or the refusal. -/
inductive Seen (σ ε : Type)
  | waits (handed returned : List GrpcWebFrame) (state : σ) (pending : ℕ)
  | refused (handed : List GrpcWebFrame) (state : σ) (refusal : FrameRefusal ε)
deriving DecidableEq, Repr

def Pushed.seen : Pushed (List GrpcWebFrame × σ) ε → Seen σ ε
  | .returned frames reader (handed, state) => .waits handed frames state reader.pendingBytes
  | .threw refusal _ _ (handed, state) => .refused handed state refusal

def seenIn : Reading (FrameRefusal ε) (List GrpcWebFrame × List GrpcWebFrame × σ) → Seen σ ε
  | .waits (frames, handed, state) pending => .waits handed frames state pending.length
  | .stops refusal (_, handed, state) => .refused handed state refusal

theorem seen_eq (pushed : Pushed (List GrpcWebFrame × σ) ε) :
    pushed.seen = seenIn pushed.reading := by
  cases pushed with
  | threw refusal frames reader state => rfl
  | returned frames reader state =>
    obtain ⟨handed, state⟩ := state
    have hpending := reader.bytes_length
    unfold Pushed.seen Pushed.reading seenIn pendingBytes
    dsimp only
    rw [hpending]

theorem takeAll_handing {frames front : List GrpcWebFrame} :
    Framing.takeAll (handing fun (_ : Unit) _ => ((), (none : Option ε))) (front, ()) frames =
      ((front ++ frames, ()), none) := by
  induction frames generalizing front with
  | nil => rw [Framing.takeAll, List.append_nil]
  | cons frame frames ih =>
    rw [Framing.takeAll, handing]
    dsimp only
    rw [ih, List.append_assoc, List.singleton_append]

/-- The reader does not depend on how the stream is cut, and hands back the frames
whose encodings the stream is. -/
theorem frame_reader_chunking (onFrame : σ → GrpcWebFrame → σ × Option ε) (state : σ) :
    (∀ chunks, (pushEach (handing onFrame) empty ([], state) [] chunks).seen =
      (empty.push (handing onFrame) chunks.flatten ([], state)).seen) ∧
    ∀ frames, (∀ frame ∈ frames, frame.payload.length ≤ grpcWebMaxAnswerBytes) →
      ∀ chunks, chunks.flatten = frames.flatMap encodeFrame →
        (pushEach (handing fun (_ : Unit) _ => ((), (none : Option ε))) empty ([], ()) []
          chunks).seen = .waits frames frames () 0 := by
  constructor
  · intro chunks
    rw [seen_eq, seen_eq, pushEach_flatten]
  · intro frames hfits chunks hchunks
    have hempty : (grpcWebFraming ε).cut empty.bytes = none := rfl
    have htake : Framing.takeAll (taking (handing fun (_ : Unit) _ => ((), (none : Option ε))))
        ([], [], ()) frames = ((frames, frames, ()), none) :=
      takeAll_taking.mpr ⟨rfl, takeAll_handing⟩
    have hwaits := Framing.drain_waits_iff.mpr
      ⟨frames, hfits, (List.append_nil _).symm, htake, hempty⟩
    rw [seen_eq, pushEach_reading, Framing.feed_eq_drain chunks hempty, hchunks]
    exact congrArg seenIn hwaits

/-- A frame whose header and payload arrive in four chunks. -/
theorem frame_reader_chunking_sample :
    (pushEach (handing fun (_ : Unit) _ => ((), (none : Option Unit))) empty ([], ()) []
      [[0, 0], [], [0, 0, 2, 7], [8]]).seen = .waits [⟨0, [7, 8]⟩] [⟨0, [7, 8]⟩] () 0 := by
  apply (frame_reader_chunking (fun (_ : Unit) _ => ((), (none : Option Unit))) ()).2
  · decide
  · rfl

end GrpcWebFrameReader

end Ika
