import IkaSdk.Core.Grpc.WebTransport

/-! Which answers to a unary call are taken: one data frame, at most one trailer
frame, a status of 0, and whatever beginning of a frame comes after them. -/

namespace Ika

open Wire

/-! ## Well-formed answers -/

/-- The status line and the headers of an answer let its body be read. -/
structure HeadersAccept {ε : Type} (response : FetchResponse ε) : Prop where
  httpStatus : response.status = 200
  status : ∀ status ∈ grpcStatusOf (headersOf response.headers), status.code = 0
  contentType : grpcWebContentType.toList <+:
      ((headersOf response.headers).get "content-type").getD [] ∨
    ((headersOf response.headers).get "content-type").getD [] = "application/grpc-web".toList

/-- The status that an answer with this trailer frame, or with none, carries. -/
def answerStatus (headers : Fields) : Option GrpcWebFrame → Option GrpcCallStatus
  | none => grpcStatusOf headers
  | some trailer => grpcStatusOf (parseGrpcWebTrailers trailer.payload)

/-- The bytes are an uncompressed data frame, then a trailer frame if there is
one, then `tail`. -/
structure AnswerBytes (bytes : Bytes) (data : GrpcWebFrame) (trailer : Option GrpcWebFrame)
    (tail : Bytes) : Prop where
  bytes : bytes = encodeFrame data ++ (trailer.map encodeFrame).getD [] ++ tail
  fits : ∀ frame ∈ data :: trailer.toList, frame.payload.length ≤ grpcWebMaxAnswerBytes
  uncompressed : ∀ frame ∈ data :: trailer.toList, isCompressed frame.flag = false
  dataFlag : isTrailer data.flag = false
  trailerFlag : ∀ frame ∈ trailer, isTrailer frame.flag = true

/-- An answer of status 0 that carries `message`, and whose body goes on with `tail`. -/
structure AnswerWith {ε : Type} (response : FetchResponse ε) (message tail : Bytes) : Prop where
  headers : HeadersAccept response
  body : ∃ body ∈ response.body, body.failed = none ∧
    ∃ data trailer, data.payload = message ∧
      AnswerBytes body.chunks.flatten data trailer tail ∧
      ∃ status ∈ answerStatus (headersOf response.headers) trailer, status.code = 0

/-- The beginning of a frame: part of a header, or a header that a reader takes
with part of its payload. -/
def IncompleteFrame (tail : Bytes) : Prop :=
  tail.length < frameHeaderLength ∨ headerLength tail ≤ grpcWebMaxAnswerBytes ∧
    tail.length < frameHeaderLength + headerLength tail

/-- The messages that are taken are those of well-formed answers. -/
def ReadsExactly {ε : Type} (url : String) (response : FetchResponse ε)
    (failure : ε → GrpcError) : Prop :=
  ∀ message, (∃ headers, readUnaryAnswer url response failure = .ok ⟨message, headers⟩) ↔
    AnswerWith response message []

/-- The body does not go on, after a well-formed answer, with the beginning of a
further frame. -/
def NoIncompleteFrame {ε : Type} (response : FetchResponse ε) : Prop :=
  ∀ message tail, AnswerWith response message tail → IncompleteFrame tail → tail = []

theorem cutFrame_none_iff {tail : Bytes} : cutFrame tail = none ↔ IncompleteFrame tail := by
  unfold cutFrame IncompleteFrame
  split_ifs with hshort hmax hpart
  · simp [hshort]
  · simp [hshort, hmax]
  · simp [hshort, not_lt.mp hmax, hpart]
  · simp [hshort, hpart]

/-! ## The headers -/

section Reads

variable {ε : Type} {url : String} {response : FetchResponse ε} {failure : ε → GrpcError}

theorem requireAnswerHeaders_iff :
    requireAnswerHeaders url response = .ok () ↔ HeadersAccept response := by
  unfold requireAnswerHeaders
  dsimp only
  rw [ensure_bind_iff]
  cases hstatus : grpcStatusOf (headersOf response.headers) with
  | none =>
    constructor
    · rintro ⟨hhttp, h⟩
      refine ⟨hhttp, ?_, ensure_ok h⟩
      rw [hstatus]
      simp
    · rintro ⟨hhttp, -, hcontent⟩
      exact ⟨hhttp, ensure_of hcontent⟩
  | some status =>
    dsimp only
    rw [ensure_bind_iff]
    constructor
    · rintro ⟨hhttp, hcode, h⟩
      refine ⟨hhttp, ?_, ensure_ok h⟩
      rw [hstatus]
      intro other hother
      cases hother
      exact hcode
    · rintro ⟨hhttp, hcode, hcontent⟩
      exact ⟨hhttp, hcode status hstatus, ensure_of hcontent⟩

/-! ## The frames -/

theorem takeFrame_iff {kept next : AnswerFrames} {frame : GrpcWebFrame} :
    takeFrame url kept frame = (next, none) ↔
      kept.trailers = none ∧ isCompressed frame.flag = false ∧
        (isTrailer frame.flag = true ∧
            next = { kept with trailers := some (parseGrpcWebTrailers frame.payload) } ∨
          isTrailer frame.flag = false ∧ kept.data = [] ∧
            next = { kept with data := [frame.payload] }) := by
  unfold takeFrame
  dsimp only
  cases htrailers : kept.trailers with
  | some trailers => simp
  | none =>
    cases hcompressed : isCompressed frame.flag with
    | true => simp
    | false =>
      cases htrailer : isTrailer frame.flag with
      | true => simp [eq_comm]
      | false =>
        cases hdata : kept.data with
        | cons message data => simp
        | nil => simp [eq_comm]

/-- After its trailer frame, an answer has no frame. -/
theorem takeAll_trailers {kept next : AnswerFrames} {frames : List GrpcWebFrame}
    (h : kept.trailers.isSome = true) :
    Framing.takeAll (takeFrame url) kept frames = (next, none) ↔ frames = [] ∧ next = kept := by
  cases frames with
  | nil => simp [Framing.takeAll, eq_comm]
  | cons frame frames =>
    constructor
    · intro htake
      obtain ⟨after, hframe, -⟩ := Framing.takeAll_cons htake
      rw [(takeFrame_iff.mp hframe).1] at h
      cases h
    · rintro ⟨hnil, -⟩
      cases hnil

/-- After its data frame, an answer has no frame or its trailer frame. -/
theorem takeAll_data {message : Bytes} {next : AnswerFrames} {frames : List GrpcWebFrame} :
    Framing.takeAll (takeFrame url) ⟨[message], none⟩ frames = (next, none) ↔
      ∃ trailer : Option GrpcWebFrame, frames = trailer.toList ∧
        next = ⟨[message], trailer.map fun frame => parseGrpcWebTrailers frame.payload⟩ ∧
        ∀ frame ∈ trailer, isCompressed frame.flag = false ∧ isTrailer frame.flag = true := by
  constructor
  · intro htake
    cases frames with
    | nil =>
      cases htake
      exact ⟨none, rfl, rfl, by simp⟩
    | cons frame frames =>
      obtain ⟨after, hframe, hrest⟩ := Framing.takeAll_cons htake
      rcases takeFrame_iff.mp hframe with ⟨-, hplain, ⟨htrailer, rfl⟩ | ⟨-, hdata, -⟩⟩
      · obtain ⟨rfl, rfl⟩ := (takeAll_trailers rfl).mp hrest
        refine ⟨some frame, rfl, rfl, ?_⟩
        rintro _ ⟨⟩
        exact ⟨hplain, htrailer⟩
      · cases hdata
  · rintro ⟨trailer, rfl, rfl, hflags⟩
    cases trailer with
    | none => rfl
    | some frame =>
      obtain ⟨hplain, htrailer⟩ := hflags frame rfl
      have hframe : takeFrame url ⟨[message], none⟩ frame =
          (⟨[message], some (parseGrpcWebTrailers frame.payload)⟩, none) :=
        takeFrame_iff.mpr ⟨rfl, hplain, .inl ⟨htrailer, rfl⟩⟩
      exact Framing.takeAll_of_cons hframe rfl

/-- An answer holds one message exactly when it is a data frame, and a trailer
frame if there is one. -/
theorem takeAll_answer {message : Bytes} {trailers : Option Fields}
    {frames : List GrpcWebFrame} :
    Framing.takeAll (takeFrame url) ⟨[], none⟩ frames = (⟨[message], trailers⟩, none) ↔
      ∃ (data : GrpcWebFrame) (trailer : Option GrpcWebFrame),
        frames = data :: trailer.toList ∧ data.payload = message ∧
        trailers = trailer.map (fun frame => parseGrpcWebTrailers frame.payload) ∧
        isCompressed data.flag = false ∧ isTrailer data.flag = false ∧
        ∀ frame ∈ trailer, isCompressed frame.flag = false ∧ isTrailer frame.flag = true := by
  constructor
  · intro htake
    cases frames with
    | nil => cases htake
    | cons data frames =>
      obtain ⟨after, hframe, hrest⟩ := Framing.takeAll_cons htake
      rcases takeFrame_iff.mp hframe with ⟨-, hplain, ⟨-, rfl⟩ | ⟨hflag, -, rfl⟩⟩
      · obtain ⟨-, hkept⟩ := (takeAll_trailers rfl).mp hrest
        cases hkept
      · obtain ⟨trailer, rfl, hkept, hflags⟩ := takeAll_data.mp hrest
        cases hkept
        exact ⟨data, trailer, rfl, rfl, rfl, hplain, hflag, hflags⟩
  · rintro ⟨data, trailer, rfl, rfl, rfl, hplain, hflag, hflags⟩
    have hframe : takeFrame url ⟨[], none⟩ data = (⟨[data.payload], none⟩, none) :=
      takeFrame_iff.mpr ⟨rfl, hplain, .inr ⟨hflag, rfl, rfl⟩⟩
    exact Framing.takeAll_of_cons hframe (takeAll_data.mpr ⟨trailer, rfl, rfl, hflags⟩)

/-! ## The answer -/

theorem readBody_iff {kept : AnswerFrames} {pending : ℕ} {stream : Option (BodyStream ε)}
    (h : kept.data ≠ []) :
    readBody url failure stream = .ok (kept, pending) ↔
      ∃ body ∈ stream, body.failed = none ∧ ∃ frames tail,
        (∀ frame ∈ frames, frame.payload.length ≤ grpcWebMaxAnswerBytes) ∧
        body.chunks.flatten = frames.flatMap encodeFrame ++ tail ∧
        Framing.takeAll (takeFrame url) ⟨[], none⟩ frames = (kept, none) ∧
        cutFrame tail = none ∧ pending = tail.length := by
  cases stream with
  | none =>
    constructor
    · intro hread
      cases hread
      exact absurd rfl h
    · rintro ⟨_, hbody, -⟩
      cases hbody
  | some body =>
    constructor
    · intro hread
      refine ⟨body, rfl, ?_⟩
      unfold readBody at hread
      cases hpushed : GrpcWebFrameReader.pushEach (takeFrame url) .empty ⟨[], none⟩ []
          body.chunks with
      | threw refusal frames reader state =>
        simp only [hpushed] at hread
        cases hread
      | returned frames reader state =>
        cases hfailed : body.failed with
        | some error =>
          simp only [hpushed, hfailed] at hread
          cases hread
        | none =>
          simp only [hpushed, hfailed] at hread
          cases hread
          obtain ⟨taken, hfits, hflatten, htake, hcut⟩ :=
            GrpcWebFrameReader.pushEach_returned_iff.mp ⟨frames, reader, hpushed, rfl⟩
          exact ⟨rfl, taken, reader.bytes, hfits, hflatten, htake, hcut,
            reader.bytes_length.symm⟩
    · rintro ⟨_, hbody, hfailed, frames, tail, hfits, hflatten, htake, hcut, rfl⟩
      cases hbody
      obtain ⟨returned, reader, hpushed, rfl⟩ :=
        GrpcWebFrameReader.pushEach_returned_iff.mpr ⟨frames, hfits, hflatten, htake, hcut⟩
      unfold readBody
      simp only [hpushed, hfailed]
      rw [reader.bytes_length]
      rfl

theorem messageOf_iff {fromHeaders : Option GrpcCallStatus} {kept : AnswerFrames} {pending : ℕ}
    {message : Bytes} : messageOf url fromHeaders kept pending = .ok message ↔
      kept.data = [message] ∧
        ∃ status, carriedStatus fromHeaders kept.trailers = some status ∧ status.code = 0 := by
  unfold messageOf
  cases carriedStatus fromHeaders kept.trailers with
  | none => simp
  | some status =>
    have hok : grpcWebStatus "OK" = 0 := rfl
    by_cases hcode : status.code = 0
    · match hdata : kept.data with
      | [] => simp [hok, hcode]
      | [other] => simp [hok, hcode]
      | first :: second :: data => simp [hok, hcode]
    · simp [hok, hcode]

/-- What is taken is a well-formed answer, with whatever beginning of a frame
follows it. -/
theorem readUnaryAnswer_iff {message : Bytes} :
    (∃ headers, readUnaryAnswer url response failure = .ok ⟨message, headers⟩) ↔
      ∃ tail, IncompleteFrame tail ∧ AnswerWith response message tail := by
  constructor
  · rintro ⟨headers, hread⟩
    obtain ⟨_, hheaders, hbody⟩ := bind_ok hread
    obtain ⟨⟨kept, pending⟩, hkept, hmessage⟩ := bind_ok hbody
    obtain ⟨given, hgiven, hanswer⟩ := bind_ok hmessage
    cases hanswer
    obtain ⟨hdata, status, hstatus, hcode⟩ := messageOf_iff.mp hgiven
    obtain ⟨body, hstream, hfailed, frames, tail, hfits, hflatten, htake, hcut, -⟩ :=
      (readBody_iff (by rw [hdata]; simp)).mp hkept
    have hkeptEq : kept = ⟨[message], kept.trailers⟩ := by rw [← hdata]
    rw [hkeptEq] at htake
    obtain ⟨data, trailer, rfl, hpayload, htrailers, hplain, hflag, hflags⟩ :=
      takeAll_answer.mp htake
    refine ⟨tail, cutFrame_none_iff.mp hcut, requireAnswerHeaders_iff.mp hheaders, body, hstream,
      hfailed, data, trailer, hpayload, ⟨?_, hfits, ?_, hflag, fun t ht => (hflags t ht).2⟩,
      status, ?_, hcode⟩
    · cases trailer <;> simpa using hflatten
    · refine List.forall_mem_cons.mpr ⟨hplain, fun frame hframe => ?_⟩
      exact (hflags frame (Option.mem_toList.mp hframe)).1
    · rw [htrailers] at hstatus
      cases trailer <;> exact hstatus
  · rintro ⟨tail, htail, hheaders, body, hstream, hfailed, data, trailer, rfl, hbytes, status,
      hstatus, hcode⟩
    obtain ⟨hplain, hplains⟩ := List.forall_mem_cons.mp hbytes.uncompressed
    have htake : Framing.takeAll (takeFrame url) ⟨[], none⟩ (data :: trailer.toList) =
        (⟨[data.payload], trailer.map fun frame => parseGrpcWebTrailers frame.payload⟩, none) :=
      takeAll_answer.mpr ⟨data, trailer, rfl, rfl, rfl, hplain, hbytes.dataFlag,
        fun frame hframe => ⟨hplains frame (Option.mem_toList.mpr hframe),
          hbytes.trailerFlag frame hframe⟩⟩
    have hflatten : body.chunks.flatten = (data :: trailer.toList).flatMap encodeFrame ++ tail := by
      rw [hbytes.bytes]
      cases trailer <;> simp
    have hkept : readBody url failure response.body =
        .ok (⟨[data.payload], trailer.map fun frame => parseGrpcWebTrailers frame.payload⟩,
          tail.length) := by
      refine (readBody_iff (by simp)).mpr
        ⟨body, hstream, hfailed, data :: trailer.toList, tail, ?_⟩
      exact ⟨hbytes.fits, hflatten, htake, cutFrame_none_iff.mpr htail, rfl⟩
    have hmessage : messageOf url (grpcStatusOf (headersOf response.headers))
        ⟨[data.payload], trailer.map fun frame => parseGrpcWebTrailers frame.payload⟩
        tail.length = .ok data.payload := by
      refine messageOf_iff.mpr ⟨rfl, status, ?_, hcode⟩
      cases trailer <;> exact hstatus
    refine ⟨headersOf response.headers, ?_⟩
    unfold readUnaryAnswer
    rw [requireAnswerHeaders_iff.mpr hheaders, ok_bind, hkept, ok_bind]
    dsimp only
    rw [hmessage]
    rfl

/-- The frames of an answer say what follows them. -/
theorem AnswerWith.tail_unique {message message' tail : Bytes}
    (h : AnswerWith response message tail) (htail : IncompleteFrame tail)
    (h' : AnswerWith response message' []) : tail = [] := by
  obtain ⟨body, hstream, -, data, trailer, -, hbytes, -⟩ := h.body
  obtain ⟨body', hstream', -, data', trailer', -, hbytes', -⟩ := h'.body
  cases hstream.symm.trans hstream'
  have hframes : ∀ (data : GrpcWebFrame) (trailer : Option GrpcWebFrame) (tail : Bytes),
      encodeFrame data ++ (trailer.map encodeFrame).getD [] ++ tail =
        (data :: trailer.toList).flatMap encodeFrame ++ tail := by
    intro data trailer tail
    cases trailer <;> simp
  have hsame := hbytes.bytes.symm.trans hbytes'.bytes
  rw [hframes, hframes] at hsame
  have hcut : (grpcWebFraming Unit).cut tail = none :=
    Option.map_eq_none_iff.mpr (cutFrame_none_iff.mpr htail)
  exact ((grpcWebFraming Unit).frames_unique hbytes.fits hbytes'.fits hcut rfl hsame).2

theorem reads_exactly_iff : ReadsExactly url response failure ↔ NoIncompleteFrame response := by
  constructor
  · intro hreads message tail hanswer htail
    have hread := (hreads message).mp (readUnaryAnswer_iff.mpr ⟨tail, htail, hanswer⟩)
    exact hanswer.tail_unique htail hread
  · intro hnone message
    rw [readUnaryAnswer_iff]
    constructor
    · rintro ⟨tail, htail, hanswer⟩
      have hempty := hnone message tail hanswer htail
      exact hempty ▸ hanswer
    · intro hanswer
      exact ⟨[], .inl (by decide), hanswer⟩

end Reads

/-- An answer whose body goes on, after its trailer frame, with part of a header. -/
def paddedAnswer : FetchResponse Unit where
  status := 200
  statusText := "OK"
  headers := [("Content-Type".toList, grpcWebContentType.toList)]
  body := some
    { chunks := [encodeFrame ⟨0, [7]⟩, encodeFrame ⟨0x80, textBytes "grpc-status: 0\r\n"⟩ ++ [0, 0]]
      failed := none }

theorem paddedAnswer_with : AnswerWith paddedAnswer [7] [0, 0] where
  headers := {
    httpStatus := rfl
    status := by decide +kernel
    contentType := by decide +kernel }
  body := by
    refine ⟨_, rfl, rfl, ⟨0, [7]⟩, some ⟨0x80, textBytes "grpc-status: 0\r\n"⟩, rfl,
      ⟨?_, ?_, ?_, rfl, ?_⟩, ⟨0, []⟩, ?_, rfl⟩ <;> decide +kernel

theorem padded_answer_taken : ¬ReadsExactly "https://validator" paddedAnswer
    fun _ => grpcWebError 2 "the call failed" := by
  intro hreads
  have htail : IncompleteFrame [0, 0] := .inl (by decide)
  have hread := (hreads [7]).mp (readUnaryAnswer_iff.mpr ⟨[0, 0], htail, paddedAnswer_with⟩)
  have hempty := paddedAnswer_with.tail_unique htail hread
  cases hempty

end Ika
