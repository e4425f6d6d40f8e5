import IkaSdk.Core.Grpc.WebFrames

/-! The answer to a unary call over gRPC-Web: the status that its trailers or its
headers carry, and the one message that its body holds. -/

namespace Ika

open Wire

/-! ## Text -/

abbrev Text := List Char

/-- The header lines of an answer, by lower-case name. A later line of a name
stands for an earlier one. -/
abbrev Fields := List (Text × Text)

def Fields.get (fields : Fields) (name : String) : Option Text :=
  (fields.reverse.find? fun field => field.1 == name.toList).map (·.2)

/-- The part of a code point that was read, and what its next byte may be. -/
structure Utf8Pending where
  needed : ℕ
  codePoint : ℕ
  lower : ℕ
  upper : ℕ

inductive Utf8Read
  | char (c : Char)
  | more (pending : Utf8Pending)
  | bad

def utf8First (byte : UInt8) : Utf8Read :=
  let b := byte.toNat
  if b ≤ 0x7f then .char (Char.ofNat b)
  else if 0xc2 ≤ b ∧ b ≤ 0xdf then .more ⟨1, b % 0x20, 0x80, 0xbf⟩
  else if 0xe0 ≤ b ∧ b ≤ 0xef then
    .more ⟨2, b % 0x10, if b = 0xe0 then 0xa0 else 0x80, if b = 0xed then 0x9f else 0xbf⟩
  else if 0xf0 ≤ b ∧ b ≤ 0xf4 then
    .more ⟨3, b % 0x08, if b = 0xf0 then 0x90 else 0x80, if b = 0xf4 then 0x8f else 0xbf⟩
  else .bad

def utf8Next (pending : Utf8Pending) (byte : UInt8) : Utf8Read :=
  if pending.lower ≤ byte.toNat ∧ byte.toNat ≤ pending.upper then
    let codePoint := pending.codePoint * 0x40 + byte.toNat % 0x40
    if pending.needed ≤ 1 then .char (Char.ofNat codePoint)
    else .more ⟨pending.needed - 1, codePoint, 0x80, 0xbf⟩
  else .bad

def replacementCharacter : Char := Char.ofNat 0xfffd

/-- The text of bytes, with a replacement character for each part that is not UTF-8. -/
def utf8Decode : Option Utf8Pending → Bytes → Text
  | none, [] => []
  | some _, [] => [replacementCharacter]
  | none, byte :: bytes =>
    match utf8First byte with
    | .char c => c :: utf8Decode none bytes
    | .more pending => utf8Decode (some pending) bytes
    | .bad => replacementCharacter :: utf8Decode none bytes
  | some pending, byte :: bytes =>
    match utf8Next pending byte with
    | .char c => c :: utf8Decode none bytes
    | .more pending => utf8Decode (some pending) bytes
    | .bad =>
      -- a byte that ends a bad sequence is read again, as a first byte
      match utf8First byte with
      | .char c => replacementCharacter :: c :: utf8Decode none bytes
      | .more pending => replacementCharacter :: utf8Decode (some pending) bytes
      | .bad => replacementCharacter :: replacementCharacter :: utf8Decode none bytes

/-- `TextDecoder.decode`, which drops a byte order mark. -/
def textDecode (bytes : Bytes) : Text :=
  if [0xef, 0xbb, 0xbf] <+: bytes then utf8Decode none (bytes.drop 3) else utf8Decode none bytes

/-- A character that `trim` takes off. -/
def isTrimmed (c : Char) : Bool :=
  [0x09, 0x0a, 0x0b, 0x0c, 0x0d, 0x20, 0xa0, 0x1680, 0x2028, 0x2029, 0x202f, 0x205f, 0x3000,
    0xfeff].contains c.toNat || (0x2000 ≤ c.toNat && c.toNat ≤ 0x200a)

def trim (text : Text) : Text :=
  ((text.dropWhile isTrimmed).reverse.dropWhile isTrimmed).reverse

/-- `toLowerCase`, for the names that are read, whose letters are ASCII. -/
def toLowerCase (text : Text) : Text := text.map Char.toLower

/-- The lines that `split(/\r?\n/)` gives. -/
def splitLines : Text → List Text
  | [] => [[]]
  | '\r' :: '\n' :: text => [] :: splitLines text
  | '\n' :: text => [] :: splitLines text
  | c :: text =>
    match splitLines text with
    | [] => [[c]]
    | line :: lines => (c :: line) :: lines

def hexValue (c : Char) : Option ℕ :=
  if c.isDigit then some (c.toNat - '0'.toNat)
  else if 'a' ≤ c ∧ c ≤ 'f' then some (c.toNat - 'a'.toNat + 10)
  else if 'A' ≤ c ∧ c ≤ 'F' then some (c.toNat - 'A'.toNat + 10)
  else none

def percentByte (high low : Char) : Option UInt8 := do
  return UInt8.ofNat (16 * (← hexValue high) + (← hexValue low))

/-- `decodeURIComponent`, which throws for an escape that is not UTF-8. -/
def decodeURIComponent : Option Utf8Pending → Text → Option Text
  | none, [] => some []
  | some _, [] => none
  | pending, '%' :: high :: low :: text =>
    match percentByte high low with
    | none => none
    | some byte =>
      match (match pending with | none => utf8First byte | some p => utf8Next p byte) with
      | .char c => (decodeURIComponent none text).map (c :: ·)
      | .more pending => decodeURIComponent (some pending) text
      | .bad => none
  | some _, _ :: _ => none
  | none, c :: text => if c = '%' then none else (decodeURIComponent none text).map (c :: ·)

/-! ## The status of an answer -/

/-- The header lines of a trailer frame. A line with no name is skipped. -/
def parseGrpcWebTrailers (payload : Bytes) : Fields :=
  (splitLines (textDecode payload)).filterMap fun line =>
    let colon := line.idxOf ':'
    if 0 < colon ∧ colon < line.length then
      some (toLowerCase (trim (line.take colon)), trim (line.drop (colon + 1)))
    else none

structure GrpcCallStatus where
  code : ℕ
  details : Text
deriving DecidableEq, Repr

def statusCode (status : Text) : ℕ :=
  if status ≠ [] ∧ status.all Char.isDigit then
    status.foldl (fun n c => 10 * n + (c.toNat - '0'.toNat)) 0
  else grpcWebStatus "UNKNOWN"

/-- The status that the trailers or the response headers carry, if they carry one. -/
def grpcStatusOf (fields : Fields) : Option GrpcCallStatus :=
  (fields.get "grpc-status").map fun status =>
    let message := (fields.get "grpc-message").getD []
    { code := statusCode status
      details := (decodeURIComponent none message).getD message }

def grpcStatusOfHttp (httpStatus : ℕ) : ℕ :=
  grpcWebStatus (match httpStatus with
    | 400 => "INTERNAL"
    | 401 => "UNAUTHENTICATED"
    | 403 => "PERMISSION_DENIED"
    | 404 => "UNIMPLEMENTED"
    | 429 => "UNAVAILABLE"
    | 502 => "UNAVAILABLE"
    | 503 => "UNAVAILABLE"
    | 504 => "UNAVAILABLE"
    | _ => "UNKNOWN")

/-! ## The answer of a call -/

/-- The chunks of a body as they are read, and the error that a read ends with
when the body does not. -/
structure BodyStream (ε : Type) where
  chunks : List Bytes
  failed : Option ε

structure FetchResponse (ε : Type) where
  status : ℕ
  statusText : String
  headers : Fields
  body : Option (BodyStream ε)

structure UnaryAnswer where
  response : Bytes
  headers : Fields
deriving DecidableEq, Repr

/-- The response headers, by lower-case name. -/
def headersOf (headers : Fields) : Fields :=
  headers.map fun header => (toLowerCase header.1, header.2)

def grpcWebContentType : String := "application/grpc-web+proto"

def isCompressed (flag : UInt8) : Bool := flag &&& 0x01 != 0

def isTrailer (flag : UInt8) : Bool := flag &&& 0x80 != 0

/-- What is kept of the frames of an answer. -/
structure AnswerFrames where
  data : List Bytes
  trailers : Option Fields
deriving DecidableEq, Repr

section Answer

variable (url : String)

def takeFrame (kept : AnswerFrames) (frame : GrpcWebFrame) : AnswerFrames × Option GrpcError :=
  let refuse details := (kept, some (grpcWebError (grpcWebStatus "INTERNAL") details))
  if kept.trailers.isSome then
    refuse s!"the validator at {url} sent a frame after its trailer frame"
  else if isCompressed frame.flag then
    refuse
      s!"the validator at {url} sent a compressed frame, which the client did not ask for"
  else if isTrailer frame.flag then
    ({ kept with trailers := some (parseGrpcWebTrailers frame.payload) }, none)
  else if 0 < kept.data.length then
    refuse
      s!"the validator at {url} sent a second data frame in the answer to a unary call"
  else ({ kept with data := kept.data ++ [frame.payload] }, none)

def FrameRefusal.error : FrameRefusal GrpcError → GrpcError
  | .frame error => error
  | .onFrame error => error

/-- The frames of a body, and how many of its bytes make no complete frame. -/
def readBody {ε : Type} (failure : ε → GrpcError) :
    Option (BodyStream ε) → Except GrpcError (AnswerFrames × ℕ)
  | none => .ok (⟨[], none⟩, 0)
  | some body =>
    match GrpcWebFrameReader.pushEach (takeFrame url) .empty ⟨[], none⟩ [] body.chunks with
    | .threw refusal _ _ _ => .error refusal.error
    | .returned _ reader kept =>
      match body.failed with
      | some error => .error (failure error)
      | none => .ok (kept, reader.pendingBytes)

def callError (status : GrpcCallStatus) : GrpcError :=
  grpcWebError status.code (String.ofList status.details)

/-- Refuse an answer that its status line or its headers refuse. -/
def requireAnswerHeaders {ε : Type} (response : FetchResponse ε) : Except GrpcError Unit := do
  let headers := headersOf response.headers
  let fromHeaders := grpcStatusOf headers
  ensure (response.status = 200) (match fromHeaders with
    | none => grpcWebError (grpcStatusOfHttp response.status) (String.ofList (trim
        (s!"the validator at {url} answered HTTP {response.status} " ++
          s!"{response.statusText}").toList))
    | some status => callError status)
  match fromHeaders with
  | none => pure ()
  | some status => ensure (status.code = grpcWebStatus "OK") (callError status)
  let contentType := (headers.get "content-type").getD []
  ensure (grpcWebContentType.toList <+: contentType ∨
      contentType = "application/grpc-web".toList)
    (grpcWebError (grpcWebStatus "UNKNOWN") (s!"the validator at {url} did not answer binary " ++
      s!"gRPC-Web: its content type is '{String.ofList contentType}'"))

/-- The status that the trailers carry, or else the headers. -/
def carriedStatus (fromHeaders : Option GrpcCallStatus) : Option Fields → Option GrpcCallStatus
  | none => fromHeaders
  | some trailers => grpcStatusOf trailers

/-- The one message of an answer that was read whole. -/
def messageOf (fromHeaders : Option GrpcCallStatus) (kept : AnswerFrames) (pendingBytes : ℕ) :
    Except GrpcError Bytes :=
  match carriedStatus fromHeaders kept.trailers with
  | none => .error (grpcWebError (grpcWebStatus "UNAVAILABLE")
      (if 0 < pendingBytes then s!"the answer of the validator at {url} ended inside a frame"
      else s!"the answer of the validator at {url} ended before its status"))
  | some status =>
    if status.code ≠ grpcWebStatus "OK" then .error (callError status)
    else match kept.data with
      | [message] => .ok message
      | data => .error (grpcWebError (grpcWebStatus "INTERNAL")
          s!"the validator at {url} answered a unary call with {data.length} messages")

/-- The answer of one unary call. A read of the body that fails goes through
`failure`. -/
def readUnaryAnswer {ε : Type} (response : FetchResponse ε) (failure : ε → GrpcError) :
    Except GrpcError UnaryAnswer := do
  requireAnswerHeaders url response
  let (kept, pendingBytes) ← readBody url failure response.body
  let headers := headersOf response.headers
  let message ← messageOf url (grpcStatusOf headers) kept pendingBytes
  return { response := message, headers }

end Answer

end Ika
