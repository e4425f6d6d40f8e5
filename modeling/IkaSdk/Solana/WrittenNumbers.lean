import IkaSdk.Lib.Fields
import IkaSdk.Solana.InstructionBuilders

/-! What is read back of the numbers that the builders write: a builder that throws writes none,
and the others write every number, whether it fits its field or not. -/

namespace Ika.Solana.Builders

open Wire

/-! ## Fields -/

/-- A number in a field of the bytes that a builder emits. -/
structure NumberField where
  offset : ℕ
  width : ℕ
  argument : Numeric

/-- Exactly the argument is read back from its field. -/
def NumberField.ReadsBack (field : NumberField) (bytes : Bytes) : Prop :=
  field.argument.Is (leValue (sliceAt field.offset field.width bytes))

def NumberField.Fits (field : NumberField) : Prop := field.argument.Fits field.width

/-- What stands in the field was written there with the numbers' writers, unchecked. -/
inductive NumberField.Written (field : NumberField) (bytes : Bytes) : Prop
  | number (h : writeNumber field.width field.argument =
      .ok (sliceAt field.offset field.width bytes))
  | bigint (h : writeBigInt field.width field.argument =
      .ok (sliceAt field.offset field.width bytes))

theorem NumberField.Written.readsBack_iff {field : NumberField} {bytes : Bytes}
    (h : field.Written bytes) : field.ReadsBack bytes ↔ field.Fits := by
  cases h with
  | number h => exact writeNumber_reads_iff h
  | bigint h => exact writeBigInt_reads_iff h

/-- A write elsewhere leaves a field as it was written. -/
theorem NumberField.Written.setAt_of_apart {field : NumberField} {buffer bytes buffer' : Bytes}
    {offset : ℕ} (hwritten : field.Written buffer) (h : setAt buffer offset bytes = .ok buffer')
    (hapart : field.offset + field.width ≤ offset ∨ offset + bytes.length ≤ field.offset) :
    field.Written buffer' := by
  have hsame := sliceAt_setAt_of_apart h hapart
  cases hwritten with
  | number hnumber => exact .number (by rw [hsame, hnumber])
  | bigint hbigint => exact .bigint (by rw [hsame, hbigint])

theorem written_setBigUint64 {buffer buffer' : Bytes} {offset : ℕ} {value : Numeric}
    (h : setBigUint64 buffer offset value = .ok buffer') :
    NumberField.Written ⟨offset, 8, value⟩ buffer' := by
  obtain ⟨bytes, hbytes, hset⟩ := bind_ok h
  have hslice := sliceAt_setAt hset
  rw [writeBigInt_length hbytes] at hslice
  exact .bigint (by rw [hslice, hbytes])

theorem NumberField.Written.setBigUint64_of_apart {field : NumberField} {buffer buffer' : Bytes}
    {offset : ℕ} {value : Numeric} (hwritten : field.Written buffer)
    (h : setBigUint64 buffer offset value = .ok buffer')
    (hapart : field.offset + field.width ≤ offset ∨ offset + 8 ≤ field.offset) :
    field.Written buffer' := by
  obtain ⟨bytes, hbytes, hset⟩ := bind_ok h
  apply hwritten.setAt_of_apart hset
  rwa [writeBigInt_length hbytes]

theorem written_setNumber {buffer bytes buffer' : Bytes} {offset width : ℕ} {value : Numeric}
    (hbytes : writeNumber width value = .ok bytes) (h : setAt buffer offset bytes = .ok buffer') :
    NumberField.Written ⟨offset, width, value⟩ buffer' := by
  have hslice := sliceAt_setAt h
  rw [writeNumber_length hbytes] at hslice
  exact .number (by rw [hslice, hbytes])

theorem written_append {message front bytes tail : Bytes} {offset width : ℕ} {value : Numeric}
    (hbytes : writeNumber width value = .ok bytes) (hmessage : message = front ++ (bytes ++ tail))
    (hfront : front.length = offset) : NumberField.Written ⟨offset, width, value⟩ message := by
  have hslice := sliceAt_append bytes tail hfront
  rw [writeNumber_length hbytes, List.append_assoc, ← hmessage] at hslice
  exact .number (by rw [hslice, hbytes])

theorem NumberField.Written.after {field : NumberField} {front bytes : Bytes} {offset : ℕ}
    (h : field.Written bytes) (hfront : front.length = offset) :
    NumberField.Written ⟨offset + field.offset, field.width, field.argument⟩ (front ++ bytes) := by
  have hslice : sliceAt (offset + field.offset) field.width (front ++ bytes) =
      sliceAt field.offset field.width bytes := by
    rw [sliceAt, ← hfront, List.drop_length_add_append, sliceAt]
  cases h with
  | number h => exact .number (by rw [hslice, h])
  | bigint h => exact .bigint (by rw [hslice, h])

/-! ## Messages -/

theorem depositProofMessage_written {chainNumber network : Numeric} {sender message : Bytes}
    (h : depositProofMessage chainNumber network sender = .ok message) :
    NumberField.Written ⟨40, 4, chainNumber⟩ message ∧
      NumberField.Written ⟨44, 1, network⟩ message := by
  obtain ⟨chain, hchain, hrest⟩ := bind_ok h
  obtain ⟨net, hnet, hlast⟩ := bind_ok hrest
  cases hlast
  have hdomain : (textBytes depositProofDomain).length = 38 := by decide +kernel
  have hfront : (leBytes 2 depositProofMessageVersion ++ textBytes depositProofDomain).length =
      40 := by simp [hdomain]
  generalize leBytes 2 depositProofMessageVersion ++ textBytes depositProofDomain = front
    at hfront ⊢
  constructor
  · have hmessage : front ++ chain ++ net ++ leBytes 1 sender.length ++ sender =
        front ++ (chain ++ (net ++ (leBytes 1 sender.length ++ sender))) := by
      simp only [List.append_assoc]
    exact written_append hchain hmessage hfront
  · have hmessage : front ++ chain ++ net ++ leBytes 1 sender.length ++ sender =
        (front ++ chain) ++ (net ++ (leBytes 1 sender.length ++ sender)) := by
      simp only [List.append_assoc]
    apply written_append hnet hmessage
    rw [List.length_append, hfront, writeNumber_length hchain]

theorem gasReleaseMessage_written {params : GasRelease} {message : Bytes}
    (h : gasReleaseMessage params = .ok message) :
    NumberField.Written ⟨115, 8, params.withdrawalSequence⟩ message ∧
      NumberField.Written ⟨123, 8, params.ikaAmount⟩ message ∧
      NumberField.Written ⟨131, 8, params.solAmount⟩ message := by
  have hgas : gasReleasePrefix.length = 19 := by decide +kernel
  obtain ⟨m₁, -, h₁⟩ := bind_ok h
  obtain ⟨m₂, -, h₂⟩ := bind_ok h₁
  obtain ⟨m₃, -, h₃⟩ := bind_ok h₂
  obtain ⟨m₄, -, h₄⟩ := bind_ok h₃
  obtain ⟨m₅, hsequence, h₅⟩ := bind_ok h₄
  obtain ⟨m₆, hika, hsol⟩ := bind_ok h₅
  simp only [hgas, Nat.reduceAdd] at hsequence hika hsol
  have hsequence₆ := (written_setBigUint64 hsequence).setBigUint64_of_apart hika (.inl le_rfl)
  refine ⟨hsequence₆.setBigUint64_of_apart hsol (.inl (by simp)), ?_, written_setBigUint64 hsol⟩
  exact (written_setBigUint64 hika).setBigUint64_of_apart hsol (.inl le_rfl)

theorem encryptionKeyRegistrationMessage_written {chainNumber network curve : Numeric}
    {key message : Bytes}
    (h : encryptionKeyRegistrationMessage chainNumber network curve key = .ok message) :
    NumberField.Written ⟨21, 4, chainNumber⟩ message ∧
      NumberField.Written ⟨25, 1, network⟩ message ∧
      NumberField.Written ⟨26, 2, curve⟩ message := by
  obtain ⟨chain, hchain, h₁⟩ := bind_ok h
  obtain ⟨net, hnet, h₂⟩ := bind_ok h₁
  obtain ⟨number, hnumber, h₃⟩ := bind_ok h₂
  cases h₃
  have hdomain : (textBytes encryptionKeyRegistrationDomain).length = 18 := by decide +kernel
  have hlength : (uleb128 (textBytes encryptionKeyRegistrationDomain).length).length = 1 := by
    rw [hdomain]
    decide
  have hfront : (leBytes 2 encryptionKeyRegistrationMessageVersion ++
      uleb128 (textBytes encryptionKeyRegistrationDomain).length ++
      textBytes encryptionKeyRegistrationDomain).length = 21 := by
    rw [List.length_append, List.length_append, hlength, hdomain, leBytes_length]
  generalize leBytes 2 encryptionKeyRegistrationMessageVersion ++
    uleb128 (textBytes encryptionKeyRegistrationDomain).length ++
    textBytes encryptionKeyRegistrationDomain = front at hfront ⊢
  have hchainLength := writeNumber_length hchain
  have hnetLength := writeNumber_length hnet
  refine ⟨?_, ?_, ?_⟩
  · have hmessage : front ++ chain ++ net ++ number ++ uleb128 key.length ++ key =
        front ++ (chain ++ (net ++ (number ++ (uleb128 key.length ++ key)))) := by
      simp only [List.append_assoc]
    exact written_append hchain hmessage hfront
  · have hmessage : front ++ chain ++ net ++ number ++ uleb128 key.length ++ key =
        (front ++ chain) ++ (net ++ (number ++ (uleb128 key.length ++ key))) := by
      simp only [List.append_assoc]
    apply written_append hnet hmessage
    rw [List.length_append, hfront, hchainLength]
  · have hmessage : front ++ chain ++ net ++ number ++ uleb128 key.length ++ key =
        (front ++ chain ++ net) ++ (number ++ (uleb128 key.length ++ key)) := by
      simp only [List.append_assoc]
    apply written_append hnumber hmessage
    rw [List.length_append, List.length_append, hfront, hchainLength, hnetLength]

/-! ### Numbers that fit -/

/-- With numbers that fit, a message is the one of the numbers. -/
theorem depositProofMessage_natCast {chainNumber network : ℕ} (hchain : chainNumber < 256 ^ 4)
    (hnetwork : network < 256 ^ 1) (sender : Bytes) :
    depositProofMessage (.number chainNumber) (.number network) sender =
      .ok (Solana.depositProofMessage chainNumber network sender) := by
  rw [depositProofMessage, writeNumber_natCast hchain, writeNumber_natCast hnetwork]
  rfl

theorem encryptionKeyRegistrationMessage_natCast {chainNumber network curve : ℕ}
    (hchain : chainNumber < 256 ^ 4) (hnetwork : network < 256 ^ 1) (hcurve : curve < 256 ^ 2)
    (key : Bytes) :
    encryptionKeyRegistrationMessage (.number chainNumber) (.number network) (.number curve) key =
      .ok (Solana.encryptionKeyRegistrationMessage chainNumber network curve key) := by
  rw [encryptionKeyRegistrationMessage, writeNumber_natCast hchain, writeNumber_natCast hnetwork,
    writeNumber_natCast hcurve]
  rfl

theorem gasReleaseMessage_natCast {programId deposit : PublicKey} {requestKey : Bytes}
    {sequence ika sol : ℕ} (hsequence : sequence < 256 ^ 8) (hika : ika < 256 ^ 8)
    (hsol : sol < 256 ^ 8) :
    gasReleaseMessage ⟨programId, deposit, requestKey, .bigint sequence, .bigint ika,
      .bigint sol⟩ = Solana.gasReleaseMessage programId deposit requestKey sequence ika sol := by
  simp only [gasReleaseMessage, setBigUint64, writeBigInt_natCast hsequence,
    writeBigInt_natCast hika, writeBigInt_natCast hsol, ok_bind]
  rfl

/-! ## Instructions -/

theorem amountsData_written {name : String} {ikaAmount solAmount : Numeric} {data : Bytes}
    (h : amountsData name ikaAmount solAmount = .ok data) :
    NumberField.Written ⟨1, 8, ikaAmount⟩ data ∧ NumberField.Written ⟨9, 8, solAmount⟩ data := by
  obtain ⟨byte, -, h₁⟩ := bind_ok h
  obtain ⟨zeros, -, h₂⟩ := bind_ok h₁
  obtain ⟨amounts, hika, hsol⟩ := bind_ok h₂
  have hkept := (written_setBigUint64 hika).setBigUint64_of_apart hsol (.inl le_rfl)
  exact ⟨hkept, written_setBigUint64 hsol⟩

section Builders

variable {P : Primitives} {E : Ed25519Program}

theorem topUpInstruction_written {params : TopUpParams} {instruction : TransactionInstruction}
    (h : topUpInstruction P params = .ok instruction) :
    NumberField.Written ⟨1, 8, params.ikaAmount⟩ instruction.data ∧
      NumberField.Written ⟨9, 8, params.solAmount⟩ instruction.data := by
  obtain ⟨data, hdata, h₁⟩ := bind_ok h
  obtain ⟨coordinator, -, hlast⟩ := bind_ok h₁
  cases hlast
  exact amountsData_written hdata

theorem requestWithdrawInstruction_written {params : RequestWithdrawParams}
    {instruction : TransactionInstruction}
    (h : requestWithdrawInstruction P params = .ok instruction) :
    NumberField.Written ⟨1, 8, params.ikaAmount⟩ instruction.data ∧
      NumberField.Written ⟨9, 8, params.solAmount⟩ instruction.data := by
  obtain ⟨data, hdata, h₁⟩ := bind_ok h
  obtain ⟨coordinator, -, hlast⟩ := bind_ok h₁
  cases hlast
  exact amountsData_written hdata

/-- The same program, of whose instruction the data is the message alone: where the library puts
it there is the library's. -/
def Ed25519Program.messagesOnly (E : Ed25519Program) : Ed25519Program where
  programId := E.programId
  createInstructionWithPublicKey publicKey message signature :=
    (E.createInstructionWithPublicKey publicKey message signature).map ({ · with data := message })

theorem messagesOnly_data {publicKey message signature : Bytes}
    {instruction : TransactionInstruction}
    (h : E.messagesOnly.createInstructionWithPublicKey publicKey message signature =
      .ok instruction) : instruction.data = message := by
  obtain ⟨built, -, rfl⟩ := map_ok h
  rfl

theorem createDepositInstructions_written {params : CreateDepositParams}
    {built : List TransactionInstruction}
    (h : createDepositInstructions P E.messagesOnly params = .ok built) :
    ∃ proof deposit, built = [proof, deposit] ∧
      NumberField.Written ⟨40, 4, params.chainNumber⟩ proof.data ∧
      NumberField.Written ⟨44, 1, params.network⟩ proof.data := by
  obtain ⟨address, -, h₁⟩ := bind_ok h
  obtain ⟨message, hmessage, h₂⟩ := bind_ok h₁
  obtain ⟨byte, -, h₃⟩ := bind_ok h₂
  obtain ⟨d₁, -, h₄⟩ := bind_ok h₃
  obtain ⟨d₂, -, h₅⟩ := bind_ok h₄
  obtain ⟨d₃, -, h₆⟩ := bind_ok h₅
  obtain ⟨data, -, h₇⟩ := bind_ok h₆
  obtain ⟨proof, hproof, h₈⟩ := bind_ok h₇
  obtain ⟨coordinator, -, hlast⟩ := bind_ok h₈
  cases hlast
  refine ⟨_, _, rfl, ?_⟩
  rw [messagesOnly_data hproof]
  exact depositProofMessage_written hmessage

theorem withdrawInstructions_written {params : WithdrawParams}
    {built : List TransactionInstruction}
    (h : withdrawInstructions P E.messagesOnly params = .ok built) :
    ∃ release withdraw, built = [release, withdraw] ∧
      (NumberField.Written ⟨115, 8, params.withdrawalSequence⟩ release.data ∧
        NumberField.Written ⟨123, 8, params.ikaAmount⟩ release.data ∧
        NumberField.Written ⟨131, 8, params.solAmount⟩ release.data) ∧
      NumberField.Written ⟨1, 8, params.withdrawalSequence⟩ withdraw.data := by
  obtain ⟨message, hmessage, h₁⟩ := bind_ok h
  obtain ⟨byte, -, h₂⟩ := bind_ok h₁
  obtain ⟨zeros, -, h₃⟩ := bind_ok h₂
  obtain ⟨counted, hsequence, h₄⟩ := bind_ok h₃
  obtain ⟨data, hsignature, h₅⟩ := bind_ok h₄
  obtain ⟨vaultAuthority, -, h₆⟩ := bind_ok h₅
  obtain ⟨derived, -, h₇⟩ := bind_ok h₆
  obtain ⟨networkKey, -, h₈⟩ := bind_ok h₇
  obtain ⟨release, hrelease, h₉⟩ := bind_ok h₈
  obtain ⟨coordinator, -, hlast⟩ := bind_ok h₉
  cases hlast
  refine ⟨_, _, rfl, ?_, (written_setBigUint64 hsequence).setAt_of_apart hsignature (.inl le_rfl)⟩
  rw [messagesOnly_data hrelease]
  exact gasReleaseMessage_written hmessage

theorem littleEndian_reads {value : Numeric} {width : ℕ} {bytes : Bytes}
    (h : littleEndian value width = .ok bytes) :
    bytes.length = width ∧ value.Is (leValue bytes) := by
  obtain ⟨number, hnumber, hbytes⟩ := bind_ok h
  unfold Solana.littleEndian at hbytes
  split_ifs at hbytes with hnegative hlarge
  cases hbytes
  have hlt : number.toNat < 256 ^ width := by
    have hpos : 0 < 256 ^ width := Nat.pow_pos (by decide)
    have hzero : number.toNat / 256 ^ width = 0 := not_not.mp hlarge
    exact (Nat.div_eq_zero_iff.mp hzero).resolve_left hpos.ne'
  refine ⟨leBytes_length .., (toBigInt_is hnumber).mpr ?_⟩
  rw [leValue_leBytes, Nat.mod_eq_of_lt hlt]
  omega

/-- A number is a seed of a component with a width only where it fits the width. -/
theorem componentSeeds_number {name : String} {values : SeedValues} {component : SeedComponent}
    {seeds : List Bytes} {width : ℕ} {value : ℤ}
    (h : componentSeeds name values component = .ok seeds) (hliteral : component.literal = none)
    (homitted : component.omittedWhen = none) (hwidth : component.width = some width)
    (hvalue : values component.name = some (.number value)) :
    ∃ bytes, Solana.littleEndian value width = .ok bytes := by
  rw [componentSeeds, hliteral, homitted, hvalue] at h
  obtain ⟨bytes, hbytes, -⟩ := bind_ok h
  simp only [Solana.asBytes, hwidth] at hbytes
  exact ⟨bytes, hbytes⟩

/-- The derivation of the entry's address refuses a curve that does not fit. -/
theorem encryptionKeyPda_curve {programId holder : Bytes} {curve : Numeric}
    {derived : DerivedAddress} (h : encryptionKeyPda P programId holder curve = .ok derived) :
    curve.Fits 2 := by
  obtain ⟨number, hnumber, hderive⟩ := bind_ok h
  obtain ⟨seeds, hseeds, -⟩ := bind_ok hderive
  obtain ⟨schema, hschema, hcomponents⟩ := bind_ok hseeds
  cases hschema
  obtain ⟨prefixSeeds, -, hrest⟩ := bind_ok hcomponents
  obtain ⟨more, hmore, -⟩ := bind_ok hrest
  obtain ⟨keySeeds, -, hlast⟩ := bind_ok hmore
  obtain ⟨last, hcurve, -⟩ := bind_ok hlast
  obtain ⟨curveSeeds, hseed, -⟩ := bind_ok hcurve
  obtain ⟨bytes, hbytes⟩ := componentSeeds_number hseed rfl rfl rfl rfl
  have hread : littleEndian curve 2 = .ok bytes := by rw [littleEndian, hnumber]; exact hbytes
  obtain ⟨hlength, his⟩ := littleEndian_reads hread
  have hlt := leValue_lt bytes
  rw [hlength] at hlt
  exact ⟨_, hlt, his⟩

/-- The precompile's data ends in the message. -/
theorem registrationPrecompileInstruction_data {holderPublicKey message signature : Bytes}
    {instruction : TransactionInstruction}
    (h : registrationPrecompileInstruction E holderPublicKey message signature =
      .ok instruction) : ∃ front, front.length = 112 ∧ instruction.data = front ++ message := by
  obtain ⟨d₁, hone, h₁⟩ := bind_ok h
  obtain ⟨d₂, hfields, h₂⟩ := bind_ok h₁
  obtain ⟨d₃, hkey, h₃⟩ := bind_ok h₂
  obtain ⟨d₄, hsignature, h₄⟩ := bind_ok h₃
  obtain ⟨data, hmessage, hlast⟩ := bind_ok h₄
  cases hlast
  have hlength : d₄.length = 112 + message.length := by
    rw [setAt_length hsignature, setAt_length hkey, setAt_length hfields, setAt_length hone,
      List.length_replicate]
  obtain ⟨-, rfl⟩ := setAt_ok hmessage
  refine ⟨d₄.take 112, ?_, ?_⟩
  · rw [List.length_take, hlength]
    omega
  · rw [List.drop_of_length_le (by omega), List.append_nil]

theorem registerEncryptionKeyInstructions_written {params : RegisterEncryptionKeyParams}
    {built : List TransactionInstruction}
    (h : registerEncryptionKeyInstructions P E params = .ok built) :
    params.curve.Fits 2 ∧ ∃ precompile register, built = [precompile, register] ∧
      (NumberField.Written ⟨133, 4, params.chainNumber⟩ precompile.data ∧
        NumberField.Written ⟨137, 1, params.network⟩ precompile.data ∧
        NumberField.Written ⟨138, 2, params.curve⟩ precompile.data) ∧
      NumberField.Written ⟨34, 2, params.curve⟩ register.data := by
  obtain ⟨entry, hentry, h₁⟩ := bind_ok h
  obtain ⟨byte, -, h₂⟩ := bind_ok h₁
  obtain ⟨d₁, -, h₃⟩ := bind_ok h₂
  obtain ⟨d₂, -, h₄⟩ := bind_ok h₃
  obtain ⟨d₃, -, h₅⟩ := bind_ok h₄
  obtain ⟨curve, hcurve, h₆⟩ := bind_ok h₅
  obtain ⟨d₄, hset, h₇⟩ := bind_ok h₆
  obtain ⟨data, hbump, h₈⟩ := bind_ok h₇
  obtain ⟨message, hmessage, h₉⟩ := bind_ok h₈
  obtain ⟨precompile, hprecompile, h₁₀⟩ := bind_ok h₉
  obtain ⟨holder, -, h₁₁⟩ := bind_ok h₁₀
  obtain ⟨address, -, h₁₂⟩ := bind_ok h₁₁
  obtain ⟨coordinator, -, h₁₃⟩ := bind_ok h₁₂
  obtain ⟨eventAuthority, -, hlast⟩ := bind_ok h₁₃
  cases hlast
  refine ⟨encryptionKeyPda_curve hentry, _, _, rfl, ?_,
    (written_setNumber hcurve hset).setAt_of_apart hbump (.inl le_rfl)⟩
  obtain ⟨front, hfront, hdata⟩ := registrationPrecompileInstruction_data hprecompile
  obtain ⟨hchain, hnetwork, hnumber⟩ := encryptionKeyRegistrationMessage_written hmessage
  rw [hdata]
  exact ⟨hchain.after hfront, hnetwork.after hfront, hnumber.after hfront⟩

theorem slice_setFields {fields : List Bytes} {offset other width : ℕ} {data data' : Bytes}
    (h : setFields fields offset data = .ok data') (hbefore : other + width ≤ offset) :
    sliceAt other width data' = sliceAt other width data := by
  induction fields generalizing offset data with
  | nil => rw [Except.ok.inj h]
  | cons field fields ih =>
    obtain ⟨next, hset, hrest⟩ := bind_ok h
    rw [ih hrest (by omega), sliceAt_setAt_of_apart hset (.inl hbefore)]

theorem issueVoucherData_scheme {byte : UInt8} {params : IssueVoucherParams} {data : Bytes}
    (h : issueVoucherData byte params = .ok data) :
    sliceAt 65 2 data = leBytes 2 params.signatureScheme := by
  obtain ⟨d₁, -, h₁⟩ := bind_ok h
  obtain ⟨d₂, -, h₂⟩ := bind_ok h₁
  obtain ⟨d₃, -, h₃⟩ := bind_ok h₂
  obtain ⟨d₄, hscheme, h₄⟩ := bind_ok h₃
  obtain ⟨d₅, hflags, hfields⟩ := bind_ok h₄
  rw [slice_setFields hfields (by omega), sliceAt_setAt_of_apart hflags (.inl le_rfl)]
  exact sliceAt_setAt hscheme

theorem issueSignatureVoucherInstruction_written {params : IssueVoucherParams} {scheme : Numeric}
    {instruction : TransactionInstruction}
    (h : issueSignatureVoucherInstruction P params scheme = .ok instruction) :
    NumberField.Written ⟨65, 2, scheme⟩ instruction.data := by
  obtain ⟨_, -, h₁⟩ := bind_ok h
  obtain ⟨bytes, hbytes, h₂⟩ := bind_ok h₁
  obtain ⟨_, -, h₃⟩ := bind_ok h₂
  obtain ⟨byte, -, h₄⟩ := bind_ok h₃
  obtain ⟨data, hdata, h₅⟩ := bind_ok h₄
  obtain ⟨coordinator, -, hlast⟩ := bind_ok h₅
  cases hlast
  have hwrite := fromPackage_ok hbytes
  have hslice := issueVoucherData_scheme (fromPackage_ok hdata)
  have hsame : leBytes 2 (leValue bytes) = bytes := by
    rw [← writeNumber_length hwrite, leBytes_leValue]
  exact .number (by rw [hslice, hsame, hwrite])

/-- The other instruction byte leaves the scheme as it was. -/
theorem issueFutureSignatureVoucherInstruction_written {params : IssueVoucherParams}
    {scheme : Numeric} {instruction : TransactionInstruction}
    (h : issueFutureSignatureVoucherInstruction P params scheme = .ok instruction) :
    NumberField.Written ⟨65, 2, scheme⟩ instruction.data := by
  obtain ⟨issued, hissued, h₁⟩ := bind_ok h
  obtain ⟨byte, -, hlast⟩ := bind_ok h₁
  cases hlast
  have hslice : sliceAt 65 2 (issued.data.set 0 byte) = sliceAt 65 2 issued.data := by
    rw [sliceAt, List.drop_set_of_lt (by decide), sliceAt]
  cases issueSignatureVoucherInstruction_written hissued with
  | number hnumber => exact .number (by rw [hslice, hnumber])
  | bigint hbigint => exact .bigint (by rw [hslice, hbigint])

theorem signingParameterInstruction_written {name : String} {params : SigningParameterParams}
    {instruction : TransactionInstruction}
    (h : signingParameterInstruction P name params = .ok instruction) :
    NumberField.Written ⟨1, 1, params.kind⟩ instruction.data ∧
      NumberField.Written ⟨2, 4, params.value⟩ instruction.data := by
  obtain ⟨byte, -, h₁⟩ := bind_ok h
  obtain ⟨d₁, -, h₂⟩ := bind_ok h₁
  obtain ⟨kind, hkind, h₃⟩ := bind_ok h₂
  obtain ⟨d₂, hsetKind, h₄⟩ := bind_ok h₃
  obtain ⟨value, hvalue, h₅⟩ := bind_ok h₄
  obtain ⟨data, hsetValue, h₆⟩ := bind_ok h₅
  obtain ⟨coordinator, -, h₇⟩ := bind_ok h₆
  obtain ⟨eventAuthority, -, hlast⟩ := bind_ok h₇
  have hwritten : NumberField.Written ⟨1, 1, params.kind⟩ data ∧
      NumberField.Written ⟨2, 4, params.value⟩ data :=
    ⟨(written_setNumber hkind hsetKind).setAt_of_apart hsetValue (.inl le_rfl),
      written_setNumber hvalue hsetValue⟩
  split_ifs at hlast
  · obtain ⟨derived, -, h₈⟩ := bind_ok hlast
    obtain ⟨record, -, h₉⟩ := bind_ok h₈
    cases h₉
    exact hwritten
  · cases hlast
    exact hwritten

end Builders

/-! ## Every builder -/

/-- A builder of what holds numbers, with its arguments. -/
inductive Builder
  | createDeposit (params : CreateDepositParams)
  | topUp (params : TopUpParams)
  | requestWithdraw (params : RequestWithdrawParams)
  | gasRelease (params : GasRelease)
  | withdraw (params : WithdrawParams)
  | depositProof (chainNumber network : Numeric) (sender : Bytes)
  | registrationMessage (chainNumber network curve : Numeric) (encryptionKey : Bytes)
  | registerEncryptionKey (params : RegisterEncryptionKeyParams)
  | signatureVoucher (params : IssueVoucherParams) (signatureScheme : Numeric)
  | futureSignatureVoucher (params : IssueVoucherParams) (signatureScheme : Numeric)
  | pauseSigningParameter (params : SigningParameterParams)
  | unpauseSigningParameter (params : SigningParameterParams)
  | seed (component : SeedComponent) (value : Numeric)
  | dwalletSeedRoot (curve : Numeric) (dwalletPublicKey : Bytes)

def emitted (built : List TransactionInstruction) : List Bytes := built.map (·.data)

/-- What the builder emits: the data of each instruction, or one message or seed. Of an
instruction that the library builds it is the message that the library is given. -/
def Builder.build (P : Primitives) (E : Ed25519Program) : Builder → Except SdkError (List Bytes)
  | createDeposit params =>
    fromPackage ((createDepositInstructions P E.messagesOnly params).map emitted)
  | topUp params => fromPackage ((topUpInstruction P params).map ([·.data]))
  | requestWithdraw params => fromPackage ((requestWithdrawInstruction P params).map ([·.data]))
  | gasRelease params => fromPackage ((gasReleaseMessage params).map ([·]))
  | withdraw params => fromPackage ((withdrawInstructions P E.messagesOnly params).map emitted)
  | depositProof chainNumber network sender =>
    fromPackage ((depositProofMessage chainNumber network sender).map ([·]))
  | registrationMessage chainNumber network curve encryptionKey =>
    fromPackage ((encryptionKeyRegistrationMessage chainNumber network curve encryptionKey).map
      ([·]))
  | registerEncryptionKey params =>
    fromPackage ((registerEncryptionKeyInstructions P E params).map emitted)
  | signatureVoucher params signatureScheme =>
    (issueSignatureVoucherInstruction P params signatureScheme).map ([·.data])
  | futureSignatureVoucher params signatureScheme =>
    (issueFutureSignatureVoucherInstruction P params signatureScheme).map ([·.data])
  | pauseSigningParameter params =>
    fromPackage ((pauseSigningParameterInstruction P params).map ([·.data]))
  | unpauseSigningParameter params =>
    fromPackage ((unpauseSigningParameterInstruction P params).map ([·.data]))
  | seed component value => fromPackage ((asBytes component (.number value)).map ([·]))
  | dwalletSeedRoot curve dwalletPublicKey =>
    fromPackage ((Builders.dwalletSeedRoot curve dwalletPublicKey).map ([·]))

/-- A number in one of the parts that a builder emits. -/
structure EmittedNumber extends NumberField where
  part : ℕ

def EmittedNumber.ReadsBack (number : EmittedNumber) (parts : List Bytes) : Prop :=
  number.toNumberField.ReadsBack (parts.getD number.part [])

def EmittedNumber.Written (number : EmittedNumber) (parts : List Bytes) : Prop :=
  number.toNumberField.Written (parts.getD number.part [])

/-- Where each number argument stands in what is emitted. -/
def Builder.fields : Builder → List EmittedNumber
  | createDeposit params => [⟨⟨40, 4, params.chainNumber⟩, 0⟩, ⟨⟨44, 1, params.network⟩, 0⟩]
  | topUp params => [⟨⟨1, 8, params.ikaAmount⟩, 0⟩, ⟨⟨9, 8, params.solAmount⟩, 0⟩]
  | requestWithdraw params => [⟨⟨1, 8, params.ikaAmount⟩, 0⟩, ⟨⟨9, 8, params.solAmount⟩, 0⟩]
  | gasRelease params => [⟨⟨115, 8, params.withdrawalSequence⟩, 0⟩,
    ⟨⟨123, 8, params.ikaAmount⟩, 0⟩, ⟨⟨131, 8, params.solAmount⟩, 0⟩]
  | withdraw params => [⟨⟨115, 8, params.withdrawalSequence⟩, 0⟩,
    ⟨⟨123, 8, params.ikaAmount⟩, 0⟩, ⟨⟨131, 8, params.solAmount⟩, 0⟩,
    ⟨⟨1, 8, params.withdrawalSequence⟩, 1⟩]
  | depositProof chainNumber network _ => [⟨⟨40, 4, chainNumber⟩, 0⟩, ⟨⟨44, 1, network⟩, 0⟩]
  | registrationMessage chainNumber network curve _ =>
    [⟨⟨21, 4, chainNumber⟩, 0⟩, ⟨⟨25, 1, network⟩, 0⟩, ⟨⟨26, 2, curve⟩, 0⟩]
  | registerEncryptionKey params => [⟨⟨133, 4, params.chainNumber⟩, 0⟩,
    ⟨⟨137, 1, params.network⟩, 0⟩, ⟨⟨138, 2, params.curve⟩, 0⟩, ⟨⟨34, 2, params.curve⟩, 1⟩]
  | signatureVoucher _ signatureScheme => [⟨⟨65, 2, signatureScheme⟩, 0⟩]
  | futureSignatureVoucher _ signatureScheme => [⟨⟨65, 2, signatureScheme⟩, 0⟩]
  | pauseSigningParameter params => [⟨⟨1, 1, params.kind⟩, 0⟩, ⟨⟨2, 4, params.value⟩, 0⟩]
  | unpauseSigningParameter params => [⟨⟨1, 1, params.kind⟩, 0⟩, ⟨⟨2, 4, params.value⟩, 0⟩]
  | seed component value => [⟨⟨0, component.width.getD 0, value⟩, 0⟩]
  | dwalletSeedRoot curve _ => [⟨⟨0, 2, curve⟩, 0⟩]

/-- The numbers that an address is derived from, which the derivation refuses where they do not
fit. -/
def Builder.checked : Builder → List EmittedNumber
  | registerEncryptionKey params => [⟨⟨138, 2, params.curve⟩, 0⟩, ⟨⟨34, 2, params.curve⟩, 1⟩]
  | seed component value => [⟨⟨0, component.width.getD 0, value⟩, 0⟩]
  | dwalletSeedRoot curve _ => [⟨⟨0, 2, curve⟩, 0⟩]
  | _ => []

theorem seed_reads {component : SeedComponent} {value : Numeric} {bytes : Bytes}
    (h : asBytes component (.number value) = .ok bytes) :
    NumberField.ReadsBack ⟨0, component.width.getD 0, value⟩ bytes ∧
      NumberField.Fits ⟨0, component.width.getD 0, value⟩ := by
  cases hwidth : component.width with
  | none =>
    simp only [asBytes, hwidth] at h
    cases h
  | some width =>
    simp only [asBytes, hwidth] at h
    obtain ⟨hlength, his⟩ := littleEndian_reads h
    have hlt := leValue_lt bytes
    rw [hlength] at hlt
    refine ⟨?_, _, hlt, his⟩
    rw [NumberField.ReadsBack, Option.getD_some, sliceAt, List.drop_zero, ← hlength,
      List.take_length]
    exact his

theorem dwalletSeedRoot_reads {curve : Numeric} {dwalletPublicKey root : Bytes}
    (h : dwalletSeedRoot curve dwalletPublicKey = .ok root) :
    NumberField.ReadsBack ⟨0, 2, curve⟩ root ∧ NumberField.Fits ⟨0, 2, curve⟩ := by
  obtain ⟨bytes, hbytes, hlast⟩ := bind_ok h
  cases hlast
  obtain ⟨hlength, his⟩ := littleEndian_reads hbytes
  have hlt := leValue_lt bytes
  rw [hlength] at hlt
  refine ⟨?_, _, hlt, his⟩
  rw [NumberField.ReadsBack, sliceAt, List.drop_zero, List.take_left' hlength]
  exact his

/-- In what is built each number is written unchecked, or it was checked to fit. -/
theorem Builder.fields_written {P : Primitives} {E : Ed25519Program} {builder : Builder}
    {parts : List Bytes} (h : builder.build P E = .ok parts) :
    (∀ number ∈ builder.fields,
      number.Written parts ∨ number.ReadsBack parts ∧ number.Fits) ∧
        ∀ number ∈ builder.checked, number.Fits := by
  cases builder with
  | createDeposit params =>
    obtain ⟨built, hbuilt, rfl⟩ := map_ok (fromPackage_ok h)
    obtain ⟨proof, deposit, rfl, hchain, hnetwork⟩ := createDepositInstructions_written hbuilt
    simp [Builder.fields, Builder.checked, emitted, EmittedNumber.Written, hchain, hnetwork]
  | topUp params =>
    obtain ⟨instruction, hbuilt, rfl⟩ := map_ok (fromPackage_ok h)
    obtain ⟨hika, hsol⟩ := topUpInstruction_written hbuilt
    simp [Builder.fields, Builder.checked, EmittedNumber.Written, hika, hsol]
  | requestWithdraw params =>
    obtain ⟨instruction, hbuilt, rfl⟩ := map_ok (fromPackage_ok h)
    obtain ⟨hika, hsol⟩ := requestWithdrawInstruction_written hbuilt
    simp [Builder.fields, Builder.checked, EmittedNumber.Written, hika, hsol]
  | gasRelease params =>
    have hmap : (gasReleaseMessage params).map ([·]) = .ok parts := fromPackage_ok h
    obtain ⟨message, hbuilt, rfl⟩ := map_ok hmap
    obtain ⟨hsequence, hika, hsol⟩ := gasReleaseMessage_written hbuilt
    simp [Builder.fields, Builder.checked, EmittedNumber.Written, hsequence, hika, hsol]
  | withdraw params =>
    have hmap : (withdrawInstructions P E.messagesOnly params).map emitted = .ok parts :=
      fromPackage_ok h
    obtain ⟨built, hbuilt, rfl⟩ := map_ok hmap
    obtain ⟨release, withdraw, rfl, ⟨hreleased, hika, hsol⟩, hsequence⟩ :=
      withdrawInstructions_written hbuilt
    simp [Builder.fields, Builder.checked, emitted, EmittedNumber.Written, hreleased, hika, hsol,
      hsequence]
  | depositProof chainNumber network sender =>
    obtain ⟨message, hbuilt, rfl⟩ := map_ok (fromPackage_ok h)
    obtain ⟨hchain, hnetwork⟩ := depositProofMessage_written hbuilt
    simp [Builder.fields, Builder.checked, EmittedNumber.Written, hchain, hnetwork]
  | registrationMessage chainNumber network curve encryptionKey =>
    obtain ⟨message, hbuilt, rfl⟩ := map_ok (fromPackage_ok h)
    obtain ⟨hchain, hnetwork, hcurve⟩ := encryptionKeyRegistrationMessage_written hbuilt
    simp [Builder.fields, Builder.checked, EmittedNumber.Written, hchain, hnetwork, hcurve]
  | registerEncryptionKey params =>
    obtain ⟨built, hbuilt, rfl⟩ := map_ok (fromPackage_ok h)
    obtain ⟨hfits, precompile, register, rfl, ⟨hchain, hnetwork, hnumber⟩, hcurve⟩ :=
      registerEncryptionKeyInstructions_written hbuilt
    have hmessage : NumberField.Fits ⟨138, 2, params.curve⟩ := hfits
    have hfield : NumberField.Fits ⟨34, 2, params.curve⟩ := hfits
    simp [Builder.fields, Builder.checked, emitted, EmittedNumber.Written, hchain, hnetwork,
      hnumber, hcurve, hmessage, hfield]
  | signatureVoucher params signatureScheme =>
    obtain ⟨instruction, hbuilt, rfl⟩ := map_ok h
    simp [Builder.fields, Builder.checked, EmittedNumber.Written,
      issueSignatureVoucherInstruction_written hbuilt]
  | futureSignatureVoucher params signatureScheme =>
    obtain ⟨instruction, hbuilt, rfl⟩ := map_ok h
    simp [Builder.fields, Builder.checked, EmittedNumber.Written,
      issueFutureSignatureVoucherInstruction_written hbuilt]
  | pauseSigningParameter params =>
    obtain ⟨instruction, hbuilt, rfl⟩ := map_ok (fromPackage_ok h)
    obtain ⟨hkind, hvalue⟩ := signingParameterInstruction_written hbuilt
    simp [Builder.fields, Builder.checked, EmittedNumber.Written, hkind, hvalue]
  | unpauseSigningParameter params =>
    obtain ⟨instruction, hbuilt, rfl⟩ := map_ok (fromPackage_ok h)
    obtain ⟨hkind, hvalue⟩ := signingParameterInstruction_written hbuilt
    simp [Builder.fields, Builder.checked, EmittedNumber.Written, hkind, hvalue]
  | seed component value =>
    obtain ⟨bytes, hbuilt, rfl⟩ := map_ok (fromPackage_ok h)
    obtain ⟨hreads, hfits⟩ := seed_reads hbuilt
    simp [Builder.fields, Builder.checked, EmittedNumber.ReadsBack, hreads, hfits]
  | dwalletSeedRoot curve dwalletPublicKey =>
    obtain ⟨root, hbuilt, rfl⟩ := map_ok (fromPackage_ok h)
    obtain ⟨hreads, hfits⟩ := dwalletSeedRoot_reads hbuilt
    simp [Builder.fields, Builder.checked, EmittedNumber.ReadsBack, hreads, hfits]

/-- A builder that does not throw emits bytes that each of its numbers is read back from exactly
where every number fits its field; the numbers of an address are checked to. -/
theorem numbers_read_back_iff (P : Primitives) (E : Ed25519Program) (builder : Builder)
    (parts : List Bytes) (h : builder.build P E = .ok parts) :
    ((∀ number ∈ builder.fields, number.ReadsBack parts) ↔
      ∀ number ∈ builder.fields, number.Fits) ∧ ∀ number ∈ builder.checked, number.Fits := by
  obtain ⟨hfields, hchecked⟩ := Builder.fields_written h
  have hiff : ∀ number ∈ builder.fields, number.ReadsBack parts ↔ number.Fits := by
    intro number hnumber
    rcases hfields number hnumber with hwritten | ⟨hreads, hfits⟩
    · exact hwritten.readsBack_iff
    · exact iff_of_true hreads hfits
  exact ⟨forall₂_congr hiff, hchecked⟩

/-! ### A top-up of more than its fields hold -/

def sampleEd25519Program : Ed25519Program where
  programId := systemProgramId
  createInstructionWithPublicKey _ message _ := .ok ⟨systemProgramId, [], message⟩

def sampleTopUp (solAmount : ℤ) : Builder := .topUp {
  programId := systemProgramId
  deposit := systemProgramId
  payer := systemProgramId
  ikaTokenAccount := systemProgramId
  treasuryVault := systemProgramId
  ikaAmount := .bigint 0
  solAmount := .bigint solAmount }

def sampleTopUpData (solAmount : ℕ) : Bytes := 137 :: leBytes 8 0 ++ leBytes 8 solAmount

theorem numbers_read_back_sample :
    (sampleTopUp 5).build samplePrimitives sampleEd25519Program = .ok [sampleTopUpData 5] ∧
      ∀ number ∈ (sampleTopUp 5).fields, number.ReadsBack [sampleTopUpData 5] := by
  have hbuild : (sampleTopUp 5).build samplePrimitives sampleEd25519Program =
      .ok [sampleTopUpData 5] := by decide +kernel
  refine ⟨hbuild, (numbers_read_back_iff _ _ _ _ hbuild).1.mpr fun number hnumber => ?_⟩
  rcases List.mem_cons.mp hnumber with rfl | hnumber
  · exact ⟨0, by decide, rfl⟩
  · obtain rfl := List.mem_singleton.mp hnumber
    exact ⟨5, by decide, rfl⟩

/-- A top-up of 2^64 + 5 is the instruction of a top-up of 5. -/
theorem top_up_wraps : ¬∀ (builder : Builder) (parts : List Bytes),
    builder.build samplePrimitives sampleEd25519Program = .ok parts →
      ∀ number ∈ builder.fields, number.ReadsBack parts := by
  intro hall
  have hbuild : (sampleTopUp 18446744073709551621).build samplePrimitives sampleEd25519Program =
      .ok [sampleTopUpData 5] := by decide +kernel
  have hreads := hall _ _ hbuild ⟨⟨9, 8, .bigint 18446744073709551621⟩, 0⟩ (by simp [sampleTopUp,
    Builder.fields])
  have hread : (18446744073709551621 : ℤ) = leValue (sliceAt 9 8 (sampleTopUpData 5)) := hreads
  exact absurd hread (by decide)

end Ika.Solana.Builders
