import IkaSdk.Crates.Cpi
import IkaSdk.Crates.InstructionFormat

/-! The program crates and the builders of the client send the same instructions. -/

namespace Ika.Crates

open Wire Solana

/-! ## The data of the builders -/

theorem setAt_zeros {front bytes : Bytes} {offset k m : ℕ} (hfront : front.length = offset)
    (hbytes : bytes.length = k) :
    setAt (front ++ List.replicate (k + m) 0) offset bytes =
      .ok (front ++ bytes ++ List.replicate m 0) := by
  rw [List.replicate_add, List.append_assoc]
  exact setAt_field (List.replicate k 0) hfront (by simp [hbytes])

theorem setFields_zeros {fields : List Bytes} (hfields : ∀ f ∈ fields, f.length = 32)
    {front : Bytes} {offset : ℕ} (hfront : front.length = offset) :
    setFields fields offset (front ++ List.replicate (32 * fields.length) 0) =
      .ok (front ++ fields.flatten) := by
  induction fields generalizing front offset with
  | nil => simp [setFields]
  | cons field fields ih =>
    have hfield := hfields field (List.mem_cons_self ..)
    have hlength : 32 * (field :: fields).length = 32 + 32 * fields.length := by
      rw [List.length_cons]
      ring
    rw [setFields, hlength, setAt_zeros hfront hfield, ok_bind,
      ih (fun f hf => hfields f (List.mem_cons_of_mem _ hf)) (by simp [hfront, hfield])]
    simp

def PublicKey.ofBytes32 (key : Bytes32) : PublicKey := ⟨key.val, key.property⟩

/-- What a client gives the builder for the arguments that a program calls with. -/
structure ClientCall where
  programId : PublicKey
  owner : PublicKey
  payer : Option PublicKey
  usability : ApprovalUsability
  accounts : IssueAccounts
  messageDigest : Bytes32
  messageMetadataDigest : Bytes32
  signatureScheme : UInt16
  keys : VoucherKeys

def ClientCall.params (c : ClientCall) : IssueVoucherParams where
  programId := c.programId
  owner := c.owner
  dwallet := c.accounts.dwallet
  voucher := c.accounts.signatureVoucher
  messageDigest := c.messageDigest.val
  messageMetadataDigest := c.messageMetadataDigest.val
  signatureScheme := c.signatureScheme.toNat
  requestPublicKey := c.keys.signingKey.map Subtype.val
  voucherOwner := c.keys.owner.map PublicKey.ofBytes32
  payer := c.payer
  usability := c.usability

def ClientCall.voucher (c : ClientCall) : IssueVoucher where
  messageDigest := c.messageDigest.val
  messageMetadataDigest := c.messageMetadataDigest.val
  signatureScheme := c.signatureScheme.toNat
  owner := c.keys.owner.map Subtype.val
  signingKey := c.keys.signingKey.map Subtype.val

theorem issueVoucher_encode (v : IssueVoucher) : issueVoucher.encode v =
    v.messageDigest ++ (v.messageMetadataDigest ++ (leBytes 2 v.signatureScheme ++
      (keyFlags v.owner v.signingKey :: (v.owner.getD [] ++ v.signingKey.getD [])))) := rfl

theorem issueVoucherData_eq (byte : UInt8) (c : ClientCall) :
    issueVoucherData byte c.params = .ok (byte :: issueVoucher.encode c.voucher) := by
  have hdigest : c.params.messageDigest.length = 32 := c.messageDigest.property
  have hmetadata : c.params.messageMetadataDigest.length = 32 := c.messageMetadataDigest.property
  simp only [issueVoucherData]
  generalize hflags : ((if c.params.voucherOwner.isNone then 0 else issueVoucherHasOwner) |||
    (if c.params.requestPublicKey.isNone then 0 else issueVoucherHasSigningKey) : UInt8) = flags
  generalize hoptional : [c.params.voucherOwner.map (·.toBytes),
    c.params.requestPublicKey].filterMap id = optional
  have hfields : (∀ f ∈ optional, f.length = 32) ∧
      flags = keyFlags c.voucher.owner c.voucher.signingKey ∧
      optional.flatten = c.voucher.owner.getD [] ++ c.voucher.signingKey.getD [] := by
    subst hflags hoptional
    obtain ⟨programId, owner, payer, usability, accounts, digest, metadata, scheme,
      ⟨_ | voucherOwner, _ | signingKey⟩⟩ := c
    · exact ⟨fun f hf => by simp [ClientCall.params] at hf, rfl, rfl⟩
    · refine ⟨fun f hf => ?_, rfl, by simp [ClientCall.params, ClientCall.voucher]⟩
      obtain rfl : f = signingKey.val := by simpa [ClientCall.params] using hf
      exact signingKey.property
    · refine ⟨fun f hf => ?_, rfl, by
        simp [ClientCall.params, ClientCall.voucher, PublicKey.ofBytes32]⟩
      obtain rfl : f = voucherOwner.val := by
        simpa [ClientCall.params, PublicKey.ofBytes32] using hf
      exact voucherOwner.property
    · refine ⟨fun f hf => ?_, rfl, by
        simp [ClientCall.params, ClientCall.voucher, PublicKey.ofBytes32]⟩
      have hf : f = voucherOwner.val ∨ f = signingKey.val := by
        simpa [ClientCall.params, PublicKey.ofBytes32] using hf
      rcases hf with rfl | rfl
      · exact voucherOwner.property
      · exact signingKey.property
  obtain ⟨hlengths, rfl, hflatten⟩ := hfields
  rw [show List.replicate (68 + 32 * optional.length) (0 : UInt8) =
      [] ++ List.replicate (1 + (32 + (32 + (2 + (1 + 32 * optional.length))))) 0 by
    rw [List.nil_append]
    congr 1
    omega]
  rw [setAt_zeros (by rfl) (by rfl), ok_bind, setAt_zeros (by rfl) hdigest, ok_bind,
    setAt_zeros (by simp [hdigest]) hmetadata, ok_bind,
    setAt_zeros (by simp [hdigest, hmetadata]) (leBytes_length 2 _), ok_bind,
    setAt_zeros (by simp [hdigest, hmetadata]) (by rfl), ok_bind,
    setFields_zeros hlengths (by simp [hdigest, hmetadata]), hflatten, issueVoucher_encode]
  simp [ClientCall.params, ClientCall.voucher]

theorem keyedData_eq {name : String} {byte : UInt8} (hbyte : instructionByte name = .ok byte)
    {key : Bytes} (hkey : key.length = 32) : keyedData name key = .ok (byte :: key) := by
  have hbuffer : List.replicate 33 (0 : UInt8) = [] ++ List.replicate (1 + (32 + 0)) 0 := rfl
  rw [keyedData, hbyte, ok_bind, hbuffer, setAt_zeros (by rfl) (by rfl), ok_bind,
    setAt_zeros (by rfl) hkey]
  simp

/-! ## The crates -/

/-- The calls of one crate. -/
structure CpiCrate where
  issueSignatureVoucher : PublicKey → DWalletContext → IssueAccounts → Bytes32 → Bytes32 →
    UInt16 → VoucherKeys → Option (List Bytes) → Except ProgramError Invocation
  issueFutureSignatureVoucher : PublicKey → DWalletContext → IssueAccounts → Bytes32 → Bytes32 →
    UInt16 → VoucherKeys → Option (List Bytes) → Except ProgramError Invocation
  setVoucherSigningKey : PublicKey → DWalletContext → PublicKey → Bytes32 →
    Except ProgramError Invocation
  revokeSignatureVoucher : PublicKey → DWalletContext → PublicKey → Except ProgramError Invocation
  transferSignatureVoucher : PublicKey → DWalletContext → PublicKey → Bytes32 →
    Except ProgramError Invocation
  transferDWallet : PublicKey → DWalletContext → PublicKey → Bytes32 →
    Except ProgramError Invocation

def pinocchio : CpiCrate where
  issueSignatureVoucher := Pinocchio.issueSignatureVoucher
  issueFutureSignatureVoucher := Pinocchio.issueFutureSignatureVoucher
  setVoucherSigningKey := Pinocchio.setVoucherSigningKey
  revokeSignatureVoucher := Pinocchio.revokeSignatureVoucher
  transferSignatureVoucher := Pinocchio.transferSignatureVoucher
  transferDWallet := Pinocchio.transferDWallet

def native : CpiCrate where
  issueSignatureVoucher := Native.issueSignatureVoucher
  issueFutureSignatureVoucher := Native.issueFutureSignatureVoucher
  setVoucherSigningKey := Native.setVoucherSigningKey
  revokeSignatureVoucher := Native.revokeSignatureVoucher
  transferSignatureVoucher := Native.transferSignatureVoucher
  transferDWallet ID ctx dwallet newOwner :=
    Native.transferDWallet ID ctx dwallet (PublicKey.ofBytes32 newOwner)

def anchor : CpiCrate where
  issueSignatureVoucher := Anchor.issueSignatureVoucher
  issueFutureSignatureVoucher := Anchor.issueFutureSignatureVoucher
  setVoucherSigningKey := Anchor.setVoucherSigningKey
  revokeSignatureVoucher := Anchor.revokeSignatureVoucher
  transferSignatureVoucher := Anchor.transferSignatureVoucher
  transferDWallet ID ctx dwallet newOwner :=
    Anchor.transferDWallet ID ctx dwallet (PublicKey.ofBytes32 newOwner)

/-- The crates differ in how they write the accounts and in when they check the
program, which changes no call. -/
theorem native_eq : native = pinocchio := rfl

theorem anchor_eq : anchor = pinocchio := rfl

/-! ## One format -/

/-- The owner's signature, replaced by the calling program and its authority. -/
def asProgram (ctx : DWalletContext) (owner : PublicKey) (account : AccountMeta) :
    List AccountMeta :=
  if account = ⟨owner, true, false⟩ then
    [⟨ctx.callerProgram, false, false⟩, ⟨ctx.cpiAuthority, true, false⟩]
  else [account]

/-- A call and a built instruction carry the same bytes, and these read as one
instruction and as no other. -/
structure SameData (meaning : IkaInstruction) (built : TransactionInstruction)
    (call : Invocation) : Prop where
  data : call.instruction.data = built.data
  encodes : built.data = ikaInstruction.encode meaning
  decodes : ikaInstruction.decode built.data = some (meaning, [])
  unique : ∀ other, ikaInstruction.valid other → ikaInstruction.encode other = built.data →
    other = meaning

structure SameAccounts (ctx : DWalletContext) (owner : PublicKey) (built : TransactionInstruction)
    (call : Invocation) : Prop where
  programId : call.instruction.programId = built.programId
  accounts : call.instruction.accounts = built.keys.flatMap (asProgram ctx owner)

/-- The accounts that a program passes are those that the builder puts by itself. -/
structure ClientCall.NamesAccounts (c : ClientCall) (ID coordinator : PublicKey) : Prop where
  programId : c.programId = ID
  coordinator : c.accounts.coordinator = coordinator
  payer : c.accounts.payer = c.payer.getD c.owner
  systemProgram : c.accounts.systemProgram = systemProgramId

/-- Once the builder's ownership check has passed and the coordinator's address
is found, there is an instruction, and any context of the ika program calls the same. -/
def SameIssue (P : Primitives) (ID : PublicKey)
    (issue : PublicKey → DWalletContext → IssueAccounts → Bytes32 → Bytes32 → UInt16 →
      VoucherKeys → Option (List Bytes) → Except ProgramError Invocation)
    (build : IssueVoucherParams → Except SdkError TransactionInstruction)
    (meaning : IssueVoucher → IkaInstruction) : Prop :=
  ∀ (c : ClientCall) (usable : DWalletUsableResult) (coordinator : PublicKey),
    requireApprovalUsability c.usability c.accounts.dwallet.toBytes = .ok usable →
    coordinatorAddress P c.programId = .ok coordinator →
    ∃ built, build c.params = .ok built ∧
      ∀ (ctx : DWalletContext) (seeds : Option (List Bytes)), ctx.dwalletProgram = ID →
        ∃ call, issue ID ctx c.accounts c.messageDigest c.messageMetadataDigest
            c.signatureScheme c.keys seeds = .ok call ∧
          SameData (meaning c.voucher) built call ∧
          (c.NamesAccounts ID coordinator → SameAccounts ctx c.owner built call)

def SameControl (ID : PublicKey) (ctx : DWalletContext) (owner : PublicKey)
    (invoke : Except ProgramError Invocation) (build : Except String TransactionInstruction)
    (meaning : IkaInstruction) : Prop :=
  ctx.dwalletProgram = ID → ∃ built call, build = .ok built ∧ invoke = .ok call ∧
    SameData meaning built call ∧ SameAccounts ctx owner built call

/-- What a crate and the builders have in common. -/
structure OneFormat (P : Primitives) (ID : PublicKey) (crate : CpiCrate) : Prop where
  issueSignatureVoucher : SameIssue P ID crate.issueSignatureVoucher
    (issueSignatureVoucherInstruction P) .issueSignatureVoucher
  issueFutureSignatureVoucher : SameIssue P ID crate.issueFutureSignatureVoucher
    (issueFutureSignatureVoucherInstruction P) .issueFutureSignatureVoucher
  setVoucherSigningKey : ∀ ctx owner voucher (key : Bytes32),
    SameControl ID ctx owner (crate.setVoucherSigningKey ID ctx voucher key)
      (setVoucherSigningKeyInstruction ID owner voucher key.val) (.setVoucherSigningKey key.val)
  revokeSignatureVoucher : ∀ ctx owner voucher,
    SameControl ID ctx owner (crate.revokeSignatureVoucher ID ctx voucher)
      (revokeSignatureVoucherInstruction ID owner voucher) .revokeSignatureVoucher
  transferSignatureVoucher : ∀ ctx owner voucher (newOwner : Bytes32),
    SameControl ID ctx owner (crate.transferSignatureVoucher ID ctx voucher newOwner)
      (transferSignatureVoucherInstruction ID owner voucher (PublicKey.ofBytes32 newOwner))
      (.transferSignatureVoucher newOwner.val)
  transferDWallet : ∀ ctx owner dwallet (newOwner : Bytes32),
    SameControl ID ctx owner (crate.transferDWallet ID ctx dwallet newOwner)
      (transferOwnershipInstruction ID owner dwallet (PublicKey.ofBytes32 newOwner))
      (.transferOwnership newOwner.val)
  refused : ∀ ctx, ctx.dwalletProgram ≠ ID →
    (∀ accounts digest metadata scheme keys seeds,
      crate.issueSignatureVoucher ID ctx accounts digest metadata scheme keys seeds =
        .error .incorrectProgramId ∧
      crate.issueFutureSignatureVoucher ID ctx accounts digest metadata scheme keys seeds =
        .error .incorrectProgramId) ∧
    (∀ voucher key, crate.setVoucherSigningKey ID ctx voucher key = .error .incorrectProgramId) ∧
    (∀ voucher, crate.revokeSignatureVoucher ID ctx voucher = .error .incorrectProgramId) ∧
    (∀ voucher newOwner, crate.transferSignatureVoucher ID ctx voucher newOwner =
      .error .incorrectProgramId) ∧
    ∀ dwallet newOwner, crate.transferDWallet ID ctx dwallet newOwner =
      .error .incorrectProgramId

/-! ## The bytes -/

theorem voucher_valid (c : ClientCall) : issueVoucher.valid c.voucher := by
  have hscheme := c.signatureScheme.toNat_lt
  have hkey (key : Option Bytes32) : (key.map Subtype.val).all (·.length == 32) := by
    cases key with
    | none => rfl
    | some key => simp [key.property]
  refine Bool.and_eq_true_iff.mpr ⟨?_, Bool.and_eq_true_iff.mpr ⟨?_, ?_⟩⟩
  · simp [Codec.fixedBytes, ClientCall.voucher, c.messageDigest.property]
  · simp [Codec.fixedBytes, ClientCall.voucher, c.messageMetadataDigest.property]
  · refine Bool.and_eq_true_iff.mpr ⟨?_, Bool.and_eq_true_iff.mpr ⟨hkey _, hkey _⟩⟩
    simpa [Codec.uint, ClientCall.voucher] using hscheme

theorem SameData.of_valid {meaning : IkaInstruction} {built : TransactionInstruction}
    {call : Invocation} (hvalid : ikaInstruction.valid meaning)
    (hbuilt : built.data = ikaInstruction.encode meaning)
    (hcall : call.instruction.data = ikaInstruction.encode meaning) :
    SameData meaning built call := by
  have hread (i : IkaInstruction) (hi : ikaInstruction.valid i) :
      ikaInstruction.decode (ikaInstruction.encode i) = some (i, []) := by
    simpa using ikaInstruction.decode_encode i hi []
  refine ⟨hcall.trans hbuilt.symm, hbuilt, hbuilt ▸ hread meaning hvalid, ?_⟩
  intro other hother hencode
  have hsame := hread other hother
  rw [hencode, hbuilt, hread meaning hvalid] at hsame
  exact (congrArg Prod.fst (Option.some.inj hsame)).symm

theorem extend_voucher (c : ClientCall) (discriminator : UInt8) :
    [discriminator] ++ c.messageDigest.val ++ c.messageMetadataDigest.val ++
        toLeBytes c.signatureScheme ++
        [(if c.keys.owner.isSome then 1 else 0) ||| (if c.keys.signingKey.isSome then 2 else 0)] ++
        extend c.keys.owner ++ extend c.keys.signingKey =
      discriminator :: issueVoucher.encode c.voucher := by
  rw [issueVoucher_encode]
  simp [ClientCall.voucher, toLeBytes, extend, keyFlags]

/-! ## The calls of a crate -/

theorem requireIkaProgram_ok {ID : PublicKey} {ctx : DWalletContext}
    (h : ctx.dwalletProgram = ID) : Pinocchio.requireIkaProgram ID ctx = .ok () :=
  if_neg (not_not.mpr h)

theorem requireIkaProgram_error {ID : PublicKey} {ctx : DWalletContext}
    (h : ctx.dwalletProgram ≠ ID) :
    Pinocchio.requireIkaProgram ID ctx = .error .incorrectProgramId :=
  if_pos h

theorem pinocchio_issueVoucher {ID : PublicKey} {ctx : DWalletContext} (c : ClientCall)
    (h : ctx.dwalletProgram = ID) (discriminator : UInt8) (seeds : Option (List Bytes)) :
    ∃ call, Pinocchio.issueVoucher ID ctx discriminator c.accounts c.messageDigest
        c.messageMetadataDigest c.signatureScheme c.keys seeds = .ok call ∧
      call.instruction = ⟨ctx.dwalletProgram, [
        ⟨c.accounts.coordinator, false, false⟩, ⟨c.accounts.signatureVoucher, true, true⟩,
        ⟨c.accounts.dwallet, false, false⟩, ⟨ctx.callerProgram, false, false⟩,
        ⟨ctx.cpiAuthority, true, false⟩, ⟨c.accounts.payer, true, true⟩,
        ⟨c.accounts.systemProgram, false, false⟩],
        discriminator :: issueVoucher.encode c.voucher⟩ := by
  rw [← extend_voucher c discriminator]
  unfold Pinocchio.issueVoucher
  rw [requireIkaProgram_ok h]
  cases seeds with
  | none => exact ⟨_, rfl, rfl⟩
  | some seeds => exact ⟨_, rfl, rfl⟩

theorem pinocchio_voucherControl {ID : PublicKey} {ctx : DWalletContext}
    (h : ctx.dwalletProgram = ID) (discriminator : UInt8) (voucher : PublicKey)
    (key : Option Bytes32) :
    ∃ call, Pinocchio.voucherControl ID ctx discriminator voucher key = .ok call ∧
      call.instruction = ⟨ctx.dwalletProgram, [⟨voucher, false, true⟩,
        ⟨ctx.callerProgram, false, false⟩, ⟨ctx.cpiAuthority, true, false⟩],
        discriminator :: extend key⟩ := by
  unfold Pinocchio.voucherControl
  rw [requireIkaProgram_ok h]
  exact ⟨_, rfl, rfl⟩

theorem pinocchio_transferDWallet {ID : PublicKey} {ctx : DWalletContext}
    (h : ctx.dwalletProgram = ID) (dwallet : PublicKey) (newOwner : Bytes32) :
    ∃ call, Pinocchio.transferDWallet ID ctx dwallet newOwner = .ok call ∧
      call.instruction = ⟨ctx.dwalletProgram, [⟨ctx.callerProgram, false, false⟩,
        ⟨ctx.cpiAuthority, true, false⟩, ⟨dwallet, false, true⟩], 129 :: newOwner.val⟩ := by
  unfold Pinocchio.transferDWallet
  rw [requireIkaProgram_ok h]
  exact ⟨_, rfl, rfl⟩

/-! ## The builders -/

theorem issueSignatureVoucherInstruction_ok {P : Primitives} (c : ClientCall)
    {usable : DWalletUsableResult} {coordinator : PublicKey}
    (husable : requireApprovalUsability c.usability c.accounts.dwallet.toBytes = .ok usable)
    (haddress : coordinatorAddress P c.programId = .ok coordinator) :
    issueSignatureVoucherInstruction P c.params = .ok ⟨c.programId, [
      ⟨coordinator, false, false⟩, ⟨c.accounts.signatureVoucher, true, true⟩,
      ⟨c.accounts.dwallet, false, false⟩, ⟨c.owner, true, false⟩,
      ⟨c.payer.getD c.owner, true, true⟩, ⟨systemProgramId, false, false⟩],
      156 :: issueVoucher.encode c.voucher⟩ := by
  have hbyte : instructionByte "DWalletIssueSignatureVoucher" = .ok 156 := by decide +kernel
  unfold issueSignatureVoucherInstruction
  rw [show requireApprovalUsability c.params.usability c.params.dwallet.toBytes = _ from husable,
    ok_bind, hbyte]
  simp only [issueVoucherData_eq]
  rw [show coordinatorAddress P c.params.programId = _ from haddress]
  rfl

theorem issueFutureSignatureVoucherInstruction_ok {P : Primitives} {params : IssueVoucherParams}
    {programId : PublicKey} {keys : List AccountMeta} {data : Bytes}
    (h : issueSignatureVoucherInstruction P params = .ok ⟨programId, keys, 156 :: data⟩) :
    issueFutureSignatureVoucherInstruction P params = .ok ⟨programId, keys, 161 :: data⟩ := by
  have hbyte : instructionByte "DWalletIssueFutureSignatureVoucher" = .ok 161 := by decide +kernel
  unfold issueFutureSignatureVoucherInstruction
  rw [h, ok_bind, hbyte]
  rfl

theorem asProgram_owner (ctx : DWalletContext) (owner : PublicKey) :
    asProgram ctx owner ⟨owner, true, false⟩ =
      [⟨ctx.callerProgram, false, false⟩, ⟨ctx.cpiAuthority, true, false⟩] :=
  if_pos rfl

/-- Only the owner signs an account that it does not write to. -/
theorem asProgram_other (ctx : DWalletContext) (owner pubkey : PublicKey) {isSigner : Bool}
    {isWritable : Bool} (h : isSigner = isWritable ∨ isWritable = true) :
    asProgram ctx owner ⟨pubkey, isSigner, isWritable⟩ = [⟨pubkey, isSigner, isWritable⟩] := by
  refine if_neg fun heq => ?_
  rw [AccountMeta.mk.injEq] at heq
  obtain ⟨-, rfl, rfl⟩ := heq
  simp at h

/-! ## The crates and the builders -/

theorem issue_sameAccounts {c : ClientCall} {ID coordinator : PublicKey} {ctx : DWalletContext}
    (h : c.NamesAccounts ID coordinator) (hid : ctx.dwalletProgram = ID) {data data' : Bytes}
    {call : Invocation} (hcall : call.instruction = ⟨ctx.dwalletProgram, [
        ⟨c.accounts.coordinator, false, false⟩, ⟨c.accounts.signatureVoucher, true, true⟩,
        ⟨c.accounts.dwallet, false, false⟩, ⟨ctx.callerProgram, false, false⟩,
        ⟨ctx.cpiAuthority, true, false⟩, ⟨c.accounts.payer, true, true⟩,
        ⟨c.accounts.systemProgram, false, false⟩], data⟩) :
    SameAccounts ctx c.owner ⟨c.programId, [
      ⟨coordinator, false, false⟩, ⟨c.accounts.signatureVoucher, true, true⟩,
      ⟨c.accounts.dwallet, false, false⟩, ⟨c.owner, true, false⟩,
      ⟨c.payer.getD c.owner, true, true⟩, ⟨systemProgramId, false, false⟩], data'⟩ call := by
  obtain ⟨hprogram, hcoordinator, hpayer, hsystem⟩ := h
  refine ⟨?_, ?_⟩
  · rw [hcall, hid, hprogram]
  · rw [hcall, hcoordinator, hpayer, hsystem]
    simp [asProgram_owner, asProgram_other]

theorem SameControl.of_instruction {ID : PublicKey} {ctx : DWalletContext} {owner : PublicKey}
    {invoke : Except ProgramError Invocation} {build : Except String TransactionInstruction}
    {meaning : IkaInstruction} {keys accounts : List AccountMeta}
    (hvalid : ikaInstruction.valid meaning)
    (hbuild : build = .ok ⟨ID, keys, ikaInstruction.encode meaning⟩)
    (hinvoke : ctx.dwalletProgram = ID → ∃ call, invoke = .ok call ∧
      call.instruction = ⟨ctx.dwalletProgram, accounts, ikaInstruction.encode meaning⟩)
    (haccounts : accounts = keys.flatMap (asProgram ctx owner)) :
    SameControl ID ctx owner invoke build meaning := by
  intro hid
  obtain ⟨call, hcall, hinstruction⟩ := hinvoke hid
  refine ⟨_, call, hbuild, hcall, SameData.of_valid hvalid rfl ?_, ?_, ?_⟩
  · rw [hinstruction]
  · rw [hinstruction, hid]
  · rw [hinstruction, haccounts]

theorem voucherControl_accounts (ctx : DWalletContext) (owner voucher : PublicKey) :
    [⟨voucher, false, true⟩, ⟨ctx.callerProgram, false, false⟩, ⟨ctx.cpiAuthority, true, false⟩] =
      [(⟨voucher, false, true⟩ : AccountMeta), ⟨owner, true, false⟩].flatMap
        (asProgram ctx owner) := by
  simp [asProgram_owner, asProgram_other]

theorem pinocchio_oneFormat (P : Primitives) (ID : PublicKey) : OneFormat P ID pinocchio where
  issueSignatureVoucher c usable coordinator husable haddress := by
    refine ⟨_, issueSignatureVoucherInstruction_ok c husable haddress, fun ctx seeds hid => ?_⟩
    obtain ⟨call, hcall, hinstruction⟩ := pinocchio_issueVoucher c hid 156 seeds
    refine ⟨call, hcall, SameData.of_valid (voucher_valid c) rfl ?_, fun hnames =>
      issue_sameAccounts hnames hid hinstruction⟩
    rw [hinstruction]
    rfl
  issueFutureSignatureVoucher c usable coordinator husable haddress := by
    have hbuilt := issueSignatureVoucherInstruction_ok c husable haddress
    refine ⟨_, issueFutureSignatureVoucherInstruction_ok hbuilt, fun ctx seeds hid => ?_⟩
    obtain ⟨call, hcall, hinstruction⟩ := pinocchio_issueVoucher c hid 161 seeds
    refine ⟨call, hcall, SameData.of_valid (voucher_valid c) rfl ?_, fun hnames =>
      issue_sameAccounts hnames hid hinstruction⟩
    rw [hinstruction]
    rfl
  setVoucherSigningKey ctx owner voucher key := by
    have hbyte : instructionByte "DWalletSetVoucherSigningKey" = .ok 157 := by decide +kernel
    refine .of_instruction (beq_iff_eq.mpr key.property) ?_
      (fun hid => pinocchio_voucherControl hid 157 voucher (some key))
      (voucherControl_accounts ctx owner voucher)
    rw [setVoucherSigningKeyInstruction, keyedData_eq hbyte key.property]
    rfl
  revokeSignatureVoucher ctx owner voucher := by
    have hbyte : instructionByte "DWalletRevokeSignatureVoucher" = .ok 158 := by decide +kernel
    refine .of_instruction rfl ?_ (fun hid => pinocchio_voucherControl hid 158 voucher none)
      (voucherControl_accounts ctx owner voucher)
    rw [revokeSignatureVoucherInstruction, hbyte]
    rfl
  transferSignatureVoucher ctx owner voucher newOwner := by
    have hbyte : instructionByte "DWalletTransferSignatureVoucher" = .ok 159 := by decide +kernel
    have hlength := (PublicKey.ofBytes32 newOwner).length_eq
    refine .of_instruction (beq_iff_eq.mpr newOwner.property) ?_
      (fun hid => pinocchio_voucherControl hid 159 voucher (some newOwner))
      (voucherControl_accounts ctx owner voucher)
    rw [transferSignatureVoucherInstruction, keyedData_eq hbyte hlength]
    rfl
  transferDWallet ctx owner dwallet newOwner := by
    have hbyte : instructionByte "DWalletTransferOwnership" = .ok 129 := by decide +kernel
    have hlength := (PublicKey.ofBytes32 newOwner).length_eq
    refine @SameControl.of_instruction _ _ _ _ _ _ [⟨owner, true, false⟩, ⟨dwallet, false, true⟩] _
      (beq_iff_eq.mpr newOwner.property) ?_
      (fun hid => pinocchio_transferDWallet hid dwallet newOwner) ?_
    · rw [transferOwnershipInstruction, keyedData_eq hbyte hlength]
      rfl
    · simp [asProgram_owner, asProgram_other]
  refused ctx hid := by
    have hrefused := requireIkaProgram_error hid
    have hissue (discriminator accounts digest metadata scheme keys seeds) :
        Pinocchio.issueVoucher ID ctx discriminator accounts digest metadata scheme keys seeds =
          .error .incorrectProgramId := by
      unfold Pinocchio.issueVoucher
      rw [hrefused]
      rfl
    have hcontrol (discriminator voucher key) :
        Pinocchio.voucherControl ID ctx discriminator voucher key =
          .error .incorrectProgramId := by
      unfold Pinocchio.voucherControl
      rw [hrefused]
      rfl
    refine ⟨fun accounts digest metadata scheme keys seeds => ⟨?_, ?_⟩, fun voucher key => ?_,
      fun voucher => ?_, fun voucher newOwner => ?_, fun dwallet newOwner => ?_⟩
    · exact hissue 156 accounts digest metadata scheme keys seeds
    · exact hissue 161 accounts digest metadata scheme keys seeds
    · exact hcontrol 157 voucher (some key)
    · exact hcontrol 158 voucher none
    · exact hcontrol 159 voucher (some newOwner)
    · show Pinocchio.transferDWallet ID ctx dwallet newOwner = _
      unfold Pinocchio.transferDWallet
      rw [hrefused]
      rfl

/-- The three crates and the builders speak one instruction format. -/
theorem crates_oneFormat (P : Primitives) (ID : PublicKey) :
    OneFormat P ID pinocchio ∧ OneFormat P ID native ∧ OneFormat P ID anchor := by
  have hpinocchio := pinocchio_oneFormat P ID
  refine ⟨hpinocchio, ?_, ?_⟩
  · rw [native_eq]
    exact hpinocchio
  · rw [anchor_eq]
    exact hpinocchio

def sampleKey : PublicKey := ⟨List.replicate 32 7, rfl⟩

theorem sampleKey_length : sampleKey.toBytes.length = 32 := rfl

theorem emptyMetadata_length : (List.replicate 32 (0 : UInt8)).length = 32 := rfl

/-- A checked dWallet, and a voucher of the client's own with no signing key. -/
def sampleClientCall : ClientCall where
  programId := sampleKey
  owner := sampleKey
  payer := none
  usability := ⟨[1], some ⟨.solana, sampleKey.toBytes, [1]⟩, none⟩
  accounts := ⟨sampleKey, sampleKey, sampleKey, sampleKey, systemProgramId⟩
  messageDigest := ⟨sampleKey.toBytes, sampleKey_length⟩
  messageMetadataDigest := ⟨List.replicate 32 0, emptyMetadata_length⟩
  signatureScheme := 3
  keys := ⟨some ⟨sampleKey.toBytes, sampleKey_length⟩, none⟩

theorem crates_oneFormat_sample : ∃ built call,
    issueSignatureVoucherInstruction samplePrimitives sampleClientCall.params = .ok built ∧
    Anchor.issueSignatureVoucher sampleKey ⟨sampleKey, sampleKey, sampleKey, 255⟩
        sampleClientCall.accounts sampleClientCall.messageDigest
        sampleClientCall.messageMetadataDigest sampleClientCall.signatureScheme
        sampleClientCall.keys none = .ok call ∧
      call.instruction.data = built.data ∧ built.data.length = 100 := by
  have hfound : (coordinatorAddress samplePrimitives sampleKey).isOk = true := by decide +kernel
  obtain ⟨coordinator, haddress⟩ : ∃ coordinator,
      coordinatorAddress samplePrimitives sampleKey = .ok coordinator := by
    cases haddress : coordinatorAddress samplePrimitives sampleKey with
    | error e => rw [haddress] at hfound; cases hfound
    | ok coordinator => exact ⟨coordinator, rfl⟩
  obtain ⟨hpinocchio, hnative, hanchor⟩ := crates_oneFormat samplePrimitives sampleKey
  obtain ⟨built, hbuilt, hcalls⟩ := hanchor.issueSignatureVoucher sampleClientCall
    ⟨.solana, sampleKey.toBytes, [1]⟩ coordinator (by rfl) haddress
  obtain ⟨call, hcall, hdata, -⟩ := hcalls ⟨sampleKey, sampleKey, sampleKey, 255⟩ none rfl
  refine ⟨built, call, hbuilt, hcall, hdata.data, ?_⟩
  rw [hdata.encodes]
  rfl

end Ika.Crates
