import IkaSdk.Core.Common.SessionLookup
import Mathlib.Data.Set.Function

/-! The records on a chain, and what the lookup of a session answers over a
reader that tells the truth about them. -/

namespace Ika

open Wire Interaction Eff

/-! ## Chain states -/

/-- A charge record. The node has more sources of charges than a lookup names. -/
structure GasCharge where
  transportKey : Bytes
  source : String
  id : Bytes
  id_length : id.length = 32

/-- The bytes whose hash is the id of the charge. -/
def GasCharge.preimage (charge : GasCharge) : Bytes :=
  gasChargeBcs.encode (textBytes "IkaGasCharge", textBytes charge.source, charge.id)

structure DWalletOnChain where
  publicShare : Bool
  shareHolders : List Bytes
deriving DecidableEq, Repr

structure ChainRecords where
  charges : List GasCharge
  signatures : Bytes → Option Bytes
  futureVouchers : Bytes → Option FutureVoucher
  dwallets : DWalletLookup → Option DWalletOnChain

def OutcomeRecord.On (state : ChainRecords) (transportKey : Bytes) : OutcomeRecord → Prop
  | charge source id => ∃ charge ∈ state.charges,
      charge.transportKey = transportKey ∧ charge.source = source.name ∧ charge.id = id
  | voucherSignature voucher => (state.signatures voucher).isSome
  | stepOne voucher => ((state.futureVouchers voucher).bind (·.stepOneSession)).isSome
  | futureSignature voucher => ((state.futureVouchers voucher).bind (·.signature)).isSome
  | closedVoucher voucher => (state.futureVouchers voucher).any (·.closed)
  | publicShare lookup => (state.dwallets lookup).any (·.publicShare)
  | encryptedShare lookup holder => (state.dwallets lookup).any (holder ∈ ·.shareHolders)
  | dwallet lookup => (state.dwallets lookup).isSome

/-! ## Truthful readers -/

section Truth

variable (P : Primitives) {H : Type} (lookupOf : H → DWalletLookup) (state : ChainRecords)

/-- What a read says is so on the chain. The share functions of a record are
those of the dWallet it was read for. -/
def ReadTruth : (op : RecordOp H) → op.Read → Prop
  | .hasGasCharge transportKey chargeId, held => held = true ↔ ∃ charge ∈ state.charges,
      charge.transportKey = transportKey ∧ P.keccak256 charge.preimage = chargeId
  | .voucherSignature voucher, read => read = state.signatures voucher
  | .futureVoucher voucher, read => read = state.futureVouchers voucher
  | .readDWallet lookup, read => read.isSome = (state.dwallets lookup).isSome ∧
      ∀ record ∈ read, lookupOf record.handle = lookup
  | .readEncryptedShare record holder, read =>
    read.isSome = (state.dwallets (lookupOf record)).any (holder ∈ ·.shareHolders)
  | .readPublicShare record, read =>
    read.isSome = (state.dwallets (lookupOf record)).any (·.publicShare)

/-- A read that may fail, and else tells the truth. -/
def TellsTruth (e : Event (recordInterface H)) : Prop :=
  ∀ read, e.ans = .ok read → ReadTruth P lookupOf state e.op read

def AnswersTruly (e : Event (recordInterface H)) : Prop :=
  ∃ read, e.ans = .ok read ∧ ReadTruth P lookupOf state e.op read

end Truth

variable {P : Primitives} {H : Type} {lookupOf : H → DWalletLookup} {state : ChainRecords}

theorem gasChargeId_ok {source : GasChargeSource} {id chargeId : Bytes}
    (h : gasChargeId P source id = .ok chargeId) : id.length = 32 ∧ chargeId =
      P.keccak256 (gasChargeBcs.encode (textBytes "IkaGasCharge", textBytes source.name, id)) := by
  obtain ⟨bytes, hbytes, rfl⟩ := map_ok h
  obtain ⟨hvalid, rfl⟩ := Codec.serialize_ok hbytes
  have hid : (Codec.fixedBytes 32).valid id := by
    simpa [gasChargeBcs, Codec.pair, Codec.byteVector] using hvalid
  exact ⟨by simpa [Codec.fixedBytes] using hid, rfl⟩

/-- Reads that each tell the truth of a state the record is on do not report it
absent. -/
theorem OutcomeRecord.ReadAbsent.not_all_on {record : OutcomeRecord} {transportKey : Bytes}
    {tr : List (Event (recordInterface H))} (h : record.ReadAbsent P transportKey tr)
    (htruth : ∀ e ∈ tr, ∃ state, TellsTruth P lookupOf state e ∧ record.On state transportKey) :
    False := by
  cases record with
  | charge source id =>
    obtain ⟨chargeId, hid, hmem⟩ := h
    obtain ⟨state, htells, charge, hcharge, hkey, hsource, rfl⟩ := htruth _ hmem
    have hread : false = true ↔ _ := htells false rfl
    have hpreimage : P.keccak256 charge.preimage = chargeId := by
      rw [(gasChargeId_ok hid).2, GasCharge.preimage, hsource]
    cases hread.mpr ⟨charge, hcharge, hkey, hpreimage⟩
  | voucherSignature voucher =>
    obtain ⟨state, htells, hon⟩ := htruth _ h
    have hread : none = state.signatures voucher := htells none rfl
    simp [On, ← hread] at hon
  | stepOne voucher =>
    obtain ⟨read, hmem, habsent⟩ := h
    obtain ⟨state, htells, hon⟩ := htruth _ hmem
    have hread : read = state.futureVouchers voucher := htells read rfl
    simp [On, ← hread, habsent] at hon
  | futureSignature voucher =>
    obtain ⟨read, hmem, habsent⟩ := h
    obtain ⟨state, htells, hon⟩ := htruth _ hmem
    have hread : read = state.futureVouchers voucher := htells read rfl
    simp [On, ← hread, habsent] at hon
  | closedVoucher voucher =>
    obtain ⟨read, hmem, habsent⟩ := h
    obtain ⟨state, htells, hon⟩ := htruth _ hmem
    have hread : read = state.futureVouchers voucher := htells read rfl
    rw [On, ← hread, habsent] at hon
    cases hon
  | publicShare lookup =>
    rcases h with hmem | ⟨record, hmem, hshare⟩
    · obtain ⟨state, htells, hon⟩ := htruth _ hmem
      have hread : false = (state.dwallets lookup).isSome := (htells none rfl).1
      have hnone : state.dwallets lookup = none := by simpa using hread.symm
      simp [On, hnone] at hon
    · obtain ⟨_, htells, -⟩ := htruth _ hmem
      have hlookup : lookupOf record.handle = lookup := (htells (some record) rfl).2 record rfl
      obtain ⟨state, hshareTells, hon⟩ := htruth _ hshare
      have hread : false = (state.dwallets (lookupOf record.handle)).any (·.publicShare) :=
        hshareTells none rfl
      rw [hlookup] at hread
      rw [On, ← hread] at hon
      cases hon
  | encryptedShare lookup holder =>
    rcases h with hmem | ⟨record, hmem, hshare⟩
    · obtain ⟨state, htells, hon⟩ := htruth _ hmem
      have hread : false = (state.dwallets lookup).isSome := (htells none rfl).1
      have hnone : state.dwallets lookup = none := by simpa using hread.symm
      simp [On, hnone] at hon
    · obtain ⟨_, htells, -⟩ := htruth _ hmem
      have hlookup : lookupOf record.handle = lookup := (htells (some record) rfl).2 record rfl
      obtain ⟨state, hshareTells, hon⟩ := htruth _ hshare
      have hread : false =
          (state.dwallets (lookupOf record.handle)).any (holder ∈ ·.shareHolders) :=
        hshareTells none rfl
      rw [hlookup] at hread
      rw [On, ← hread] at hon
      cases hon
  | dwallet lookup =>
    obtain ⟨state, htells, hon⟩ := htruth _ h
    have hread : false = (state.dwallets lookup).isSome := (htells none rfl).1
    rw [On, ← hread] at hon
    cases hon

/-- What truthful reads report absent is not on the chain. -/
theorem OutcomeRecord.ReadAbsent.not_on {record : OutcomeRecord} {transportKey : Bytes}
    {tr : List (Event (recordInterface H))} (h : record.ReadAbsent P transportKey tr)
    (htruth : ∀ e ∈ tr, TellsTruth P lookupOf state e) : ¬record.On state transportKey :=
  fun hon => h.not_all_on fun e he => ⟨state, htruth e he, hon⟩

/-! ## A truthful reader -/

/-- A reader that answers from the chain state, whose records are lookups. -/
def truthfulReader (P : Primitives) (state : ChainRecords) :
    ∀ op : RecordOp DWalletLookup, Except SdkError op.Read
  | .hasGasCharge transportKey chargeId => .ok (decide (∃ charge ∈ state.charges,
      charge.transportKey = transportKey ∧ P.keccak256 charge.preimage = chargeId))
  | .voucherSignature voucher => .ok (state.signatures voucher)
  | .futureVoucher voucher => .ok (state.futureVouchers voucher)
  | .readDWallet lookup => .ok ((state.dwallets lookup).map fun _ =>
      ⟨lookup, [], [], ⟨[], 0, [], []⟩, false⟩)
  | .readEncryptedShare lookup holder =>
    .ok (if (state.dwallets lookup).any (holder ∈ ·.shareHolders) then
      some { toAttestationRecord := ⟨[], 0, [], []⟩, acceptanceGiven := false } else none)
  | .readPublicShare lookup =>
    .ok (if (state.dwallets lookup).any (·.publicShare) then some ⟨[], 0, [], []⟩ else none)

theorem truthfulReader_answersTruly (P : Primitives) (state : ChainRecords)
    (e : Event (recordInterface DWalletLookup)) (h : e.ans = truthfulReader P state e.op) :
    AnswersTruly P id state e := by
  obtain ⟨op, ans⟩ := e
  obtain rfl : ans = truthfulReader P state op := h
  cases op with
  | hasGasCharge transportKey chargeId => exact ⟨_, rfl, decide_eq_true_iff⟩
  | voucherSignature voucher => exact ⟨_, rfl, rfl⟩
  | futureVoucher voucher => exact ⟨_, rfl, rfl⟩
  | readDWallet lookup =>
    refine ⟨_, rfl, by simp, fun record hrecord => ?_⟩
    obtain ⟨_, -, rfl⟩ := Option.map_eq_some_iff.mp hrecord
    rfl
  | readEncryptedShare lookup holder =>
    refine ⟨_, rfl, ?_⟩
    simp only [ReadTruth, id]
    split <;> simp_all
  | readPublicShare lookup =>
    refine ⟨_, rfl, ?_⟩
    simp only [ReadTruth, id]
    split <;> simp_all

/-- Every lookup has a run over the truthful reader. -/
theorem exists_truthful_run (P : Primitives) (state : ChainRecords) (pending : PendingRequest)
    (shares : Bool) : ∃ tr outcome, Prog.Returns (findSession P pending shares).run tr outcome ∧
      ∀ e ∈ tr, AnswersTruly P id state e := by
  obtain ⟨⟨tr, outcome⟩, hrun⟩ := total_findSession.transcript
    (I := recordInterface DWalletLookup) (fun _ op => truthfulReader P state op) 0
  refine ⟨tr, outcome, Prog.returns_of_transcript hrun, fun e he => ?_⟩
  obtain ⟨_, hans⟩ := Prog.mem_transcript hrun he
  exact truthfulReader_answersTruly P state e hans

/-! ## A lookup over a chain without records of the session -/

/-- The preimages of the charge ids on the chain and of those that a lookup asks
for. -/
def chargePreimages (P : Primitives) (state : ChainRecords) (pending : PendingRequest) :
    Set Bytes :=
  {bytes | (∃ charge ∈ state.charges, bytes = charge.preimage) ∨
    ∃ source id, OutcomeRecord.charge source id ∈ outcomeRecords P pending ∧
      gasChargePreimage source.name id = .ok bytes}

/-- The settled item id of the share commit that a request ends in. -/
def PendingRequestKind.shareCommit : PendingRequestKind → Option Bytes
  | .makeSharePublic _ shareCommitItemId => some shareCommitItemId
  | .reEncryptShare _ _ shareCommitItemId => some shareCommitItemId
  | _ => none

/-- What the callers of a lookup give it: identifiers of 32 bytes, and the share
reader for a make-public and a re-encryption. -/
structure Lookable (pending : PendingRequest) (shares : Bool) : Prop where
  session : pending.sessionIdentifier.length = 32
  item : ∀ id ∈ pending.kind.shareCommit, id.length = 32
  shares : pending.kind.shareCommit.isSome → shares = true

/-- No record of any outcome of the session is on the chain. -/
structure NothingLeft (P : Primitives) (state : ChainRecords) (pending : PendingRequest) :
    Prop where
  findable : pending.kind.createsDWallet = false
  absent : ∀ record ∈ outcomeRecords P pending, ¬record.On state pending.transportKey
  voucher : ∀ voucher, pending.kind = .futureSignStepOne voucher →
    (state.futureVouchers voucher).isSome

theorem yields_readRecord (op : RecordOp H) :
    Yields (AnswersTruly P lookupOf state) (readRecord op) (ReadTruth P lookupOf state op) := by
  intro tr r hr hall
  obtain ⟨answer, tr', rfl, hpure⟩ := Prog.returns_call_iff.mp hr
  obtain ⟨rfl, rfl⟩ := Prog.returns_pure_iff.mp hpure
  exact hall ⟨op, answer⟩ List.mem_cons_self

section NotRun

variable {pending : PendingRequest} {shares : Bool} {more : List (GasChargeSource × Bytes)}

theorem gasChargePreimage_eq {source : GasChargeSource} {id : Bytes} (h : id.length = 32) :
    gasChargePreimage source.name id =
      .ok (gasChargeBcs.encode (textBytes "IkaGasCharge", textBytes source.name, id)) := by
  have hvalid : gasChargeBcs.valid (textBytes "IkaGasCharge", textBytes source.name, id) := by
    simp [gasChargeBcs, Codec.pair, Codec.byteVector, Codec.fixedBytes, h]
  exact if_pos hvalid

theorem textBytes_inj {s t : String} (h : textBytes s = textBytes t) : s = t := by
  have hdata : s.toUTF8.data = t.toUTF8.data := Array.toList_inj.mp h
  exact String.toByteArray_inj.mp (ByteArray.ext hdata)

theorem GasCharge.preimage_inj {charge : GasCharge} {source : String} {id : Bytes}
    (hid : id.length = 32) (h : charge.preimage =
      gasChargeBcs.encode (textBytes "IkaGasCharge", textBytes source, id)) :
    charge.source = source ∧ charge.id = id := by
  have hvalid : ∀ (name : String) (id : Bytes), id.length = 32 →
      gasChargeBcs.valid (textBytes "IkaGasCharge", textBytes name, id) := by
    intro name id hlength
    simp [gasChargeBcs, Codec.pair, Codec.byteVector, Codec.fixedBytes, hlength]
  have heq := gasChargeBcs.encode_inj (hvalid _ _ charge.id_length) (hvalid _ _ hid) h
  simp only [Prod.mk.injEq, true_and] at heq
  exact ⟨textBytes_inj heq.1, heq.2⟩

/-- A charge of the session that is not on the chain is not reported held: no
other charge has its id. -/
theorem held_false (hcollision : Set.InjOn P.keccak256 (chargePreimages P state pending))
    {source : GasChargeSource} {id chargeId : Bytes} (hid : id.length = 32)
    (hchargeId : gasChargeId P source id = .ok chargeId)
    (hrecord : .charge source id ∈ outcomeRecords P pending)
    (habsent : ¬(OutcomeRecord.charge source id).On state pending.transportKey) {held : Bool}
    (htruth : held = true ↔ ∃ charge ∈ state.charges,
      charge.transportKey = pending.transportKey ∧ P.keccak256 charge.preimage = chargeId) :
    held = false := by
  by_contra hheld
  obtain ⟨charge, hcharge, hkey, hhash⟩ := htruth.mp (by simpa using hheld)
  rw [(gasChargeId_ok hchargeId).2] at hhash
  have hpreimage := hcollision (.inl ⟨charge, hcharge, rfl⟩)
    (.inr ⟨source, id, hrecord, gasChargePreimage_eq hid⟩) hhash
  obtain ⟨hsource, hsame⟩ := GasCharge.preimage_inj hid hpreimage
  exact habsent ⟨charge, hcharge, hkey, hsource, hsame⟩

theorem yields_heldCharge
    (hcollision : Set.InjOn P.keccak256 (chargePreimages P state pending))
    (habsent : ∀ record ∈ outcomeRecords P pending, ¬record.On state pending.transportKey)
    {charges : List (GasChargeSource × Bytes)}
    (hcharges : ∀ charge ∈ charges, charge.2.length = 32 ∧
      .charge charge.1 charge.2 ∈ outcomeRecords P pending) :
    Yields (AnswersTruly P lookupOf state) (heldCharge P pending.transportKey charges)
      (· = none) := by
  induction charges with
  | nil => exact yields_pure rfl
  | cons charge rest ih =>
    obtain ⟨⟨hid, hrecord⟩, hrest⟩ := List.forall_mem_cons.mp hcharges
    obtain ⟨chargeId, hchargeId⟩ : ∃ chargeId, gasChargeId P charge.1 charge.2 = .ok chargeId :=
      ⟨_, by rw [gasChargeId, gasChargePreimage_eq hid]; rfl⟩
    have hlifted : fromPackage (gasChargeId P charge.1 charge.2) = .ok chargeId := by
      rw [hchargeId]
      rfl
    refine yields_lift_bind hlifted (yields_bind (yields_readRecord _) fun held htruth => ?_)
    obtain rfl : held = false :=
      held_false hcollision hid hchargeId hrecord (habsent _ hrecord) htruth
    refine yields_bind (ih hrest) ?_
    rintro _ rfl
    exact yields_pure rfl

theorem yields_ranOr (hcollision : Set.InjOn P.keccak256 (chargePreimages P state pending))
    (hsession : pending.sessionIdentifier.length = 32)
    (habsent : ∀ record ∈ outcomeRecords P pending, ¬record.On state pending.transportKey)
    (hmore : ∀ charge ∈ more, charge.2.length = 32 ∧
      .charge charge.1 charge.2 ∈ kindRecords P pending.sessionIdentifier pending.kind) :
    Yields (AnswersTruly P lookupOf state) (ranOr P pending .notRun more) (· = .notRun) := by
  have hcharges : ∀ charge ∈ sessionCharges pending.sessionIdentifier ++ more,
      charge.2.length = 32 ∧ .charge charge.1 charge.2 ∈ outcomeRecords P pending := by
    intro charge hcharge
    rcases List.mem_append.mp hcharge with hown | hother
    · refine ⟨?_, List.mem_append_left _ (List.mem_map.mpr ⟨charge, hown, rfl⟩)⟩
      obtain ⟨source, -, rfl⟩ := List.mem_map.mp hown
      exact hsession
    · exact ⟨(hmore charge hother).1, List.mem_append_right _ (hmore charge hother).2⟩
  have hcharged : Yields (AnswersTruly P lookupOf state) (charged P pending more)
      (· = none) := by
    refine yields_bind (yields_heldCharge hcollision habsent hcharges) ?_
    rintro _ rfl
    exact yields_pure rfl
  refine yields_bind hcharged ?_
  rintro _ rfl
  exact yields_pure rfl

theorem signatureCommitItemId_eq (h : pending.sessionIdentifier.length = 32) :
    signatureCommitItemId P pending.sessionIdentifier =
      .ok (signatureCommitItem P pending.sessionIdentifier) := by
  have hvalid : signatureCommitBcs.valid
      (textBytes "IkaSignatureCommit", pending.sessionIdentifier) := by
    simp [signatureCommitBcs, Codec.pair, Codec.byteVector, Codec.fixedBytes, h]
  rw [signatureCommitItemId, Codec.serialize, if_pos hvalid]
  rfl

theorem yields_findSignature
    (hcollision : Set.InjOn P.keccak256 (chargePreimages P state pending))
    (hsession : pending.sessionIdentifier.length = 32)
    (habsent : ∀ record ∈ outcomeRecords P pending, ¬record.On state pending.transportKey)
    (hrecord : .charge .givenUpSignature (signatureCommitItem P pending.sessionIdentifier) ∈
      kindRecords P pending.sessionIdentifier pending.kind) :
    Yields (AnswersTruly P lookupOf state) (findSignature P pending none) (· = .notRun) := by
  have hitem : fromPackage (signatureCommitItemId P pending.sessionIdentifier) =
      .ok (signatureCommitItem P pending.sessionIdentifier) := by
    rw [signatureCommitItemId_eq hsession]
    rfl
  refine yields_lift_bind hitem (yields_ranOr hcollision hsession habsent ?_)
  exact List.forall_mem_singleton.mpr ⟨P.keccak256_length _, hrecord⟩

theorem yields_dwalletRecord (hshares : shares = true) (dwallet : DWalletLookup) :
    Yields (AnswersTruly P lookupOf state) (dwalletRecord (H := H) shares dwallet)
      (ReadTruth P lookupOf state (.readDWallet dwallet)) :=
  yields_lift_bind (ensure_of hshares) (yields_readRecord _)

theorem yields_publicShareOf (hshares : shares = true) {dwallet : DWalletLookup}
    (habsent : ¬(OutcomeRecord.publicShare dwallet).On state pending.transportKey) :
    Yields (AnswersTruly P lookupOf state) (publicShareOf (H := H) shares dwallet)
      (· = false) := by
  refine yields_bind (yields_dwalletRecord hshares dwallet) fun record htruth => ?_
  cases record with
  | none => exact yields_pure rfl
  | some record =>
    refine yields_bind (yields_readRecord _) fun share hshare => yields_pure ?_
    have hlookup : lookupOf record.handle = dwallet := htruth.2 record rfl
    have hpublic : share.isSome =
        (state.dwallets (lookupOf record.handle)).any (·.publicShare) := hshare
    rw [hpublic, hlookup]
    simpa [OutcomeRecord.On] using habsent

theorem yields_encryptedShareOf (hshares : shares = true) {dwallet : DWalletLookup}
    {newHolder : Bytes}
    (habsent : ¬(OutcomeRecord.encryptedShare dwallet newHolder).On state pending.transportKey) :
    Yields (AnswersTruly P lookupOf state)
      (encryptedShareOf (H := H) shares dwallet newHolder) (· = false) := by
  refine yields_bind (yields_dwalletRecord hshares dwallet) fun record htruth => ?_
  cases record with
  | none => exact yields_pure rfl
  | some record =>
    refine yields_bind (yields_readRecord _) fun share hshare => yields_pure ?_
    have hlookup : lookupOf record.handle = dwallet := htruth.2 record rfl
    have hheld : share.isSome =
        (state.dwallets (lookupOf record.handle)).any (newHolder ∈ ·.shareHolders) := hshare
    rw [hheld, hlookup]
    simpa [OutcomeRecord.On] using habsent

/-- Over a chain with no record of the session, truthful reads give `notRun`. -/
theorem yields_findSession
    (hcollision : Set.InjOn P.keccak256 (chargePreimages P state pending))
    (hlookable : Lookable pending shares) (hleft : NothingLeft P state pending) :
    Yields (AnswersTruly P lookupOf state) (findSession P pending shares) (· = .notRun) := by
  obtain ⟨hsession, hitem, hshares⟩ := hlookable
  obtain ⟨hfindable, habsent, hvoucher⟩ := hleft
  have hown : ∀ record ∈ kindRecords P pending.sessionIdentifier pending.kind,
      ¬record.On state pending.transportKey :=
    fun record hrecord => habsent record (List.mem_append_right _ hrecord)
  unfold findSession
  cases hkind : pending.kind with
  | presign =>
    refine yields_ranOr hcollision hsession habsent (List.forall_mem_singleton.mpr ⟨hsession, ?_⟩)
    simp [hkind, kindRecords]
  | sign voucher =>
    refine yields_bind (yields_readRecord _) ?_
    rintro signature (rfl : signature = state.signatures voucher)
    have hnone : ¬(OutcomeRecord.voucherSignature voucher).On state pending.transportKey :=
      hown _ (by simp [hkind, kindRecords])
    rw [show state.signatures voucher = none by simpa [OutcomeRecord.On] using hnone]
    exact yields_findSignature hcollision hsession habsent (by simp [hkind, kindRecords])
  | futureSignStepOne voucher =>
    obtain ⟨read, hread⟩ := Option.isSome_iff_exists.mp (hvoucher voucher hkind)
    have hstep : ¬(OutcomeRecord.stepOne voucher).On state pending.transportKey :=
      hown _ (by simp [hkind, kindRecords])
    have hsignature : ¬(OutcomeRecord.futureSignature voucher).On state pending.transportKey :=
      hown _ (by simp [hkind, kindRecords])
    have hclosed : ¬(OutcomeRecord.closedVoucher voucher).On state pending.transportKey :=
      hown _ (by simp [hkind, kindRecords])
    refine yields_bind (yields_readRecord _) ?_
    rintro answer (rfl : answer = state.futureVouchers voucher)
    simp only [OutcomeRecord.On, hread, Option.bind_some, Option.any_some]
      at hstep hsignature hclosed
    rw [hread]
    show Yields _ (findStepOne P pending read) _
    unfold findStepOne
    rw [show read.stepOneSession = none by simpa using hstep]
    dsimp only
    rw [if_neg hsignature, if_neg hclosed]
    exact yields_ranOr hcollision hsession habsent (by simp)
  | futureSignCompletion voucher =>
    refine yields_bind (yields_readRecord _) ?_
    rintro answer (rfl : answer = state.futureVouchers voucher)
    have hnone : ¬(OutcomeRecord.futureSignature voucher).On state pending.transportKey :=
      hown _ (by simp [hkind, kindRecords])
    rw [show (state.futureVouchers voucher).bind (·.signature) = none by
      simpa [OutcomeRecord.On] using hnone]
    exact yields_findSignature hcollision hsession habsent (by simp [hkind, kindRecords])
  | makeSharePublic dwallet shareCommitItemId =>
    rw [hkind] at hitem hshares
    refine yields_bind (yields_publicShareOf (hshares rfl)
      (hown (.publicShare dwallet) (by simp [hkind, kindRecords]))) ?_
    rintro _ rfl
    refine yields_ranOr hcollision hsession habsent
      (List.forall_mem_singleton.mpr ⟨hitem _ rfl, ?_⟩)
    simp [hkind, kindRecords]
  | reEncryptShare dwallet newHolder shareCommitItemId =>
    rw [hkind] at hitem hshares
    refine yields_bind (yields_encryptedShareOf (hshares rfl)
      (hown (.encryptedShare dwallet newHolder) (by simp [hkind, kindRecords]))) ?_
    rintro _ rfl
    refine yields_ranOr hcollision hsession habsent
      (List.forall_mem_singleton.mpr ⟨hitem _ rfl, ?_⟩)
    simp [hkind, kindRecords]
  | dkg dwallet => simp [hkind, PendingRequestKind.createsDWallet] at hfindable
  | importedKey dwallet => simp [hkind, PendingRequestKind.createsDWallet] at hfindable

/-- A lookup over a truthful reader answers that the session never ran only if
no record of its outcomes is on the chain, and then it does, once its reads
answer. -/
theorem findSession_notRun_exactly
    (hcollision : Set.InjOn P.keccak256 (chargePreimages P state pending)) :
    (∀ tr, (∀ e ∈ tr, TellsTruth P lookupOf state e) →
      Gives (findSession P pending shares) tr .notRun → NothingLeft P state pending) ∧
    (Lookable pending shares → NothingLeft P state pending →
      ∀ tr outcome, Prog.Returns (findSession P pending shares).run tr outcome →
        (∀ e ∈ tr, AnswersTruly P lookupOf state e) → outcome = .ok .notRun) ∧
    Prog.Total (findSession P (H := H) pending shares).run := by
  refine ⟨fun tr htruth h => ?_, fun hlookable hleft tr outcome h htruth => ?_,
    total_findSession⟩
  · obtain ⟨hfindable, habsent⟩ := findSession_notRun h
    refine ⟨hfindable, fun record hrecord => (habsent record hrecord).not_on htruth,
      fun voucher hkind => ?_⟩
    obtain ⟨read, hmem⟩ := findSession_notRun_voucher hkind h
    have hread : some read = state.futureVouchers voucher := htruth _ hmem (some read) rfl
    rw [← hread]
    rfl
  · obtain ⟨_, hok, rfl⟩ := yields_findSession hcollision hlookable hleft tr outcome h htruth
    exact hok

end NotRun

/-! ## Sample lookups -/

/-- A make-public of a dWallet that is on the chain without a public share, next
to a charge of another session. -/
def sampleMakePublic : PendingRequest where
  epoch := 1
  sessionIdentifier := List.replicate 32 5
  transportKey := List.replicate 32 6
  curve := 0
  networkKeyId := List.replicate 32 7
  kind := .makeSharePublic ⟨0, [2], none⟩ (List.replicate 32 8)

def sampleRecords : ChainRecords where
  charges := [⟨List.replicate 32 6, "RefusedRequest", List.replicate 32 1, rfl⟩]
  signatures _ := none
  futureVouchers voucher := if voucher = [9] then some ⟨some [1], none, true⟩ else none
  dwallets lookup := if lookup = ⟨0, [2], none⟩ then some ⟨false, [[3]]⟩ else none

/-- The preimages in play of the sample's lookup. -/
def samplePreimages : List Bytes :=
  [("RefusedRequest", List.replicate 32 1), ("RefusedRequest", List.replicate 32 5),
    ("RejectedSession", List.replicate 32 5), ("MovedNetworkKeySession", List.replicate 32 5),
    ("GivenUpShareCommit", List.replicate 32 8)].map fun charge =>
      gasChargeBcs.encode (textBytes "IkaGasCharge", textBytes charge.1, charge.2)

theorem chargePreimages_sample :
    chargePreimages samplePrimitives sampleRecords sampleMakePublic ⊆
      {b | b ∈ samplePreimages} := by
  rintro bytes (⟨charge, hcharge, rfl⟩ | ⟨source, id, hcharge, hbytes⟩)
  · obtain rfl := List.mem_singleton.mp hcharge
    simp [GasCharge.preimage, samplePreimages]
  · obtain ⟨-, rfl⟩ := Codec.serialize_ok hbytes
    simp only [outcomeRecords, sessionCharges, kindRecords, sampleMakePublic, List.map_cons,
      List.map_nil, List.cons_append, List.nil_append, List.mem_cons, List.not_mem_nil,
      OutcomeRecord.charge.injEq, reduceCtorEq, or_false, false_or] at hcharge
    rcases hcharge with ⟨rfl, rfl⟩ | ⟨rfl, rfl⟩ | ⟨rfl, rfl⟩ | ⟨rfl, rfl⟩ <;>
      simp [GasChargeSource.name, samplePreimages]

theorem chargePreimages_sample_injOn : Set.InjOn samplePrimitives.keccak256
    (chargePreimages samplePrimitives sampleRecords sampleMakePublic) := by
  have hdistinct : ∀ first ∈ samplePreimages, ∀ second ∈ samplePreimages,
      samplePrimitives.keccak256 first = samplePrimitives.keccak256 second →
      first = second := by decide +kernel
  intro first hfirst second hsecond heq
  exact hdistinct first (chargePreimages_sample hfirst) second (chargePreimages_sample hsecond) heq

theorem findSession_notRun_exactly_sample :
    ∃ tr, Gives (findSession (H := DWalletLookup) samplePrimitives sampleMakePublic true) tr
      .notRun := by
  obtain ⟨tr, outcome, hrun, htruth⟩ :=
    exists_truthful_run samplePrimitives sampleRecords sampleMakePublic true
  have hleft : NothingLeft samplePrimitives sampleRecords sampleMakePublic := by
    refine ⟨rfl, fun record hrecord => ?_, fun voucher hkind => by cases hkind⟩
    simp only [outcomeRecords, sessionCharges, kindRecords, sampleMakePublic, List.map_cons,
      List.map_nil, List.cons_append, List.nil_append, List.mem_cons, List.not_mem_nil,
      or_false] at hrecord
    rcases hrecord with rfl | rfl | rfl | rfl | rfl <;>
      simp [OutcomeRecord.On, sampleRecords, GasChargeSource.name]
  have hlookable : Lookable sampleMakePublic true :=
    ⟨rfl, fun id hid => by cases hid; rfl, fun _ => rfl⟩
  have hnotRun : outcome = .ok .notRun :=
    (findSession_notRun_exactly chargePreimages_sample_injOn).2.1 hlookable hleft tr outcome
      hrun htruth
  exact ⟨tr, by rwa [hnotRun] at hrun⟩

/-- A completion whose voucher the network closed without delivery, with no
charge: what is closed counts for a step 1 only. -/
theorem closed_completion_notRun :
    ¬∀ tr, (∀ e ∈ tr, AnswersTruly samplePrimitives id sampleRecords e) →
      Gives (findSession samplePrimitives
        { sampleMakePublic with kind := .futureSignCompletion [9] } false) tr .notRun →
      ¬(OutcomeRecord.closedVoucher [9]).On sampleRecords sampleMakePublic.transportKey := by
  intro hclaim
  have hrun : ((findSession samplePrimitives
      { sampleMakePublic with kind := .futureSignCompletion [9] } false).run.transcript
        (fun _ op => truthfulReader samplePrimitives sampleRecords op) 0).any
        (fun r => r.2 = .ok .notRun) = true := by decide +kernel
  obtain ⟨⟨tr, outcome⟩, hrun, hok⟩ := (Option.any_eq_true _ _).mp hrun
  obtain rfl : outcome = .ok .notRun := by simpa using hok
  refine hclaim tr (fun e he => ?_) (Prog.returns_of_transcript hrun) rfl
  obtain ⟨_, hans⟩ := Prog.mem_transcript hrun he
  exact truthfulReader_answersTruly _ _ e hans

end Ika
