import IkaSdk.Core.Common.RequestRecords

/-! The lookup of a session answers that it never ran exactly when no record of
any of its outcomes is on the chain. -/

namespace Ika

open Wire Interaction Eff

/-! ## The records of a session's outcomes -/

inductive OutcomeRecord
  | charge (source : GasChargeSource) (id : Bytes)
  | voucherSignature (voucher : Bytes)
  | stepOne (voucher : Bytes)
  | futureSignature (voucher : Bytes)
  | closedVoucher (voucher : Bytes)
  | publicShare (lookup : DWalletLookup)
  | encryptedShare (lookup : DWalletLookup) (holder : Bytes)
  | dwallet (lookup : DWalletLookup)
deriving DecidableEq, Repr

/-- The item that a session's signature commit settles. -/
def signatureCommitItem (P : Primitives) (sessionIdentifier : Bytes) : Bytes :=
  P.keccak256 (signatureCommitBcs.encode (textBytes "IkaSignatureCommit", sessionIdentifier))

/-- The records that the outcomes of one kind of request leave, besides the
charges that every session may leave. -/
def kindRecords (P : Primitives) (sessionIdentifier : Bytes) :
    PendingRequestKind → List OutcomeRecord
  | .presign => [.charge .completedPresign sessionIdentifier]
  | .sign voucher =>
    [.voucherSignature voucher,
      .charge .givenUpSignature (signatureCommitItem P sessionIdentifier)]
  | .futureSignStepOne voucher =>
    [.stepOne voucher, .futureSignature voucher, .closedVoucher voucher]
  | .futureSignCompletion voucher =>
    [.futureSignature voucher,
      .charge .givenUpSignature (signatureCommitItem P sessionIdentifier)]
  | .makeSharePublic dwallet shareCommitItemId =>
    [.publicShare dwallet, .charge .givenUpShareCommit shareCommitItemId]
  | .reEncryptShare dwallet newHolder shareCommitItemId =>
    [.encryptedShare dwallet newHolder, .charge .givenUpShareCommit shareCommitItemId]
  | .dkg dwallet => [.dwallet dwallet]
  | .importedKey dwallet => [.dwallet dwallet]

def outcomeRecords (P : Primitives) (pending : PendingRequest) : List OutcomeRecord :=
  (sessionCharges pending.sessionIdentifier).map (fun charge => .charge charge.1 charge.2) ++
    kindRecords P pending.sessionIdentifier pending.kind

/-- A DKG, or an imported-key verification. -/
def PendingRequestKind.createsDWallet : PendingRequestKind → Bool
  | .dkg _ => true
  | .importedKey _ => true
  | _ => false

/-! ## What a lookup that found nothing read -/

variable {P : Primitives} {H : Type}

/-- The reads of the trace report the record absent. -/
def OutcomeRecord.ReadAbsent (P : Primitives) (transportKey : Bytes)
    (tr : List (Event (recordInterface H))) : OutcomeRecord → Prop
  | charge source id =>
    ∃ chargeId, gasChargeId P source id = .ok chargeId ∧
      ⟨.hasGasCharge transportKey chargeId, .ok false⟩ ∈ tr
  | voucherSignature voucher => ⟨.voucherSignature voucher, .ok none⟩ ∈ tr
  | stepOne voucher => ∃ read : Option FutureVoucher,
      ⟨.futureVoucher voucher, .ok read⟩ ∈ tr ∧ read.bind (·.stepOneSession) = none
  | futureSignature voucher => ∃ read : Option FutureVoucher,
      ⟨.futureVoucher voucher, .ok read⟩ ∈ tr ∧ read.bind (·.signature) = none
  | closedVoucher voucher => ∃ read : Option FutureVoucher,
      ⟨.futureVoucher voucher, .ok read⟩ ∈ tr ∧ read.any (·.closed) = false
  | publicShare lookup => ⟨.readDWallet lookup, .ok none⟩ ∈ tr ∨
      ∃ record : CheckedDWalletRecord H, ⟨.readDWallet lookup, .ok (some record)⟩ ∈ tr ∧
        ⟨.readPublicShare record.handle, .ok none⟩ ∈ tr
  | encryptedShare lookup holder => ⟨.readDWallet lookup, .ok none⟩ ∈ tr ∨
      ∃ record : CheckedDWalletRecord H, ⟨.readDWallet lookup, .ok (some record)⟩ ∈ tr ∧
        ⟨.readEncryptedShare record.handle holder, .ok none⟩ ∈ tr
  | dwallet lookup => ⟨.readDWallet lookup, .ok none⟩ ∈ tr

theorem OutcomeRecord.ReadAbsent.mono {record : OutcomeRecord} {transportKey : Bytes}
    {tr tr' : List (Event (recordInterface H))} (h : record.ReadAbsent P transportKey tr)
    (hsub : ∀ e ∈ tr, e ∈ tr') : record.ReadAbsent P transportKey tr' := by
  cases record with
  | charge source id =>
    obtain ⟨chargeId, hid, hmem⟩ := h
    exact ⟨chargeId, hid, hsub _ hmem⟩
  | voucherSignature voucher => exact hsub _ h
  | stepOne voucher =>
    obtain ⟨read, hmem, hread⟩ := h
    exact ⟨read, hsub _ hmem, hread⟩
  | futureSignature voucher =>
    obtain ⟨read, hmem, hread⟩ := h
    exact ⟨read, hsub _ hmem, hread⟩
  | closedVoucher voucher =>
    obtain ⟨read, hmem, hread⟩ := h
    exact ⟨read, hsub _ hmem, hread⟩
  | publicShare lookup =>
    rcases h with hmem | ⟨record, hmem, hshare⟩
    · exact .inl (hsub _ hmem)
    · exact .inr ⟨record, hsub _ hmem, hsub _ hshare⟩
  | encryptedShare lookup holder =>
    rcases h with hmem | ⟨record, hmem, hshare⟩
    · exact .inl (hsub _ hmem)
    · exact .inr ⟨record, hsub _ hmem, hsub _ hshare⟩
  | dwallet lookup => exact hsub _ h

section Reads

variable {tr : List (Event (recordInterface H))} {pending : PendingRequest} {shares : Bool}

theorem gives_readRecord_iff {op : RecordOp H} {r : op.Read} :
    Gives (readRecord op) tr r ↔ tr = [⟨op, .ok r⟩] := by
  simp [Gives, readRecord, Prog.perform, Prog.returns_call_iff]

theorem heldCharge_none {transportKey : Bytes} {charges : List (GasChargeSource × Bytes)}
    (h : Gives (heldCharge P (H := H) transportKey charges) tr none) :
    ∀ charge ∈ charges,
      (OutcomeRecord.charge charge.1 charge.2).ReadAbsent P transportKey tr := by
  induction charges generalizing tr with
  | nil => simp
  | cons charge rest ih =>
    obtain ⟨chargeId, hid, hread⟩ := gives_lift_bind_iff.mp h
    obtain ⟨tr₁, tr₂, held, rfl, hheld, hrest⟩ := gives_bind_iff.mp hread
    obtain rfl := gives_readRecord_iff.mp hheld
    obtain ⟨tr₃, tr₄, found, rfl, hfound, hlast⟩ := gives_bind_iff.mp hrest
    obtain ⟨rfl, hnone⟩ := gives_pure_iff.mp hlast
    cases held with
    | true => cases hnone
    | false =>
      obtain rfl : found = none := hnone
      refine List.forall_mem_cons.mpr ⟨⟨chargeId, fromPackage_ok hid, by simp⟩, fun c hc => ?_⟩
      exact (ih hfound c hc).mono fun e he => by simp [he]

/-- Nothing charged, whatever outcome follows from that. -/
theorem ranOr_notRun {otherwise : RequestOutcome} {more : List (GasChargeSource × Bytes)}
    (h : Gives (ranOr P (H := H) pending otherwise more) tr .notRun) :
    otherwise = .notRun ∧ ∀ charge ∈ sessionCharges pending.sessionIdentifier ++ more,
      (OutcomeRecord.charge charge.1 charge.2).ReadAbsent P pending.transportKey tr := by
  obtain ⟨tr₁, tr₂, found, rfl, hcharged, hlast⟩ := gives_bind_iff.mp h
  obtain ⟨tr₃, tr₄, source, rfl, hheld, hmap⟩ := gives_bind_iff.mp hcharged
  obtain ⟨rfl, rfl⟩ := gives_pure_iff.mp hmap
  cases source with
  | some source =>
    obtain ⟨-, heq⟩ := gives_pure_iff.mp hlast
    cases heq
  | none =>
    obtain ⟨rfl, hotherwise⟩ := gives_pure_iff.mp hlast
    refine ⟨hotherwise, fun charge hcharge => ?_⟩
    exact (heldCharge_none hheld charge hcharge).mono fun e he => by simp [he]

theorem dwalletRecord_gives {dwallet : DWalletLookup} {r : Option (CheckedDWalletRecord H)}
    (h : Gives (dwalletRecord shares dwallet) tr r) : tr = [⟨.readDWallet dwallet, .ok r⟩] := by
  obtain ⟨_, -, hread⟩ := gives_lift_bind_iff.mp h
  exact gives_readRecord_iff.mp hread

theorem publicShareOf_false {dwallet : DWalletLookup} (transportKey : Bytes)
    (h : Gives (publicShareOf (H := H) shares dwallet) tr false) :
    (OutcomeRecord.publicShare dwallet).ReadAbsent P transportKey tr := by
  obtain ⟨tr₁, tr₂, record, rfl, hrecord, hrest⟩ := gives_bind_iff.mp h
  obtain rfl := dwalletRecord_gives hrecord
  cases record with
  | none => exact .inl (by simp)
  | some record =>
    obtain ⟨tr₃, tr₄, share, rfl, hshare, hlast⟩ := gives_bind_iff.mp hrest
    obtain rfl := gives_readRecord_iff.mp hshare
    obtain ⟨rfl, habsent⟩ := gives_pure_iff.mp hlast
    obtain rfl : share = none := by simpa using habsent
    exact .inr ⟨record, by simp, by simp⟩

theorem encryptedShareOf_false {dwallet : DWalletLookup} {newHolder : Bytes}
    (transportKey : Bytes)
    (h : Gives (encryptedShareOf (H := H) shares dwallet newHolder) tr false) :
    (OutcomeRecord.encryptedShare dwallet newHolder).ReadAbsent P transportKey tr := by
  obtain ⟨tr₁, tr₂, record, rfl, hrecord, hrest⟩ := gives_bind_iff.mp h
  obtain rfl := dwalletRecord_gives hrecord
  cases record with
  | none => exact .inl (by simp)
  | some record =>
    obtain ⟨tr₃, tr₄, share, rfl, hshare, hlast⟩ := gives_bind_iff.mp hrest
    obtain rfl := gives_readRecord_iff.mp hshare
    obtain ⟨rfl, habsent⟩ := gives_pure_iff.mp hlast
    obtain rfl : share = none := by simpa using habsent
    exact .inr ⟨record, by simp, by simp⟩

theorem findDWallet_notRun {dwallet : DWalletLookup}
    (h : Gives (findDWallet P (H := H) pending shares dwallet) tr .notRun) : False := by
  obtain ⟨tr₁, tr₂, record, rfl, -, hrest⟩ := gives_bind_iff.mp h
  split_ifs at hrest with hsome
  · cases (gives_pure_iff.mp hrest).2
  · cases (ranOr_notRun hrest).1

theorem signatureCommitItemId_ok {session itemId : Bytes}
    (h : signatureCommitItemId P session = .ok itemId) :
    itemId = signatureCommitItem P session := by
  obtain ⟨bytes, hbytes, rfl⟩ := map_ok h
  obtain ⟨-, rfl⟩ := Codec.serialize_ok hbytes
  rfl

/-- The charges of a session and the further ones that its lookup read. -/
theorem findSignature_notRun {signature : Option Bytes}
    (h : Gives (findSignature P (H := H) pending signature) tr .notRun) :
    signature = none ∧ ∀ charge ∈ sessionCharges pending.sessionIdentifier ++
        [(.givenUpSignature, signatureCommitItem P pending.sessionIdentifier)],
      (OutcomeRecord.charge charge.1 charge.2).ReadAbsent P pending.transportKey tr := by
  cases signature with
  | some signature => cases (gives_pure_iff.mp h).2
  | none =>
    obtain ⟨itemId, hitem, hcharges⟩ := gives_lift_bind_iff.mp h
    obtain rfl := signatureCommitItemId_ok (fromPackage_ok hitem)
    exact ⟨rfl, (ranOr_notRun hcharges).2⟩

theorem findStepOne_notRun {voucher : FutureVoucher}
    (h : Gives (findStepOne P (H := H) pending voucher) tr .notRun) :
    voucher.stepOneSession = none ∧ voucher.signature = none ∧ voucher.closed = false ∧
      ∀ charge ∈ sessionCharges pending.sessionIdentifier,
        (OutcomeRecord.charge charge.1 charge.2).ReadAbsent P pending.transportKey tr := by
  unfold findStepOne at h
  cases hsession : voucher.stepOneSession with
  | some session =>
    rw [hsession] at h
    cases (gives_pure_iff.mp h).2
  | none =>
    rw [hsession] at h
    dsimp only at h
    split_ifs at h with hsignature hclosed
    · cases (gives_pure_iff.mp h).2
    · cases (ranOr_notRun h).1
    · have hcharges := (ranOr_notRun h).2
      rw [List.append_nil] at hcharges
      exact ⟨rfl, by simpa using hsignature, by simpa using hclosed, hcharges⟩

/-- A lookup that answers the charges only where its first read found nothing. -/
theorem unlessFound_notRun {found : RecordEff H Bool} {record : String}
    {more : List (GasChargeSource × Bytes)}
    (h : Gives (found >>= fun answer =>
      if answer then return .ran record else ranOr P pending .notRun more) tr .notRun) :
    ∃ tr₁, (∀ e ∈ tr₁, e ∈ tr) ∧ Gives found tr₁ false ∧
      ∀ charge ∈ sessionCharges pending.sessionIdentifier ++ more,
        (OutcomeRecord.charge charge.1 charge.2).ReadAbsent P pending.transportKey tr := by
  obtain ⟨tr₁, tr₂, answer, rfl, hfound, hrest⟩ := gives_bind_iff.mp h
  cases answer with
  | true => cases (gives_pure_iff.mp hrest).2
  | false =>
    have hcharges := (ranOr_notRun hrest).2
    refine ⟨tr₁, fun e he => List.mem_append_left _ he, hfound, fun charge hcharge => ?_⟩
    exact (hcharges charge hcharge).mono fun e he => List.mem_append_right _ he

theorem readAbsent_records (records : List OutcomeRecord)
    (more : List (GasChargeSource × Bytes))
    (hkind : kindRecords P pending.sessionIdentifier pending.kind =
      records ++ more.map fun charge => .charge charge.1 charge.2)
    (hrecords : ∀ record ∈ records, record.ReadAbsent P pending.transportKey tr)
    (hcharges : ∀ charge ∈ sessionCharges pending.sessionIdentifier ++ more,
      (OutcomeRecord.charge charge.1 charge.2).ReadAbsent P pending.transportKey tr) :
    ∀ record ∈ outcomeRecords P pending, record.ReadAbsent P pending.transportKey tr := by
  intro record hrecord
  rw [outcomeRecords, hkind, List.mem_append, List.mem_append] at hrecord
  rcases hrecord with hsession | hown | hmore
  · obtain ⟨charge, hcharge, rfl⟩ := List.mem_map.mp hsession
    exact hcharges charge (List.mem_append_left _ hcharge)
  · exact hrecords record hown
  · obtain ⟨charge, hcharge, rfl⟩ := List.mem_map.mp hmore
    exact hcharges charge (List.mem_append_right _ hcharge)

/-- A lookup that answers that the session never ran read every record of its
outcomes absent. -/
theorem findSession_notRun (h : Gives (findSession P (H := H) pending shares) tr .notRun) :
    pending.kind.createsDWallet = false ∧
      ∀ record ∈ outcomeRecords P pending, record.ReadAbsent P pending.transportKey tr := by
  unfold findSession at h
  cases hkind : pending.kind with
  | presign =>
    rw [hkind] at h
    have hcharges := (ranOr_notRun h).2
    exact ⟨rfl, readAbsent_records [] _ (by rw [hkind]; rfl) (by simp) hcharges⟩
  | sign voucher =>
    rw [hkind] at h
    obtain ⟨tr₁, tr₂, signature, rfl, hread, hrest⟩ := gives_bind_iff.mp h
    obtain rfl := gives_readRecord_iff.mp hread
    obtain ⟨rfl, hcharges⟩ := findSignature_notRun hrest
    refine ⟨rfl, readAbsent_records [.voucherSignature voucher] _ (by rw [hkind]; rfl) ?_
      fun charge hcharge => (hcharges charge hcharge).mono fun e he => by simp [he]⟩
    simp [OutcomeRecord.ReadAbsent]
  | futureSignStepOne voucher =>
    rw [hkind] at h
    obtain ⟨tr₁, tr₂, read, rfl, hread, hrest⟩ := gives_bind_iff.mp h
    obtain rfl := gives_readRecord_iff.mp hread
    cases read with
    | none => cases (gives_pure_iff.mp hrest).2
    | some read =>
      obtain ⟨hsession, hsignature, hclosed, hcharges⟩ := findStepOne_notRun hrest
      refine ⟨rfl, readAbsent_records
        [.stepOne voucher, .futureSignature voucher, .closedVoucher voucher] []
        (by rw [hkind]; rfl) ?_ fun charge hcharge => ?_⟩
      · simp [OutcomeRecord.ReadAbsent, hsession, hsignature, hclosed]
      · rw [List.append_nil] at hcharge
        exact (hcharges charge hcharge).mono fun e he => by simp [he]
  | futureSignCompletion voucher =>
    rw [hkind] at h
    obtain ⟨tr₁, tr₂, read, rfl, hread, hrest⟩ := gives_bind_iff.mp h
    obtain rfl := gives_readRecord_iff.mp hread
    obtain ⟨hsignature, hcharges⟩ := findSignature_notRun hrest
    refine ⟨rfl, readAbsent_records [.futureSignature voucher] _ (by rw [hkind]; rfl) ?_
      fun charge hcharge => (hcharges charge hcharge).mono fun e he => by simp [he]⟩
    exact List.forall_mem_singleton.mpr ⟨read, by simp, hsignature⟩
  | makeSharePublic dwallet shareCommitItemId =>
    rw [hkind] at h
    obtain ⟨tr₁, hsub, hfound, hcharges⟩ := unlessFound_notRun h
    have habsent : (OutcomeRecord.publicShare dwallet).ReadAbsent P pending.transportKey tr :=
      (publicShareOf_false _ hfound).mono hsub
    exact ⟨rfl, readAbsent_records [.publicShare dwallet] _ (by rw [hkind]; rfl)
      (List.forall_mem_singleton.mpr habsent) hcharges⟩
  | reEncryptShare dwallet newHolder shareCommitItemId =>
    rw [hkind] at h
    obtain ⟨tr₁, hsub, hfound, hcharges⟩ := unlessFound_notRun h
    have habsent : (OutcomeRecord.encryptedShare dwallet newHolder).ReadAbsent P
        pending.transportKey tr := (encryptedShareOf_false _ hfound).mono hsub
    exact ⟨rfl, readAbsent_records [.encryptedShare dwallet newHolder] _ (by rw [hkind]; rfl)
      (List.forall_mem_singleton.mpr habsent) hcharges⟩
  | dkg dwallet =>
    rw [hkind] at h
    exact (findDWallet_notRun h).elim
  | importedKey dwallet =>
    rw [hkind] at h
    exact (findDWallet_notRun h).elim

/-- A step 1 is said not to have run only where its voucher was read. -/
theorem findSession_notRun_voucher {voucher : Bytes}
    (hkind : pending.kind = .futureSignStepOne voucher)
    (h : Gives (findSession P (H := H) pending shares) tr .notRun) :
    ∃ read : FutureVoucher, ⟨.futureVoucher voucher, .ok (some read)⟩ ∈ tr := by
  unfold findSession at h
  rw [hkind] at h
  obtain ⟨tr₁, tr₂, read, rfl, hread, hrest⟩ := gives_bind_iff.mp h
  obtain rfl := gives_readRecord_iff.mp hread
  cases read with
  | none => cases (gives_pure_iff.mp hrest).2
  | some read => exact ⟨read, by simp⟩

/-! ## Every lookup comes to an end -/

theorem total_readRecord (op : RecordOp H) : Prog.Total (readRecord op).run := fun _ => trivial

theorem total_heldCharge (transportKey : Bytes) (charges : List (GasChargeSource × Bytes)) :
    Prog.Total (heldCharge P (H := H) transportKey charges).run := by
  induction charges with
  | nil => trivial
  | cons charge rest ih =>
    refine total_lift_bind fun chargeId => total_bind (total_readRecord _) fun held => ?_
    exact total_bind ih fun found => trivial

theorem total_ranOr (otherwise : RequestOutcome) (more : List (GasChargeSource × Bytes)) :
    Prog.Total (ranOr P (H := H) pending otherwise more).run := by
  refine total_bind (total_bind (total_heldCharge _ _) fun found => trivial) fun found => ?_
  cases found <;> trivial

theorem total_dwalletRecord (dwallet : DWalletLookup) :
    Prog.Total (dwalletRecord (H := H) shares dwallet).run :=
  total_lift_bind fun _ => total_readRecord _

theorem total_findDWallet (dwallet : DWalletLookup) :
    Prog.Total (findDWallet P (H := H) pending shares dwallet).run := by
  refine total_bind (total_dwalletRecord dwallet) fun record => ?_
  cases record with
  | none => exact total_ranOr _ _
  | some record => trivial

theorem total_findSignature (signature : Option Bytes) :
    Prog.Total (findSignature P (H := H) pending signature).run := by
  cases signature with
  | none => exact total_lift_bind fun itemId => total_ranOr _ _
  | some signature => trivial

theorem total_findStepOne (voucher : FutureVoucher) :
    Prog.Total (findStepOne P (H := H) pending voucher).run := by
  unfold findStepOne
  split
  · trivial
  · split_ifs
    · trivial
    · exact total_ranOr _ _
    · exact total_ranOr _ _

theorem total_publicShareOf (dwallet : DWalletLookup) :
    Prog.Total (publicShareOf (H := H) shares dwallet).run := by
  refine total_bind (total_dwalletRecord dwallet) fun record => ?_
  cases record with
  | none => trivial
  | some record => exact total_bind (total_readRecord _) fun share => trivial

theorem total_encryptedShareOf (dwallet : DWalletLookup) (newHolder : Bytes) :
    Prog.Total (encryptedShareOf (H := H) shares dwallet newHolder).run := by
  refine total_bind (total_dwalletRecord dwallet) fun record => ?_
  cases record with
  | none => trivial
  | some record => exact total_bind (total_readRecord _) fun share => trivial

theorem total_unlessFound {found : RecordEff H Bool} (hfound : Prog.Total found.run)
    (record : String) (more : List (GasChargeSource × Bytes)) :
    Prog.Total (found >>= fun answer =>
      if answer then return .ran record else ranOr P pending .notRun more).run := by
  refine total_bind hfound fun answer => ?_
  cases answer with
  | false => exact total_ranOr _ _
  | true => trivial

theorem total_findSession : Prog.Total (findSession P (H := H) pending shares).run := by
  unfold findSession
  cases pending.kind with
  | presign => exact total_ranOr _ _
  | sign voucher => exact total_bind (total_readRecord _) fun signature => total_findSignature _
  | futureSignStepOne voucher =>
    refine total_bind (total_readRecord _) fun read => ?_
    cases read with
    | none => trivial
    | some read => exact total_findStepOne read
  | futureSignCompletion voucher =>
    exact total_bind (total_readRecord _) fun read => total_findSignature _
  | makeSharePublic dwallet _ => exact total_unlessFound (total_publicShareOf dwallet) _ _
  | reEncryptShare dwallet newHolder _ =>
    exact total_unlessFound (total_encryptedShareOf dwallet newHolder) _ _
  | dkg dwallet => exact total_findDWallet dwallet
  | importedKey dwallet => exact total_findDWallet dwallet

end Reads

end Ika
