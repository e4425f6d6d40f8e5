import IkaSdk.Core.Common.RequestRecords
import IkaSdk.Lib.TwoRuns

/-! The ownership check and the lookup of a session over two readers, one of
which may reject reads that the other answers. -/

namespace Ika

open Wire Interaction Eff

variable {P : Primitives} {H : Type} {N : SdkError → Prop}

/-! ## The ownership check -/

/-- Two readers whose reads are the same unless one rejects, for a caller that
gives both the same key and clock. -/
structure SameShareReads (N : SdkError → Prop)
    (answer answer' : ∀ op : OwnershipOp H, OwnershipOp.Ans op) : Prop where
  message : ∀ e, N e → ∃ message, e = .error message
  key : answer .getSigningPublicKeyBytes = answer' .getSigningPublicKeyBytes
  now : answer .now = answer' .now
  dwallet : ∀ lookup, SameUnless N (some (answer (.readDWallet lookup)))
    (some (answer' (.readDWallet lookup)))
  encryptedShare : ∀ record holder given,
    SameUnless N (some (answer (.readEncryptedShare record holder given)))
      (some (answer' (.readEncryptedShare record holder given)))
  publicShare : ∀ record, SameUnless N (some (answer (.readPublicShare record)))
    (some (answer' (.readPublicShare record)))
  migrated : ∀ record userKey classicShareId,
    SameUnless N (some (answer (.migratedShare record userKey classicShareId)))
      (some (answer' (.migratedShare record userKey classicShareId)))

section Ownership

variable {answer answer' : ∀ op : OwnershipOp H, OwnershipOp.Ans op}
  (h : SameShareReads N answer answer') {reader : DWalletShareReader} {dwallet : ChainDWallet H}
  {asked : AskedDWallet} {userKey : Bytes}

include h

theorem sameUnless_readChainDWallet : SameUnless N
    (eval answer (readChainDWallet P reader asked))
    (eval answer' (readChainDWallet P reader asked)) := by
  refine sameUnless_bind (h.dwallet _) fun found => ?_
  cases found with
  | none => exact .refl _
  | some record => exact sameUnless_lift_bind fun _ => sameUnless_lift_bind fun _ => .refl _

theorem sameUnless_readDWalletHolding {data : Bytes} : SameUnless N
    (eval answer (readDWalletHolding P reader asked data))
    (eval answer' (readDWalletHolding P reader asked data)) := by
  refine sameUnless_bind (sameUnless_readChainDWallet h) fun found => ?_
  cases found with
  | none => exact .refl _
  | some dwallet => exact sameUnless_lift_bind fun _ => .refl _

theorem sameUnless_readOwnShare {given : Option Bytes} : SameUnless N
    (eval answer (readOwnShare P reader dwallet userKey given))
    (eval answer' (readOwnShare P reader dwallet userKey given)) := by
  refine sameUnless_bind (h.encryptedShare _ _ _) fun share => ?_
  cases share with
  | none => exact .refl _
  | some share => exact sameUnless_lift_bind fun _ => .refl _

theorem sameUnless_hasPublicShare : SameUnless N
    (eval answer (hasPublicShare P reader dwallet))
    (eval answer' (hasPublicShare P reader dwallet)) := by
  refine sameUnless_bind (h.publicShare _) fun share => ?_
  cases share with
  | none => exact .refl _
  | some share => exact sameUnless_lift_bind fun _ => .refl _

/-- Only an error about a holder is replaced, and another one is thrown for it. -/
theorem sameUnless_orAnotherHolder {detail : String} {read : OwnershipEff H (Option OwnShare)}
    (hread : SameUnless N (eval answer read) (eval answer' read)) : SameUnless N
      (eval answer (orAnotherHolder asked userKey detail read))
      (eval answer' (orAnotherHolder asked userKey detail read)) := by
  refine sameUnless_tryCatch hread (fun e he => ?_) fun e => ?_
  · obtain ⟨message, rfl⟩ := h.message e he
    rfl
  · split
    · exact .refl _
    · exact .refl _

theorem sameUnless_attachedShare : SameUnless N
    (eval answer (attachedShareOfMigratedDWallet P reader dwallet asked userKey))
    (eval answer' (attachedShareOfMigratedDWallet P reader dwallet asked userKey)) := by
  unfold attachedShareOfMigratedDWallet
  dsimp only
  split_ifs with hmigrated
  · refine sameUnless_bind
      (sameUnless_orAnotherHolder h (sameUnless_readOwnShare h)) fun own => ?_
    cases own with
    | none => exact .refl _
    | some own => exact sameUnless_lift_bind fun _ => .refl _
  · exact .refl _

theorem sameUnless_runMigrationCheck {classicShareId : Option String} : SameUnless N
    (eval answer (runMigrationCheck dwallet userKey classicShareId))
    (eval answer' (runMigrationCheck dwallet userKey classicShareId)) := by
  unfold runMigrationCheck
  split_ifs with hmigrated
  · exact h.migrated _ _ _
  · exact .refl _

theorem sameUnless_usabilityWithoutHolder {classicShareId : Option String} : SameUnless N
    (eval answer (usabilityWithoutHolder P reader dwallet asked userKey classicShareId))
    (eval answer' (usabilityWithoutHolder P reader dwallet asked userKey classicShareId)) := by
  refine sameUnless_bind (sameUnless_attachedShare h) fun attached => ?_
  cases attached with
  | true => exact .refl _
  | false =>
    refine sameUnless_bind (sameUnless_runMigrationCheck h) fun migrated => ?_
    cases migrated with
    | none => exact .refl _
    | some _ => exact .refl _

theorem sameUnless_usabilityOfEncryptedShare {namedHolder : Bytes} {given : Option Bytes} :
    SameUnless N
      (eval answer (usabilityOfEncryptedShare P reader dwallet asked userKey namedHolder given))
      (eval answer'
        (usabilityOfEncryptedShare P reader dwallet asked userKey namedHolder given)) := by
  refine sameUnless_bind
    (sameUnless_orAnotherHolder h (sameUnless_readOwnShare h)) fun own => ?_
  cases own with
  | none => exact .refl _
  | some own => exact sameUnless_lift_bind fun _ => sameUnless_lift_bind fun _ => .refl _

theorem sameUnless_usabilityOfShare {classicShareId : Option String} {given : Option Bytes} :
    SameUnless N
      (eval answer (usabilityOfShare P reader dwallet asked userKey classicShareId given))
      (eval answer'
        (usabilityOfShare P reader dwallet asked userKey classicShareId given)) := by
  refine sameUnless_bind (sameUnless_hasPublicShare h) fun isPublic => ?_
  cases isPublic with
  | true => exact .refl _
  | false =>
    cases dwallet.verified.attestation.holder with
    | none =>
      exact sameUnless_bind (sameUnless_usabilityWithoutHolder h) fun _ => .refl _
    | some named =>
      exact sameUnless_bind (sameUnless_usabilityOfEncryptedShare h) fun _ => .refl _

/-- Two readers that differ only where one rejects decide the same of a share,
unless the check fails with such a rejection. -/
theorem sameUnless_assertDWalletUsable {data : Bytes} {classicShareId : Option String}
    {given : Option Bytes} : SameUnless N
      (eval answer (assertDWalletUsable P reader data classicShareId given))
      (eval answer' (assertDWalletUsable P reader data classicShareId given)) := by
  refine sameUnless_bind (.inl (congrArg some h.key)) fun key => ?_
  refine sameUnless_lift_bind fun attestation => ?_
  refine sameUnless_bind (sameUnless_readDWalletHolding h) fun dwallet => ?_
  refine sameUnless_lift_bind fun _ => ?_
  refine sameUnless_bind (sameUnless_usabilityOfShare h) fun usability => ?_
  refine sameUnless_bind (.inl ?_) fun verifiedAt => .refl _
  exact congrArg (fun now => some (Except.ok now)) h.now

end Ownership

/-! ## The lookup of a session -/

/-- Two record readers whose reads are the same unless one rejects. -/
def SameRecordReads (N : SdkError → Prop)
    (answer answer' : ∀ op : RecordOp H, Except SdkError op.Read) : Prop :=
  ∀ op, SameUnless N (some (answer op)) (some (answer' op))

section Session

variable {answer answer' : ∀ op : RecordOp H, Except SdkError op.Read}
  (h : SameRecordReads N answer answer') {pending : PendingRequest} {shares : Bool}

include h

theorem sameUnless_heldCharge {transportKey : Bytes}
    (charges : List (GasChargeSource × Bytes)) : SameUnless N
      (eval answer (heldCharge P transportKey charges))
      (eval answer' (heldCharge P transportKey charges)) := by
  induction charges with
  | nil => exact .refl _
  | cons charge rest ih =>
    refine sameUnless_lift_bind fun chargeId => ?_
    exact sameUnless_bind (h _) fun held => sameUnless_bind ih fun found => .refl _

theorem sameUnless_ranOr {otherwise : RequestOutcome}
    {more : List (GasChargeSource × Bytes)} : SameUnless N
      (eval answer (ranOr P pending otherwise more))
      (eval answer' (ranOr P pending otherwise more)) := by
  refine sameUnless_bind ?_ fun found => ?_
  · exact sameUnless_bind (sameUnless_heldCharge h _) fun found => .refl _
  · cases found with
    | none => exact .refl _
    | some record => exact .refl _

theorem sameUnless_dwalletRecord {dwallet : DWalletLookup} : SameUnless N
    (eval answer (dwalletRecord shares dwallet))
    (eval answer' (dwalletRecord shares dwallet)) :=
  sameUnless_lift_bind fun _ => h _

theorem sameUnless_publicShareOf {dwallet : DWalletLookup} : SameUnless N
    (eval answer (publicShareOf shares dwallet))
    (eval answer' (publicShareOf shares dwallet)) := by
  refine sameUnless_bind (sameUnless_dwalletRecord h) fun record => ?_
  cases record with
  | none => exact .refl _
  | some record => exact sameUnless_bind (h _) fun share => .refl _

theorem sameUnless_encryptedShareOf {dwallet : DWalletLookup} {newHolder : Bytes} : SameUnless N
    (eval answer (encryptedShareOf shares dwallet newHolder))
    (eval answer' (encryptedShareOf shares dwallet newHolder)) := by
  refine sameUnless_bind (sameUnless_dwalletRecord h) fun record => ?_
  cases record with
  | none => exact .refl _
  | some record => exact sameUnless_bind (h _) fun share => .refl _

theorem sameUnless_findSignature {signature : Option Bytes} : SameUnless N
    (eval answer (findSignature P pending signature))
    (eval answer' (findSignature P pending signature)) := by
  cases signature with
  | none => exact sameUnless_lift_bind fun itemId => sameUnless_ranOr h
  | some signature => exact .refl _

theorem sameUnless_findStepOne {voucher : FutureVoucher} : SameUnless N
    (eval answer (findStepOne P pending voucher))
    (eval answer' (findStepOne P pending voucher)) := by
  unfold findStepOne
  split
  · exact .refl _
  · split_ifs
    · exact .refl _
    · exact sameUnless_ranOr h
    · exact sameUnless_ranOr h

theorem sameUnless_findDWallet {dwallet : DWalletLookup} : SameUnless N
    (eval answer (findDWallet P pending shares dwallet))
    (eval answer' (findDWallet P pending shares dwallet)) := by
  refine sameUnless_bind (sameUnless_dwalletRecord h) fun record => ?_
  cases record with
  | none => exact sameUnless_ranOr h
  | some record => exact .refl _

/-- Two readers that differ only where one rejects find the same of a session,
unless the lookup fails with such a rejection. -/
theorem sameUnless_findSession : SameUnless N
    (eval answer (findSession P pending shares))
    (eval answer' (findSession P pending shares)) := by
  unfold findSession
  cases pending.kind with
  | presign => exact sameUnless_ranOr h
  | sign voucher => exact sameUnless_bind (h _) fun signature => sameUnless_findSignature h
  | futureSignStepOne voucher =>
    refine sameUnless_bind (h _) fun read => ?_
    cases read with
    | none => exact .refl _
    | some read => exact sameUnless_findStepOne h
  | futureSignCompletion voucher =>
    exact sameUnless_bind (h _) fun read => sameUnless_findSignature h
  | makeSharePublic dwallet shareCommitItemId =>
    refine sameUnless_bind (sameUnless_publicShareOf h) fun found => ?_
    cases found with
    | true => exact .refl _
    | false => exact sameUnless_ranOr h
  | reEncryptShare dwallet newHolder shareCommitItemId =>
    refine sameUnless_bind (sameUnless_encryptedShareOf h) fun found => ?_
    cases found with
    | true => exact .refl _
    | false => exact sameUnless_ranOr h
  | dkg dwallet => exact sameUnless_findDWallet h
  | importedKey dwallet => exact sameUnless_findDWallet h

end Session

end Ika
