import IkaSdk.Core.Grpc.UsableSoundness

/-! The read of a dWallet that a caller names, by the address of its record or by the values the
address is derived from. The chain's record is read for its attestation only; the ownership check
of that attestation reads the record again. -/

namespace Ika

open Wire Interaction Eff

/-- The dWallet that a caller asks for. -/
inductive DWalletToRead
  | address (address : Bytes)
  | lookup (lookup : DWalletLookup)
deriving DecidableEq, Repr

/-- The operations of a reader: those of the ownership check, and the read at an address. -/
inductive ReaderOp (H : Type)
  | check (op : OwnershipOp H)
  | readDWalletAt (address : Bytes)

abbrev ReaderOp.Ans {H : Type} : ReaderOp H → Type
  | check op => op.Ans
  | readDWalletAt _ => Except SdkError (Option (CheckedDWalletRecord H))

abbrev readerInterface (H : Type) : Interface := ⟨ReaderOp H, ReaderOp.Ans⟩

abbrev ReaderEff (H α : Type) := Eff (readerInterface H) SdkError α

variable {H : Type}

/-- A part of the ownership check, run by the reader. -/
def ofCheck {α : Type} (p : OwnershipEff H α) : ReaderEff H α :=
  Eff.ofProg (p.run.interp fun op => Prog.perform (I := readerInterface H) (.check op))

def readDWalletAt (address : Bytes) : ReaderEff H (Option (CheckedDWalletRecord H)) :=
  Eff.ofProg (Prog.perform (I := readerInterface H) (.readDWalletAt address))

/-- The record of the dWallet asked for. Not every reader can read at an address. -/
def readAskedRecord (readsByAddress : Bool) :
    DWalletToRead → ReaderEff H (Option (CheckedDWalletRecord H))
  | .address address => do
    ensure (readsByAddress = true) (SdkError.error
      ("this reader cannot read a dWallet by its address (it has no readDWalletAt); read it " ++
        "by its curve and public key, or use the chain package's dwalletShareReader"))
    readDWalletAt address
  | .lookup lookup => ofCheck (readDWallet lookup)

def noDWalletRecord : DWalletToRead → SdkError
  | .address address =>
    .error s!"no dWallet record is at {toHex address}; it may not be committed yet"
  | .lookup lookup =>
    .error (s!"no dWallet with public key {toHex lookup.publicKey} is on the chain; " ++
      "it may not be committed yet")

/-- Whether the checked dWallet is the one asked for. -/
def DWalletToRead.AskedFor (checked : IssuedState) : DWalletToRead → Prop
  | .address at_ => checked.address = at_
  | .lookup values =>
    ⟨checked.curve, checked.publicKey, checked.importedSessionIdentifier⟩ = values

instance (checked : IssuedState) : DecidablePred (DWalletToRead.AskedFor checked)
  | .address at_ => inferInstanceAs (Decidable (checked.address = at_))
  | .lookup values => inferInstanceAs (Decidable
      (⟨checked.curve, checked.publicKey, checked.importedSessionIdentifier⟩ = values))

section Read

variable (P : Primitives)

def readDWalletVerified (reader : DWalletShareReader) (readsByAddress : Bool)
    (dwallet : DWalletToRead) (classicShareId : Option String)
    (acceptanceSignature : Option Bytes) : ReaderEff H IssuedState := do
  match ← readAskedRecord readsByAddress dwallet with
  | none => throw (noDWalletRecord dwallet)
  | some record =>
    let usable ← ofCheck (assertDWalletUsable P reader record.attestation.attestationData
      classicShareId acceptanceSignature)
    ensure (dwallet.AskedFor usable) (SdkError.error
      ("the chain served the record of another dWallet, with public key " ++
        s!"{toHex usable.publicKey}, than the one asked for"))
    return usable

end Read

/-! ## What a read shows -/

variable {P : Primitives} {reader : DWalletShareReader} {tr : List (Event (readerInterface H))}

/-- A run of a part of the check is one of the reader's, with its operations as the reader's. -/
theorem gives_ofCheck {α : Type} {p : OwnershipEff H α} {a : α} (h : Gives (ofCheck p) tr a) :
    ∃ es, Gives p es a ∧ ∀ e ∈ es, ⟨.check e.op, e.ans⟩ ∈ tr := by
  obtain ⟨es, hes, himplements⟩ := Prog.returns_interp h
  refine ⟨es, hes, fun e he => ?_⟩
  obtain ⟨tr', hop, hsub⟩ := himplements.mem he
  have hevent : tr' = [⟨.check e.op, e.ans⟩] := by
    simpa [Prog.perform, Prog.returns_call_iff] using hop
  apply hsub
  simp [hevent]

/-- A result is one of the ownership check, and of the dWallet asked for. What the first read
answered is only where the attestation came from. -/
theorem readDWalletVerified_gives {readsByAddress : Bool} {dwallet : DWalletToRead}
    {classic : Option String} {acceptance : Option Bytes} {st : IssuedState}
    (h : Gives (readDWalletVerified P reader readsByAddress dwallet classic acceptance) tr st) :
    dwallet.AskedFor st ∧ ∃ data es, Gives (assertDWalletUsable P reader data classic acceptance)
      es st ∧ ∀ e ∈ es, ⟨.check e.op, e.ans⟩ ∈ tr := by
  obtain ⟨tr₁, tr₂, record, rfl, hrecord, hcheck⟩ := gives_bind_iff.mp h
  cases record with
  | none => exact (gives_throw_iff.mp hcheck).elim
  | some record =>
    obtain ⟨tr₃, tr₄, usable, rfl, husable, hasked⟩ := gives_bind_iff.mp hcheck
    obtain ⟨_, hfor, hlast⟩ := gives_lift_bind_iff.mp hasked
    obtain ⟨rfl, rfl⟩ := gives_pure_iff.mp hlast
    obtain ⟨es, hes, hsub⟩ := gives_ofCheck husable
    refine ⟨ensure_ok hfor, _, es, hes, fun e he => ?_⟩
    simp [hsub e he]

end Ika
