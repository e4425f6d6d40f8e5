import IkaSdk.Programs.Runtime
import Mathlib.Logic.Relation

/-! Runs of a program: its calls in any order, with the other programs running in between.
What every single call keeps holds of the accounts from when they are made. -/

namespace Ika.Programs

open Wire Ledgers Solana Crates

/-! ## Runs -/

/-- A call of the program: the accounts it is given, and its data. -/
structure Call where
  accounts : List AccountInfo
  data : Bytes

section Runs

variable (process : Call → World → Except ProgramError World) (d : Deployment)

/-- A call that goes through, or the other programs running. A call that is refused leaves the
ledger as it was. -/
inductive Step (w : World) : World → Prop
  | call {w' : World} {c : Call} : process c w = .ok w' → Step w w'
  | others {L : SolanaLedger} : Others d.programId w.ledger L → Step w { w with ledger := L }

/-- Whatever comes after, with the calls and the other programs in any order. -/
def Onward : World → World → Prop := Relation.ReflTransGen (Step process d)

/-- Nothing of the program is on the ledger yet. -/
structure Fresh (w : World) : Prop where
  blank : ∀ {key data}, heldBy d.programId w.ledger key = some data → isBlank data
  issued : w.issued = []

/-- A run from the start, with the calls that went through. -/
inductive Run : List Call → World → Prop
  | start {w : World} : Fresh d w → Run [] w
  | call {calls : List Call} {w w' : World} {c : Call} : Run calls w →
      process c w = .ok w' → Run (calls ++ [c]) w'
  | others {calls : List Call} {w : World} {L : SolanaLedger} : Run calls w →
      Others d.programId w.ledger L → Run calls { w with ledger := L }

variable {process d}

/-- Every call of a run went through on the way. -/
theorem Run.accepted {calls : List Call} {w : World} (hrun : Run process d calls w) {c : Call}
    (hc : c ∈ calls) : ∃ w₁ w₂, process c w₁ = .ok w₂ ∧ Onward process d w₂ w := by
  induction hrun with
  | start _ => exact absurd hc List.not_mem_nil
  | call _ hok ih =>
    rcases List.mem_append.mp hc with hold | hnew
    · obtain ⟨w₁, w₂, haccepted, honward⟩ := ih hold
      exact ⟨w₁, w₂, haccepted, honward.tail (.call hok)⟩
    · obtain rfl := List.mem_singleton.mp hnew
      exact ⟨_, _, hok, .refl⟩
  | others _ hothers ih =>
    obtain ⟨w₁, w₂, haccepted, honward⟩ := ih hc
    exact ⟨w₁, w₂, haccepted, honward.tail (.others hothers)⟩

/-- A run goes on with calls that go through one after the other. -/
theorem Run.calls {calls cs : List Call} {w w' : World} (hrun : Run process d calls w)
    (h : cs.foldlM (fun w c => process c w) w = .ok w') : Run process d (calls ++ cs) w' := by
  induction cs generalizing calls w with
  | nil =>
    obtain rfl := Except.ok.inj h
    rwa [List.append_nil]
  | cons c cs ih =>
    obtain ⟨w₁, hok, h⟩ := bind_ok h
    rw [List.append_cons]
    exact ih (hrun.call hok) h

theorem onward_of_calls {cs : List Call} {w w' : World}
    (h : cs.foldlM (fun w c => process c w) w = .ok w') : Onward process d w w' := by
  induction cs generalizing w with
  | nil =>
    obtain rfl := Except.ok.inj h
    exact .refl
  | cons c cs ih =>
    obtain ⟨w₁, hok, h⟩ := bind_ok h
    exact (ih h).head (.call hok)

end Runs

/-! ## What every call keeps -/

theorem nthByte_of_isBlank {bytes : Bytes} (h : isBlank bytes) : nthByte bytes 0 = 0 := by
  cases bytes with
  | nil => rfl
  | cons b bytes => exact h b List.mem_cons_self

/-- An account with a discriminator was there before the blank ones came in. -/
theorem before_grown {s s' : PublicKey → Option Bytes} (h : Grown s s') {key : PublicKey}
    {data : Bytes} (hheld : s' key = some data) (hdisc : nthByte data 0 ≠ 0) :
    s key = some data :=
  h.old hheld (mt nthByte_of_isBlank hdisc)

/-- A program whose calls change its accounts as they may, and nothing else does. -/
structure Keeps (process : Call → World → Except ProgramError World) (d : Deployment)
    (Kept : Bytes → Bytes → Prop) : Prop where
  order : IsPreorder Bytes Kept
  blank : ∀ {data data'}, Kept data data' → isBlank data → isBlank data'
  call : ∀ {c w w'}, process c w = .ok w' →
    Later Kept (heldBy d.programId w.ledger) (heldBy d.programId w'.ledger)

/-- A call that made an account as it is now, but for what may change. -/
def MadeBy (process : Call → World → Except ProgramError World) (d : Deployment)
    (Kept : Bytes → Bytes → Prop) (calls : List Call) (w : World) (key : PublicKey)
    (data : Bytes) : Prop :=
  ∃ c ∈ calls, ∃ w₁ w₂ data₀, process c w₁ = .ok w₂ ∧
    heldBy d.programId w₁.ledger key = none ∧ heldBy d.programId w₂.ledger key = some data₀ ∧
    Onward process d w₂ w ∧ Kept data₀ data

section Keeping

variable {process : Call → World → Except ProgramError World} {d : Deployment}
  {Kept : Bytes → Bytes → Prop} {calls : List Call} {w w' : World}

theorem Keeps.step (hkeeps : Keeps process d Kept) (h : Step process d w w') :
    Later Kept (heldBy d.programId w.ledger) (heldBy d.programId w'.ledger) := by
  have := hkeeps.order
  cases h with
  | call hok => exact hkeeps.call hok
  | others hothers => exact .of_grown hothers.grown

theorem Keeps.onward (hkeeps : Keeps process d Kept) (h : Onward process d w w') :
    Later Kept (heldBy d.programId w.ledger) (heldBy d.programId w'.ledger) := by
  have := hkeeps.order
  induction h with
  | refl => exact .of_grown (Grown.refl _)
  | tail _ step ih => exact ih.trans (hkeeps.step step)

theorem MadeBy.step {calls' : List Call} {key : PublicKey} {data data' : Bytes}
    (hkeeps : Keeps process d Kept) (h : MadeBy process d Kept calls w key data)
    (hstep : Step process d w w') (hcalls : calls ⊆ calls') (hkept : Kept data data') :
    MadeBy process d Kept calls' w' key data' := by
  have := hkeeps.order
  obtain ⟨c, hc, w₁, w₂, data₀, hok, hnone, hsome, honward, hkept₀⟩ := h
  exact ⟨c, hcalls hc, w₁, w₂, data₀, hok, hnone, hsome, honward.tail hstep,
    trans_of Kept hkept₀ hkept⟩

/-- Every account of the program was made by one of its calls, or it is blank. -/
theorem Keeps.origin (hkeeps : Keeps process d Kept) (hrun : Run process d calls w)
    {key : PublicKey} {data : Bytes} (hheld : heldBy d.programId w.ledger key = some data) :
    isBlank data ∨ MadeBy process d Kept calls w key data := by
  have := hkeeps.order
  induction hrun generalizing key data with
  | start hfresh => exact .inl (hfresh.blank hheld)
  | @call calls w₁ w₂ c _ hok ih =>
    cases hbefore : heldBy d.programId w₁.ledger key with
    | none => exact .inr ⟨c, by simp, w₁, w₂, data, hok, hbefore, hheld, .refl, refl_of Kept data⟩
    | some before =>
      obtain ⟨after, hafter, hkept⟩ := hkeeps.call hok key before hbefore
      rw [hheld] at hafter
      obtain rfl := Option.some.inj hafter
      rcases ih hbefore with hblank | hmade
      · exact .inl (hkeeps.blank hkept hblank)
      · exact .inr (hmade.step hkeeps (.call hok) (List.subset_append_left ..) hkept)
  | @others calls w₁ L _ hothers ih =>
    cases hbefore : heldBy d.programId w₁.ledger key with
    | none => exact .inl (hothers.grown.given hbefore hheld)
    | some before =>
      have hafter := hothers.grown.kept hbefore
      rw [hheld] at hafter
      obtain rfl := Option.some.inj hafter
      rcases ih hbefore with hblank | hmade
      · exact .inl hblank
      · exact .inr (hmade.step hkeeps (.others hothers) (List.Subset.refl _) (refl_of Kept _))

end Keeping

/-! ## A deployment to try the programs in -/

def repeatedKey (n : UInt8) : PublicKey := ⟨List.replicate 32 n, List.length_replicate⟩

/-- The seeds of the samples differ in their first bytes. -/
def sampleAddress (seeds : List Bytes) : PublicKey :=
  repeatedKey (seeds.foldl (fun sum seed => (sum ^^^ seed.headD 0) * 167 + 13) 7)

/-- The ika program makes an account for the voucher, if there is none. -/
def sampleIka (invocation : Invocation) (L : SolanaLedger) : Except Fault SolanaLedger := do
  let voucher := (invocation.instruction.accounts.map (·.pubkey)).getD 1 systemProgramId
  ensure ((L voucher).lamports = 0 ∧ (L voucher).owner = systemProgramId) .accountAlreadyInUse
  return Function.update L voucher ⟨repeatedKey 101, [4, 1], 1, false⟩

def sampleDeployment : Deployment where
  programId := repeatedKey 100
  ikaProgramId := repeatedKey 101
  createProgramAddress := fun seeds _ => some (sampleAddress seeds)
  minimumBalance := fun space => (space + 128) * 6960
  crate := .native
  ika := sampleIka

theorem sampleDeployment_sound : sampleDeployment.Sound where
  owners := by
    intro invocation L L' h
    obtain ⟨⟨-, howner⟩, h⟩ := ensure_bind_iff.mp h
    obtain rfl := Except.ok.inj h
    refine ⟨?_, ?_⟩
    · intro k hk
      rw [Function.update_apply]
      split_ifs with hvoucher
      · rw [hvoucher, howner] at hk
        exact absurd hk (by decide)
      · exact ⟨hk, rfl⟩
    · intro k hne hk
      rw [Function.update_apply] at hk
      split_ifs at hk with hvoucher
      · exact absurd hk (by decide)
      · exact absurd hk hne
  notSystem := by decide

/-- The dWallet at 10 belongs to the wallet at 1, and there are two more wallets. -/
def sampleLedger : SolanaLedger := fun key =>
  if key = repeatedKey 10 then
    ⟨repeatedKey 101, [97, 0] ++ (repeatedKey 1).toBytes, 1, false⟩
  else if key = repeatedKey 101 then ⟨repeatedKey 102, [], 1, true⟩
  else if key ∈ [repeatedKey 1, repeatedKey 2, repeatedKey 3] then
    ⟨systemProgramId, [], 10000000000, false⟩
  else ⟨systemProgramId, [], 0, false⟩

def sampleStart : World := ⟨sampleLedger, []⟩

theorem sampleStart_fresh : Fresh sampleDeployment sampleStart where
  blank := by
    intro key data hheld
    have howner := (heldBy_eq_some.mp hheld).1
    change (sampleLedger key).owner = _ at howner
    unfold sampleLedger at howner
    split_ifs at howner <;> exact absurd howner (by decide)
  issued := rfl

/-- The world after some calls. -/
def worldAfter (process : Call → World → Except ProgramError World) (calls : List Call) : World :=
  (calls.foldlM (fun w c => process c w) sampleStart).toOption.getD sampleStart

theorem foldlM_worldAfter {process : Call → World → Except ProgramError World} {calls : List Call}
    (h : (calls.foldlM (fun w c => process c w) sampleStart).isOk = true) :
    calls.foldlM (fun w c => process c w) sampleStart = .ok (worldAfter process calls) := by
  unfold worldAfter
  cases hcalls : calls.foldlM (fun w c => process c w) sampleStart with
  | ok w => rfl
  | error e =>
    rw [hcalls] at h
    cases h

theorem foldlM_worldAfter_append {process : Call → World → Except ProgramError World}
    {calls cs : List Call} (h : (calls.foldlM (fun w c => process c w) sampleStart).isOk = true)
    (h' : ((calls ++ cs).foldlM (fun w c => process c w) sampleStart).isOk = true) :
    cs.foldlM (fun w c => process c w) (worldAfter process calls) =
      .ok (worldAfter process (calls ++ cs)) := by
  have hall := foldlM_worldAfter h'
  rw [List.foldlM_append, foldlM_worldAfter h] at hall
  exact hall

theorem run_worldAfter {process : Call → World → Except ProgramError World} {calls : List Call}
    (h : (calls.foldlM (fun w c => process c w) sampleStart).isOk = true) :
    Run process sampleDeployment calls (worldAfter process calls) :=
  (Run.start sampleStart_fresh).calls (foldlM_worldAfter h)

end Ika.Programs
