import IkaSdk.Lib.Bytes
import IkaSdk.Lib.Except
import Mathlib.Logic.Function.Basic
import Mathlib.Order.Defs.Unbundled

/-! A ledger of accounts under the owner rule: the data of an account is changed by the program
that owns it and by no other, and a program is given an account only with its data zeroed.
A new account is made at an address that holds nothing, with the signature of that address. -/

namespace Ledgers

open Wire

structure Account (κ : Type) where
  owner : κ
  data : Bytes
  lamports : ℕ
  executable : Bool

/-- The accounts by address. An address nobody has used belongs to the system program. -/
abbrev Accounts (κ : Type) := κ → Account κ

/-- An account as one instruction is given it. -/
structure AccountInfo (κ : Type) where
  key : κ
  isSigner : Bool
  isWritable : Bool
deriving DecidableEq

/-- What the runtime refuses an instruction for. -/
inductive Fault
  | accountAlreadyInUse
  | invalidArgument
  | insufficientFunds
  | missingAccount
  | privilegeEscalation
  | invalidSeeds
  | dataModified
  | panicked
  | refused
deriving DecidableEq, Repr

section Holdings

variable {κ : Type} [DecidableEq κ]

/-- The data of the accounts that a program owns. -/
def heldBy (program : κ) (L : Accounts κ) (k : κ) : Option Bytes :=
  if (L k).owner = program then some (L k).data else none

def isBlank (data : Bytes) : Prop := ∀ b ∈ data, b = 0

/-- What the other programs can make of the accounts that a program holds: those they leave
alone, and they may give it zeroed ones. -/
structure Others (program : κ) (L L' : Accounts κ) : Prop where
  kept : ∀ k, (L k).owner = program → (L' k).owner = program ∧ (L' k).data = (L k).data
  given : ∀ k, (L k).owner ≠ program → (L' k).owner = program → isBlank (L' k).data

variable {program : κ} {L L' L'' : Accounts κ} {k : κ} {data : Bytes}

theorem heldBy_eq_some : heldBy program L k = some data ↔
    (L k).owner = program ∧ (L k).data = data := by
  unfold heldBy
  split_ifs with howner <;> simp [howner]

theorem heldBy_eq_none : heldBy program L k = none ↔ (L k).owner ≠ program := by
  unfold heldBy
  split_ifs with howner <;> simp [howner]

omit [DecidableEq κ] in
theorem Others.refl (program : κ) (L : Accounts κ) : Others program L L where
  kept := fun _ h => ⟨h, rfl⟩
  given := fun _ hne h => absurd h hne

theorem Others.trans (h : Others program L L') (h' : Others program L' L'') :
    Others program L L'' where
  kept := by
    intro k hk
    obtain ⟨howner, hdata⟩ := h.kept k hk
    obtain ⟨howner', hdata'⟩ := h'.kept k howner
    exact ⟨howner', hdata'.trans hdata⟩
  given := by
    intro k hne howner
    by_cases hmid : (L' k).owner = program
    · rw [(h'.kept k hmid).2]
      exact h.given k hne hmid
    · exact h'.given k hmid howner

/-- What a program holds may grow by blank accounts. -/
structure Grown (s s' : κ → Option Bytes) : Prop where
  kept : ∀ {k data}, s k = some data → s' k = some data
  given : ∀ {k data}, s k = none → s' k = some data → isBlank data

omit [DecidableEq κ] in
theorem Grown.refl (s : κ → Option Bytes) : Grown s s where
  kept := fun h => h
  given := fun hnone h => by
    rw [hnone] at h
    cases h

theorem Grown.update {s s' : κ → Option Bytes} (h : Grown s s') (k : κ) (data : Bytes) :
    Grown (Function.update s k (some data)) (Function.update s' k (some data)) where
  kept := by
    intro j d hj
    by_cases hk : j = k
    · subst hk
      simpa using hj
    · simpa [hk] using h.kept (by simpa [hk] using hj)
  given := by
    intro j d hnone hj
    by_cases hk : j = k
    · subst hk
      simp at hnone
    · exact h.given (by simpa [hk] using hnone) (by simpa [hk] using hj)

omit [DecidableEq κ] in
/-- What is not blank was there before. -/
theorem Grown.old {s s' : κ → Option Bytes} (h : Grown s s') (hk : s' k = some data)
    (hblank : ¬isBlank data) : s k = some data := by
  cases hbefore : s k with
  | none => exact absurd (h.given hbefore hk) hblank
  | some before =>
    rw [h.kept hbefore] at hk
    exact hk

/-- What stands somewhere after two accounts were set: a blank account, one of the two, or what
was there. -/
theorem Grown.of_updates {s s' : κ → Option Bytes} {r : κ} {data record : Bytes} (h : Grown
    (Function.update (Function.update s r (some record)) k (some data)) s') {j : κ} {d : Bytes}
    (hj : s' j = some d) : isBlank d ∨ (j = k ∧ d = data) ∨ (j = r ∧ d = record) ∨
      (j ≠ k ∧ s j = some d) := by
  cases hbefore : Function.update (Function.update s r (some record)) k (some data) j with
  | none => exact .inl (h.given hbefore hj)
  | some before =>
    have hkept := h.kept hbefore
    rw [hj] at hkept
    obtain rfl := Option.some.inj hkept
    rw [Function.update_apply, Function.update_apply] at hbefore
    split_ifs at hbefore with hk hr
    · exact .inr (.inl ⟨hk, (Option.some.inj hbefore).symm⟩)
    · exact .inr (.inr (.inl ⟨hr, (Option.some.inj hbefore).symm⟩))
    · exact .inr (.inr (.inr ⟨hk, hbefore⟩))

theorem Others.grown (h : Others program L L') : Grown (heldBy program L) (heldBy program L') where
  kept := by
    intro k data hk
    obtain ⟨howner, hdata⟩ := heldBy_eq_some.mp hk
    obtain ⟨howner', hdata'⟩ := h.kept k howner
    exact heldBy_eq_some.mpr ⟨howner', hdata'.trans hdata⟩
  given := by
    intro k data hk hk'
    obtain ⟨howner, rfl⟩ := heldBy_eq_some.mp hk'
    exact h.given k (heldBy_eq_none.mp hk) howner

end Holdings

/-! ## What may change -/

section Changes

variable {κ : Type} {Kept : Bytes → Bytes → Prop}

/-- Every account that a program holds is still there, and it has changed as it may. -/
def Later (Kept : Bytes → Bytes → Prop) (s s' : κ → Option Bytes) : Prop :=
  ∀ key data, s key = some data → ∃ data', s' key = some data' ∧ Kept data data'

theorem Later.isSome {s s' : κ → Option Bytes} (h : Later Kept s s') {key : κ}
    (hkey : (s key).isSome) : (s' key).isSome := by
  obtain ⟨data, hdata⟩ := Option.isSome_iff_exists.mp hkey
  obtain ⟨data', hdata', -⟩ := h key data hdata
  rw [hdata']
  rfl

variable [IsPreorder Bytes Kept]

theorem Later.trans {s s' s'' : κ → Option Bytes} (h : Later Kept s s') (h' : Later Kept s' s'') :
    Later Kept s s'' := by
  intro key data hkey
  obtain ⟨data', hkey', hkept⟩ := h key data hkey
  obtain ⟨data'', hkey'', hkept'⟩ := h' key data' hkey'
  exact ⟨data'', hkey'', trans_of Kept hkept hkept'⟩

theorem Later.of_grown {s s' : κ → Option Bytes} (h : Grown s s') : Later Kept s s' :=
  fun _ data hkey => ⟨data, h.kept hkey, refl_of Kept data⟩

variable [DecidableEq κ]

/-- A new account leaves the others alone. -/
theorem Later.new {s : κ → Option Bytes} {key : κ} (hnew : s key = none) (data : Bytes) :
    Later Kept s (Function.update s key (some data)) := by
  intro other old hother
  have hne : other ≠ key := by
    rintro rfl
    rw [hnew] at hother
    cases hother
  exact ⟨old, by rwa [Function.update_of_ne hne], refl_of Kept old⟩

theorem Later.update {s : κ → Option Bytes} {key : κ} {data data' : Bytes}
    (hkey : s key = some data) (hkept : Kept data data') :
    Later Kept s (Function.update s key (some data')) := by
  intro other old hother
  by_cases heq : other = key
  · subst heq
    rw [hkey] at hother
    obtain rfl := Option.some.inj hother
    exact ⟨data', Function.update_self .., hkept⟩
  · exact ⟨old, by rwa [Function.update_of_ne heq], refl_of Kept old⟩

end Changes

/-! ## Writes -/

section Writes

variable {κ : Type} [DecidableEq κ]

def setData (L : Accounts κ) (k : κ) (data : Bytes) : Accounts κ :=
  Function.update L k { L k with data }

variable {program k : κ} {L : Accounts κ} {data : Bytes}

theorem heldBy_setData (howner : (L k).owner = program) :
    heldBy program (setData L k data) = Function.update (heldBy program L) k (some data) := by
  funext j
  by_cases hj : j = k
  · subst hj
    simp [heldBy, setData, howner]
  · simp [heldBy, setData, hj]

@[simp] theorem setData_owner (L : Accounts κ) (k j : κ) (data : Bytes) :
    (setData L k data j).owner = (L j).owner := by
  by_cases hj : j = k
  · subst hj
    simp [setData]
  · simp [setData, hj]

@[simp] theorem setData_lamports (L : Accounts κ) (k j : κ) (data : Bytes) :
    (setData L k data j).lamports = (L j).lamports := by
  by_cases hj : j = k
  · subst hj
    simp [setData]
  · simp [setData, hj]

theorem setData_other {j : κ} (L : Accounts κ) (data : Bytes) (hj : j ≠ k) :
    setData L k data j = L j := by
  simp [setData, hj]

end Writes

/-! ## New accounts -/

section Creation

variable {κ : Type} [DecidableEq κ]

/-- The account at `k` takes on an owner and `space` zero bytes. -/
def allocated (L : Accounts κ) (k owner : κ) (space : ℕ) : Accounts κ :=
  Function.update L k { L k with owner, data := List.replicate space 0 }

def transferred (L : Accounts κ) (payer k : κ) (lamports : ℕ) : Accounts κ :=
  let debited := Function.update L payer { L payer with lamports := (L payer).lamports - lamports }
  Function.update debited k { debited k with lamports := (debited k).lamports + lamports }

/-- `create_account` of the system program. -/
def createAccount (system : κ) (L : Accounts κ) (payer k : κ) (lamports space : ℕ) (owner : κ) :
    Except Fault (Accounts κ) := do
  ensure ((L k).lamports = 0) .accountAlreadyInUse
  ensure ((L k).data = [] ∧ (L k).owner = system) .accountAlreadyInUse
  let made := allocated L k owner space
  ensure ((made payer).data = [] ∧ (made payer).owner = system) .invalidArgument
  ensure (lamports ≤ (made payer).lamports) .insufficientFunds
  return transferred made payer k lamports

/-- Nobody has used the address yet. -/
structure Unused (system : κ) (a : Account κ) : Prop where
  lamports : a.lamports = 0
  data : a.data = []
  owner : a.owner = system

/-- The account is a wallet with at least `lamports`. -/
structure CanPay (system : κ) (lamports : ℕ) (a : Account κ) : Prop where
  data : a.data = []
  owner : a.owner = system
  funds : lamports ≤ a.lamports

variable {system payer k owner : κ} {L L' : Accounts κ} {lamports space : ℕ}

@[simp] theorem transferred_owner (j : κ) :
    (transferred L payer k lamports j).owner = (L j).owner := by
  simp only [transferred, Function.update_apply]
  split_ifs <;> simp_all

@[simp] theorem transferred_data (j : κ) :
    (transferred L payer k lamports j).data = (L j).data := by
  simp only [transferred, Function.update_apply]
  split_ifs <;> simp_all

theorem createAccount_ok (h : createAccount system L payer k lamports space owner = .ok L') :
    Unused system (L k) ∧ L' = transferred (allocated L k owner space) payer k lamports := by
  unfold createAccount at h
  simp only [ensure_bind_iff] at h
  obtain ⟨hlamports, ⟨hdata, howner⟩, -, -, hmade⟩ := h
  exact ⟨⟨hlamports, hdata, howner⟩, (Except.ok.inj hmade).symm⟩

theorem createAccount_of (hk : Unused system (L k)) (hpayer : CanPay system lamports (L payer))
    (hne : payer ≠ k) : createAccount system L payer k lamports space owner =
      .ok (transferred (allocated L k owner space) payer k lamports) := by
  have hsame : allocated L k owner space payer = L payer := by simp [allocated, hne]
  unfold createAccount
  rw [ensure_of hk.lamports, ok_bind, ensure_of ⟨hk.data, hk.owner⟩, ok_bind]
  simp only [hsame]
  rw [ensure_of ⟨hpayer.data, hpayer.owner⟩, ok_bind, ensure_of hpayer.funds]
  rfl

/-- A new account is the only change to what its owner holds. -/
theorem heldBy_createAccount {program : κ}
    (h : createAccount system L payer k lamports space program = .ok L') :
    heldBy program L' = Function.update (heldBy program L) k (some (List.replicate space 0)) := by
  obtain ⟨-, rfl⟩ := createAccount_ok h
  funext j
  unfold heldBy
  rw [transferred_owner, transferred_data]
  by_cases hj : j = k
  · subst hj
    simp [allocated]
  · simp [allocated, hj]

end Creation

/-! ## Privileges -/

section Privileges

variable {κ : Type} [DecidableEq κ]

/-- The address signed for the instruction, or it is derived from seeds the program gave. -/
def signs (accounts : List (AccountInfo κ)) (derived : List κ) (k : κ) : Bool :=
  accounts.any (fun a => a.key = k && a.isSigner) || derived.contains k

def writes (accounts : List (AccountInfo κ)) (k : κ) : Bool :=
  accounts.any fun a => a.key = k && a.isWritable

/-- No account of the instruction that stands at `k` signed it. -/
def Unsigned (accounts : List (AccountInfo κ)) (k : κ) : Prop :=
  ∀ a ∈ accounts, a.key = k → a.isSigner = false

/-- Without a signature of its own, an address signs only where it is derived. -/
theorem derived_of_signs {accounts : List (AccountInfo κ)} {derived : List κ} {k : κ}
    (h : signs accounts derived k) (hunsigned : Unsigned accounts k) : k ∈ derived := by
  rcases Bool.or_eq_true _ _ |>.mp h with hsigner | hderived
  · obtain ⟨a, ha, hboth⟩ := List.any_eq_true.mp hsigner
    have hkey := of_decide_eq_true (Bool.and_eq_true _ _ |>.mp hboth).1
    have hsigned := (Bool.and_eq_true _ _ |>.mp hboth).2
    rw [hunsigned a ha hkey] at hsigned
    cases hsigned
  · simpa using hderived

end Privileges

end Ledgers
