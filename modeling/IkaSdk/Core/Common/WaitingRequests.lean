import IkaSdk.Core.Common.Submission
import IkaSdk.Core.Grpc.Requests
import IkaSdk.Core.Grpc.OwnershipPaths

/-! The request objects of a process, each with its identity: what is kept for
an object that was built from a result that waits stays with that object, in
whatever order others are built, changed, signed and dropped. So it is signed by
the holder of that result only. A sign that has a reader check the dWallet uses a
result that waits where the reader reports an acceptance that nobody gave. -/

namespace Ika

open Wire Interaction Eff

/-! ## Request objects -/

/-- A request object: its content, whether the program still holds it, and its
entry in `waitingRequestHolders`. `origin` records the result a builder made it
from. -/
structure RequestObject where
  request : DWalletRequest
  live : Bool
  waitingHolder : Option Bytes
  origin : Option IssuedState
deriving DecidableEq, Repr

/-- The results that were issued, and the request objects in the order they were
made: the identity of an object is its place. -/
structure Process where
  issued : List IssuedState
  objects : List RequestObject
deriving DecidableEq, Repr

inductive ProcessAct
  | issue (state : IssuedState)
  | makeSharePublic (now : ℤ) (usable : UsableObject) (share : Bytes)
  | reEncryptShare (now : ℤ) (args : ReEncryptShareArgs)
  | futureSign (now : ℤ) (args : FutureSignArgs)
  /-- An object that no builder of these made, such as a copy. -/
  | literal (request : DWalletRequest)
  /-- The caller changes the content of an object. -/
  | write (id : ℕ) (request : DWalletRequest)
  /-- The program holds the object no more, so its entry may be collected. -/
  | drop (id : ℕ)
  | signGrpcRequest (keypair : TransportKeypair) (id : ℕ) (signedData : SignedRequestData)

namespace Process

variable (P : Primitives)

def make (p : Process) (request : DWalletRequest) (waitingHolder : Option Bytes)
    (origin : Option IssuedState) : Process :=
  { p with objects := p.objects ++ [⟨request, true, waitingHolder, origin⟩] }

/-- A builder's request is an object with what is kept for it; a builder that
throws makes none. -/
def add (p : Process) (origin : Option IssuedState) : Except SdkError RequestOfResult → Process
  | .ok built => p.make built.request built.waitingHolder origin
  | .error _ => p

def change (p : Process) (id : ℕ) (f : RequestObject → RequestObject) : Process :=
  { p with objects := p.objects.modify id f }

def step (p : Process) : ProcessAct → Process
  | .issue state => { p with issued := p.issued ++ [state] }
  | .makeSharePublic now usable share => p.add (issuedGet p.issued usable)
      (makeSharePublicRequest p.issued now usable share)
  | .reEncryptShare now args => p.add (issuedGet p.issued args.usable)
      (reEncryptShareRequest p.issued now args)
  | .futureSign now args => p.add (issuedGet p.issued args.usable)
      ((futureSignRequest P p.issued now args).map fun request => ⟨request, none⟩)
  | .literal request => p.make request none none
  | .write id request => p.change id fun object => { object with request }
  | .drop id => p.change id fun object => { object with live := false, waitingHolder := none }
  | .signGrpcRequest .. => p

/-- What acts, one after the other, make of a process. -/
def run (p : Process) (acts : List ProcessAct) : Process := acts.foldl (step P) p

end Process

section Signing

variable (P : Primitives)

/-- `signGrpcRequest` of data whose request is the object. -/
def signGrpcRequestOf (keypair : TransportKeypair) (object : RequestObject)
    (signedData : SignedRequestData) : Except SdkError SignedRequest := do
  requireNoDWalletSign object.request
  requireWaitingHolder object.waitingHolder keypair.publicKey
  signRequestBytes P keypair { signedData with request := object.request }

end Signing

/-! ## What is kept -/

/-- An object that was built from a waiting result keeps the holder while the
program holds it. -/
def RequestObject.Kept (object : RequestObject) : Prop :=
  object.live = true → ∀ state ∈ object.origin, state.waiting = true →
    object.waitingHolder = some state.holder

def Process.Kept (p : Process) : Prop := ∀ object ∈ p.objects, object.Kept

section Steps

variable {P : Primitives} {p : Process}

theorem Process.Kept.make (h : p.Kept) {request : DWalletRequest} {holder : Option Bytes}
    {origin : Option IssuedState}
    (hnew : ∀ state ∈ origin, state.waiting = true → holder = some state.holder) :
    (p.make request holder origin).Kept := by
  intro object hmem
  rcases List.mem_append.mp hmem with hearlier | hlast
  · exact h object hearlier
  · obtain rfl := List.mem_singleton.mp hlast
    exact fun _ => hnew

theorem Process.Kept.add (h : p.Kept) {origin : Option IssuedState}
    {result : Except SdkError RequestOfResult} (hnew : ∀ built, result = .ok built →
      ∀ state ∈ origin, state.waiting = true → built.waitingHolder = some state.holder) :
    (p.add origin result).Kept := by
  cases result with
  | ok built => exact h.make (hnew built rfl)
  | error e => exact h

theorem Process.Kept.change (h : p.Kept) {id : ℕ} {f : RequestObject → RequestObject}
    (hf : ∀ object : RequestObject, object.Kept → (f object).Kept) : (p.change id f).Kept := by
  intro object hmem
  obtain ⟨i, hi⟩ := List.mem_iff_getElem?.mp hmem
  rw [Process.change, List.getElem?_modify] at hi
  obtain ⟨before, hbefore, rfl⟩ := Option.map_eq_some_iff.mp hi
  have hkept : before.Kept := h before (List.mem_of_getElem? hbefore)
  split_ifs
  · exact hf before hkept
  · exact hkept

/-- What a builder of a result keeps for the request is the holder, if it waits. -/
theorem requestOfResult_kept {state : IssuedState} {request : DWalletRequest}
    {origin : Option IssuedState} (horigin : origin = some state) :
    ∀ named ∈ origin, named.waiting = true →
      (requestOfResult state request).waitingHolder = some named.holder := by
  rintro named hnamed hwaiting
  rw [horigin] at hnamed
  obtain rfl := Option.some.inj hnamed
  simp [requestOfResult, hwaiting]

theorem Process.step_kept (h : p.Kept) (act : ProcessAct) : (p.step P act).Kept := by
  cases act with
  | issue state => exact h
  | makeSharePublic now usable share =>
    refine h.add fun built hbuilt => ?_
    obtain ⟨state, request, hstate, rfl⟩ := makeSharePublicRequest_ok hbuilt
    exact requestOfResult_kept hstate
  | reEncryptShare now args =>
    refine h.add fun built hbuilt => ?_
    obtain ⟨state, request, hstate, rfl⟩ := reEncryptShareRequest_ok hbuilt
    exact requestOfResult_kept hstate
  | futureSign now args =>
    refine h.add fun built hbuilt named hnamed hwaiting => ?_
    obtain ⟨request, hrequest, -⟩ := map_ok hbuilt
    obtain ⟨state, hstate, hnot⟩ := futureSignRequest_ok hrequest
    rw [hstate] at hnamed
    obtain rfl := Option.some.inj hnamed
    rw [hnot] at hwaiting
    cases hwaiting
  | literal request => exact h.make (by simp)
  | write id request => exact h.change fun object hkept => hkept
  | drop id => exact h.change fun object _ hlive => by cases hlive
  | signGrpcRequest keypair id signedData => exact h

theorem Process.run_kept (h : p.Kept) (acts : List ProcessAct) : (p.run P acts).Kept := by
  induction acts generalizing p with
  | nil => exact h
  | cons act acts ih => exact ih (Process.step_kept h act)

/-- An object's origin never changes, and it is held until it is dropped. -/
def SameObject (dropped : Prop) (object : RequestObject) (found : Option RequestObject) : Prop :=
  ∃ later, found = some later ∧ later.origin = object.origin ∧
    (¬dropped → later.live = object.live)

theorem Process.add_same {id : ℕ} {object : RequestObject} (h : p.objects[id]? = some object)
    (origin : Option IssuedState) (result : Except SdkError RequestOfResult) :
    (p.add origin result).objects[id]? = some object := by
  cases result with
  | error e => exact h
  | ok built =>
    obtain ⟨hlt, -⟩ := List.getElem?_eq_some_iff.mp h
    exact (List.getElem?_append_left hlt).trans h

theorem Process.change_same {id at' : ℕ} {object : RequestObject}
    {f : RequestObject → RequestObject}
    {dropped : Prop} (h : p.objects[id]? = some object)
    (horigin : (f object).origin = object.origin)
    (hlive : at' = id → ¬dropped → (f object).live = object.live) :
    SameObject dropped object (p.change at' f).objects[id]? := by
  rw [Process.change, List.getElem?_modify, h]
  refine ⟨_, rfl, ?_, fun hkept => ?_⟩
  · split_ifs
    · exact horigin
    · rfl
  · split_ifs with hat
    · exact hlive hat hkept
    · rfl

theorem Process.step_same {id : ℕ} {object : RequestObject} (act : ProcessAct)
    (h : p.objects[id]? = some object) :
    SameObject (act = .drop id) object (p.step P act).objects[id]? := by
  cases act with
  | issue state => exact ⟨object, h, rfl, fun _ => rfl⟩
  | makeSharePublic now usable share => exact ⟨object, p.add_same h _ _, rfl, fun _ => rfl⟩
  | reEncryptShare now args => exact ⟨object, p.add_same h _ _, rfl, fun _ => rfl⟩
  | futureSign now args => exact ⟨object, p.add_same h _ _, rfl, fun _ => rfl⟩
  | literal request => exact ⟨object, p.add_same h none (.ok ⟨request, none⟩), rfl, fun _ => rfl⟩
  | write at' request => exact p.change_same h rfl fun _ _ => rfl
  | drop at' =>
    refine p.change_same h rfl fun hat hkept => absurd ?_ hkept
    rw [hat]
  | signGrpcRequest keypair at' signedData => exact ⟨object, h, rfl, fun _ => rfl⟩

end Steps

/-! ## Signatures -/

section Signatures

variable {P : Primitives} {T H : Type} {keypair : TransportKeypair}

/-- Signed with the key pair's secret key, under its public key. -/
def SignedBy (P : Primitives) (keypair : TransportKeypair) (signed : SignedRequest) : Prop :=
  userSignatureBcs.serialize (.ed25519
    (P.ed25519Sign (requestSigningMessage signed.signedRequestData) keypair.secretKey)
    keypair.publicKey) = .ok signed.userSignature

theorem signRequestBytes_signedBy {data : SignedRequestData} {signed : SignedRequest}
    (h : signRequestBytes P keypair data = .ok signed) : SignedBy P keypair signed := by
  obtain ⟨_, -, hrest⟩ := bind_ok h
  obtain ⟨bytes, -, hsigned⟩ := bind_ok hrest
  obtain ⟨_, -, hrest⟩ := bind_ok hsigned
  obtain ⟨userSignature, hserialized, hlast⟩ := bind_ok hrest
  obtain rfl := Except.ok.inj hlast
  exact fromPackage_ok hserialized

theorem requireWaitingHolder_ok {holder : Option Bytes} {publicKey : Bytes} {u : Unit}
    (h : requireWaitingHolder holder publicKey = .ok u) : ∀ key ∈ holder, publicKey = key := by
  cases holder with
  | none => simp
  | some key =>
    intro named hnamed
    obtain rfl := Option.some.inj hnamed
    exact ensure_ok h

/-- An object that keeps a holder is signed by that holder only. -/
theorem signGrpcRequestOf_holder {object : RequestObject} {data : SignedRequestData}
    {signed : SignedRequest} (h : signGrpcRequestOf P keypair object data = .ok signed) :
    (∀ key ∈ object.waitingHolder, keypair.publicKey = key) ∧ SignedBy P keypair signed := by
  obtain ⟨_, -, hrest⟩ := bind_ok h
  obtain ⟨_, hholder, hsigned⟩ := bind_ok hrest
  exact ⟨requireWaitingHolder_ok hholder, signRequestBytes_signedBy hsigned⟩

/-- What the engine's sign asks for, of an object: its entry. -/
theorem gives_signGrpcRequest_iff {data : SignedRequestData} {signed : SignedRequest}
    {tr : List (EngineEvent T H)} :
    Gives (signGrpcRequest P keypair data) tr signed ↔
      ∃ holder, tr = [⟨.waitingRequestHolder data.request, holder⟩] ∧ ∀ live origin,
        signGrpcRequestOf P keypair ⟨data.request, live, holder, origin⟩ data = .ok signed := by
  constructor
  · intro h
    obtain ⟨tr₁, tr₂, _, rfl, hfirst, hrest⟩ := gives_bind_iff.mp h
    obtain ⟨rfl, hkind⟩ := gives_sdk_iff.mp hfirst
    obtain ⟨tr₃, tr₄, holder, rfl, hop, hlast⟩ := gives_bind_iff.mp hrest
    obtain rfl := gives_liftOp_iff.mp hop
    obtain ⟨tr₅, tr₆, _, rfl, hasked, hbytes⟩ := gives_bind_iff.mp hlast
    obtain ⟨rfl, hholder⟩ := gives_sdk_iff.mp hasked
    obtain ⟨rfl, hsign⟩ := gives_sdk_iff.mp hbytes
    refine ⟨holder, rfl, fun live origin => ?_⟩
    simp only [signGrpcRequestOf, hkind, hholder, ok_bind]
    exact hsign
  · rintro ⟨holder, rfl, hsigned⟩
    obtain ⟨_, hkind, hrest⟩ := bind_ok (hsigned true none)
    obtain ⟨_, hholder, hsign⟩ := bind_ok hrest
    refine gives_bind_iff.mpr ⟨[], _, (), rfl, gives_sdk_iff.mpr ⟨rfl, hkind⟩, ?_⟩
    refine gives_bind_iff.mpr ⟨_, [], holder, rfl, gives_liftOp_iff.mpr rfl, ?_⟩
    exact gives_bind_iff.mpr ⟨[], [], (), rfl, gives_sdk_iff.mpr ⟨rfl, hholder⟩,
      gives_sdk_iff.mpr ⟨rfl, hsign⟩⟩

end Signatures

/-! ## Submissions -/

section Submissions

variable {P : Primitives} {T H : Type} {network : Network} {requester : Requester} {fuel : ℕ}

/-- Every copy is of a session whose request was built and whose entry was asked
for before it was signed with the requester's own key. -/
def Asked (P : Primitives) (requester : Requester) (tr : List (EngineEvent T H)) : Prop :=
  ∀ c ∈ copies tr, ∃ before epoch session built holder after,
    tr = before ++ ⟨.build epoch session, .ok built⟩ ::
      ⟨.waitingRequestHolder built.request, holder⟩ :: after ∧
    c.session P = some session ∧ (∀ key ∈ holder, requester.keypair.publicKey = key) ∧
    SignedBy P requester.keypair c

theorem steady_asked : Steady (Asked (T := T) (H := H) P requester) where
  nil := by simp [Asked]
  append {tr tr'} h h' := by
    intro c hc
    rw [copies_append, List.mem_append] at hc
    rcases hc with hfirst | hlast
    · obtain ⟨before, epoch, session, built, holder, after, rfl, hc⟩ := h c hfirst
      exact ⟨before, epoch, session, built, holder, after ++ tr', by simp, hc⟩
    · obtain ⟨before, epoch, session, built, holder, after, rfl, hc⟩ := h' c hlast
      exact ⟨tr ++ before, epoch, session, built, holder, after, by simp, hc⟩
  still op hop a := by
    intro c hc
    rw [(steady_quiet.still op hop a).2] at hc
    cases hc
  reads read n := by
    intro c hc
    cases hc

theorem Quiet.asked {tr : List (EngineEvent T H)} (h : Quiet tr) : Asked P requester tr := by
  intro c hc
  rw [h.2] at hc
  cases hc

theorem submitOnce_asked (hsigner : requester.signer = false) :
    Always (Asked P requester)
      (submitOnce P network requester (buildRequest (T := T) (H := H)) fuel) := by
  have hasked : Steady (Asked (T := T) (H := H) P requester) := steady_asked
  intro tr h
  rcases begins_bind h with hread | ⟨tr₁, tr₂, epoch, rfl, hread, hsend⟩
  · exact always_readChainEpoch hasked tr hread
  refine hasked.append (always_readChainEpoch hasked tr₁ hread.begins) ?_
  rcases begins_bind hsend with hfresh | ⟨tr₃, tr₄, preimage, rfl, hfresh, hbuild⟩
  · exact @always_perform T H _ hasked .freshPreimage trivial tr₂ hfresh
  refine hasked.append (@always_perform T H _ hasked .freshPreimage trivial tr₃ hfresh.begins) ?_
  rcases begins_bind hbuild with hbuilding | ⟨tr₅, tr₆, built, rfl, hbuilt, hsign⟩
  · rcases begins_buildRequest hbuilding with rfl | ⟨answer, rfl⟩
    · exact hasked.nil
    · intro c hc
      cases hc
  obtain rfl := gives_buildRequest hbuilt
  have hsigns := signs_signGrpcRequest (T := T) (H := H) (P := P) requester.keypair
  simp only [signFor, hsigner, Bool.false_eq_true, if_false] at hsign
  rcases begins_bind hsign with hsigning | ⟨tr₇, tr₈, signed, rfl, hsigned, hsent⟩
  · intro c hc
    have hcopies : c ∈ copies tr₆ := hc
    rw [(hsigns.still steady_quiet _ tr₆ hsigning).2] at hcopies
    cases hcopies
  · have hnamed : SignedAs requester.keypair.publicKey
        (signedData network requester epoch preimage built.request) signed :=
      hsigns.signed _ tr₇ signed hsigned
    obtain ⟨holder, rfl, hobject⟩ := gives_signGrpcRequest_iff.mp hsigned
    obtain ⟨hholder, hsignedBy⟩ := signGrpcRequestOf_holder (hobject true none)
    intro c hc
    have hcopies : c ∈ copies tr₈ := hc
    obtain rfl : c = signed := (sendSigned_sendsOnly _ signed fuel tr₈ hsent).2 c hcopies
    exact ⟨[], epoch, _, built, holder, tr₈, rfl, hnamed.session_eq, hholder, hsignedBy⟩

/-! ## A submission next to the process -/

/-- The submission's events, in order, with acts of the process anywhere between
them. `objectOf` says which object the build of a session returned; from then on
the submission holds it, and asks for the entry of that very object. -/
inductive Serves (P : Primitives) (objectOf : Bytes → ℕ) :
    Process → Option ℕ → List (EngineEvent T H) → Process → Prop
  | done {p : Process} {held : Option ℕ} : Serves P objectOf p held [] p
  | act {p q : Process} {held : Option ℕ} {tr : List (EngineEvent T H)} {act : ProcessAct} :
      (∀ id ∈ held, act ≠ .drop id) → Serves P objectOf (p.step P act) held tr q →
      Serves P objectOf p held tr q
  | build {p q : Process} {held : Option ℕ} {tr : List (EngineEvent T H)} {epoch : ℕ}
      {session : Bytes} {built : BuiltRequest T} {object : RequestObject} :
      p.objects[objectOf session]? = some object → object.live = true →
      object.request = built.request → Serves P objectOf p (some (objectOf session)) tr q →
      Serves P objectOf p held (⟨.build epoch session, .ok built⟩ :: tr) q
  | entry {p q : Process} {id : ℕ} {tr : List (EngineEvent T H)} {request : DWalletRequest}
      {object : RequestObject} : p.objects[id]? = some object →
      Serves P objectOf p (some id) tr q →
      Serves P objectOf p (some id) (⟨.waitingRequestHolder request, object.waitingHolder⟩ :: tr) q
  | other {p q : Process} {held : Option ℕ} {tr : List (EngineEvent T H)} {e : EngineEvent T H} :
      (∀ epoch session built, e ≠ ⟨.build epoch session, .ok built⟩) →
      (∀ request holder, e ≠ ⟨.waitingRequestHolder request, holder⟩) →
      Serves P objectOf p held tr q → Serves P objectOf p held (e :: tr) q

variable {objectOf : Bytes → ℕ} {p q : Process} {held : Option ℕ}

theorem Serves.origin {tr : List (EngineEvent T H)} (h : Serves P objectOf p held tr q) {id : ℕ}
    {object : RequestObject} (hobject : p.objects[id]? = some object) :
    ∃ later, q.objects[id]? = some later ∧ later.origin = object.origin := by
  induction h generalizing object with
  | done => exact ⟨object, hobject, rfl⟩
  | act _ _ ih =>
    obtain ⟨next, hnext, horigin, -⟩ := Process.step_same _ hobject
    obtain ⟨later, hlater, hsame⟩ := ih hnext
    exact ⟨later, hlater, hsame.trans horigin⟩
  | build _ _ _ _ ih => exact ih hobject
  | entry _ _ ih => exact ih hobject
  | other _ _ _ ih => exact ih hobject

/-- The entry that is asked for right after the build is that of the object that
the build returned, so it is the holder of the waiting result that the object was
built from. -/
theorem Serves.entry_kept {id : ℕ} {after : List (EngineEvent T H)} {request : DWalletRequest}
    {holder : Option Bytes} (hkept : p.Kept)
    (h : Serves P objectOf p (some id) (⟨.waitingRequestHolder request, holder⟩ :: after) q)
    (hlive : ∀ object, p.objects[id]? = some object → object.live = true)
    {final : RequestObject} (hfinal : q.objects[id]? = some final) {state : IssuedState}
    (horigin : final.origin = some state) (hwaiting : state.waiting = true)
    (hheld : ∃ object, p.objects[id]? = some object) : holder = some state.holder := by
  generalize hcurrent : some id = held at h
  generalize hall : ⟨.waitingRequestHolder request, holder⟩ :: after = tr at h
  induction h with
  | done => cases hall
  | @act p q held tr act hdrop hrest ih =>
    subst hcurrent
    obtain ⟨object, hobject⟩ := hheld
    obtain ⟨next, hnext, -, hlater⟩ := Process.step_same (P := P) act hobject
    refine ih (Process.step_kept hkept act) (fun found hfound => ?_) hfinal ⟨next, hnext⟩ rfl hall
    obtain rfl := Option.some.inj (hnext.symm.trans hfound)
    rw [hlater (hdrop id rfl)]
    exact hlive object hobject
  | build _ _ _ _ _ => cases hall
  | @entry p q id' tr request' object hobject hrest ih =>
    obtain rfl := Option.some.inj hcurrent
    obtain ⟨hhead, rfl⟩ := List.cons.inj hall
    cases hhead
    obtain ⟨later, hlater, hsame⟩ := hrest.origin hobject
    obtain rfl := Option.some.inj (hfinal.symm.trans hlater)
    refine hkept object (List.mem_of_getElem? hobject) (hlive object hobject) state ?_ hwaiting
    rw [← hsame, horigin]
    rfl
  | other _ hnot _ _ =>
    obtain ⟨rfl, -⟩ := List.cons.inj hall
    exact absurd rfl (hnot _ _)

theorem Serves.kept_at_build {before after : List (EngineEvent T H)} {epoch : ℕ} {session : Bytes}
    {built : BuiltRequest T} {holder : Option Bytes} (hkept : p.Kept)
    (h : Serves P objectOf p held (before ++ ⟨.build epoch session, .ok built⟩ ::
      ⟨.waitingRequestHolder built.request, holder⟩ :: after) q)
    {final : RequestObject} (hfinal : q.objects[objectOf session]? = some final)
    {state : IssuedState} (horigin : final.origin = some state) (hwaiting : state.waiting = true) :
    holder = some state.holder := by
  generalize hall : before ++ ⟨.build epoch session, .ok built⟩ ::
    ⟨.waitingRequestHolder built.request, holder⟩ :: after = tr at h
  induction h generalizing before with
  | done => simp at hall
  | act _ _ ih => exact ih (Process.step_kept hkept _) hfinal hall
  | @build p q held tr epoch' session' built' object hobject hlive hrequest hrest ih =>
    cases before with
    | nil =>
      obtain ⟨hhead, rfl⟩ := List.cons.inj hall
      cases hhead
      refine hrest.entry_kept hkept (fun found hfound => ?_) hfinal horigin hwaiting ⟨_, hobject⟩
      obtain rfl := Option.some.inj (hobject.symm.trans hfound)
      exact hlive
    | cons e before => exact ih hkept hfinal (List.cons.inj hall).2
  | entry _ _ ih =>
    cases before with
    | nil => cases (List.cons.inj hall).1
    | cons e before => exact ih hkept hfinal (List.cons.inj hall).2
  | other hnot _ _ ih =>
    cases before with
    | nil => exact absurd (List.cons.inj hall).1.symm (hnot _ _ _)
    | cons e before => exact ih hkept hfinal (List.cons.inj hall).2

end Submissions

/-! ## A waiting share signs for its holder -/

/-- The process before anything was issued or built. -/
def Process.start : Process := ⟨[], []⟩

theorem Process.start_kept : Process.start.Kept := by simp [Process.start, Process.Kept]

/-- The act builds a make-public or a re-encryption from the result. -/
def ProcessAct.BuildsFrom (p : Process) (usable : UsableObject) (built : RequestOfResult) :
    ProcessAct → Prop
  | makeSharePublic now result share =>
    result = usable ∧ makeSharePublicRequest p.issued now result share = .ok built
  | reEncryptShare now args =>
    args.usable = usable ∧ reEncryptShareRequest p.issued now args = .ok built
  | _ => False

section Main

variable {P : Primitives}

/-- The object that such an act makes is the next one. -/
theorem ProcessAct.BuildsFrom.made {p : Process} {usable : UsableObject} {built : RequestOfResult}
    {act : ProcessAct} (h : act.BuildsFrom p usable built) :
    ∃ object, (p.step P act).objects[p.objects.length]? = some object ∧
      object.request = built.request ∧ object.origin = issuedGet p.issued usable := by
  have hmade : (p.step P act) = p.add (issuedGet p.issued usable) (.ok built) := by
    cases act with
    | makeSharePublic now result share =>
      obtain ⟨rfl, hbuilt⟩ := h
      rw [← hbuilt]
      rfl
    | reEncryptShare now args =>
      obtain ⟨rfl, hbuilt⟩ := h
      rw [← hbuilt]
      rfl
    | _ => exact h.elim
  rw [hmade]
  refine ⟨⟨built.request, true, built.waitingHolder, issuedGet p.issued usable⟩, ?_, rfl, rfl⟩
  simp [Process.add, Process.make]

theorem Process.run_origin {p : Process} {id : ℕ} {object : RequestObject}
    (acts : List ProcessAct) (h : p.objects[id]? = some object) :
    ∃ later, (p.run P acts).objects[id]? = some later ∧ later.origin = object.origin := by
  induction acts generalizing p object with
  | nil => exact ⟨object, h, rfl⟩
  | cons act acts ih =>
    obtain ⟨next, hnext, horigin, -⟩ := Process.step_same (P := P) act h
    obtain ⟨later, hlater, hsame⟩ := ih hnext
    exact ⟨later, hlater, hsame.trans horigin⟩

/-- The result that a sign used: the one that it was given, or that of its own check. -/
def UsedResult (issued issued' : List IssuedState) (ownership : DWalletOwnership)
    (state : IssuedState) : Prop :=
  match ownership.usable with
  | some usable => issuedGet issued usable = some state ∧ issued' = issued
  | none => issued' = issued ++ [state]

/-- Where a sign has a reader check the dWallet, and its attestation names a holder, no
share that was read without an acceptance is reported as one whose acceptance was given. -/
def NoneReported {H : Type} (P : Primitives) (ownership : DWalletOwnership) (sign : SignRequest)
    (tr : List (Event (ownershipInterface H))) : Prop :=
  ownership.usable = none → ∀ attestation, P.parse versionedDWalletDataAttestationBcs
      sign.dwalletAttestation.attestationData = .ok attestation →
    attestation.holder.isSome → ReportsGivenOnlyIfGiven tr

theorem assertDWalletUsable_notWaiting_iff {H : Type} {reader : DWalletShareReader}
    {data : Bytes} {check : List (Event (ownershipInterface H))} {state : IssuedState}
    (h : Gives (assertDWalletUsable P reader data none none) check state) :
    state.waiting = false ↔ ∀ attestation,
      P.parse versionedDWalletDataAttestationBcs data = .ok attestation →
        attestation.holder.isSome → ReportsGivenOnlyIfGiven check := by
  obtain ⟨record, dwallet, shareTr, rfl, hparse, -, -, -, hshare, -⟩ := assertDWalletUsable_gives h
  rw [hshare.notWaiting_iff]
  constructor
  · intro hreports attestation hdecoded hnamed record' holder share hmem
    obtain rfl := Except.ok.inj (hparse.symm.trans hdecoded)
    exact hreports hnamed record' holder share (by simpa using hmem)
  · intro hreports hnamed record' holder share hmem
    exact hreports _ hparse hnamed record' holder share (by simp [hmem])

theorem signDWalletSignRequest_notWaiting_iff {H : Type} {issued issued' : List IssuedState}
    {keypair : TransportKeypair} {tr : List (Event (ownershipInterface H))} {signed : SignedRequest}
    (h : Gives (signDWalletSignRequest P issued keypair) tr (signed, issued')) :
    ∃ signedData sign ownership rest state,
      tr = ⟨.signedData, signedData⟩ :: ⟨.ownership, ownership⟩ :: rest ∧
      signOf signedData.request = .ok sign ∧ UsedResult issued issued' ownership state ∧
      (state.waiting = false ↔ NoneReported P ownership sign tr) := by
  obtain ⟨signedData, ⟨readers, usable⟩, prepared, rest, object, recorded, rfl, hprepare, -,
    hresult, -⟩ := signDWalletSignRequest_gives_iff.mp h
  have hsign := signOf_prepared hprepare
  cases usable with
  | some usable =>
    obtain ⟨_, verified, _, rfl, hverified, hreusable, -, rfl⟩ :=
      requireDWalletUsable_result_iff.mp hresult
    exact ⟨signedData, _, _, _, verified, rfl, hsign, ⟨hverified, rfl⟩,
      iff_of_true hreusable.notWaiting fun hnone => by cases hnone⟩
  | none =>
    cases readers with
    | none => exact (requireDWalletUsable_neither hresult).elim
    | some reader =>
      obtain ⟨userKey, check, state, rfl, hcheck, -, rfl⟩ :=
        requireDWalletUsable_reader_iff.mp hresult
      refine ⟨signedData, _, _, _, state, rfl, hsign, rfl, ?_⟩
      rw [assertDWalletUsable_notWaiting_iff hcheck]
      constructor
      · intro hreports _ attestation hdecoded hnamed record holder share hmem
        exact hreports attestation hdecoded hnamed record holder share (by simpa using hmem)
      · intro hreports attestation hdecoded hnamed record holder share hmem
        exact hreports rfl attestation hdecoded hnamed record holder share (by simp [hmem])

/-- From a result that waits no step 1 of a future sign is built. A sign is made with
one exactly where its own reader reports an acceptance as given that was not. A
make-public or a re-encryption that is built from such a result is, whatever the
process does in between, signed by its holder only, also where it is submitted for a
requester with its own key. -/
theorem waiting_share_signs_for_holder (P : Primitives) :
    (∀ issued now args request state, futureSignRequest P issued now args = .ok request →
      issuedGet issued args.usable = some state → state.waiting = false) ∧
    (∀ (H : Type) issued issued' keypair (tr : List (Event (ownershipInterface H))) signed,
      Gives (signDWalletSignRequest P issued keypair) tr (signed, issued') →
      ∃ signedData sign ownership rest state,
        tr = ⟨.signedData, signedData⟩ :: ⟨.ownership, ownership⟩ :: rest ∧
        signOf signedData.request = .ok sign ∧ UsedResult issued issued' ownership state ∧
        (state.waiting = false ↔ NoneReported P ownership sign tr)) ∧
    (∀ before act after usable built state,
      act.BuildsFrom (Process.start.run P before) usable built →
      issuedGet (Process.start.run P before).issued usable = some state → state.waiting = true →
      ∃ object, (Process.start.run P (before ++ act :: after)).objects[
          (Process.start.run P before).objects.length]? = some object ∧
        object.origin = some state ∧ (object.live = true → ∀ keypair data signed,
          signGrpcRequestOf P keypair object data = .ok signed →
          keypair.publicKey = state.holder ∧ SignedBy P keypair signed)) ∧
    ∀ (T H : Type) (network : Network) (requester : Requester) (fuel left : ℕ)
      (tr : List (EngineEvent T H)) (objectOf : Bytes → ℕ) (acts : List ProcessAct) (q : Process),
      requester.signer = false →
      Begins (submit P network requester buildRequest describeRequest fuel left) tr →
      Serves P objectOf (Process.start.run P acts) none tr q →
      ∀ c ∈ copies tr, ∃ session, c.session P = some session ∧ SignedBy P requester.keypair c ∧
        ∀ object, q.objects[objectOf session]? = some object → ∀ state ∈ object.origin,
          state.waiting = true → requester.keypair.publicKey = state.holder := by
  refine ⟨?_, fun H issued issued' keypair tr signed h => signDWalletSignRequest_notWaiting_iff h,
    ?_, ?_⟩
  · intro issued now args request state hbuilt hstate
    obtain ⟨found, hfound, hnot⟩ := futureSignRequest_ok hbuilt
    obtain rfl := Option.some.inj (hfound.symm.trans hstate)
    exact hnot
  · intro before act after usable built state hbuilds hstate hwaiting
    obtain ⟨made, hmade, -, horigin⟩ := hbuilds.made (P := P)
    obtain ⟨object, hobject, hsame⟩ := Process.run_origin (P := P) after hmade
    rw [horigin, hstate] at hsame
    have hrun : Process.start.run P (before ++ act :: after) =
        ((Process.start.run P before).step P act).run P after := by
      simp [Process.run]
    rw [hrun]
    refine ⟨object, hobject, hsame, fun hlive keypair data signed hsigned => ?_⟩
    have hkept : object.Kept := Process.run_kept
      (Process.step_kept (Process.run_kept Process.start_kept before) act) after object
      (List.mem_of_getElem? hobject)
    obtain ⟨hholder, hsignedBy⟩ := signGrpcRequestOf_holder hsigned
    exact ⟨hholder _ (hkept hlive state hsame hwaiting), hsignedBy⟩
  · intro T H network requester fuel left tr objectOf acts q hsigner hbegins hserves c hc
    obtain ⟨before, epoch, session, built, holder, after, rfl, hsession, hholder, hsignedBy⟩ :=
      always_submit steady_asked (submitOnce_asked hsigner) tr hbegins c hc
    refine ⟨session, hsession, hsignedBy, fun object hobject state horigin hwaiting => ?_⟩
    exact hholder _ (hserves.kept_at_build (Process.run_kept Process.start_kept acts) hobject
      horigin hwaiting)

end Main

/-! ## A make-public of a waiting dWallet -/

def sampleWaitingState : IssuedState where
  chain := .solana
  address := List.replicate 32 1
  curve := 0
  publicKey := List.replicate 33 2
  importedSessionIdentifier := none
  holder := List.replicate 32 15
  share := .encrypted
  migrated := false
  waiting := true
  publicOutput := [3]
  attestation := ⟨[4], List.replicate 64 5, List.replicate 32 6, List.replicate 32 7⟩
  verifiedAt := 0

def sampleMakePublicRequest : DWalletRequest :=
  .makeSharePublic ⟨sampleWaitingState.publicKey, sampleWaitingState.attestation,
    List.replicate 35 8⟩

/-- The result is issued and the request built from it; then another object is
made, changed and dropped. -/
def sampleWaitingProcess : Process :=
  Process.start.run samplePrimitives ([.issue sampleWaitingState] ++
    .makeSharePublic 1 (.issued 0) (List.replicate 35 8) ::
      [.literal sampleMakePublicRequest, .write 1 .retiredAcceptShare, .drop 1])

/-- The request is signed by the holder, and by no other key. -/
theorem waiting_share_signs_for_holder_sample :
    ∃ object, sampleWaitingProcess.objects[0]? = some object ∧ object.live = true ∧
      (∀ keypair data signed,
        signGrpcRequestOf samplePrimitives keypair object data = .ok signed →
        keypair.publicKey = List.replicate 32 15) ∧
      (signGrpcRequestOf samplePrimitives sampleKeypair object
        ⟨List.replicate 32 9, 1, .solana, 0, [], .retiredAcceptShare⟩).isOk = true := by
  have hbuilds : ProcessAct.BuildsFrom
      (Process.start.run samplePrimitives [.issue sampleWaitingState]) (.issued 0)
      ⟨sampleMakePublicRequest, some (List.replicate 32 15)⟩
      (.makeSharePublic 1 (.issued 0) (List.replicate 35 8)) := ⟨rfl, by decide +kernel⟩
  obtain ⟨object, hobject, -, hsigns⟩ :=
    (waiting_share_signs_for_holder samplePrimitives).2.2.1 [.issue sampleWaitingState] _
      [.literal sampleMakePublicRequest, .write 1 .retiredAcceptShare, .drop 1] (.issued 0) _
      sampleWaitingState hbuilds rfl rfl
  have hfound : sampleWaitingProcess.objects[0]? = some
      ⟨sampleMakePublicRequest, true, some (List.replicate 32 15), some sampleWaitingState⟩ := by
    decide +kernel
  obtain rfl := Option.some.inj (hobject.symm.trans hfound)
  refine ⟨_, hfound, rfl, fun keypair data signed h => (hsigns rfl keypair data signed h).1, ?_⟩
  decide +kernel

/-- The reader reports the share of the sample records as one whose acceptance was
given, though it was asked without one, and the sign goes on. -/
theorem waiting_result_signed :
    ∃ (tr : List (Event (ownershipInterface Unit))) (signed : SignedRequest)
      (state : IssuedState), Gives (signDWalletSignRequest samplePrimitives [] sampleKeypair) tr
        (signed, [state]) ∧ state.waiting = true := by
  have hrun : ((signDWalletSignRequest samplePrimitives [] sampleKeypair).run.transcript
      (sampleAnswers true) 0).any (fun r => r.2.toOption.any fun result =>
        decide (result.2.map (·.waiting) = [true])) = true := by
    decide +kernel
  obtain ⟨⟨tr, result⟩, hsome, hresult⟩ := (Option.any_eq_true _ _).mp hrun
  have hreturns := Prog.returns_of_transcript hsome
  cases result with
  | error e => cases hresult
  | ok made =>
    obtain ⟨signed, issued'⟩ := made
    have hwaits : issued'.map (·.waiting) = [true] := of_decide_eq_true hresult
    obtain ⟨state, rfl, hwaiting⟩ := List.map_eq_singleton_iff.mp hwaits
    exact ⟨tr, signed, state, hreturns, hwaiting⟩

end Ika
