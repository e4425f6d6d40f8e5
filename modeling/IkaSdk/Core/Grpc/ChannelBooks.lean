import IkaSdk.Core.Grpc.NodeTransport
import IkaSdk.Lib.Custody

/-! Who holds each channel of the Node transport. A channel is with the validator it is
installed for, with the setup that built it, or with a committee read, or it was closed;
every step of the transport is a move in those books. -/

namespace Ika

open Wire Custody

/-! ## The books -/

inductive Holder
  | slot (index : ℕ)
  | setup (build : ℕ)
  | committeeRead (build : ℕ)
deriving DecidableEq, Repr

/-- The channel that a build hands over to the callback of its `then`. -/
def BuildState.connectedService : BuildState → Option Service
  | .connected service => some service
  | _ => none

def BuildState.readingService : BuildState → Option Service
  | .reading service => some service
  | _ => none

namespace NodeTransport

def holds (t : NodeTransport) : Holder → Option Service
  | .slot index => t.serviceOf index
  | .setup b => (t.builds[b]?).bind (·.state.connectedService)
  | .committeeRead b => (t.builds[b]?).bind (·.state.readingService)

/-- The channel that a use closes, if it does so before the transport's own `close()`. -/
def droppedBy : Service × ClientUse → Option Service
  | (_, .call ..) => none
  | (_, .close .close) => none
  | (service, .close _) => some service

/-- The channels that were closed, but not by `close()`. -/
def dropped (t : NodeTransport) : List Service := t.clientUses.filterMap droppedBy

def books (t : NodeTransport) : Books Holder := ⟨t.channels.length, t.holds, t.dropped⟩

section Books

variable {t t' : NodeTransport}

theorem serviceOf_congr (hservice : t'.service = t.service)
    (hfurther : t'.furtherServices = t.furtherServices) : t'.serviceOf = t.serviceOf := by
  funext index
  cases index with
  | zero => exact hservice
  | succ index => exact congrArg (fun services => (services[index]?).join) hfurther

theorem holds_congr (hservice : t'.service = t.service)
    (hfurther : t'.furtherServices = t.furtherServices) (hbuilds : t'.builds = t.builds) :
    t'.holds = t.holds := by
  funext k
  cases k with
  | slot index => exact congrFun (serviceOf_congr hservice hfurther) index
  | setup b => exact congrArg (fun builds => (builds[b]?).bind _) hbuilds
  | committeeRead b => exact congrArg (fun builds => (builds[b]?).bind _) hbuilds

theorem serviceOf_setService {index : ℕ} {service : Option Service}
    (h : index < t.furtherServices.length + 1) :
    (t.setService index service).serviceOf = Function.update t.serviceOf index service := by
  funext j
  by_cases hj : j = index
  · subst hj
    rw [Function.update_self]
    cases j with
    | zero => rfl
    | succ j => simp [setService, serviceOf, List.getElem?_set_self (Nat.lt_of_succ_lt_succ h)]
  · rw [Function.update_of_ne hj]
    cases index with
    | zero =>
      cases j with
      | zero => exact absurd rfl hj
      | succ j => rfl
    | succ index =>
      cases j with
      | zero => rfl
      | succ j =>
        have hne : index ≠ j := fun heq => hj (congrArg Nat.succ heq.symm)
        simp [setService, serviceOf, List.getElem?_set_ne hne]

theorem setService_builds {index : ℕ} {service : Option Service} :
    (t.setService index service).builds = t.builds := by
  cases index <;> rfl

theorem holds_setService {index : ℕ} {service : Option Service}
    (h : index < t.furtherServices.length + 1) :
    (t.setService index service).holds =
      Function.update t.holds (.slot index) service := by
  funext k
  cases k with
  | slot j =>
    show (t.setService index service).serviceOf j = _
    rw [serviceOf_setService h]
    by_cases hj : j = index
    · subst hj
      simp
    · have hslot : Holder.slot j ≠ .slot index := fun heq => hj (Holder.slot.inj heq)
      rw [Function.update_of_ne hj, Function.update_of_ne hslot]
      rfl
  | setup b =>
    rw [Function.update_of_ne (by simp)]
    exact congrArg (fun builds => (builds[b]?).bind _) setService_builds
  | committeeRead b =>
    rw [Function.update_of_ne (by simp)]
    exact congrArg (fun builds => (builds[b]?).bind _) setService_builds

theorem builds_setBuild {b : ℕ} {build : Build} {state : BuildState}
    (hb : t.builds[b]? = some build) (j : ℕ) :
    (t.setBuild b state).builds[j]? =
      if j = b then some { build with state } else t.builds[j]? := by
  by_cases hj : j = b
  · subst hj
    simp [setBuild, hb]
  · have hne : b ≠ j := Ne.symm hj
    simp [setBuild, hj, hne]

theorem holds_setBuild {b : ℕ} {build : Build} {state : BuildState}
    (hb : t.builds[b]? = some build) :
    (t.setBuild b state).holds =
      Function.update (Function.update t.holds (.setup b) state.connectedService)
        (.committeeRead b) state.readingService := by
  funext k
  cases k with
  | slot index =>
    rw [Function.update_of_ne (by simp), Function.update_of_ne (by simp)]
    exact congrFun (serviceOf_congr rfl rfl) index
  | setup j =>
    rw [Function.update_of_ne (by simp)]
    show ((t.setBuild b state).builds[j]?).bind _ = _
    rw [builds_setBuild hb]
    by_cases hj : j = b
    · subst hj
      simp
    · have hsetup : Holder.setup j ≠ .setup b := fun heq => hj (Holder.setup.inj heq)
      rw [Function.update_of_ne hsetup, if_neg hj]
      rfl
  | committeeRead j =>
    show ((t.setBuild b state).builds[j]?).bind _ = _
    rw [builds_setBuild hb]
    by_cases hj : j = b
    · subst hj
      simp
    · have hread : Holder.committeeRead j ≠ .committeeRead b :=
        fun heq => hj (Holder.committeeRead.inj heq)
      rw [Function.update_of_ne hread, if_neg hj, Function.update_of_ne (by simp)]
      rfl

/-- A build that begins holds nothing yet. -/
theorem holds_pinnedServiceAt {index : ℕ} {setupDeadline : ℤ} :
    (t.pinnedServiceAt index setupDeadline).holds = t.holds := by
  have hbuild : ∀ (held : BuildState → Option Service), held .connecting = none → ∀ b : ℕ,
      ((t.pinnedServiceAt index setupDeadline).builds[b]?).bind
          (fun build : Build => held build.state) =
        (t.builds[b]?).bind (fun build : Build => held build.state) := by
    intro held hconnecting b
    simp only [pinnedServiceAt]
    rcases Nat.lt_trichotomy b t.builds.length with hlt | rfl | hgt
    · rw [List.getElem?_append_left hlt]
    · simp [hconnecting]
    · rw [List.getElem?_eq_none (by simp; omega), List.getElem?_eq_none (by omega)]
  funext k
  cases k with
  | slot index => exact congrFun (serviceOf_congr rfl rfl) index
  | setup b => exact hbuild BuildState.connectedService rfl b
  | committeeRead b => exact hbuild BuildState.readingService rfl b

theorem dropped_closeClient {service : Service} {closer : Closer} (h : closer ≠ .close) :
    (t.closeClient service closer).dropped = t.dropped ++ [service] := by
  have hlast : droppedBy (service, .close closer) = some service := by
    cases closer with
    | close => exact absurd rfl h
    | _ => rfl
  simp [dropped, closeClient, List.filterMap_append, hlast]

theorem dropped_callOn {startsCall : List ClientUse → Bool} {service : Service} {method : String}
    {deadline : ℤ} : (t.callOn startsCall service method deadline).2.dropped = t.dropped := by
  unfold callOn
  split_ifs
  · simp [dropped, List.filterMap_append, droppedBy]
  · rfl

theorem dropped_close : t.close.dropped = t.dropped := by
  have hnone : (t.services.map fun service => (service, ClientUse.close .close)).filterMap
      droppedBy = [] := by
    simp [List.filterMap_map, droppedBy, Function.comp_def]
  simp [dropped, close, List.filterMap_append, hnone]

end Books

/-! ## What stays -/

/-- The validators of the builds so far. -/
def indices (t : NodeTransport) : List ℕ := t.builds.map (·.validatorIndex)

/-- What no step takes back. -/
structure Kept (t t' : NodeTransport) : Prop where
  slots : t'.furtherServices.length = t.furtherServices.length
  indices : t.indices <+: t'.indices
  channels : t.channels <+: t'.channels
  clientUses : t.clientUses <+: t'.clientUses

namespace Kept

variable {t t' t'' : NodeTransport}

theorem same (hfurther : t'.furtherServices = t.furtherServices) (hbuilds : t'.builds = t.builds)
    (hchannels : t'.channels = t.channels) (huses : t'.clientUses = t.clientUses) :
    Kept t t' where
  slots := congrArg List.length hfurther
  indices := by
    rw [NodeTransport.indices, NodeTransport.indices, hbuilds]
  channels := by
    rw [hchannels]
  clientUses := by
    rw [huses]

theorem refl (t : NodeTransport) : Kept t t := same rfl rfl rfl rfl

theorem trans (h : Kept t t') (h' : Kept t' t'') : Kept t t'' where
  slots := h'.slots.trans h.slots
  indices := h.indices.trans h'.indices
  channels := h.channels.trans h'.channels
  clientUses := h.clientUses.trans h'.clientUses

theorem serviceWith {channel : Channel} : Kept t (t.serviceWith channel) :=
  { refl t with channels := List.prefix_append .. }

theorem closeClient {service : Service} {closer : Closer} :
    Kept t (t.closeClient service closer) :=
  { refl t with clientUses := List.prefix_append .. }

theorem callOn {startsCall : List ClientUse → Bool} {service : Service} {method : String}
    {deadline : ℤ} : Kept t (t.callOn startsCall service method deadline).2 := by
  unfold NodeTransport.callOn
  split_ifs
  · exact { refl t with clientUses := List.prefix_append .. }
  · exact refl t

theorem setService {index : ℕ} {service : Option Service} :
    Kept t (t.setService index service) := by
  cases index with
  | zero => exact same rfl rfl rfl rfl
  | succ index => exact { refl t with slots := List.length_set }

theorem setBuild {b : ℕ} {state : BuildState} : Kept t (t.setBuild b state) where
  slots := rfl
  indices := by
    have hsame : (t.setBuild b state).indices = t.indices := by
      apply List.ext_getElem?
      intro j
      by_cases hj : b = j <;> cases ht : t.builds[j]? <;>
        simp [NodeTransport.indices, NodeTransport.setBuild, hj, ht]
    rw [hsame]
  channels := List.prefix_rfl
  clientUses := List.prefix_rfl

theorem pinnedServiceAt {index : ℕ} {setupDeadline : ℤ} :
    Kept t (t.pinnedServiceAt index setupDeadline) :=
  { refl t with
    indices := by
      rw [NodeTransport.indices, NodeTransport.indices, NodeTransport.pinnedServiceAt,
        List.map_append]
      exact List.prefix_append .. }

theorem renewService {validators : List GrpcValidatorEndpoint} {index : ℕ} :
    Kept t (t.renewService validators index) := by
  unfold NodeTransport.renewService
  split
  · exact serviceWith.trans setService
  · exact setService

theorem forget {index b : ℕ} : Kept t (t.forget index b) := by
  unfold NodeTransport.forget
  split_ifs
  · exact same rfl rfl rfl rfl
  · exact refl t

theorem serviceReady {validators : List GrpcValidatorEndpoint} {setupWindowMs : ℤ}
    {index wait : ℕ} : Kept t (t.serviceReady validators setupWindowMs index wait).2 := by
  unfold NodeTransport.serviceReady
  split_ifs with hclosed
  · exact refl t
  · split
    · exact refl t
    · dsimp only
      split_ifs
      · exact refl t
      · cases t.pinnedBuilds index with
        | some building => exact same rfl rfl rfl rfl
        | none => exact pinnedServiceAt.trans (same rfl rfl rfl rfl)

theorem installBuilt {validators : List GrpcValidatorEndpoint} {setupWindowMs : ℤ} {b index : ℕ}
    {service : Service} :
    Kept t (t.installBuilt validators setupWindowMs b index service).2 := by
  unfold NodeTransport.installBuilt
  split_ifs
  · exact closeClient
  · split <;> exact closeClient
  · split
    · exact closeClient
    · exact setService

theorem renewAfterConnectionFailure {validators : List GrpcValidatorEndpoint} {service : Service}
    {error : GrpcError} : Kept t (t.renewAfterConnectionFailure validators service error) := by
  unfold NodeTransport.renewAfterConnectionFailure
  dsimp only
  split_ifs
  · exact refl t
  · exact renewService.trans closeClient
  · exact renewService.trans closeClient
  · exact refl t

theorem send {startsCall : List ClientUse → Bool} {c : ℕ} {call : Call} {service : Service} :
    Kept t (t.send startsCall c call service) := by
  have hcall : Kept t (t.callOn startsCall service call.method
    (call.deadline + (t.time - call.setupStarted))).2 := callOn
  unfold NodeTransport.send
  split
  · next t₁ heq =>
    rw [heq] at hcall
    exact hcall.trans (same rfl rfl rfl rfl)
  · next t₁ heq =>
    rw [heq] at hcall
    exact hcall.trans (same rfl rfl rfl rfl)

theorem step {validators : List GrpcValidatorEndpoint} {setupWindowMs : ℤ}
    {startsCall : List ClientUse → Bool} (h : Step validators setupWindowMs startsCall t t') :
    Kept t t' := by
  cases h with
  | calls index method request deadline =>
    have hready : Kept t (t.serviceReady validators setupWindowMs index t.calls.length).2 :=
      serviceReady
    exact hready.trans (same rfl rfl rfl rfl)
  | opensRead certificate networkKey hb hstate hvalidator hpin => exact serviceWith.trans setBuild
  | asksCommittee deadline hb hstate => exact callOn
  | endsRead hb hstate => exact closeClient.trans setBuild
  | connects hb hstate hvalidator hpin => exact serviceWith.trans setBuild
  | fails reason hb hstate => exact setBuild
  | thenRuns hb hstate => exact installBuilt.trans setBuild
  | finallyRuns hb hstate => exact forget.trans setBuild
  | resumes hc hwaiting hb hstate => exact same rfl rfl rfl rfl
  | waitEnded hc hwaiting hended => exact same rfl rfl rfl rfl
  | windowPasses hc hwaiting hdeadline =>
    exact forget.trans (same rfl rfl rfl rfl)
  | sends hc hready => exact send
  | answers outcome hc hstarted =>
    cases outcome with
    | ok answer => exact same rfl rfl rfl rfl
    | error error =>
      exact renewAfterConnectionFailure.trans (same rfl rfl rfl rfl)
  | closes => exact { refl t with clientUses := List.prefix_append .. }
  | passes htime => exact same rfl rfl rfl rfl

end Kept

/-! ## What a step changes -/

/-- Whether a channel is one that a holder may have. -/
def Fits (t : NodeTransport) (channel : Channel) : Holder → Prop
  | .slot index => channel.validatorIndex = index ∧ ∀ b, channel.use ≠ .committeeRead b
  | .setup b => channel.use = .setup b ∧ t.indices[b]? = some channel.validatorIndex
  | .committeeRead b => channel.use = .committeeRead b

/-- Every channel is where it was. -/
structure Alike (t t' : NodeTransport) : Prop where
  books : t'.books = t.books
  channels : t'.channels = t.channels

/-- What a step may do to the channels: nothing; a setup builds one; the current build
installs its own where there is none; a setup closes one; or one that failed to connect
is closed, and replaced where no setup is needed. -/
inductive Change (validators : List GrpcValidatorEndpoint) (t t' : NodeTransport) : Prop
  | alike : Alike t t' → Change validators t t'
  | built {k : Holder} {channel : Channel} : t.holds k = none → (∀ index, k ≠ .slot index) →
      Fits t channel k → channel.validatorIndex < validators.length →
      t'.channels = t.channels ++ [channel] → t'.books = t.books.make k → Change validators t t'
  | installed {b : ℕ} {build : Build} {service : Service} : t.builds[b]? = some build →
      build.state = .connected service → t.closed = false →
      t.pinnedBuilds build.validatorIndex = some b → t.serviceOf build.validatorIndex = none →
      t'.channels = t.channels →
      t'.books = t.books.pass (.setup b) (.slot build.validatorIndex) → Change validators t t'
  | dropped {k : Holder} : (∀ index, k ≠ .slot index) → t'.channels = t.channels →
      t'.books = t.books.release k → Change validators t t'
  | removed {index : ℕ} {service : Service} : t.serviceOf index = some service →
      t.closed = false → serviceAt validators index = none → t'.channels = t.channels →
      t'.books = t.books.release (.slot index) → Change validators t t'
  | renewed {index : ℕ} {service : Service} {channel : Channel} :
      t.serviceOf index = some service → t.closed = false →
      serviceAt validators index = some channel → t'.channels = t.channels ++ [channel] →
      t'.books = (t.books.release (.slot index)).make (.slot index) → Change validators t t'

section Changes

variable {validators : List GrpcValidatorEndpoint} {setupWindowMs : ℤ}
  {startsCall : List ClientUse → Bool} {t t' t'' : NodeTransport}

namespace Alike

theorem same (hservice : t'.service = t.service) (hfurther : t'.furtherServices = t.furtherServices)
    (hbuilds : t'.builds = t.builds) (hchannels : t'.channels = t.channels)
    (huses : t'.clientUses = t.clientUses) : Alike t t' where
  books := by
    rw [NodeTransport.books, NodeTransport.books, hchannels,
      holds_congr hservice hfurther hbuilds, dropped, dropped, huses]
  channels := hchannels

theorem refl (t : NodeTransport) : Alike t t := ⟨rfl, rfl⟩

theorem trans (h : Alike t t') (h' : Alike t' t'') : Alike t t'' :=
  ⟨h'.books.trans h.books, h'.channels.trans h.channels⟩

theorem callOn {service : Service} {method : String} {deadline : ℤ} :
    Alike t (t.callOn startsCall service method deadline).2 := by
  have hchannels : (t.callOn startsCall service method deadline).2.channels = t.channels := by
    unfold NodeTransport.callOn
    split_ifs <;> rfl
  refine ⟨Books.ext ?_ ?_ dropped_callOn, hchannels⟩
  · exact congrArg List.length hchannels
  · apply holds_congr <;> unfold NodeTransport.callOn <;> split_ifs <;> rfl

theorem pinnedServiceAt {index : ℕ} {setupDeadline : ℤ} :
    Alike t (t.pinnedServiceAt index setupDeadline) :=
  ⟨Books.ext rfl holds_pinnedServiceAt rfl, rfl⟩

theorem serviceReady {index wait : ℕ} :
    Alike t (t.serviceReady validators setupWindowMs index wait).2 := by
  unfold NodeTransport.serviceReady
  split_ifs with hclosed
  · exact refl t
  · split
    · exact refl t
    · dsimp only
      split_ifs
      · exact refl t
      · cases t.pinnedBuilds index with
        | some building => exact same rfl rfl rfl rfl rfl
        | none => exact pinnedServiceAt.trans (same rfl rfl rfl rfl rfl)

theorem forget {index b : ℕ} : Alike t (t.forget index b) := by
  unfold NodeTransport.forget
  split_ifs
  · exact same rfl rfl rfl rfl rfl
  · exact refl t

theorem close : Alike t t.close := ⟨Books.ext rfl (holds_congr rfl rfl rfl) dropped_close, rfl⟩

theorem send {c : ℕ} {call : Call} {service : Service} :
    Alike t (t.send startsCall c call service) := by
  have hcall : Alike t (t.callOn startsCall service call.method
    (call.deadline + (t.time - call.setupStarted))).2 := callOn
  unfold NodeTransport.send
  split
  · next t₁ heq =>
    rw [heq] at hcall
    exact hcall.trans (same rfl rfl rfl rfl rfl)
  · next t₁ heq =>
    rw [heq] at hcall
    exact hcall.trans (same rfl rfl rfl rfl rfl)

end Alike

theorem forget_builds {index b : ℕ} : (t.forget index b).builds = t.builds := by
  unfold forget
  split_ifs <;> rfl

section Setups

variable {b : ℕ} {build : Build} {service : Service}

theorem holds_setup (hb : t.builds[b]? = some build) :
    t.holds (.setup b) = build.state.connectedService := by
  show (t.builds[b]?).bind _ = _
  rw [hb]
  rfl

theorem holds_committeeRead (hb : t.builds[b]? = some build) :
    t.holds (.committeeRead b) = build.state.readingService := by
  show (t.builds[b]?).bind _ = _
  rw [hb]
  rfl

theorem indices_get (hb : t.builds[b]? = some build) :
    t.indices[b]? = some build.validatorIndex := by
  rw [indices, List.getElem?_map, hb]
  rfl

/-- Setting a build to a state that holds what it held leaves the holders as they are. -/
theorem holds_setBuild_same {state : BuildState} (hb : t.builds[b]? = some build)
    (hconnected : state.connectedService = build.state.connectedService)
    (hreading : state.readingService = build.state.readingService) :
    (t.setBuild b state).holds = t.holds := by
  rw [holds_setBuild hb, hconnected, hreading, ← holds_setup hb, ← holds_committeeRead hb]
  simp

theorem Alike.setBuild {state : BuildState} (hb : t.builds[b]? = some build)
    (hconnected : state.connectedService = build.state.connectedService)
    (hreading : state.readingService = build.state.readingService) :
    Alike t (t.setBuild b state) :=
  ⟨Books.ext rfl (holds_setBuild_same hb hconnected hreading) rfl, rfl⟩

theorem holds_serviceWith {channel : Channel} : (t.serviceWith channel).holds = t.holds :=
  holds_congr rfl rfl rfl

theorem holds_closeClient {closer : Closer} : (t.closeClient service closer).holds = t.holds :=
  holds_congr rfl rfl rfl

theorem books_openCommitteeRead {endpoint : String} {certificate networkKey : Bytes}
    (hb : t.builds[b]? = some build) (hstate : build.state = .connecting) :
    (t.openCommitteeRead b build.validatorIndex endpoint certificate networkKey).books =
      t.books.make (.committeeRead b) := by
  refine Books.ext (List.length_append ..) ?_ rfl
  show NodeTransport.holds _ = Function.update t.holds _ _
  rw [openCommitteeRead, holds_setBuild (t := t.serviceWith _) hb, holds_serviceWith]
  have hsetup : t.holds (.setup b) = none := by rw [holds_setup hb, hstate]; rfl
  have hnone : (BuildState.reading t.newService).connectedService = t.holds (.setup b) :=
    hsetup.symm
  rw [hnone, Function.update_eq_self]
  rfl

theorem books_connectSetup {endpoint : String} {certificate networkKey : Bytes}
    (hb : t.builds[b]? = some build)
    (hstate : build.state = .connecting ∨ build.state = .committeeRead) :
    (t.connectSetup b build.validatorIndex endpoint certificate networkKey).books =
      t.books.make (.setup b) := by
  refine Books.ext (List.length_append ..) ?_ rfl
  show NodeTransport.holds _ = Function.update t.holds _ _
  rw [connectSetup, holds_setBuild (t := t.serviceWith _) hb, holds_serviceWith]
  have hread : t.holds (.committeeRead b) = none := by
    rw [holds_committeeRead hb]
    rcases hstate with hstate | hstate <;> rw [hstate] <;> rfl
  have hnone : (BuildState.connected t.newService).readingService =
      Function.update t.holds (.setup b) (some t.newService) (.committeeRead b) := by
    rw [Function.update_of_ne (by simp), hread]
    rfl
  show Function.update (Function.update t.holds (.setup b) (some t.newService)) _ _ = _
  rw [hnone, Function.update_eq_self]
  rfl

theorem books_endCommitteeRead (hb : t.builds[b]? = some build)
    (hstate : build.state = .reading service) :
    (t.endCommitteeRead b service).books = t.books.release (.committeeRead b) := by
  have hread : t.holds (.committeeRead b) = some service := by
    rw [holds_committeeRead hb, hstate]
    rfl
  refine Books.ext rfl ?_ ?_
  · show NodeTransport.holds _ = Function.update t.holds _ none
    rw [endCommitteeRead, holds_setBuild (t := t.closeClient _ _) hb, holds_closeClient]
    have hnone : BuildState.committeeRead.connectedService = t.holds (.setup b) := by
      rw [holds_setup hb, hstate]
      rfl
    rw [hnone, Function.update_eq_self]
    rfl
  · show dropped (t.closeClient service .committeeRead) =
      t.dropped ++ (t.holds (.committeeRead b)).toList
    rw [dropped_closeClient (by simp), hread]
    rfl

theorem setService_channels {index : ℕ} {service : Option Service} :
    (t.setService index service).channels = t.channels := by
  cases index <;> rfl

theorem setService_clientUses {index : ℕ} {service : Option Service} :
    (t.setService index service).clientUses = t.clientUses := by
  cases index <;> rfl

/-- The setup's channel becomes the validator's. -/
theorem books_install {index : ℕ} {outcome : Except GrpcError Service}
    (hindex : index < t.furtherServices.length + 1) (hb : t.builds[b]? = some build)
    (hstate : build.state = .connected service) :
    ((t.setService index (some service)).setBuild b (.settling outcome)).books =
      t.books.pass (.setup b) (.slot index) := by
  have hsetup : t.holds (.setup b) = some service := by
    rw [holds_setup hb, hstate]
    rfl
  have hread : t.holds (.committeeRead b) = none := by
    rw [holds_committeeRead hb, hstate]
    rfl
  have hb' : (t.setService index (some service)).builds[b]? = some build := by
    rw [setService_builds, hb]
  refine Books.ext ?_ ?_ ?_
  · exact congrArg List.length setService_channels
  · show NodeTransport.holds _ = Function.update (Function.update t.holds (.setup b) none)
      (.slot index) (t.holds (.setup b))
    have hconnected : (BuildState.settling outcome).connectedService = none := rfl
    have hreading : (BuildState.settling outcome).readingService = Function.update (Function.update
        t.holds (.slot index) (some service)) (.setup b) none (.committeeRead b) := by
      rw [Function.update_of_ne (by simp), Function.update_of_ne (by simp), hread]
      rfl
    rw [holds_setBuild hb', holds_setService hindex, hsetup, hconnected, hreading,
      Function.update_eq_self, Function.update_comm (by simp)]
  · exact congrArg (List.filterMap droppedBy) setService_clientUses

/-- The setup's channel is closed by the build. -/
theorem books_dropBuilt {outcome : Except GrpcError Service} (hb : t.builds[b]? = some build)
    (hstate : build.state = .connected service) :
    ((t.closeClient service .build).setBuild b (.settling outcome)).books =
      t.books.release (.setup b) := by
  have hsetup : t.holds (.setup b) = some service := by
    rw [holds_setup hb, hstate]
    rfl
  have hread : t.holds (.committeeRead b) = none := by
    rw [holds_committeeRead hb, hstate]
    rfl
  refine Books.ext rfl ?_ ?_
  · show NodeTransport.holds _ = Function.update t.holds (.setup b) none
    rw [holds_setBuild (t := t.closeClient _ _) hb, holds_closeClient]
    have hnone : (BuildState.settling outcome).readingService =
        Function.update t.holds (.setup b) none (.committeeRead b) := by
      rw [Function.update_of_ne (by simp), hread]
      rfl
    show Function.update (Function.update t.holds (.setup b) none) (.committeeRead b) _ = _
    rw [hnone, Function.update_eq_self]
  · show dropped (t.closeClient service .build) = t.dropped ++ (t.holds (.setup b)).toList
    rw [dropped_closeClient (by simp), hsetup]
    rfl

theorem change_thenBuilt (hindex : build.validatorIndex < t.furtherServices.length + 1)
    (hb : t.builds[b]? = some build) (hstate : build.state = .connected service) :
    Change validators t (t.thenBuilt validators setupWindowMs b build.validatorIndex service) := by
  have hdropped : ∀ outcome, Change validators t
      ((t.closeClient service .build).setBuild b (.settling outcome)) :=
    fun outcome => .dropped (k := .setup b) (by simp) rfl (books_dropBuilt hb hstate)
  unfold thenBuilt installBuilt
  split_ifs with hclosed hother
  · exact hdropped _
  · cases t.serviceOf build.validatorIndex with
    | some installed => exact hdropped _
    | none => exact hdropped _
  · have hcurrent : t.pinnedBuilds build.validatorIndex = some b := not_not.mp hother
    cases hslot : t.serviceOf build.validatorIndex with
    | some installed => exact hdropped _
    | none =>
      exact .installed hb hstate (by simpa using hclosed) hcurrent hslot setService_channels
        (books_install hindex hb hstate)

end Setups

section Renewal

variable {index : ℕ} {service : Service}

theorem change_renew (hindex : index < t.furtherServices.length + 1)
    (hservice : t.serviceOf index = some service) (hopen : t.closed = false) :
    Change validators t ((t.renewService validators index).closeClient service .renewal) := by
  have hslot : t.holds (.slot index) = some service := hservice
  have hreleased : t.dropped ++ [service] = t.dropped ++ (t.holds (.slot index)).toList := by
    rw [hslot]
    rfl
  unfold renewService
  split
  · next channel hat =>
    refine .renewed hservice hopen hat setService_channels (Books.ext ?_ ?_ ?_)
    · show (NodeTransport.channels _).length = t.channels.length + 1
      rw [closeClient, setService_channels]
      exact List.length_append
    · show NodeTransport.holds _ = Function.update (Function.update t.holds (.slot index) none)
        (.slot index) (some t.newService)
      rw [holds_closeClient, holds_setService (t := t.serviceWith channel) hindex,
        holds_serviceWith, Function.update_idem]
    · show dropped (closeClient _ service .renewal) =
        t.dropped ++ (t.holds (.slot index)).toList
      rw [dropped_closeClient (by simp), ← hreleased, dropped, setService_clientUses]
      rfl
  · next hat =>
    refine .removed hservice hopen hat setService_channels (Books.ext ?_ ?_ ?_)
    · exact congrArg List.length setService_channels
    · show NodeTransport.holds _ = Function.update t.holds (.slot index) none
      rw [holds_closeClient, holds_setService hindex]
    · show dropped (closeClient _ service .renewal) =
        t.dropped ++ (t.holds (.slot index)).toList
      rw [dropped_closeClient (by simp), ← hreleased, dropped, setService_clientUses]
      rfl

theorem change_renewAfterConnectionFailure {error : GrpcError} :
    Change validators t (t.renewAfterConnectionFailure validators service error) := by
  unfold renewAfterConnectionFailure
  dsimp only
  split_ifs with hkeeps hfirst hfurther
  · exact .alike (Alike.refl t)
  · have hopen : t.closed = false := by simp at hkeeps; exact hkeeps.2
    exact change_renew (Nat.succ_pos _) hfirst hopen
  · have hopen : t.closed = false := by simp at hkeeps; exact hkeeps.2
    refine change_renew (Nat.succ_lt_succ hfurther) ?_ hopen
    show (t.furtherServices[_]?).join = some service
    rw [List.getElem?_eq_getElem hfurther, List.getElem_idxOf hfurther]
    rfl
  · exact .alike (Alike.refl t)

end Renewal

theorem Change.trans_alike (h : Change validators t t') (h' : Alike t' t'') :
    Change validators t t'' := by
  cases h with
  | alike halike => exact .alike (halike.trans h')
  | built hfree hslot hfits hrange hchannels hbooks =>
    exact .built hfree hslot hfits hrange (h'.channels.trans hchannels) (h'.books.trans hbooks)
  | installed hb hstate hopen hcurrent hempty hchannels hbooks =>
    exact .installed hb hstate hopen hcurrent hempty (h'.channels.trans hchannels)
      (h'.books.trans hbooks)
  | dropped hslot hchannels hbooks =>
    exact .dropped hslot (h'.channels.trans hchannels) (h'.books.trans hbooks)
  | removed hservice hopen hat hchannels hbooks =>
    exact .removed hservice hopen hat (h'.channels.trans hchannels) (h'.books.trans hbooks)
  | renewed hservice hopen hat hchannels hbooks =>
    exact .renewed hservice hopen hat (h'.channels.trans hchannels) (h'.books.trans hbooks)

/-! ## The invariant -/

/-- What holds of the channels in every transport. -/
structure ChannelInv (validators : List GrpcValidatorEndpoint) (t : NodeTransport) : Prop where
  slots : t.furtherServices.length + 1 = validators.length
  range : ∀ channel ∈ t.channels, channel.validatorIndex < validators.length
  fits : ∀ {k s}, t.holds k = some s → ∃ channel, t.channels[s]? = some channel ∧ Fits t channel k
  balanced : Balanced t.books

theorem serviceAt_some {index : ℕ} {channel : Channel}
    (h : serviceAt validators index = some channel) :
    channel.validatorIndex = index ∧ channel.use = .direct ∧ index < validators.length := by
  unfold serviceAt at h
  cases hvalidator : validators[index]? with
  | none => simp [hvalidator] at h
  | some validator =>
    have hindex : index < validators.length := (List.getElem?_eq_some_iff.mp hvalidator).1
    simp only [hvalidator, Option.bind_eq_bind, Option.bind_some] at h
    cases htls : validator.tls with
    | some tls =>
      simp only [htls] at h
      obtain rfl := Option.some.inj h
      exact ⟨rfl, rfl, hindex⟩
    | none =>
      simp only [htls] at h
      split_ifs at h
      obtain rfl := Option.some.inj h
      exact ⟨rfl, rfl, hindex⟩

theorem change_of_step (hinv : ChannelInv validators t)
    (h : Step validators setupWindowMs startsCall t t') : Change validators t t' := by
  cases h with
  | calls index method request deadline =>
    have hready : Alike t (t.serviceReady validators setupWindowMs index t.calls.length).2 :=
      Alike.serviceReady
    exact .alike (hready.trans (Alike.same rfl rfl rfl rfl rfl))
  | @opensRead b build validator certificate networkKey hb hstate hvalidator hpin =>
    have hindex := (List.getElem?_eq_some_iff.mp hvalidator).1
    have hchannels : (t.openCommitteeRead b build.validatorIndex validator.endpoint certificate
      networkKey).channels = t.channels ++ [_] := rfl
    refine .built ?_ ?_ ?_ hindex hchannels (books_openCommitteeRead hb hstate)
    · rw [holds_committeeRead hb, hstate]
      rfl
    · simp
    · rfl
  | asksCommittee deadline hb hstate => exact .alike Alike.callOn
  | @endsRead b build service hb hstate =>
    exact .dropped (k := .committeeRead b) (by simp) rfl (books_endCommitteeRead hb hstate)
  | @connects b build validator certificate networkKey hb hstate hvalidator hpin =>
    have hindex := (List.getElem?_eq_some_iff.mp hvalidator).1
    have hchannels : (t.connectSetup b build.validatorIndex validator.endpoint certificate
      networkKey).channels = t.channels ++ [_] := rfl
    refine .built ?_ ?_ ?_ hindex hchannels (books_connectSetup hb hstate)
    · rw [holds_setup hb]
      rcases hstate with hstate | hstate <;> rw [hstate] <;> rfl
    · simp
    · exact ⟨rfl, indices_get hb⟩
  | fails reason hb hstate =>
    refine .alike (Alike.setBuild hb ?_ ?_) <;>
      rcases hstate with hstate | hstate <;> rw [hstate] <;> rfl
  | thenRuns hb hstate =>
    obtain ⟨channel, hchannel, -, hindex⟩ := hinv.fits (k := .setup _) (by
      rw [holds_setup hb, hstate]
      rfl)
    have hsame : _ = channel.validatorIndex := Option.some.inj ((indices_get hb).symm.trans hindex)
    have hrange := hinv.range channel (List.mem_of_getElem? hchannel)
    exact change_thenBuilt (by rw [hsame, hinv.slots]; exact hrange) hb hstate
  | @finallyRuns b build outcome hb hstate =>
    have hforget : Alike t (t.forget build.validatorIndex b) := Alike.forget
    have hb' : (t.forget build.validatorIndex b).builds[b]? = some build := by
      rw [forget_builds, hb]
    refine .alike (hforget.trans (Alike.setBuild hb' ?_ ?_)) <;> rw [hstate] <;> rfl
  | resumes hc hwaiting hb hstate => exact .alike (Alike.same rfl rfl rfl rfl rfl)
  | waitEnded hc hwaiting hended => exact .alike (Alike.same rfl rfl rfl rfl rfl)
  | windowPasses hc hwaiting hdeadline =>
    exact .alike (Alike.forget.trans (Alike.same rfl rfl rfl rfl rfl))
  | sends hc hready => exact .alike Alike.send
  | answers outcome hc hstarted =>
    cases outcome with
    | ok answer => exact .alike (Alike.same rfl rfl rfl rfl rfl)
    | error error =>
      exact change_renewAfterConnectionFailure.trans_alike (Alike.same rfl rfl rfl rfl rfl)
  | closes => exact .alike Alike.close
  | passes htime => exact .alike (Alike.same rfl rfl rfl rfl rfl)

theorem Fits.kept {channel : Channel} {k : Holder} (h : Fits t channel k) (hkept : Kept t t') :
    Fits t' channel k := by
  cases k with
  | slot index => exact h
  | setup b =>
    obtain ⟨tail, htail⟩ := hkept.indices
    refine ⟨h.1, ?_⟩
    rw [← htail, List.getElem?_append_left (List.getElem?_eq_some_iff.mp h.2).1, h.2]
  | committeeRead b => exact h

theorem Kept.channel (hkept : Kept t t') {s : ℕ} {channel : Channel}
    (h : t.channels[s]? = some channel) : t'.channels[s]? = some channel := by
  obtain ⟨tail, htail⟩ := hkept.channels
  rw [← htail, List.getElem?_append_left (List.getElem?_eq_some_iff.mp h).1, h]

namespace ChannelInv

/-- What was held before is still a channel that its holder may have. -/
theorem before (hinv : ChannelInv validators t) (hkept : Kept t t') {k : Holder} {s : ℕ}
    (hheld : t.books.holds k = some s) :
    ∃ channel, t'.channels[s]? = some channel ∧ Fits t' channel k := by
  obtain ⟨channel, hchannel, hfits⟩ := hinv.fits hheld
  exact ⟨channel, hkept.channel hchannel, hfits.kept hkept⟩

theorem slots_kept (hinv : ChannelInv validators t) (hkept : Kept t t') :
    t'.furtherServices.length + 1 = validators.length := by
  rw [hkept.slots, hinv.slots]

theorem alike (hinv : ChannelInv validators t) (hkept : Kept t t') (halike : Alike t t') :
    ChannelInv validators t' := by
  refine ⟨hinv.slots_kept hkept, ?_, fun {k s} hheld => ?_, ?_⟩
  · rw [halike.channels]
    exact hinv.range
  · have hheld' : t'.books.holds k = some s := hheld
    rw [halike.books] at hheld'
    exact hinv.before hkept hheld'
  · rw [halike.books]
    exact hinv.balanced

theorem make (hinv : ChannelInv validators t) (hkept : Kept t t') {k : Holder}
    {channel : Channel} {b : Books Holder} (hbalanced : Balanced b)
    (hmade : b.made = t.channels.length)
    (hheld : ∀ {j s}, b.holds j = some s → t.books.holds j = some s) (hfree : b.holds k = none)
    (hfits : Fits t' channel k) (hrange : channel.validatorIndex < validators.length)
    (hchannels : t'.channels = t.channels ++ [channel]) (hbooks : t'.books = b.make k) :
    ChannelInv validators t' := by
  refine ⟨hinv.slots_kept hkept, ?_, fun {j s} hnow => ?_, ?_⟩
  · rw [hchannels]
    intro other hmem
    rcases List.mem_append.mp hmem with hmem | hlast
    · exact hinv.range other hmem
    · rw [List.mem_singleton.mp hlast]
      exact hrange
  · have hnow' : t'.books.holds j = some s := hnow
    rw [hbooks] at hnow'
    rcases Books.holds_make hnow' with ⟨rfl, rfl⟩ | hbefore
    · refine ⟨channel, ?_, hfits⟩
      rw [hchannels, hmade]
      exact List.getElem?_concat_length
    · exact hinv.before hkept (hheld hbefore)
  · rw [hbooks]
    exact hbalanced.make hfree

theorem release (hinv : ChannelInv validators t) (hkept : Kept t t') {k : Holder}
    (hchannels : t'.channels = t.channels) (hbooks : t'.books = t.books.release k) :
    ChannelInv validators t' := by
  refine ⟨hinv.slots_kept hkept, ?_, fun {j s} hheld => ?_, ?_⟩
  · rw [hchannels]
    exact hinv.range
  · have hheld' : t'.books.holds j = some s := hheld
    rw [hbooks] at hheld'
    exact hinv.before hkept (Books.holds_release hheld').2
  · rw [hbooks]
    exact hinv.balanced.release k

theorem change (hinv : ChannelInv validators t) (hkept : Kept t t')
    (hchange : Change validators t t') : ChannelInv validators t' := by
  cases hchange with
  | alike halike => exact hinv.alike hkept halike
  | built hfree hslot hfits hrange hchannels hbooks =>
    exact hinv.make hkept hinv.balanced rfl (fun hheld => hheld) hfree (hfits.kept hkept) hrange
      hchannels hbooks
  | @installed b build service hb hstate hopen hcurrent hempty hchannels hbooks =>
    refine ⟨hinv.slots_kept hkept, ?_, fun {j s} hheld => ?_, ?_⟩
    · rw [hchannels]
      exact hinv.range
    · have hheld' : t'.books.holds j = some s := hheld
      rw [hbooks] at hheld'
      rcases Books.holds_pass hempty hheld' with ⟨rfl, hsetup⟩ | ⟨-, -, hheld'⟩
      · obtain ⟨channel, hchannel, huse, hindex⟩ := hinv.fits (k := .setup b) hsetup
        refine ⟨channel, hkept.channel hchannel, ?_, fun b' => ?_⟩
        · exact Option.some.inj (hindex.symm.trans (indices_get hb))
        · rw [huse]
          simp
      · exact hinv.before hkept hheld'
    · rw [hbooks]
      exact hinv.balanced.pass hempty
  | dropped hslot hchannels hbooks => exact hinv.release hkept hchannels hbooks
  | removed hservice hopen hat hchannels hbooks => exact hinv.release hkept hchannels hbooks
  | @renewed index service channel hservice hopen hat hchannels hbooks =>
    obtain ⟨hindex, huse, hrange⟩ := serviceAt_some hat
    have hfits : Fits t' channel (.slot index) := ⟨hindex, fun b => by rw [huse]; simp⟩
    exact hinv.make hkept (hinv.balanced.release _) rfl
      (fun hheld => (Books.holds_release hheld).2) (Function.update_self ..) hfits
      (hindex ▸ hrange) hchannels hbooks

end ChannelInv

/-! ## Channels that were given out -/

/-- A channel that is installed, or that was closed by a build or a renewal. -/
def GivenOut (t : NodeTransport) (s : Service) : Prop :=
  (∃ index, t.serviceOf index = some s) ∨ s ∈ t.dropped

theorem GivenOut.change {s : Service} (h : GivenOut t s) (hchange : Change validators t t') :
    GivenOut t' s := by
  have hdropped : ∀ {b : Books Holder}, t'.books = b → s ∈ b.released → GivenOut t' s :=
    fun hbooks hmem => .inr (show s ∈ t'.books.released from hbooks ▸ hmem)
  rcases h with ⟨index, hheld⟩ | hmem
  · have hheld' : t.books.holds (.slot index) = some s := hheld
    have hslot : ∀ {b : Books Holder}, t'.books = b → b.holds (.slot index) = some s →
        GivenOut t' s := fun hbooks hheld =>
      .inl ⟨index, show t'.books.holds (.slot index) = some s from hbooks ▸ hheld⟩
    cases hchange with
    | alike halike => exact hslot halike.books hheld'
    | built hfree hk hfits hrange hchannels hbooks =>
      exact hslot hbooks ((Books.make_holds_of_ne (hk index).symm).trans hheld')
    | @installed b build service hb hstate hopen hcurrent hempty hchannels hbooks =>
      have hother : Holder.slot index ≠ .slot build.validatorIndex := by
        intro heq
        rw [Holder.slot.inj heq, hempty] at hheld
        cases hheld
      exact hslot hbooks ((Books.pass_holds_of_ne (by simp) hother).trans hheld')
    | dropped hk hchannels hbooks =>
      exact hslot hbooks ((Books.release_holds_of_ne (hk index).symm).trans hheld')
    | @removed i service hservice hopen hat hchannels hbooks =>
      by_cases hindex : Holder.slot index = .slot i
      · exact hdropped hbooks (Books.mem_release (hindex ▸ hheld'))
      · exact hslot hbooks ((Books.release_holds_of_ne hindex).trans hheld')
    | @renewed i service channel hservice hopen hat hchannels hbooks =>
      by_cases hindex : Holder.slot index = .slot i
      · have hreleased : s ∈ (t.books.release (.slot i)).released :=
          Books.mem_release (hindex ▸ hheld')
        exact hdropped hbooks hreleased
      · have hkept := (Books.release_holds_of_ne hindex).trans hheld'
        exact hslot hbooks ((Books.make_holds_of_ne hindex).trans hkept)
  · have hmem' : s ∈ t.books.released := hmem
    cases hchange with
    | alike halike => exact hdropped halike.books hmem'
    | built hfree hk hfits hrange hchannels hbooks => exact hdropped hbooks hmem'
    | installed hb hstate hopen hcurrent hempty hchannels hbooks => exact hdropped hbooks hmem'
    | dropped hk hchannels hbooks => exact hdropped hbooks (List.mem_append_left _ hmem')
    | removed hservice hopen hat hchannels hbooks =>
      exact hdropped hbooks (List.mem_append_left _ hmem')
    | renewed hservice hopen hat hchannels hbooks =>
      exact hdropped hbooks (List.mem_append_left _ hmem')

end Changes

end NodeTransport

end Ika
