import IkaSdk.Core.Grpc.ChannelBooks

/-! The life of the Node transport's channels, over every order of calls, setups, timers,
renewals and `close()`: one installed for a validator at most, each one closed in the end
unless it is installed, and none that a call starts on once the transport is closed. -/

namespace Ika

open Wire Custody

/-! ## The channels that builds and calls speak of -/

/-- The channel that a build gives to those who wait for it. -/
def BuildState.givenService : BuildState → Option Service
  | .settling (.ok service) => some service
  | .settled (.ok service) => some service
  | _ => none

def CallState.givenService : CallState → Option Service
  | .ready service => some service
  | .started service => some service
  | _ => none

namespace NodeTransport

/-- The channels that builds and calls speak of. -/
def Mentions (t : NodeTransport) (s : Service) : Prop :=
  (∃ (b : ℕ) (build : Build), t.builds[b]? = some build ∧ build.state.givenService = some s) ∨
    ∃ (c : ℕ) (call : Call), t.calls[c]? = some call ∧ call.state.givenService = some s

section Mentions

variable {validators : List GrpcValidatorEndpoint} {setupWindowMs : ℤ}
  {startsCall : List ClientUse → Bool} {t t' : NodeTransport} {s : Service}

theorem Mentions.same (h : Mentions t' s) (hbuilds : t'.builds = t.builds)
    (hcalls : t'.calls = t.calls) : Mentions t s := by
  unfold Mentions at h
  rw [hbuilds, hcalls] at h
  exact h

theorem Mentions.setBuild {b : ℕ} {build : Build} {state : BuildState}
    (h : Mentions (t.setBuild b state) s) (hb : t.builds[b]? = some build) :
    Mentions t s ∨ state.givenService = some s := by
  rcases h with ⟨j, other, hj, hgiven⟩ | hcall
  · rw [builds_setBuild hb] at hj
    split_ifs at hj
    · obtain rfl := Option.some.inj hj
      exact .inr hgiven
    · exact .inl (.inl ⟨j, other, hj, hgiven⟩)
  · exact .inl (.inr hcall)

theorem Mentions.setCall {c : ℕ} {state : CallState} (h : Mentions (t.setCall c state) s) :
    Mentions t s ∨ state.givenService = some s := by
  rcases h with hbuild | ⟨j, call, hj, hgiven⟩
  · exact .inl (.inl hbuild)
  · simp only [NodeTransport.setCall, List.getElem?_modify] at hj
    cases hcall : t.calls[j]? with
    | none => simp [hcall] at hj
    | some other =>
      simp only [hcall, Option.map_eq_map, Option.map_some, Option.some.injEq] at hj
      split_ifs at hj
      · obtain rfl := hj
        exact .inr hgiven
      · obtain rfl := hj
        exact .inl (.inr ⟨j, other, hcall, hgiven⟩)

/-! ## What a step speaks of -/

theorem callOn_builds {service : Service} {method : String} {deadline : ℤ} :
    (t.callOn startsCall service method deadline).2.builds = t.builds := by
  unfold callOn
  split_ifs <;> rfl

theorem callOn_calls {service : Service} {method : String} {deadline : ℤ} :
    (t.callOn startsCall service method deadline).2.calls = t.calls := by
  unfold callOn
  split_ifs <;> rfl

theorem setService_calls {index : ℕ} {service : Option Service} :
    (t.setService index service).calls = t.calls := by
  cases index <;> rfl

theorem forget_calls {index b : ℕ} : (t.forget index b).calls = t.calls := by
  unfold forget
  split_ifs <;> rfl

theorem Mentions.renewService {index : ℕ} (h : Mentions (t.renewService validators index) s) :
    Mentions t s := by
  unfold NodeTransport.renewService at h
  split at h
  · exact h.same setService_builds setService_calls
  · exact h.same setService_builds setService_calls

theorem Mentions.renewAfterConnectionFailure {service : Service} {error : GrpcError}
    (h : Mentions (t.renewAfterConnectionFailure validators service error) s) : Mentions t s := by
  unfold NodeTransport.renewAfterConnectionFailure at h
  dsimp only at h
  split_ifs at h
  · exact h
  · exact (h.same rfl rfl : Mentions (t.renewService validators 0) s).renewService
  · exact (h.same rfl rfl : Mentions (t.renewService validators _) s).renewService
  · exact h

theorem Mentions.pinnedServiceAt {index : ℕ} {setupDeadline : ℤ}
    (h : Mentions (t.pinnedServiceAt index setupDeadline) s) : Mentions t s := by
  rcases h with ⟨b, build, hb, hgiven⟩ | hcall
  · rcases List.mem_append.mp (List.mem_of_getElem? hb) with hbefore | hlast
    · obtain ⟨j, hj⟩ := List.mem_iff_getElem?.mp hbefore
      exact .inl ⟨j, build, hj, hgiven⟩
    · obtain rfl := List.mem_singleton.mp hlast
      cases hgiven
  · exact .inr hcall

theorem Mentions.serviceReady {index wait : ℕ}
    (h : Mentions (t.serviceReady validators setupWindowMs index wait).2 s) : Mentions t s := by
  unfold NodeTransport.serviceReady at h
  split_ifs at h with hclosed
  · exact h
  · split at h
    · exact h
    · dsimp only at h
      split_ifs at h
      · exact h
      · cases hbuilds : t.pinnedBuilds index with
        | some building =>
          rw [hbuilds] at h
          exact h.same rfl rfl
        | none =>
          rw [hbuilds] at h
          exact (h.same rfl rfl : Mentions (t.pinnedServiceAt index _) s).pinnedServiceAt

theorem serviceReady_calls {index wait : ℕ} :
    (t.serviceReady validators setupWindowMs index wait).2.calls = t.calls := by
  unfold serviceReady
  split_ifs with hclosed
  · rfl
  · split
    · rfl
    · dsimp only
      split_ifs
      · rfl
      · cases t.pinnedBuilds index <;> rfl

/-- A service that is ready at once is the one installed. -/
theorem serviceReady_returns {index wait : ℕ}
    (h : (t.serviceReady validators setupWindowMs index wait).1.callState.givenService = some s) :
    t.serviceOf index = some s := by
  unfold serviceReady at h
  split_ifs at h with hclosed
  · cases h
  · split at h
    · next current hcurrent =>
      obtain rfl : current = s := Option.some.inj h
      exact hcurrent
    · dsimp only at h
      split_ifs at h <;> cases h

theorem installBuilt_builds {b index : ℕ} {service : Service} :
    (t.installBuilt validators setupWindowMs b index service).2.builds = t.builds := by
  unfold installBuilt
  split_ifs
  · rfl
  · split <;> rfl
  · split
    · rfl
    · exact setService_builds

theorem installBuilt_calls {b index : ℕ} {service : Service} :
    (t.installBuilt validators setupWindowMs b index service).2.calls = t.calls := by
  unfold installBuilt
  split_ifs
  · rfl
  · split <;> rfl
  · split
    · rfl
    · exact setService_calls

/-- A build gives the channel that is installed when it ends. -/
theorem installBuilt_gives {b index : ℕ} {service : Service}
    (hindex : index < t.furtherServices.length + 1)
    (h : (t.installBuilt validators setupWindowMs b index service).1 = .ok s) :
    (t.installBuilt validators setupWindowMs b index service).2.serviceOf index = some s := by
  have hkept : ∀ {installed : Service}, t.serviceOf index = some installed →
      (t.closeClient service .build).serviceOf index = some installed := fun hinstalled =>
    (congrFun (serviceOf_congr rfl rfl) index).trans hinstalled
  unfold installBuilt at h ⊢
  cases hslot : t.serviceOf index with
  | some installed =>
    rw [hslot] at h
    dsimp only at h ⊢
    split_ifs at h ⊢ with hclosed hother
    · obtain rfl := Except.ok.inj h
      exact hkept hslot
    · obtain rfl := Except.ok.inj h
      exact hkept hslot
  | none =>
    rw [hslot] at h
    dsimp only at h ⊢
    split_ifs at h ⊢ with hclosed hother
    · obtain rfl := Except.ok.inj h
      show (t.setService index (some service)).serviceOf index = some service
      rw [serviceOf_setService hindex, Function.update_self]

/-- What is spoken of after a step was spoken of before, or is installed. -/
theorem mentions_of_step (hinv : ChannelInv validators t)
    (h : Step validators setupWindowMs startsCall t t') (hmentions : Mentions t' s) :
    Mentions t s ∨ ∃ index, t'.serviceOf index = some s := by
  cases h with
  | calls index method request deadline =>
    rcases hmentions with hbuild | ⟨c, call, hc, hgiven⟩
    · have hready : Mentions (t.serviceReady validators setupWindowMs index t.calls.length).2 s :=
        .inl hbuild
      exact .inl hready.serviceReady
    · rcases List.mem_append.mp (List.mem_of_getElem? hc) with hbefore | hlast
      · have hbefore' : call ∈ t.calls := by
          rw [← serviceReady_calls]
          exact hbefore
        obtain ⟨j, hj⟩ := List.mem_iff_getElem?.mp hbefore'
        exact .inl (.inr ⟨j, call, hj, hgiven⟩)
      · obtain rfl := List.mem_singleton.mp hlast
        have halike : Alike t (t.serviceReady validators setupWindowMs index t.calls.length).2 :=
          Alike.serviceReady
        have hsame := congrFun (congrArg Books.holds halike.books) (.slot index)
        refine .inr ⟨index, Eq.trans ?_ (hsame.trans (serviceReady_returns hgiven))⟩
        exact congrFun (serviceOf_congr rfl rfl) index
  | opensRead certificate networkKey hb hstate hvalidator hpin =>
    rcases hmentions.setBuild hb with hbefore | hgiven
    · exact .inl (hbefore.same rfl rfl)
    · cases hgiven
  | asksCommittee deadline hb hstate => exact .inl (hmentions.same callOn_builds callOn_calls)
  | endsRead hb hstate =>
    rcases hmentions.setBuild hb with hbefore | hgiven
    · exact .inl (hbefore.same rfl rfl)
    · cases hgiven
  | connects hb hstate hvalidator hpin =>
    rcases hmentions.setBuild hb with hbefore | hgiven
    · exact .inl (hbefore.same rfl rfl)
    · cases hgiven
  | fails reason hb hstate =>
    rcases hmentions.setBuild hb with hbefore | hgiven
    · exact .inl hbefore
    · cases hgiven
  | @thenRuns b build service hb hstate =>
    have hrange : build.validatorIndex < t.furtherServices.length + 1 := by
      obtain ⟨channel, hchannel, -, hindex⟩ := hinv.fits (k := .setup b) (by
        rw [holds_setup hb, hstate]
        rfl)
      rw [Option.some.inj ((indices_get hb).symm.trans hindex), hinv.slots]
      exact hinv.range channel (List.mem_of_getElem? hchannel)
    have hb' : (t.installBuilt validators setupWindowMs b build.validatorIndex
        service).2.builds[b]? = some build := by rw [installBuilt_builds, hb]
    have hset : Mentions ((t.installBuilt validators setupWindowMs b build.validatorIndex
        service).2.setBuild b (.settling (t.installBuilt validators setupWindowMs b
          build.validatorIndex service).1)) s := hmentions
    rcases hset.setBuild hb' with hbefore | hgiven
    · exact .inl (hbefore.same installBuilt_builds installBuilt_calls)
    · right
      refine ⟨build.validatorIndex, ?_⟩
      cases houtcome : (t.installBuilt validators setupWindowMs b build.validatorIndex
        service).1 with
      | error error =>
        rw [houtcome] at hgiven
        cases hgiven
      | ok given =>
        rw [houtcome] at hgiven
        obtain rfl : given = s := Option.some.inj hgiven
        exact installBuilt_gives hrange houtcome
  | @finallyRuns b build outcome hb hstate =>
    have hb' : (t.forget build.validatorIndex b).builds[b]? = some build := by
      rw [forget_builds, hb]
    rcases hmentions.setBuild hb' with hbefore | hgiven
    · exact .inl (hbefore.same forget_builds forget_calls)
    · left
      left
      refine ⟨b, build, hb, ?_⟩
      rw [hstate]
      cases outcome with
      | error error => cases hgiven
      | ok given => exact hgiven
  | @resumes c b call build deadline outcome hc hwaiting hb hstate =>
    have hset : Mentions (t.setCall c (afterBuild outcome)) s := hmentions.same rfl rfl
    rcases hset.setCall with hbefore | hgiven
    · exact .inl hbefore
    · left
      left
      refine ⟨b, build, hb, ?_⟩
      rw [hstate]
      cases outcome with
      | error error => cases hgiven
      | ok given => exact hgiven
  | @waitEnded c b call deadline hc hwaiting hended =>
    have hset : Mentions (t.setCall c (.ended (.error closedClientError))) s :=
      hmentions.same rfl rfl
    rcases hset.setCall with hbefore | hgiven
    · exact .inl hbefore
    · cases hgiven
  | @windowPasses c b call deadline hc hwaiting hdeadline =>
    have hset : Mentions ((t.forget call.validatorIndex b).setCall c (.ended (.error
      (outOfTime validators setupWindowMs call.validatorIndex)))) s := hmentions.same rfl rfl
    rcases hset.setCall with hbefore | hgiven
    · exact .inl (hbefore.same forget_builds forget_calls)
    · cases hgiven
  | @sends c call service hc hready =>
    left
    unfold send at hmentions
    split at hmentions
    · next t₁ heq =>
      have hsame : Mentions t₁ s → Mentions t s := fun h => by
        obtain rfl : (t.callOn startsCall service call.method _).2 = t₁ := congrArg Prod.snd heq
        exact h.same callOn_builds callOn_calls
      rcases hmentions.setCall with hbefore | hgiven
      · exact hsame hbefore
      · right
        exact ⟨c, call, hc, by rw [hready]; exact hgiven⟩
    · next t₁ heq =>
      have hsame : Mentions t₁ s → Mentions t s := fun h => by
        obtain rfl : (t.callOn startsCall service call.method _).2 = t₁ := congrArg Prod.snd heq
        exact h.same callOn_builds callOn_calls
      rcases hmentions.setCall with hbefore | hgiven
      · exact hsame hbefore
      · cases hgiven
  | @answers c call service outcome hc hstarted =>
    cases outcome with
    | ok answer =>
      rcases hmentions.setCall with hbefore | hgiven
      · exact .inl hbefore
      · cases hgiven
    | error error =>
      rcases hmentions.setCall with hbefore | hgiven
      · exact .inl hbefore.renewAfterConnectionFailure
      · cases hgiven
  | closes => exact .inl (hmentions.same rfl rfl)
  | passes htime => exact .inl (hmentions.same rfl rfl)

end Mentions

/-! ## Closing -/

/-- The transport was told to close the channel. -/
def Closed (t : NodeTransport) (s : Service) : Prop :=
  ∃ closer, (s, ClientUse.close closer) ∈ t.clientUses

/-- A step starts a call on the channel. -/
def StartsCall (t t' : NodeTransport) (s : Service) : Prop :=
  ∃ method deadline, t'.clientUses = t.clientUses ++ [(s, .call method deadline)]

section Closing

variable {validators : List GrpcValidatorEndpoint} {setupWindowMs : ℤ}
  {startsCall : List ClientUse → Bool} {t t' : NodeTransport} {s : Service}

theorem closed_of_dropped (h : s ∈ t.dropped) : Closed t s := by
  obtain ⟨⟨service, use⟩, hmem, hdropped⟩ := List.mem_filterMap.mp h
  cases use with
  | call method deadline => cases hdropped
  | close closer =>
    cases closer with
    | close => cases hdropped
    | _ =>
      obtain rfl : service = s := Option.some.inj hdropped
      exact ⟨_, hmem⟩

theorem Closed.kept (h : Closed t s) (hkept : Kept t t') : Closed t' s := by
  obtain ⟨closer, hmem⟩ := h
  exact ⟨closer, hkept.clientUses.subset hmem⟩

theorem mem_services : s ∈ t.services ↔ ∃ index, t.serviceOf index = some s := by
  have hslot : ∀ index, t.serviceOf index = ((t.service :: t.furtherServices)[index]?).join := by
    intro index
    cases index <;> rfl
  simp only [services, List.mem_filterMap, id_eq, exists_eq_right]
  constructor
  · intro hmem
    obtain ⟨index, hindex⟩ := List.mem_iff_getElem?.mp hmem
    exact ⟨index, by rw [hslot, hindex]; rfl⟩
  · rintro ⟨index, hindex⟩
    rw [hslot] at hindex
    exact List.mem_of_getElem? (Option.join_eq_some_iff.mp hindex)

/-- `close()` goes through each channel once. -/
theorem services_nodup (hinv : ChannelInv validators t) : t.services.Nodup := by
  unfold services List.Nodup
  rw [List.pairwise_filterMap, List.pairwise_iff_getElem]
  intro i j hi hj hij a ha b hb heq
  obtain rfl : a = b := heq
  have hslot : ∀ index (hindex : index < (t.service :: t.furtherServices).length),
      (t.service :: t.furtherServices)[index] = some a →
        t.books.holds (.slot index) = some a := by
    intro index hindex hheld
    show t.serviceOf index = some a
    cases index with
    | zero => exact hheld
    | succ index =>
      show (t.furtherServices[index]?).join = some a
      rw [List.getElem?_eq_getElem (Nat.lt_of_succ_lt_succ hindex)]
      exact hheld
  have hsame := hinv.balanced.one_holder (hslot i hi ha) (hslot j hj hb)
  exact absurd (Holder.slot.inj hsame) (Nat.ne_of_lt hij)

theorem closed_renewService {index : ℕ} :
    (t.renewService validators index).closed = t.closed := by
  unfold renewService
  split <;> cases index <;> rfl

theorem closed_of_step (h : Step validators setupWindowMs startsCall t t') :
    t'.closed = t.closed ∨ t' = t.close := by
  cases h with
  | calls index method request deadline =>
    left
    show (t.serviceReady validators setupWindowMs index t.calls.length).2.closed = t.closed
    unfold serviceReady
    split_ifs with hclosed
    · rfl
    · split
      · rfl
      · dsimp only
        split_ifs
        · rfl
        · cases t.pinnedBuilds index <;> rfl
  | opensRead certificate networkKey hb hstate hvalidator hpin => exact .inl rfl
  | asksCommittee deadline hb hstate =>
    left
    unfold callOn
    split_ifs <;> rfl
  | endsRead hb hstate => exact .inl rfl
  | connects hb hstate hvalidator hpin => exact .inl rfl
  | fails reason hb hstate => exact .inl rfl
  | @thenRuns b build service hb hstate =>
    left
    show (t.installBuilt validators setupWindowMs b build.validatorIndex service).2.closed =
      t.closed
    unfold installBuilt
    split_ifs
    · rfl
    · split <;> rfl
    · split
      · rfl
      · cases build.validatorIndex <;> rfl
  | @finallyRuns b build outcome hb hstate =>
    left
    show (t.forget build.validatorIndex b).closed = t.closed
    unfold forget
    split_ifs <;> rfl
  | resumes hc hwaiting hb hstate => exact .inl rfl
  | waitEnded hc hwaiting hended => exact .inl rfl
  | @windowPasses c b call deadline hc hwaiting hdeadline =>
    left
    show (t.forget call.validatorIndex b).closed = t.closed
    unfold forget
    split_ifs <;> rfl
  | @sends c call service hc hready =>
    left
    unfold send callOn
    split_ifs <;> rfl
  | @answers c call service outcome hc hstarted =>
    cases outcome with
    | ok answer => exact .inl rfl
    | error error =>
      left
      show (t.renewAfterConnectionFailure validators service error).closed = t.closed
      unfold renewAfterConnectionFailure
      dsimp only
      split_ifs
      · rfl
      · exact closed_renewService
      · exact closed_renewService
      · rfl
  | closes => exact .inr rfl
  | passes htime => exact .inl rfl

theorem serviceReady_clientUses {index wait : ℕ} :
    (t.serviceReady validators setupWindowMs index wait).2.clientUses = t.clientUses := by
  unfold serviceReady
  split_ifs with hclosed
  · rfl
  · split
    · rfl
    · dsimp only
      split_ifs
      · rfl
      · cases t.pinnedBuilds index <;> rfl

theorem forget_clientUses {index b : ℕ} : (t.forget index b).clientUses = t.clientUses := by
  unfold forget
  split_ifs <;> rfl

theorem renewService_clientUses {index : ℕ} :
    (t.renewService validators index).clientUses = t.clientUses := by
  unfold renewService
  split <;> exact setService_clientUses

theorem installBuilt_clientUses {b index : ℕ} {service : Service} :
    (t.installBuilt validators setupWindowMs b index service).2.clientUses = t.clientUses ∨
      (t.installBuilt validators setupWindowMs b index service).2.clientUses =
        t.clientUses ++ [(service, .close .build)] := by
  unfold installBuilt
  split_ifs
  · exact .inr rfl
  · split <;> exact .inr rfl
  · split
    · exact .inr rfl
    · exact .inl setService_clientUses

theorem renewAfterConnectionFailure_clientUses {service : Service} {error : GrpcError} :
    (t.renewAfterConnectionFailure validators service error).clientUses = t.clientUses ∨
      (t.renewAfterConnectionFailure validators service error).clientUses =
        t.clientUses ++ [(service, .close .renewal)] := by
  unfold renewAfterConnectionFailure
  dsimp only
  split_ifs
  · exact .inl rfl
  · exact .inr (congrArg (· ++ _) renewService_clientUses)
  · exact .inr (congrArg (· ++ _) renewService_clientUses)
  · exact .inl rfl

/-- A call starts on the channel of a committee read, or on the one that a waiting call
was given, if grpc-js starts it. -/
theorem starts_of_step (h : Step validators setupWindowMs startsCall t t')
    (hstarts : StartsCall t t' s) :
    (∃ (b : ℕ) (build : Build), t.builds[b]? = some build ∧ build.state = .reading s) ∨
      startsCall (t.usesOf s) = true ∧ Mentions t s := by
  obtain ⟨method, deadline, huses⟩ := hstarts
  -- Nothing is done with a channel, or one is closed: no call starts.
  have hsame : t'.clientUses ≠ t.clientUses := by
    rw [huses]
    simp
  have hclose : ∀ closed : List Service, ∀ closer,
      t'.clientUses ≠ t.clientUses ++ closed.map fun service => (service, .close closer) := by
    intro closed closer heq
    have htail := List.append_cancel_left (huses.symm.trans heq)
    have hmem : (s, ClientUse.call method deadline) ∈
        closed.map fun service => (service, ClientUse.close closer) := by
      rw [← htail]
      exact List.mem_singleton_self _
    obtain ⟨service, -, hcall⟩ := List.mem_map.mp hmem
    cases hcall
  have hcalled : ∀ {service : Service} {method' : String} {deadline' : ℤ},
      t'.clientUses = (t.callOn startsCall service method' deadline').2.clientUses →
        startsCall (t.usesOf service) = true ∧ service = s := by
    intro service method' deadline' heq
    unfold callOn at heq
    split_ifs at heq with hstarts
    · have htail := List.append_cancel_left (huses.symm.trans heq)
      exact ⟨hstarts, (Prod.mk.inj (List.singleton_inj.mp htail)).1.symm⟩
    · exact absurd heq hsame
  have hcloseOne : ∀ {service : Service} {closer : Closer},
      t'.clientUses ≠ t.clientUses ++ [(service, .close closer)] :=
    fun {service closer} => hclose [service] closer
  cases h with
  | calls index method request deadline => exact absurd serviceReady_clientUses hsame
  | opensRead certificate networkKey hb hstate hvalidator hpin => exact absurd rfl hsame
  | @asksCommittee b build service deadline hb hstate =>
    obtain ⟨-, rfl⟩ := hcalled rfl
    exact .inl ⟨b, build, hb, hstate⟩
  | endsRead hb hstate => exact absurd rfl hcloseOne
  | connects hb hstate hvalidator hpin => exact absurd rfl hsame
  | fails reason hb hstate => exact absurd rfl hsame
  | thenRuns hb hstate =>
    rcases installBuilt_clientUses with hinstalled | hdropped
    · exact absurd hinstalled hsame
    · exact absurd hdropped hcloseOne
  | finallyRuns hb hstate => exact absurd forget_clientUses hsame
  | resumes hc hwaiting hb hstate => exact absurd rfl hsame
  | waitEnded hc hwaiting hended => exact absurd rfl hsame
  | windowPasses hc hwaiting hdeadline => exact absurd forget_clientUses hsame
  | @sends c call service hc hready =>
    right
    have hsent : (t.send startsCall c call service).clientUses = (t.callOn startsCall service
        call.method (call.deadline + (t.time - call.setupStarted))).2.clientUses := by
      unfold send callOn
      split_ifs <;> rfl
    obtain ⟨hstarts, rfl⟩ := hcalled hsent
    exact ⟨hstarts, .inr ⟨c, call, hc, by rw [hready]; rfl⟩⟩
  | answers outcome hc hstarted =>
    cases outcome with
    | ok answer => exact absurd rfl hsame
    | error error =>
      rcases renewAfterConnectionFailure_clientUses with hkept | hrenewed
      · exact absurd hkept hsame
      · exact absurd hrenewed hcloseOne
  | closes => exact absurd rfl (hclose t.services .close)
  | passes htime => exact absurd rfl hsame

end Closing

/-! ## The invariant over every order of steps -/

section Invariant

variable {validators : List GrpcValidatorEndpoint} {setupWindowMs : ℤ}
  {startsCall : List ClientUse → Bool} {t t' : NodeTransport} {s : Service}

/-- What holds in every transport. -/
structure TransportInv (validators : List GrpcValidatorEndpoint) (t : NodeTransport) : Prop where
  channels : ChannelInv validators t
  givenOut : ∀ {s}, Mentions t s → GivenOut t s
  closed : t.closed = true → ∀ {s}, GivenOut t s → Closed t s

theorem TransportInv.step (hinv : TransportInv validators t)
    (h : Step validators setupWindowMs startsCall t t') : TransportInv validators t' := by
  have hkept := Kept.step h
  have hchange := change_of_step hinv.channels h
  refine ⟨hinv.channels.change hkept hchange, fun {s} hmentions => ?_, fun hclosed s hgiven => ?_⟩
  · rcases mentions_of_step hinv.channels h hmentions with hbefore | hinstalled
    · exact (hinv.givenOut hbefore).change hchange
    · exact .inl hinstalled
  · rcases hgiven with ⟨index, hheld⟩ | hdropped
    · rcases closed_of_step h with hsame | rfl
      · -- A closed transport installs nothing, so the channel was there before.
        have hclosed' : t.closed = true := hsame ▸ hclosed
        have hheld' : t'.books.holds (.slot index) = some s := hheld
        have hbefore : t.books.holds (.slot index) = some s := by
          cases hchange with
          | alike halike => exact halike.books ▸ hheld'
          | built hfree hk hfits hrange hchannels hbooks =>
            rw [hbooks, Books.make_holds_of_ne (hk index).symm] at hheld'
            exact hheld'
          | installed hb hstate hopen => exact absurd hclosed' (by simp [hopen])
          | dropped hk hchannels hbooks =>
            rw [hbooks, Books.release_holds_of_ne (hk index).symm] at hheld'
            exact hheld'
          | removed hservice hopen => exact absurd hclosed' (by simp [hopen])
          | renewed hservice hopen => exact absurd hclosed' (by simp [hopen])
        exact (hinv.closed hclosed' (.inl ⟨index, hbefore⟩)).kept hkept
      · have hmem : s ∈ t.services := mem_services.mpr ⟨index, by
          rw [← hheld]
          exact congrFun (serviceOf_congr rfl rfl) index⟩
        exact ⟨.close, List.mem_append_right _ (List.mem_map_of_mem hmem)⟩
    · exact closed_of_dropped hdropped

theorem serviceOf_renewService {index j : ℕ} (hindex : index < t.furtherServices.length + 1)
    (hj : j ≠ index) : (t.renewService validators index).serviceOf j = t.serviceOf j := by
  unfold renewService
  split
  · next channel hat =>
    rw [serviceOf_setService (t := t.serviceWith channel) hindex, Function.update_of_ne hj]
    exact congrFun (serviceOf_congr rfl rfl) j
  · rw [serviceOf_setService hindex, Function.update_of_ne hj]

/-- The constructor puts a channel where there is none. -/
theorem ChannelInv.renewService {index : ℕ} (hinv : ChannelInv validators t)
    (hindex : index < validators.length) (hfree : t.serviceOf index = none) :
    ChannelInv validators (t.renewService validators index) := by
  have hslot : index < t.furtherServices.length + 1 := by
    rw [hinv.slots]
    exact hindex
  have hkept : Kept t (t.renewService validators index) := Kept.renewService
  unfold NodeTransport.renewService at hkept ⊢
  split at hkept
  · next channel hat =>
    obtain ⟨hvalidator, huse, -⟩ := serviceAt_some hat
    refine hinv.make hkept hinv.balanced rfl (fun hheld => hheld) (k := .slot index) hfree
      ⟨hvalidator, fun b => by rw [huse]; simp⟩ (hvalidator ▸ hindex) setService_channels
      (Books.ext ?_ ?_ ?_)
    · show (NodeTransport.channels _).length = t.channels.length + 1
      rw [setService_channels]
      exact List.length_append
    · show NodeTransport.holds _ = Function.update t.holds (.slot index) (some t.newService)
      rw [holds_setService (t := t.serviceWith channel) hslot, holds_serviceWith]
    · exact congrArg (List.filterMap droppedBy) setService_clientUses
  · next hat =>
    refine hinv.alike hkept ⟨Books.ext ?_ ?_ ?_, setService_channels⟩
    · exact congrArg List.length setService_channels
    · show NodeTransport.holds _ = t.holds
      rw [holds_setService hslot]
      exact Function.update_eq_self_iff.mpr hfree.symm
    · exact congrArg (List.filterMap droppedBy) setService_clientUses

theorem channelInv_empty (hnonempty : validators ≠ []) (time : ℤ) :
    ChannelInv validators (empty validators time) := by
  have hnone : (empty validators time).holds = fun _ => none := by
    funext k
    cases k with
    | slot index =>
      cases index with
      | zero => rfl
      | succ index =>
        show ((List.replicate _ none)[index]?).join = none
        rw [List.getElem?_replicate]
        split_ifs <;> rfl
    | setup b => rfl
    | committeeRead b => rfl
  refine ⟨?_, by simp [empty], fun {k s} hheld => ?_, ?_⟩
  · show (List.replicate _ _).length + 1 = _
    rw [List.length_replicate]
    exact Nat.sub_add_cancel (List.length_pos_iff.mpr hnonempty)
  · rw [hnone] at hheld
    cases hheld
  · have hbooks : (empty validators time).books = ⟨0, fun _ => none, []⟩ :=
      Books.ext rfl hnone rfl
    rw [hbooks]
    exact balanced_empty

theorem created_inv (hnonempty : validators ≠ []) (time : ℤ) {n : ℕ} (hn : n ≤ validators.length) :
    let created := (List.range n).foldl (renewService validators) (empty validators time)
    ChannelInv validators created ∧ (∀ j, n ≤ j → created.serviceOf j = none) ∧
      created.builds = [] ∧ created.calls = [] ∧ created.closed = false := by
  induction n with
  | zero =>
    have hinv := channelInv_empty hnonempty time
    refine ⟨hinv, fun j _ => ?_, rfl, rfl, rfl⟩
    cases j with
    | zero => rfl
    | succ j =>
      show ((List.replicate _ none)[j]?).join = none
      rw [List.getElem?_replicate]
      split_ifs <;> rfl
  | succ n ih =>
    obtain ⟨hinv, hfree, hbuilds, hcalls, hopen⟩ := ih (Nat.le_of_succ_le hn)
    dsimp only
    rw [List.range_succ, List.foldl_append, List.foldl_cons, List.foldl_nil]
    generalize (List.range n).foldl (NodeTransport.renewService validators) _ = t at *
    refine ⟨hinv.renewService hn (hfree n le_rfl), fun j hj => ?_, ?_, ?_, ?_⟩
    · rw [serviceOf_renewService (by rw [hinv.slots]; exact hn) (Nat.ne_of_gt hj)]
      exact hfree j (Nat.le_of_succ_le hj)
    · rw [← hbuilds]
      unfold NodeTransport.renewService
      split <;> exact setService_builds
    · rw [← hcalls]
      unfold NodeTransport.renewService
      split <;> exact setService_calls
    · rw [closed_renewService, hopen]

theorem transportInv_created {hasCommitteeReader : Bool} {time : ℤ}
    (h : create validators hasCommitteeReader time = .ok t) : TransportInv validators t := by
  unfold create at h
  split at h
  · cases h
  · split_ifs at h with hempty
    have hnonempty : validators ≠ [] := by
      rintro rfl
      exact hempty rfl
    obtain rfl := Except.ok.inj h
    obtain ⟨hinv, -, hbuilds, hcalls, hopen⟩ := created_inv hnonempty time le_rfl
    refine ⟨hinv, fun {s} hmentions => ?_, fun hclosed => ?_⟩
    · rcases hmentions with ⟨b, build, hb, -⟩ | ⟨c, call, hc, -⟩
      · rw [hbuilds] at hb
        cases hb
      · rw [hcalls] at hc
        cases hc
    · rw [hopen] at hclosed
      cases hclosed

theorem transportInv_of_reaches (h : Reaches validators setupWindowMs startsCall t) :
    TransportInv validators t := by
  induction h with
  | created hcreate => exact transportInv_created hcreate
  | step _ hstep ih => exact ih.step hstep

end Invariant

/-! ## The lifecycle -/

def Installed (t : NodeTransport) (s : Service) : Prop := ∃ index, t.serviceOf index = some s

/-- The build's channel is there, and waits for the callback of its `then`. -/
def Connected (t : NodeTransport) (b : ℕ) (s : Service) : Prop :=
  ∃ build, t.builds[b]? = some build ∧ build.state = .connected s

/-- The build reads the committee over the channel. -/
def Reading (t : NodeTransport) (b : ℕ) (s : Service) : Prop :=
  ∃ build, t.builds[b]? = some build ∧ build.state = .reading s

/-- What holds of the channels at any time. -/
structure ChannelsSafe (t : NodeTransport) : Prop where
  oneInstalled : ∀ {s s' channel channel'}, Installed t s → Installed t s' →
    t.channels[s]? = some channel → t.channels[s']? = some channel' →
      channel.validatorIndex = channel'.validatorIndex → s = s'
  accounted : ∀ s < t.channels.length,
    Installed t s ∨ Closed t s ∨ (∃ b, Connected t b s) ∨ ∃ b, Reading t b s
  /-- The channel of a committee read is closed once the read has ended. -/
  committeeRead : ∀ {s channel b}, t.channels[s]? = some channel →
    channel.use = .committeeRead b → ¬Installed t s ∧ (Closed t s ∨ Reading t b s)
  closesOnce : ∀ s, t.close.clientUses.count (s, .close .close) ≤
    t.clientUses.count (s, .close .close) + 1
  closedAll : t.closed = true → ∀ s < t.channels.length,
    Closed t s ∨ (∃ b, Connected t b s) ∨ ∃ b, Reading t b s

/-- What holds of any step. -/
structure StepSafe (validators : List GrpcValidatorEndpoint) (t t' : NodeTransport) : Prop where
  /-- A channel is installed by the current build, where there is none, or in the place of
  one that failed to connect and is closed. -/
  installs : ∀ {index s}, t'.serviceOf index = some s → t.serviceOf index ≠ some s →
    t.closed = false ∧
      ((t.serviceOf index = none ∧ ∃ b build, t.builds[b]? = some build ∧
          build.state = .connected s ∧ build.validatorIndex = index ∧
          t.pinnedBuilds index = some b) ∨
        ∃ old channel, t.serviceOf index = some old ∧ Closed t' old ∧
          serviceAt validators index = some channel ∧ s = t.newService)
  /-- After `close()` a call starts for a committee read only. -/
  starts : t.closed = true → ∀ {s}, StartsCall t t' s → ∃ b, Reading t b s

section Lifecycle

variable (validators : List GrpcValidatorEndpoint) (setupWindowMs : ℤ)
  (startsCall : List ClientUse → Bool)

/-- A run in which every queued callback is run in the end. -/
structure FairRun (run : ℕ → NodeTransport) : Prop where
  first : Reaches validators setupWindowMs startsCall (run 0)
  steps : ∀ n, run (n + 1) = run n ∨
    Step validators setupWindowMs startsCall (run n) (run (n + 1))
  callbacks : ∀ {n b s}, Connected (run n) b s → ∃ m, n ≤ m ∧ ¬Connected (run m) b s

/-- What holds in the end of a channel that is not a committee read's own. -/
structure EndsSafe (run : ℕ → NodeTransport) : Prop where
  settles : ∀ {n s channel}, (run n).channels[s]? = some channel →
    (∀ b, channel.use ≠ .committeeRead b) →
      ∃ m, ∀ k, m ≤ k → Installed (run k) s ∨ Closed (run k) s
  closes : ∀ {i}, (run i).closed = true → ∀ {n s channel}, (run n).channels[s]? = some channel →
    (∀ b, channel.use ≠ .committeeRead b) → ∃ m, ∀ k, m ≤ k → Closed (run k) s

/-- Every committee read comes to its end, and none goes on once the transport is
closed. -/
structure ReadsOver (run : ℕ → NodeTransport) : Prop where
  ends : ∀ {n b s}, Reading (run n) b s → ∃ m, n ≤ m ∧ ¬Reading (run m) b s
  closed : ∀ {n}, (run n).closed = true → ∀ b s, ¬Reading (run n) b s

/-- What holds of every channel, a committee read's own too, in a run. -/
structure AllSafe (run : ℕ → NodeTransport) : Prop where
  settles : ∀ {n s}, s < (run n).channels.length →
    ∃ m, ∀ k, m ≤ k → Installed (run k) s ∨ Closed (run k) s
  closes : ∀ {i}, (run i).closed = true → ∀ {n s}, s < (run n).channels.length →
    ∃ m, ∀ k, m ≤ k → Closed (run k) s
  /-- After `close()` a channel is open only until the callback of its build runs. -/
  closedAll : ∀ {n}, (run n).closed = true → ∀ s < (run n).channels.length,
    Closed (run n) s ∨ ∃ b, Connected (run n) b s
  starts : ∀ {n}, (run n).closed = true → ∀ s, ¬StartsCall (run n) (run (n + 1)) s

variable {validators setupWindowMs startsCall} {t t' : NodeTransport} {s : Service}

theorem holds_setup_iff {b : ℕ} : t.holds (.setup b) = some s ↔ Connected t b s := by
  constructor
  · intro hheld
    obtain ⟨build, hb, hconnected⟩ := Option.bind_eq_some_iff.mp hheld
    refine ⟨build, hb, ?_⟩
    cases hstate : build.state with
    | connected service =>
      rw [hstate] at hconnected
      exact congrArg BuildState.connected (Option.some.inj hconnected)
    | _ =>
      rw [hstate] at hconnected
      cases hconnected
  · rintro ⟨build, hb, hstate⟩
    rw [holds_setup hb, hstate]
    rfl

theorem holds_committeeRead_iff {b : ℕ} :
    t.holds (.committeeRead b) = some s ↔ Reading t b s := by
  constructor
  · intro hheld
    obtain ⟨build, hb, hreading⟩ := Option.bind_eq_some_iff.mp hheld
    refine ⟨build, hb, ?_⟩
    cases hstate : build.state with
    | reading service =>
      rw [hstate] at hreading
      exact congrArg BuildState.reading (Option.some.inj hreading)
    | _ =>
      rw [hstate] at hreading
      cases hreading
  · rintro ⟨build, hb, hstate⟩
    rw [holds_committeeRead hb, hstate]
    rfl

theorem ChannelInv.accounted (hinv : ChannelInv validators t) (hs : s < t.channels.length) :
    GivenOut t s ∨ (∃ b, Connected t b s) ∨ ∃ b, Reading t b s := by
  rcases hinv.balanced.kept hs with hreleased | ⟨k, hheld⟩
  · exact .inl (.inr hreleased)
  · cases k with
    | slot index => exact .inl (.inl ⟨index, hheld⟩)
    | setup b => exact .inr (.inl ⟨b, holds_setup_iff.mp hheld⟩)
    | committeeRead b => exact .inr (.inr ⟨b, holds_committeeRead_iff.mp hheld⟩)

theorem GivenOut.installed_or_closed (h : GivenOut t s) : Installed t s ∨ Closed t s := by
  rcases h with hinstalled | hdropped
  · exact .inl hinstalled
  · exact .inr (closed_of_dropped hdropped)

theorem ChannelInv.connected_use (hinv : ChannelInv validators t) {b : ℕ} {channel : Channel}
    (h : Connected t b s) (hchannel : t.channels[s]? = some channel) :
    channel.use = .setup b := by
  obtain ⟨other, hother, huse, -⟩ := hinv.fits (holds_setup_iff.mpr h)
  rwa [← Option.some.inj (hother.symm.trans hchannel)]

theorem ChannelInv.reading_use (hinv : ChannelInv validators t) {b : ℕ} {channel : Channel}
    (h : Reading t b s) (hchannel : t.channels[s]? = some channel) :
    channel.use = .committeeRead b := by
  obtain ⟨other, hother, huse⟩ := hinv.fits (holds_committeeRead_iff.mpr h)
  rwa [← Option.some.inj (hother.symm.trans hchannel)]

theorem channelsSafe (hinv : TransportInv validators t) : ChannelsSafe t where
  oneInstalled := by
    rintro s s' channel channel' ⟨index, hindex⟩ ⟨index', hindex'⟩ hchannel hchannel' hsame
    obtain ⟨other, hother, hslot, -⟩ := hinv.channels.fits (k := .slot index) hindex
    obtain ⟨other', hother', hslot', -⟩ := hinv.channels.fits (k := .slot index') hindex'
    obtain rfl := Option.some.inj (hother.symm.trans hchannel)
    obtain rfl := Option.some.inj (hother'.symm.trans hchannel')
    have hindices : index = index' := hslot.symm.trans (hsame.trans hslot')
    exact Option.some.inj (hindex.symm.trans (hindices ▸ hindex'))
  accounted s hs := by
    rcases hinv.channels.accounted hs with hgiven | hbuild
    · rcases hgiven.installed_or_closed with hinstalled | hclosed
      · exact .inl hinstalled
      · exact .inr (.inl hclosed)
    · exact .inr (.inr hbuild)
  committeeRead := by
    intro s channel b hchannel huse
    have hnot : ¬Installed t s := by
      rintro ⟨index, hindex⟩
      obtain ⟨other, hother, -, hother'⟩ := hinv.channels.fits (k := .slot index) hindex
      obtain rfl := Option.some.inj (hother.symm.trans hchannel)
      exact hother' b huse
    refine ⟨hnot, ?_⟩
    rcases hinv.channels.accounted (List.getElem?_eq_some_iff.mp hchannel).1 with
      hgiven | ⟨b', hconnected⟩ | ⟨b', hreading⟩
    · exact .inl (hgiven.installed_or_closed.resolve_left hnot)
    · have huse' := hinv.channels.connected_use hconnected hchannel
      rw [huse] at huse'
      cases huse'
    · have huse' := hinv.channels.reading_use hreading hchannel
      rw [huse] at huse'
      obtain rfl := ChannelUse.committeeRead.inj huse'
      exact .inr hreading
  closesOnce s := by
    have hnodup : (t.services.map fun service => (service, ClientUse.close .close)).Nodup :=
      (services_nodup hinv.channels).map fun a b heq => (Prod.mk.inj heq).1
    show List.count _ (t.clientUses ++ _) ≤ _
    rw [List.count_append]
    exact Nat.add_le_add_left (List.nodup_iff_count_le_one.mp hnodup _) _
  closedAll hclosed s hs := by
    rcases hinv.channels.accounted hs with hgiven | hbuild
    · exact .inl (hinv.closed hclosed hgiven)
    · exact .inr hbuild

theorem stepSafe (hshutDown : ∀ uses, uses.any ClientUse.isClose = true → startsCall uses = false)
    (hinv : TransportInv validators t) (h : Step validators setupWindowMs startsCall t t') :
    StepSafe validators t t' where
  installs := by
    intro index s hafter hbefore
    have hafter' : t'.books.holds (.slot index) = some s := hafter
    cases change_of_step hinv.channels h with
    | alike halike =>
      rw [halike.books] at hafter'
      exact absurd hafter' hbefore
    | built hfree hk hfits hrange hchannels hbooks =>
      rw [hbooks, Books.make_holds_of_ne (hk index).symm] at hafter'
      exact absurd hafter' hbefore
    | @installed b build service hb hstate hopen hcurrent hempty hchannels hbooks =>
      rw [hbooks] at hafter'
      rcases Books.holds_pass hempty hafter' with ⟨hslot, hsetup⟩ | ⟨-, -, hheld⟩
      · obtain rfl := Holder.slot.inj hslot
        have hs : some service = some s := by
          rw [← hsetup]
          exact ((holds_setup hb).trans (by rw [hstate]; rfl)).symm
        obtain rfl := Option.some.inj hs
        exact ⟨hopen, .inl ⟨hempty, b, build, hb, hstate, rfl, hcurrent⟩⟩
      · exact absurd hheld hbefore
    | dropped hk hchannels hbooks =>
      rw [hbooks] at hafter'
      exact absurd (Books.holds_release hafter').2 hbefore
    | removed hservice hopen hat hchannels hbooks =>
      rw [hbooks] at hafter'
      exact absurd (Books.holds_release hafter').2 hbefore
    | @renewed i old channel hservice hopen hat hchannels hbooks =>
      have hreleased : old ∈ t'.dropped := by
        show old ∈ t'.books.released
        rw [hbooks]
        exact Books.mem_release (show t.books.holds (.slot i) = some old from hservice)
      rw [hbooks] at hafter'
      rcases Books.holds_make hafter' with ⟨hslot, rfl⟩ | hheld
      · obtain rfl := Holder.slot.inj hslot
        exact ⟨hopen, .inr ⟨old, channel, hservice, closed_of_dropped hreleased, hat, rfl⟩⟩
      · exact absurd (Books.holds_release hheld).2 hbefore
  starts := by
    intro hclosed s hstarts
    rcases starts_of_step h hstarts with ⟨b, build, hb, hstate⟩ | ⟨hstarted, hmentions⟩
    · exact ⟨b, build, hb, hstate⟩
    · -- Every channel that a call may have is closed by now, and grpc-js refuses it.
      obtain ⟨closer, hmem⟩ := hinv.closed hclosed (hinv.givenOut hmentions)
      have huse : ClientUse.close closer ∈ t.usesOf s :=
        List.mem_map.mpr ⟨(s, .close closer), by simpa using hmem, rfl⟩
      have hrefused := hshutDown (t.usesOf s) (List.any_eq_true.mpr ⟨_, huse, rfl⟩)
      rw [hstarted] at hrefused
      cases hrefused

section Runs

variable {run : ℕ → NodeTransport}

theorem FairRun.reaches (hrun : FairRun validators setupWindowMs startsCall run) (n : ℕ) :
    Reaches validators setupWindowMs startsCall (run n) := by
  induction n with
  | zero => exact hrun.first
  | succ n ih =>
    rcases hrun.steps n with hsame | hstep
    · rw [hsame]
      exact ih
    · exact ih.step hstep

theorem FairRun.inv (hrun : FairRun validators setupWindowMs startsCall run) (n : ℕ) :
    TransportInv validators (run n) := transportInv_of_reaches (hrun.reaches n)

/-- What every step keeps, a run keeps. -/
theorem FairRun.keeps (hrun : FairRun validators setupWindowMs startsCall run)
    {φ : NodeTransport → Prop} (hstep : ∀ {t t'}, TransportInv validators t →
      Step validators setupWindowMs startsCall t t' → φ t → φ t')
    {n m : ℕ} (hnm : n ≤ m) (h : φ (run n)) : φ (run m) := by
  induction m, hnm using Nat.le_induction with
  | base => exact h
  | succ m _ ih =>
    rcases hrun.steps m with hsame | hnext
    · rw [hsame]
      exact ih
    · exact hstep (hrun.inv m) hnext ih

theorem FairRun.givenOut (hrun : FairRun validators setupWindowMs startsCall run) {n m : ℕ}
    (hnm : n ≤ m) (h : GivenOut (run n) s) : GivenOut (run m) s := by
  have hstep : ∀ {t t'}, TransportInv validators t →
      Step validators setupWindowMs startsCall t t' → GivenOut t s → GivenOut t' s :=
    fun hinv hnext hgiven => hgiven.change (change_of_step hinv.channels hnext)
  exact hrun.keeps hstep hnm h

/-- A channel's own record does not change. -/
theorem FairRun.channel (hrun : FairRun validators setupWindowMs startsCall run) {n m : ℕ}
    (hnm : n ≤ m) {channel : Channel} (h : (run n).channels[s]? = some channel) :
    (run m).channels[s]? = some channel := by
  have hstep : ∀ {t t'}, TransportInv validators t →
      Step validators setupWindowMs startsCall t t' → t.channels[s]? = some channel →
        t'.channels[s]? = some channel :=
    fun _ hnext hchannel => (Kept.step hnext).channel hchannel
  exact hrun.keeps hstep hnm h

theorem FairRun.closed (hrun : FairRun validators setupWindowMs startsCall run) {n m : ℕ}
    (hnm : n ≤ m) (h : (run n).closed = true) : (run m).closed = true := by
  have hstep : ∀ {t t'}, TransportInv validators t →
      Step validators setupWindowMs startsCall t t' → t.closed = true → t'.closed = true := by
    intro t t' _ hnext hclosed
    rcases closed_of_step hnext with hsame | rfl
    · rw [hsame, hclosed]
    · rfl
  exact hrun.keeps hstep hnm h

/-- Once the callback of its build has run, a channel has been given out. -/
theorem FairRun.ends (hrun : FairRun validators setupWindowMs startsCall run) {n : ℕ}
    {channel : Channel} (hchannel : (run n).channels[s]? = some channel)
    (huse : ∀ b, channel.use ≠ .committeeRead b) : ∃ m, GivenOut (run m) s := by
  have hmade := (List.getElem?_eq_some_iff.mp hchannel).1
  rcases (hrun.inv n).channels.accounted hmade with hgiven | ⟨b, hconnected⟩ | ⟨b, hreading⟩
  · exact ⟨n, hgiven⟩
  · obtain ⟨m, hnm, hdone⟩ := hrun.callbacks hconnected
    have hchannel' := hrun.channel hnm hchannel
    have hsetup := (hrun.inv n).channels.connected_use hconnected hchannel
    have hmade' := (List.getElem?_eq_some_iff.mp hchannel').1
    rcases (hrun.inv m).channels.accounted hmade' with hgiven | ⟨b', hconnected'⟩ | ⟨b', hreading⟩
    · exact ⟨m, hgiven⟩
    · have hsetup' := (hrun.inv m).channels.connected_use hconnected' hchannel'
      rw [hsetup] at hsetup'
      obtain rfl := ChannelUse.setup.inj hsetup'
      exact absurd hconnected' hdone
    · exact absurd ((hrun.inv m).channels.reading_use hreading hchannel') (huse b')
  · exact absurd ((hrun.inv n).channels.reading_use hreading hchannel) (huse b)

theorem endsSafe (hrun : FairRun validators setupWindowMs startsCall run) : EndsSafe run where
  settles := by
    intro n s channel hchannel huse
    obtain ⟨m, hgiven⟩ := hrun.ends hchannel huse
    exact ⟨m, fun k hk => (hrun.givenOut hk hgiven).installed_or_closed⟩
  closes := by
    intro i hclosed n s channel hchannel huse
    obtain ⟨m, hgiven⟩ := hrun.ends hchannel huse
    refine ⟨max i m, fun k hk => ?_⟩
    have hgiven' := hrun.givenOut ((le_max_right i m).trans hk) hgiven
    exact (hrun.inv k).closed (hrun.closed ((le_max_left i m).trans hk) hclosed) hgiven'

/-- The channel of a committee read is closed when the read has ended. -/
theorem FairRun.read_ends (hrun : FairRun validators setupWindowMs startsCall run)
    (hends : ∀ {n b s}, Reading (run n) b s → ∃ m, n ≤ m ∧ ¬Reading (run m) b s) {n b : ℕ}
    {channel : Channel} (hchannel : (run n).channels[s]? = some channel)
    (huse : channel.use = .committeeRead b) : ∃ m, ∀ k, m ≤ k → Closed (run k) s := by
  have hclosed : ∃ m, Closed (run m) s := by
    rcases ((channelsSafe (hrun.inv n)).committeeRead hchannel huse).2 with hclosed | hreading
    · exact ⟨n, hclosed⟩
    · obtain ⟨m, hnm, hover⟩ := hends hreading
      have hat := ((channelsSafe (hrun.inv m)).committeeRead (hrun.channel hnm hchannel) huse).2
      exact ⟨m, hat.resolve_right hover⟩
  obtain ⟨m, hclosed⟩ := hclosed
  have hstep : ∀ {t t'}, TransportInv validators t →
      Step validators setupWindowMs startsCall t t' → Closed t s → Closed t' s :=
    fun _ hnext hat => hat.kept (Kept.step hnext)
  exact ⟨m, fun k hk => hrun.keeps hstep hk hclosed⟩

theorem allSafe (hshutDown : ∀ uses, uses.any ClientUse.isClose = true → startsCall uses = false)
    (hrun : FairRun validators setupWindowMs startsCall run) (hreads : ReadsOver run) :
    AllSafe run where
  settles := by
    intro n s hmade
    have hchannel := List.getElem?_eq_getElem hmade
    by_cases huse : ∃ b, (run n).channels[s].use = .committeeRead b
    · obtain ⟨b, huse⟩ := huse
      obtain ⟨m, hclosed⟩ := hrun.read_ends hreads.ends hchannel huse
      exact ⟨m, fun k hk => .inr (hclosed k hk)⟩
    · exact (endsSafe hrun).settles hchannel (not_exists.mp huse)
  closes := by
    intro i hclosed n s hmade
    have hchannel := List.getElem?_eq_getElem hmade
    by_cases huse : ∃ b, (run n).channels[s].use = .committeeRead b
    · obtain ⟨b, huse⟩ := huse
      exact hrun.read_ends hreads.ends hchannel huse
    · exact (endsSafe hrun).closes hclosed hchannel (not_exists.mp huse)
  closedAll := by
    intro n hclosed s hmade
    rcases (channelsSafe (hrun.inv n)).closedAll hclosed s hmade with
      hdone | hconnected | ⟨b, hread⟩
    · exact .inl hdone
    · exact .inr hconnected
    · exact absurd hread (hreads.closed hclosed b s)
  starts := by
    intro n hclosed s hstarts
    rcases hrun.steps n with hsame | hnext
    · obtain ⟨method, deadline, huses⟩ := hstarts
      rw [hsame] at huses
      simp at huses
    · obtain ⟨b, hread⟩ := (stepSafe hshutDown (hrun.inv n) hnext).starts hclosed hstarts
      exact hreads.closed hclosed b s hread

end Runs

end Lifecycle

/-- The life of the channels, when grpc-js starts no call on a closed channel. That no
channel stays open and no call starts after `close()` is so where no committee read
goes on then. -/
theorem channel_lifecycle (validators : List GrpcValidatorEndpoint) (setupWindowMs : ℤ)
    (startsCall : List ClientUse → Bool)
    (hshutDown : ∀ uses, uses.any ClientUse.isClose = true → startsCall uses = false) :
    (∀ t, Reaches validators setupWindowMs startsCall t → ChannelsSafe t ∧
      ∀ t', Step validators setupWindowMs startsCall t t' → StepSafe validators t t') ∧
    ∀ run, FairRun validators setupWindowMs startsCall run →
      EndsSafe run ∧ (ReadsOver run → AllSafe run) := by
  refine ⟨fun t hreach => ?_, fun run hrun => ⟨endsSafe hrun, allSafe hshutDown hrun⟩⟩
  have hinv := transportInv_of_reaches hreach
  exact ⟨channelsSafe hinv, fun t' hstep => stepSafe hshutDown hinv hstep⟩

/-! ## A sample -/

/-- A validator whose connection is pinned to the committee. -/
def sampleValidators : List GrpcValidatorEndpoint := [⟨"sample", none, false, none⟩]

def startsUnlessClosed (uses : List ClientUse) : Bool := !uses.any ClientUse.isClose

/-- A call that waits for the validator's channel. -/
def sampleWaiting : NodeTransport :=
  ((empty sampleValidators 0).renewService sampleValidators 0).unary sampleValidators
    pinnedSetupWindowMs 0 "GetDWallet" [] 15000

theorem sampleWaiting_reaches :
    Reaches sampleValidators pinnedSetupWindowMs startsUnlessClosed sampleWaiting := by
  have hcreated : create sampleValidators true 0 =
      .ok ((empty sampleValidators 0).renewService sampleValidators 0) := rfl
  exact (Reaches.created hcreated).step (.calls 0 "GetDWallet" [] 15000)

/-- The transport whose setup has ended, after `close()`. -/
def sampleClosed : NodeTransport :=
  ((sampleWaiting.connectSetup 0 0 "sample" [1] [2]).thenBuilt sampleValidators
    pinnedSetupWindowMs 0 0 0).close

theorem channel_lifecycle_sample : Closed sampleClosed 0 := by
  have hsafe := channel_lifecycle sampleValidators pinnedSetupWindowMs startsUnlessClosed
    fun uses hclosed => by rw [startsUnlessClosed, hclosed]; rfl
  have hvalidator : sampleValidators[0]? = some ⟨"sample", none, false, none⟩ := rfl
  have hbuild : sampleWaiting.builds[0]? = some ⟨0, 120000, .connecting⟩ := rfl
  have hconnects : Step sampleValidators pinnedSetupWindowMs startsUnlessClosed sampleWaiting
      (sampleWaiting.connectSetup 0 0 "sample" [1] [2]) := by
    refine Step.connects hbuild (.inl rfl) hvalidator fun key hkey => ?_
    cases hkey
  have hbuilt : (sampleWaiting.connectSetup 0 0 "sample" [1] [2]).builds[0]? =
      some ⟨0, 120000, .connected 0⟩ := rfl
  have hthen := (sampleWaiting_reaches.step hconnects).step (.thenRuns hbuilt rfl)
  have hreach : Reaches sampleValidators pinnedSetupWindowMs startsUnlessClosed sampleClosed :=
    hthen.step .closes
  have hbuilds : sampleClosed.builds = [⟨0, 120000, .settling (.ok 0)⟩] := by decide +kernel
  have hsettling : ∀ {b : ℕ} {build : Build}, sampleClosed.builds[b]? = some build →
      build.state = .settling (.ok 0) := by
    intro b build hb
    rw [hbuilds] at hb
    rw [List.mem_singleton.mp (List.mem_of_getElem? hb)]
  rcases (hsafe.1 _ hreach).1.closedAll rfl 0 (by decide +kernel) with
    hclosed | ⟨b, build, hb, hstate⟩ | ⟨b, build, hb, hstate⟩
  · exact hclosed
  · rw [hsettling hb] at hstate
    cases hstate
  · rw [hsettling hb] at hstate
    cases hstate

/-- A setup that goes on after `close()` still reads the committee: it builds a channel
for that, and starts a call on it. -/
theorem committee_read_after_close : ∃ t t', Reaches sampleValidators pinnedSetupWindowMs
      startsUnlessClosed t ∧ t.closed = true ∧
    Step sampleValidators pinnedSetupWindowMs startsUnlessClosed t t' ∧ StartsCall t t' 0 ∧
      ¬Closed t' 0 := by
  have hvalidator : sampleValidators[0]? = some ⟨"sample", none, false, none⟩ := rfl
  have hopens : Step sampleValidators pinnedSetupWindowMs startsUnlessClosed sampleWaiting.close
      (sampleWaiting.close.openCommitteeRead 0 0 "sample" [1] [2]) := by
    have hbuild : sampleWaiting.close.builds[0]? = some ⟨0, 120000, .connecting⟩ := rfl
    exact Step.opensRead [1] [2] hbuild rfl hvalidator rfl
  have hreading : (sampleWaiting.close.openCommitteeRead 0 0 "sample" [1] [2]).builds[0]? =
      some ⟨0, 120000, .reading 0⟩ := rfl
  refine ⟨_, _, (sampleWaiting_reaches.step .closes).step hopens, rfl,
    .asksCommittee 15000 hreading rfl, ⟨"GetCommittee", 15000, rfl⟩, ?_⟩
  rintro ⟨closer, hmem⟩
  have hcalled := List.mem_singleton.mp hmem
  cases hcalled

end NodeTransport

end Ika
