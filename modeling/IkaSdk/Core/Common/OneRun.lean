import IkaSdk.Core.Common.SessionRecords
import IkaSdk.Core.Common.Submission

/-! A submission next to the network it submits to. The network runs a session
at most once, only in the epoch that its request names, and leaves a record that
the chain's reads show once the session is settled. Whatever the order of the
submission's events and the network's steps, at most one session runs. -/

namespace Ika

open Wire Interaction Eff

variable {T H : Type}

/-! ## The network -/

/-- Where the network and the connection stand. `epoch` is the epoch whose
sessions the network still runs, `shown` the one the chain shows, and `seen` the
connection's. -/
structure World where
  epoch : ℕ
  shown : ℕ
  seen : ℕ
  records : ChainRecords
  received : List SignedRequest
  ran : List (ℕ × Bytes)

/-- What is fixed about the sessions: what each one's request asks for, the
record that it leaves, and which dWallet the functions of a record read. -/
structure NetworkModel (H : Type) where
  kindOf : Bytes → PendingRequestKind
  leaves : Bytes → OutcomeRecord
  lookupOf : H → DWalletLookup

section Model

variable (P : Primitives) (network : Network) (requester : Requester) (N : NetworkModel H)

/-- A session that ran, as its lookup is asked for. -/
def ranRequest (r : ℕ × Bytes) : PendingRequest :=
  pendingRequest network requester (⟨r.1, r.2, ()⟩ : Sent Unit) (N.kindOf r.2)

/-- A session that ran has left its record once the chain shows the epoch at
which it is settled. Nothing is said of the kinds that create a dWallet. -/
def World.Visible (w : World) : Prop :=
  ∀ r ∈ w.ran, (N.kindOf r.2).createsDWallet = false →
    settledAtEpoch (ranRequest network requester N r) ≤ w.shown →
      N.leaves r.2 ∈ outcomeRecords P (ranRequest network requester N r) ∧
        (N.leaves r.2).On w.records requester.keypair.publicKey

/-- One step of the network, the chain and the connection's other calls: epochs
only grow, and a received request may run, in its own epoch and once. -/
structure World.Step (w w' : World) : Prop where
  epoch : w.epoch ≤ w'.epoch
  shown : w.shown ≤ w'.shown
  shown_le : w'.shown ≤ w'.epoch
  seen : w.seen ≤ w'.seen
  seen_le : w'.seen ≤ max w.seen w'.shown
  received : w'.received = w.received
  ran : w'.ran = w.ran ∨ ∃ c ∈ w.received, ∃ session, c.epoch = some w.epoch ∧
    c.session P = some session ∧ session ∉ w.ran.map (·.2) ∧
    w'.ran = w.ran ++ [(w.epoch, session)]
  visible : w'.Visible P network requester N

/-- What an event of the submission changes. A copy is received from when it is
sent: nothing is asked of its answer, so the network may run it before. -/
def World.after (w : World) : EngineEvent T H → World
  | ⟨.keepEpoch read, _⟩ => { w with seen := max w.seen read }
  | ⟨.submitTransaction signed _, _⟩ => { w with received := w.received ++ [signed] }
  | _ => w

/-- What the answers of an event may be: a read of the chain's epoch may lag, a
lookup reads the records as they are, and the description of a request says
what its session asks for. -/
def World.Answers (w : World) : EngineEvent T H → Prop
  | ⟨.chainEpoch, answer⟩ => ∀ n, answer = .ok n → n ≤ w.shown
  | ⟨.keepEpoch read, n⟩ => n = max w.seen read
  | ⟨.epoch, n⟩ => n = w.seen
  | ⟨.describe session _, answer⟩ => ∀ kind, answer = .ok kind → kind = N.kindOf session
  | ⟨.record op, answer⟩ => TellsTruth P N.lookupOf w.records ⟨op, answer⟩
  | _ => True

/-- The submission's events, in order, with steps of the network anywhere
between them. -/
inductive Along : World → List (EngineEvent T H) → World → Prop
  | done {w : World} : Along w [] w
  | step {w w' w'' : World} {tr : List (EngineEvent T H)} :
      w.Step P network requester N w' → Along w' tr w'' → Along w tr w''
  | event {w w' : World} {e : EngineEvent T H} {tr : List (EngineEvent T H)} :
      w.Answers P N e → Along (w.after e) tr w' → Along w (e :: tr) w'

/-- Before the submission: nothing of it was received, and nothing of it ran. -/
structure World.Fresh (w : World) : Prop where
  shown_le : w.shown ≤ w.epoch
  seen_le : w.seen ≤ w.shown
  received : w.received = []
  ran : w.ran = []

end Model

section Runs

variable {P : Primitives} {network : Network} {requester : Requester} {N : NetworkModel H}
  {w w' : World} {tr : List (EngineEvent T H)}

@[simp] theorem World.after_epoch (e : EngineEvent T H) : (w.after e).epoch = w.epoch := by
  unfold World.after
  split <;> rfl

@[simp] theorem World.after_shown (e : EngineEvent T H) : (w.after e).shown = w.shown := by
  unfold World.after
  split <;> rfl

@[simp] theorem World.after_records (e : EngineEvent T H) :
    (w.after e).records = w.records := by
  unfold World.after
  split <;> rfl

@[simp] theorem World.after_ran (e : EngineEvent T H) : (w.after e).ran = w.ran := by
  unfold World.after
  split <;> rfl

/-- A received request of the network's epoch may run, if its session did not. -/
theorem step_runs {c : SignedRequest} {session : Bytes}
    (hvisible : w.Visible P network requester N) (hshown : w.shown ≤ w.epoch)
    (hc : c ∈ w.received) (hepoch : c.epoch = some w.epoch) (hsession : c.session P = some session)
    (hnew : session ∉ w.ran.map (·.2)) :
    w.Step P network requester N { w with ran := w.ran ++ [(w.epoch, session)] } where
  epoch := le_rfl
  shown := le_rfl
  shown_le := hshown
  seen := le_rfl
  seen_le := le_max_left _ _
  received := rfl
  ran := .inr ⟨c, hc, session, hepoch, hsession, hnew, rfl⟩
  visible r hr hcreates hsettled := by
    rcases List.mem_append.mp hr with hearlier | hlast
    · exact hvisible r hearlier hcreates hsettled
    · -- its own epoch is not settled yet
      obtain rfl := List.mem_singleton.mp hlast
      have hlate : w.epoch < settledAtEpoch (ranRequest network requester N (w.epoch, session)) :=
        epoch_lt_settledAtEpoch (ranRequest network requester N (w.epoch, session))
      exact absurd (hlate.trans_le hsettled) (not_lt.mpr hshown)

/-! ## What holds along a run -/

theorem along_append {tr' : List (EngineEvent T H)}
    (h : Along P network requester N w (tr ++ tr') w') :
    ∃ between, Along P network requester N w tr between ∧
      Along P network requester N between tr' w' := by
  generalize hall : tr ++ tr' = all at h
  induction h generalizing tr with
  | done =>
    obtain ⟨rfl, rfl⟩ := List.append_eq_nil_iff.mp hall
    exact ⟨_, .done, .done⟩
  | step hstep _ ih =>
    obtain ⟨between, hfirst, hrest⟩ := ih hall
    exact ⟨between, .step hstep hfirst, hrest⟩
  | @event w w' e all hanswers hrun ih =>
    cases tr with
    | nil =>
      obtain rfl : tr' = e :: all := hall
      exact ⟨w, .done, .event hanswers hrun⟩
    | cons e' tr =>
      obtain ⟨rfl, htail⟩ := List.cons.inj hall
      obtain ⟨between, hfirst, hrest⟩ := ih htail
      exact ⟨between, .event hanswers hfirst, hrest⟩

theorem along_trans {between : World} {tr' : List (EngineEvent T H)}
    (h : Along P network requester N w tr between)
    (h' : Along P network requester N between tr' w') :
    Along P network requester N w (tr ++ tr') w' := by
  induction h with
  | done => exact h'
  | step hstep _ ih => exact .step hstep (ih h')
  | event hanswers _ ih => exact .event hanswers (ih h')

theorem along_cons {e : EngineEvent T H} (h : Along P network requester N w (e :: tr) w') :
    ∃ before, Along P network requester N w ([] : List (EngineEvent T H)) before ∧
      before.Answers P N e ∧ Along P network requester N (before.after e) tr w' := by
  generalize hall : e :: tr = all at h
  induction h with
  | done => cases hall
  | step hstep _ ih =>
    obtain ⟨before, hfirst, hanswers, hrest⟩ := ih hall
    exact ⟨before, .step hstep hfirst, hanswers, hrest⟩
  | event hanswers hrun _ =>
    cases hall
    exact ⟨_, .done, hanswers, hrun⟩

/-- Every event of a run is answered in some state on the way. -/
theorem along_mem {e : EngineEvent T H} (h : Along P network requester N w tr w')
    (he : e ∈ tr) : ∃ before, ∃ tr₁ tr₂ : List (EngineEvent T H),
      Along P network requester N w tr₁ before ∧ before.Answers P N e ∧
        Along P network requester N (before.after e) tr₂ w' := by
  obtain ⟨tr₁, tr₂, rfl⟩ := List.append_of_mem he
  obtain ⟨between, hfirst, hrest⟩ := along_append h
  obtain ⟨before, hsteps, hanswers, hlast⟩ := along_cons hrest
  exact ⟨before, tr₁ ++ [], tr₂, along_trans hfirst hsteps, hanswers, hlast⟩

theorem along_shown_le (h : Along P network requester N w tr w') : w.shown ≤ w'.shown := by
  induction h with
  | done => exact le_refl _
  | step hstep _ ih => exact hstep.shown.trans ih
  | event _ _ ih => simpa using ih

theorem along_ran_mono (h : Along P network requester N w tr w') {r : ℕ × Bytes}
    (hr : r ∈ w.ran) : r ∈ w'.ran := by
  induction h with
  | done => exact hr
  | step hstep _ ih =>
    refine ih ?_
    rcases hstep.ran with heq | ⟨c, -, session, -, -, -, heq⟩ <;> simp [heq, hr]
  | event _ _ ih => exact ih (by simpa using hr)

/-- What runs later runs in a later epoch, or in the one that the network is in. -/
theorem along_ran_late (h : Along P network requester N w tr w') {r : ℕ × Bytes}
    (hr : r ∈ w'.ran) : r ∈ w.ran ∨ w.epoch ≤ r.1 := by
  induction h with
  | done => exact .inl hr
  | step hstep _ ih =>
    rcases ih hr with hran | hlate
    · rcases hstep.ran with heq | ⟨c, -, session, -, -, -, heq⟩
      · exact .inl (by rwa [heq] at hran)
      · rw [heq, List.mem_append, List.mem_singleton] at hran
        rcases hran with hearlier | rfl
        · exact .inl hearlier
        · exact .inr (le_refl _)
    · exact .inr (hstep.epoch.trans hlate)
  | event _ _ ih => simpa using ih hr

theorem along_visible (h : Along P network requester N w tr w')
    (hvisible : w.Visible P network requester N) : w'.Visible P network requester N := by
  induction h with
  | done => exact hvisible
  | step hstep _ ih => exact ih hstep.visible
  | event _ _ ih =>
    refine ih fun r hr => ?_
    simpa using hvisible r (by simpa using hr)

theorem along_shown_le_epoch (h : Along P network requester N w tr w')
    (hle : w.shown ≤ w.epoch) : w'.shown ≤ w'.epoch := by
  induction h with
  | done => exact hle
  | step hstep _ ih => exact ih hstep.shown_le
  | event _ _ ih => exact ih (by simpa using hle)

theorem along_sessions_nodup (h : Along P network requester N w tr w')
    (hnodup : (w.ran.map (·.2)).Nodup) : (w'.ran.map (·.2)).Nodup := by
  induction h with
  | done => exact hnodup
  | step hstep _ ih =>
    refine ih ?_
    rcases hstep.ran with heq | ⟨c, -, session, -, -, hnew, heq⟩
    · rwa [heq]
    · rw [heq, List.map_append, List.nodup_append]
      refine ⟨hnodup, by simp, fun earlier hearlier later hlater hsame => ?_⟩
      obtain rfl : later = session := by simpa using hlater
      rw [hsame] at hearlier
      exact hnew hearlier
  | event _ _ ih => exact ih (by simpa using hnodup)

/-- What ran is named by a copy that was received. -/
theorem along_ran_received (h : Along P network requester N w tr w') {r : ℕ × Bytes}
    (hr : r ∈ w'.ran) : r ∈ w.ran ∨ ∃ c, (c ∈ w.received ∨ c ∈ copies tr) ∧
      c.epoch = some r.1 ∧ c.session P = some r.2 := by
  induction h with
  | done => exact .inl hr
  | step hstep _ ih =>
    rcases ih hr with hran | ⟨c, hc, hnames⟩
    · rcases hstep.ran with heq | ⟨c, hc, session, hepoch, hsession, -, heq⟩
      · exact .inl (by rwa [heq] at hran)
      · rw [heq, List.mem_append, List.mem_singleton] at hran
        rcases hran with hearlier | rfl
        · exact .inl hearlier
        · exact .inr ⟨c, .inl hc, hepoch, hsession⟩
    · exact .inr ⟨c, by rwa [hstep.received] at hc, hnames⟩
  | @event w w' e tr _ _ ih =>
    rcases ih hr with hran | ⟨c, hc, hnames⟩
    · exact .inl (by simpa using hran)
    · refine .inr ⟨c, ?_, hnames⟩
      have hcopies : copies (e :: tr) = copies [e] ++ copies tr := copies_append [e] tr
      rw [hcopies, List.mem_append]
      rcases hc with hreceived | hlater
      · have hsplit : c ∈ w.received ∨ c ∈ copies [e] := by
          obtain ⟨op, ans⟩ := e
          cases op with
          | submitTransaction signed timeoutMs =>
            simpa [World.after, copies, EngineOp.copy] using hreceived
          | _ => exact .inl hreceived
        exact hsplit.imp id .inl
      · exact .inr (.inr hlater)

/-! ## The epoch of the connection -/

theorem along_epochField (h : Along P network requester N w tr w') : EpochField w.seen tr := by
  induction h with
  | done => exact .nil
  | step hstep _ ih => exact .raised hstep.seen ih
  | @event w w' e tr hanswers _ ih =>
    obtain ⟨op, ans⟩ := e
    cases op with
    | epoch =>
      obtain rfl : ans = w.seen := hanswers
      exact .epoch ih
    | keepEpoch read =>
      obtain rfl : ans = max w.seen read := hanswers
      exact .keepEpoch ih
    | _ => exact .other rfl ih

theorem along_reads_le (h : Along P network requester N w tr w') {read : ℕ}
    (hread : ⟨.chainEpoch, .ok read⟩ ∈ tr) : read ≤ w'.shown := by
  obtain ⟨before, tr₁, tr₂, -, hanswers, hrest⟩ := along_mem h hread
  have hle : read ≤ before.shown := hanswers read rfl
  have hshown := along_shown_le hrest
  rw [World.after_shown] at hshown
  exact hle.trans hshown

/-- The connection's epoch is one that the chain showed, as far as the reads
that the submission kept are. -/
theorem along_seen_le (h : Along P network requester N w tr w') {bound : ℕ}
    (hseen : w.seen ≤ bound) (hshown : w'.shown ≤ bound)
    (hkept : ∀ read n, ⟨.keepEpoch read, n⟩ ∈ tr → read ≤ bound) : w'.seen ≤ bound := by
  induction h with
  | done => exact hseen
  | step hstep hrest ih =>
    refine ih ?_ hshown hkept
    exact hstep.seen_le.trans (max_le hseen ((along_shown_le hrest).trans hshown))
  | @event w w' e tr _ _ ih =>
    refine ih ?_ hshown fun read n hmem => hkept read n (List.mem_cons_of_mem _ hmem)
    obtain ⟨op, ans⟩ := e
    cases op with
    | keepEpoch read => exact max_le hseen (hkept read ans List.mem_cons_self)
    | _ => exact hseen

/-! ## A session that was found not to have run -/

/-- What a submission read of the chain's epoch it kept. -/
theorem submit_keepsReads {fuel left : ℕ} (h : Begins (submit P network requester
    (buildRequest (T := T) (H := H)) describeRequest fuel left) tr) : KeepsReads tr := by
  refine always_submit steady_keepsReads (always_submitOnce steady_keepsReads ?_ ?_) tr h
  all_goals
    intros
    intro read n hmem
    cases List.mem_singleton.mp hmem

/-- A session that its lookup answered never ran, never runs: the chain showed
the epoch at which it is settled, so the network runs no session of its epoch any
more, and its record would have been read. -/
theorem foundNotRun_never_runs {before found rest : List (EngineEvent T H)} {opening : ℕ × Bytes}
    (hfresh : w.Fresh) (h : Along P network requester N w (before ++ found ++ rest) w')
    (hkeeps : KeepsReads before) (hfound : FoundNotRun P network requester opening before found) :
    opening ∉ w'.ran := by
  intro hran
  obtain ⟨built, kind, -, hdescribed, -, n, es, rfl, hsettled, hlookup⟩ := hfound
  obtain ⟨after, hfirst, hrest⟩ := along_append h
  obtain ⟨described, hbefore, hlooked⟩ := along_append hfirst
  obtain rfl : kind = N.kindOf opening.2 := by
    obtain ⟨_, _, _, -, hanswers, -⟩ := along_mem hbefore hdescribed
    exact hanswers kind rfl
  obtain ⟨start, hsteps, hanswers, hreads⟩ := along_cons hlooked
  obtain rfl : n = start.seen := hanswers
  have hstart : Along P network requester N w before start := by
    simpa using along_trans hbefore hsteps
  have hshown : settledAtEpoch (ranRequest network requester N opening) ≤ start.shown := by
    refine hsettled.trans (along_seen_le hstart ?_ le_rfl fun read n hmem => ?_)
    · exact hfresh.seen_le.trans (along_shown_le hstart)
    · exact along_reads_le hstart (hkeeps read n hmem)
  have hlate : opening.1 < start.epoch :=
    (epoch_lt_settledAtEpoch (ranRequest network requester N opening)).trans_le
      (hshown.trans (along_shown_le_epoch hstart hfresh.shown_le))
  have hstarted : opening ∈ start.ran := by
    refine (along_ran_late (along_trans hreads hrest) hran).resolve_right fun hle => ?_
    exact absurd hlate (not_lt.mpr hle)
  have hvisible : start.Visible P network requester N :=
    along_visible hstart fun r hr => by simp [hfresh.ran] at hr
  obtain ⟨hcreates, habsent⟩ := findSession_notRun hlookup
  have hrecord := hvisible opening hstarted hcreates hshown
  refine @OutcomeRecord.ReadAbsent.not_all_on P H N.lookupOf _ _ _ (habsent _ hrecord.1)
    fun e he => ?_
  obtain ⟨before', tr₁, _, hread, hanswers', -⟩ :=
    along_mem hreads (List.mem_map_of_mem (f := recordEvent) he)
  refine ⟨before'.records, hanswers', ?_⟩
  exact (along_visible hread hvisible opening (along_ran_mono hread hstarted) hcreates
    (hshown.trans (along_shown_le hread))).2

/-! ## One session -/

theorem mem_openings {opening : ℕ × Bytes} (h : opening ∈ openings tr) :
    ∃ answer, ⟨.build opening.1 opening.2, answer⟩ ∈ tr := by
  obtain ⟨⟨op, answer⟩, hmem, hopening⟩ := List.mem_filterMap.mp h
  cases op with
  | build epoch session =>
    obtain rfl := Option.some.inj hopening
    exact ⟨answer, hmem⟩
  | _ => cases hopening

/-- Of two sessions that are opened, one is opened first. -/
theorem openings_ordered {opening opening' : ℕ × Bytes} (h : opening ∈ openings tr)
    (h' : opening' ∈ openings tr) (hne : opening ≠ opening') :
    (∃ before after answer, tr = before ++ ⟨.build opening'.1 opening'.2, answer⟩ :: after ∧
      opening ∈ openings before) ∨
    ∃ before after answer, tr = before ++ ⟨.build opening.1 opening.2, answer⟩ :: after ∧
      opening' ∈ openings before := by
  obtain ⟨answer, hmem⟩ := mem_openings h
  obtain ⟨before, after, rfl⟩ := List.append_of_mem hmem
  rw [openings_append, List.mem_append,
    show openings (⟨.build opening.1 opening.2, answer⟩ :: after) = opening :: openings after
      from rfl, List.mem_cons] at h'
  rcases h' with hfirst | heq | hlast
  · exact .inr ⟨before, after, answer, rfl, hfirst⟩
  · exact absurd heq.symm hne
  · obtain ⟨answer', hmem'⟩ := mem_openings hlast
    obtain ⟨middle, last, rfl⟩ := List.append_of_mem hmem'
    refine .inl ⟨before ++ ⟨.build opening.1 opening.2, answer⟩ :: middle, last, answer', ?_, ?_⟩
    · simp
    · rw [openings_append]
      exact List.mem_append_right _ List.mem_cons_self

/-- Of two sessions of a submission at most one ever runs. -/
theorem submit_runs_one {fuel left : ℕ} (hfresh : w.Fresh)
    (hbegins : Begins (submit P network requester (buildRequest (T := T) (H := H))
      describeRequest fuel left) tr)
    (h : Along P network requester N w tr w') : w'.ran.length ≤ 1 := by
  have hrounds := submit_rounds hbegins
  have hopened : ∀ r ∈ w'.ran, r ∈ openings tr := by
    intro r hr
    rcases along_ran_received h hr with hearlier | ⟨c, hc, hepoch, hsession⟩
    · rw [hfresh.ran] at hearlier
      cases hearlier
    · have hcopy : c ∈ copies tr := hc.resolve_left fun hreceived => by
        rw [hfresh.received] at hreceived
        cases hreceived
      obtain ⟨opening, hmem, hepoch', hsession'⟩ := hrounds.copies_opened hcopy
      obtain rfl : r = opening := Prod.ext (Option.some.inj (hepoch.symm.trans hepoch'))
        (Option.some.inj (hsession.symm.trans hsession'))
      exact hmem
  have hfirst : ∀ {opening opening' : ℕ × Bytes} {before after : List (EngineEvent T H)} {answer},
      tr = before ++ ⟨.build opening'.1 opening'.2, answer⟩ :: after →
      opening ∈ openings before → opening ∉ w'.ran := by
    intro opening opening' before after answer hsplit hmem
    obtain ⟨tr₁, found, tr₂, rfl, hfound⟩ := hrounds.opened_after hsplit opening hmem
    rw [hsplit] at hbegins h
    rw [List.append_assoc] at h
    simp only [List.append_assoc] at hbegins
    exact foundNotRun_never_runs hfresh h (submit_keepsReads (begins_of_append hbegins)) hfound
  by_contra hmany
  obtain ⟨r, r', rest, hran⟩ : ∃ r r' rest, w'.ran = r :: r' :: rest := by
    match hlist : w'.ran with
    | [] => simp [hlist] at hmany
    | [_] => simp [hlist] at hmany
    | r :: r' :: rest => exact ⟨r, r', rest, rfl⟩
  have hr : r ∈ w'.ran := by simp [hran]
  have hr' : r' ∈ w'.ran := by simp [hran]
  have hne : r ≠ r' := by
    rintro rfl
    have hnodup := along_sessions_nodup h (by simp [hfresh.ran])
    simp [hran] at hnodup
  rcases openings_ordered (hopened r hr) (hopened r' hr') hne with
    ⟨before, after, answer, hsplit, hmem⟩ | ⟨before, after, answer, hsplit, hmem⟩
  · exact hfirst hsplit hmem hr
  · exact hfirst hsplit hmem hr'

/-- Copies sent under one session are one request: sessions whose bytes before
hashing differ have different identifiers. -/
theorem Rounds.copies_one {left epoch : ℕ} (h : Rounds P network requester left tr)
    (hfield : EpochField epoch tr) (hcollision : Set.InjOn P.keccak256
      {bytes | ∃ c ∈ copies tr, c.sessionPreimage = some bytes}) :
    ∀ c ∈ copies tr, ∀ c' ∈ copies tr, c.session P = c'.session P → c = c' := by
  intro c hc c' hc' hsame
  obtain ⟨data, hsigned⟩ := h.copies_made hc
  obtain ⟨data', hsigned'⟩ := h.copies_made hc'
  have hhash := hsame
  rw [hsigned.session_eq, hsigned'.session_eq] at hhash
  have hbytes := hcollision ⟨c, hc, hsigned.sessionPreimage_eq⟩
    ⟨c', hc', hsigned'.sessionPreimage_eq⟩ (Option.some.inj hhash)
  have hepoch : data.epoch = data'.epoch :=
    grpcSessionPreimage_epoch hsigned.epoch_lt hsigned'.epoch_lt hbytes
  refine h.copies_same hfield.pairwise c hc c' hc' ?_
  rw [hsigned.epoch_eq, hsigned'.epoch_eq, hepoch]

/-- However far a submission has come: all that was sent under one session is the
same, a further session was opened only once the lookup of every earlier one
answered that it never ran, the request was rebuilt so many times at most, and no
order of the network's steps lets two of its sessions run. -/
theorem submit_runs_at_most_once {epoch fuel : ℕ}
    (h : Begins (submit P network requester (buildRequest (T := T) (H := H)) describeRequest fuel
      rebuildsAfterEpochClose) tr)
    (hfield : EpochField epoch tr) (hcollision : Set.InjOn P.keccak256
      {bytes | ∃ c ∈ copies tr, c.sessionPreimage = some bytes}) :
    (∀ c ∈ copies tr, ∀ c' ∈ copies tr, c.session P = c'.session P → c = c') ∧
    (∀ c ∈ copies tr, ∃ opening ∈ openings tr,
      c.epoch = some opening.1 ∧ c.session P = some opening.2) ∧
    (∀ before after epoch session answer,
      tr = before ++ ⟨.build epoch session, answer⟩ :: after →
      ∀ opening ∈ openings before, ∃ tr₁ found tr₂, before = tr₁ ++ found ++ tr₂ ∧
        FoundNotRun P network requester opening tr₁ found) ∧
    (openings tr).length ≤ rebuildsAfterEpochClose + 1 ∧
    ∀ (N : NetworkModel H) (w w' : World), w.Fresh → Along P network requester N w tr w' →
      w'.ran.length ≤ 1 := by
  have hrounds := submit_rounds h
  refine ⟨hrounds.copies_one hfield hcollision, fun c hc => hrounds.copies_opened hc, ?_,
    hrounds.openings_length, fun N w w' hfresh halong => submit_runs_one hfresh h halong⟩
  intro before after epoch session answer hsplit
  exact hrounds.opened_after hsplit

end Runs

/-! ## A request that was built twice -/

def sampleRequester : Requester where
  keypair := ⟨List.replicate 32 14, List.replicate 32 15⟩
  signer := false
  chain := .solana
  intendedChainSender := List.replicate 32 16

def sampleNetwork : Network where
  curveNumber := 0
  networkKeyId := List.replicate 32 17
  requestNetworkValue := 0
  requestRecords := true
  shares := false

/-- A chain and a validator that refuse the first epoch's request as stale, and
answer the second's. -/
def sampleEngineAnswers (n : ℕ) : ∀ op : EngineOp Unit Unit, op.Ans
  | .chainEpoch => .ok (if n < 5 then 1 else 2)
  | .keepEpoch read => read
  | .epoch => 2
  | .now => 0
  | .sleep _ => ()
  | .freshPreimage => List.replicate 32 (UInt8.ofNat n)
  | .build _ _ => .ok ⟨.presign ⟨List.replicate 32 17, .secp256k1, .ecdsaSecp256k1⟩, ()⟩
  | .describe _ _ => .ok .presign
  | .waitingRequestHolder _ => none
  | .signRequest _ => .error (.error "")
  | .submitTransaction _ _ =>
    if n < 10 then .ok (.error "request epoch 1 does not match current epoch 2")
    else .ok (.signature [1])
  | .record (.hasGasCharge ..) => .ok false
  | .record _ => .error (.error "")

abbrev SampleRun := List (EngineEvent Unit Unit) ×
  Except (EngineError Unit) (TransactionResponseData × Sent Unit)

def sampleSubmission : Option SampleRun :=
  (submit samplePrimitives sampleNetwork sampleRequester buildRequest describeRequest 2
    rebuildsAfterEpochClose).run.transcript sampleEngineAnswers 0

/-- Two sessions, each with its copy, and no session with another's. -/
theorem submit_runs_at_most_once_sample : ∃ tr : List (EngineEvent Unit Unit),
    (openings tr).length = 2 ∧ (copies tr).length = 2 ∧
    (∀ c ∈ copies tr, ∀ c' ∈ copies tr,
      c.session samplePrimitives = c'.session samplePrimitives → c = c') ∧
    ∀ (N : NetworkModel Unit) (w w' : World), w.Fresh →
      Along samplePrimitives sampleNetwork sampleRequester N w tr w' → w'.ran.length ≤ 1 := by
  have hrun : sampleSubmission.any (fun r : SampleRun => decide ((openings r.1).length = 2 ∧
      (copies r.1).length = 2 ∧ epochFieldHolds 0 r.1 = true ∧
      ∀ bytes ∈ (copies r.1).filterMap SignedRequest.sessionPreimage,
        ∀ bytes' ∈ (copies r.1).filterMap SignedRequest.sessionPreimage,
          samplePrimitives.keccak256 bytes = samplePrimitives.keccak256 bytes' →
            bytes = bytes')) = true := by
    decide +kernel
  obtain ⟨⟨tr, result⟩, hsome, hchecked⟩ := (Option.any_eq_true _ _).mp hrun
  obtain ⟨htwo, hcopies, hfield, hdistinct⟩ := of_decide_eq_true hchecked
  have hbegins : Begins (submit samplePrimitives sampleNetwork sampleRequester buildRequest
      describeRequest 2 rebuildsAfterEpochClose) tr := ⟨_, Prog.returns_of_transcript hsome⟩
  have hcollision : Set.InjOn samplePrimitives.keccak256
      {bytes | ∃ c ∈ copies tr, c.sessionPreimage = some bytes} := by
    rintro bytes ⟨c, hc, hbytes⟩ bytes' ⟨c', hc', hbytes'⟩ hsame
    exact hdistinct bytes (List.mem_filterMap.mpr ⟨c, hc, hbytes⟩) bytes'
      (List.mem_filterMap.mpr ⟨c', hc', hbytes'⟩) hsame
  have hclaim := submit_runs_at_most_once hbegins (epochField_of_holds hfield) hcollision
  exact ⟨tr, htwo, hcopies, hclaim.1, hclaim.2.2.2.2⟩

end Ika
