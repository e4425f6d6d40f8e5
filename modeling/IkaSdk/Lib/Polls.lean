import Mathlib.Data.Finset.Card
import Mathlib.Data.List.Nodup
import Mathlib.Logic.Function.Basic
import Mathlib.Logic.Relation

/-! Polls of closed electorates, each poll at an address of its own. A ballot is a record
at an address that no earlier ballot has, and a poll is carried by its quorum of ballots for it,
or lost by its limit of ballots against it. Where a voter's ballots in one poll have one
address between them, the counts are counts of voters. -/

namespace Polls

inductive Outcome
  | undecided
  | carried
  | lost
deriving DecidableEq, Repr

/-- A poll without a limit is never lost. -/
@[ext]
structure Poll (α : Type) where
  electors : List α
  quorum : ℕ
  limit : Option ℕ
  yes : ℕ
  no : ℕ
  outcome : Outcome

structure Ballot (κ α : Type) where
  poll : κ
  voter : α
  yes : Bool
  record : κ

/-- Everything that was opened and cast so far; `carried` lists the polls as they passed. -/
structure Hall (κ α : Type) where
  polls : κ → Option (Poll α)
  ballots : List (Ballot κ α)
  carried : List κ

variable {κ α : Type}

/-! ## Steps -/

namespace Poll

/-- The poll with one more ballot counted. -/
def counted (p : Poll α) (yes : Bool) : Poll α :=
  if yes then
    { p with yes := p.yes + 1,
             outcome := if p.quorum ≤ p.yes + 1 then .carried else .undecided }
  else
    { p with no := p.no + 1,
             outcome := if p.limit.any (· ≤ p.no + 1) then .lost else .undecided }

/-- A poll as it is opened. -/
structure Fresh (p : Poll α) : Prop where
  yes : p.yes = 0
  no : p.no = 0
  outcome : p.outcome = .undecided
  quorum : 0 < p.quorum
  limit : ∀ n ∈ p.limit, 0 < n

@[simp] theorem counted_electors (p : Poll α) (yes : Bool) :
    (p.counted yes).electors = p.electors := by
  cases yes <;> simp [counted]

@[simp] theorem counted_quorum (p : Poll α) (yes : Bool) :
    (p.counted yes).quorum = p.quorum := by
  cases yes <;> simp [counted]

@[simp] theorem counted_limit (p : Poll α) (yes : Bool) : (p.counted yes).limit = p.limit := by
  cases yes <;> simp [counted]

theorem counted_yes (p : Poll α) (yes : Bool) :
    (p.counted yes).yes = p.yes + if yes then 1 else 0 := by
  cases yes <;> simp [counted]

theorem counted_no (p : Poll α) (yes : Bool) :
    (p.counted yes).no = p.no + if yes then 0 else 1 := by
  cases yes <;> simp [counted]

theorem counted_outcome_yes (p : Poll α) : (p.counted true).outcome =
    if p.quorum ≤ p.yes + 1 then .carried else .undecided := by
  simp [counted]

theorem counted_outcome_no (p : Poll α) : (p.counted false).outcome =
    if p.limit.any (· ≤ p.no + 1) then .lost else .undecided := by
  simp [counted]

end Poll

section Steps

variable [DecidableEq κ]

namespace Hall

/-- No poll is open yet. -/
def empty : Hall κ α := ⟨fun _ => none, [], []⟩

def opened (h : Hall κ α) (k : κ) (p : Poll α) : Hall κ α :=
  { h with polls := Function.update h.polls k (some p) }

def cast (h : Hall κ α) (b : Ballot κ α) (p : Poll α) : Hall κ α where
  polls := Function.update h.polls b.poll (some (p.counted b.yes))
  ballots := h.ballots ++ [b]
  carried := h.carried ++ if (p.counted b.yes).outcome = .carried then [b.poll] else []

/-- The ballots of one poll, for it or against it. -/
def side (h : Hall κ α) (k : κ) (yes : Bool) : List (Ballot κ α) :=
  h.ballots.filter fun b => b.poll = k ∧ b.yes = yes

def records (h : Hall κ α) : List κ := h.ballots.map (·.record)

theorem opened_other (h : Hall κ α) {k j : κ} (p : Poll α) (hj : j ≠ k) :
    (h.opened k p).polls j = h.polls j :=
  Function.update_of_ne hj _ _

theorem cast_other (h : Hall κ α) {b : Ballot κ α} {j : κ} (p : Poll α) (hj : j ≠ b.poll) :
    (h.cast b p).polls j = h.polls j :=
  Function.update_of_ne hj _ _

end Hall

inductive Step (h : Hall κ α) : Hall κ α → Prop
  | opened {k : κ} {p : Poll α} : h.polls k = none → p.Fresh → Step h (h.opened k p)
  | cast {b : Ballot κ α} {p : Poll α} : h.polls b.poll = some p → p.outcome = .undecided →
      b.voter ∈ p.electors → b.record ∉ h.records → Step h (h.cast b p)

def Reached (h : Hall κ α) : Prop := Relation.ReflTransGen Step Hall.empty h

end Steps

/-! ## What every step keeps -/

/-- The outcome of a poll is what its counts say. -/
structure Poll.Decided (p : Poll α) : Prop where
  carried : p.outcome = .carried ↔ p.quorum ≤ p.yes
  lost : p.outcome = .lost ↔ ∃ n ∈ p.limit, n ≤ p.no

theorem Poll.Fresh.decided {p : Poll α} (h : p.Fresh) : p.Decided := by
  have hquorum := h.quorum
  refine ⟨?_, ?_⟩
  · rw [h.outcome, h.yes]
    simp only [reduceCtorEq, false_iff]
    omega
  · rw [h.outcome, h.no]
    simp only [reduceCtorEq, false_iff]
    rintro ⟨n, hn, hle⟩
    have hpos := h.limit n hn
    omega

/-- A poll that is still open has neither its quorum nor its limit. -/
theorem Poll.Decided.open_iff {p : Poll α} (h : p.Decided) :
    p.outcome = .undecided ↔ p.yes < p.quorum ∧ ∀ n ∈ p.limit, p.no < n := by
  have hcarried := h.carried
  have hlost := h.lost
  constructor
  · intro hopen
    rw [hopen] at hcarried hlost
    simp only [reduceCtorEq, false_iff, not_exists, not_and] at hcarried hlost
    exact ⟨not_le.mp hcarried, fun n hn => not_le.mp (hlost n hn)⟩
  · rintro ⟨hyes, hno⟩
    cases houtcome : p.outcome with
    | undecided => rfl
    | carried => exact absurd (hcarried.mp houtcome) (not_le.mpr hyes)
    | lost =>
      obtain ⟨n, hn, hle⟩ := hlost.mp houtcome
      exact absurd hle (not_le.mpr (hno n hn))

theorem Poll.Decided.counted {p : Poll α} (h : p.Decided) (hopen : p.outcome = .undecided)
    (yes : Bool) : (p.counted yes).Decided := by
  obtain ⟨hyes, hno⟩ := h.open_iff.mp hopen
  have hnone : ∀ n, p.limit = some n → ¬n ≤ p.no := fun n hn => not_le.mpr (hno n hn)
  cases yes with
  | true =>
    refine ⟨?_, ?_⟩
    · simp [Poll.counted]
    · simp only [Poll.counted, if_true, Option.mem_def]
      split_ifs <;> simpa using hnone
  | false =>
    refine ⟨?_, ?_⟩
    · simp only [Poll.counted, Bool.false_eq_true, if_false]
      split_ifs <;> simpa using hyes
    · simp only [Poll.counted, Bool.false_eq_true, if_false, Option.mem_def]
      cases hlimit : p.limit with
      | none => simp
      | some n => simp

/-- The counts count the ballots, and every ballot has a record to itself. -/
structure Sound [DecidableEq κ] (h : Hall κ α) : Prop where
  records : h.records.Nodup
  yes : ∀ {k p}, h.polls k = some p → p.yes = (h.side k true).length
  no : ∀ {k p}, h.polls k = some p → p.no = (h.side k false).length
  decided : ∀ {k p}, h.polls k = some p → p.Decided
  elector : ∀ b ∈ h.ballots, ∃ p, h.polls b.poll = some p ∧ b.voter ∈ p.electors
  carried : ∀ k, k ∈ h.carried ↔ ∃ p, h.polls k = some p ∧ p.outcome = .carried
  once : h.carried.Nodup

section Soundness

variable [DecidableEq κ]

theorem Sound.empty : Sound (Hall.empty : Hall κ α) where
  records := List.nodup_nil
  yes := by simp [Hall.empty]
  no := by simp [Hall.empty]
  decided := by simp [Hall.empty]
  elector := by simp [Hall.empty]
  carried := by simp [Hall.empty]
  once := List.nodup_nil

/-- No ballot was cast in a poll that is not there. -/
theorem Sound.side_eq_nil {h : Hall κ α} (hs : Sound h) {k : κ} (hk : h.polls k = none)
    (yes : Bool) : h.side k yes = [] := by
  rw [Hall.side, List.filter_eq_nil_iff]
  intro b hb hpoll
  obtain ⟨p, hp, -⟩ := hs.elector b hb
  have hkey : b.poll = k := by simpa using And.left (by simpa using hpoll)
  rw [hkey, hk] at hp
  cases hp

theorem Sound.opened {h : Hall κ α} (hs : Sound h) {k : κ} {p : Poll α}
    (hk : h.polls k = none) (hp : p.Fresh) : Sound (h.opened k p) where
  records := hs.records
  yes := by
    intro j q hq
    change q.yes = (h.side j true).length
    by_cases hj : j = k
    · subst hj
      obtain rfl : p = q := by simpa [Hall.opened] using hq
      rw [hp.yes, hs.side_eq_nil hk, List.length_nil]
    · exact hs.yes (by simpa [Hall.opened, hj] using hq)
  no := by
    intro j q hq
    change q.no = (h.side j false).length
    by_cases hj : j = k
    · subst hj
      obtain rfl : p = q := by simpa [Hall.opened] using hq
      rw [hp.no, hs.side_eq_nil hk, List.length_nil]
    · exact hs.no (by simpa [Hall.opened, hj] using hq)
  decided := by
    intro j q hq
    by_cases hj : j = k
    · subst hj
      obtain rfl : p = q := by simpa [Hall.opened] using hq
      exact hp.decided
    · exact hs.decided (by simpa [Hall.opened, hj] using hq)
  elector := by
    intro b hb
    obtain ⟨q, hq, hvoter⟩ := hs.elector b hb
    have hne : b.poll ≠ k := by
      intro heq
      rw [heq, hk] at hq
      cases hq
    exact ⟨q, by simpa [Hall.opened, hne] using hq, hvoter⟩
  carried := by
    intro j
    change j ∈ h.carried ↔ _
    rw [hs.carried j]
    by_cases hj : j = k
    · subst hj
      simp [Hall.opened, hk, hp.outcome]
    · simp [Hall.opened, hj]
  once := hs.once

theorem Hall.side_cast (h : Hall κ α) (b : Ballot κ α) (p : Poll α) (k : κ) (yes : Bool) :
    ((h.cast b p).side k yes).length =
      (h.side k yes).length + if b.poll = k ∧ b.yes = yes then 1 else 0 := by
  rw [Hall.side, Hall.cast, List.filter_append, List.length_append, Hall.side]
  by_cases hb : b.poll = k ∧ b.yes = yes <;> simp [hb]

theorem Sound.cast {h : Hall κ α} (hs : Sound h) {b : Ballot κ α} {p : Poll α}
    (hp : h.polls b.poll = some p) (hopen : p.outcome = .undecided)
    (hvoter : b.voter ∈ p.electors) (hrecord : b.record ∉ h.records) :
    Sound (h.cast b p) where
  records := by
    have hmap : (h.cast b p).records = h.records ++ [b.record] := by simp [Hall.records, Hall.cast]
    rw [hmap]
    exact hs.records.append (List.nodup_singleton _) (by simpa using hrecord)
  yes := by
    intro k q hq
    rw [h.side_cast]
    by_cases hk : k = b.poll
    · subst hk
      obtain rfl : p.counted b.yes = q := by simpa [Hall.cast] using hq
      rw [Poll.counted_yes, hs.yes hp]
      simp
    · rw [hs.yes (by simpa [Hall.cast, hk] using hq)]
      simp [Ne.symm hk]
  no := by
    intro k q hq
    rw [h.side_cast]
    by_cases hk : k = b.poll
    · subst hk
      obtain rfl : p.counted b.yes = q := by simpa [Hall.cast] using hq
      rw [Poll.counted_no, hs.no hp]
      cases b.yes <;> simp
    · rw [hs.no (by simpa [Hall.cast, hk] using hq)]
      simp [Ne.symm hk]
  decided := by
    intro k q hq
    by_cases hk : k = b.poll
    · subst hk
      obtain rfl : p.counted b.yes = q := by simpa [Hall.cast] using hq
      exact (hs.decided hp).counted hopen b.yes
    · exact hs.decided (by simpa [Hall.cast, hk] using hq)
  elector := by
    intro c hc
    have hkept : ∀ {k q}, h.polls k = some q → c.voter ∈ q.electors →
        ∃ q', (h.cast b p).polls k = some q' ∧ c.voter ∈ q'.electors := by
      intro k q hq hin
      by_cases hk : k = b.poll
      · subst hk
        obtain rfl : p = q := by simpa [hp] using hq
        exact ⟨p.counted b.yes, by simp [Hall.cast], by simpa using hin⟩
      · exact ⟨q, by simpa [Hall.cast, hk] using hq, hin⟩
    rcases List.mem_append.mp hc with hold | hnew
    · obtain ⟨q, hq, hin⟩ := hs.elector c hold
      exact hkept hq hin
    · obtain rfl : c = b := by simpa using hnew
      exact hkept hp hvoter
  carried := by
    intro k
    have hold := hs.carried k
    simp only [Hall.cast, List.mem_append]
    by_cases hk : k = b.poll
    · -- the poll was open, so it is not among those that had passed
      subst hk
      have hnot : b.poll ∉ h.carried := by
        rw [hold]
        rintro ⟨q, hq, hcarried⟩
        obtain rfl : p = q := by simpa [hp] using hq
        simp [hopen] at hcarried
      by_cases hnow : (p.counted b.yes).outcome = .carried <;> simp [hnot, hnow]
    · have hlast : k ∉ if (p.counted b.yes).outcome = .carried then [b.poll] else [] := by
        split_ifs <;> simp [hk]
      simp [hold, hlast, hk]
  once := by
    have hnot : b.poll ∉ h.carried := by
      rw [hs.carried]
      rintro ⟨q, hq, hcarried⟩
      obtain rfl : p = q := by simpa [hp] using hq
      simp [hopen] at hcarried
    simp only [Hall.cast]
    split_ifs
    · exact hs.once.append (List.nodup_singleton _) (by simpa using hnot)
    · simpa using hs.once

theorem Sound.step {h h' : Hall κ α} (hs : Sound h) (step : Step h h') : Sound h' := by
  cases step with
  | opened hk hp => exact hs.opened hk hp
  | cast hp hopen hvoter hrecord => exact hs.cast hp hopen hvoter hrecord

theorem Reached.sound {h : Hall κ α} (hr : Reached h) : Sound h := by
  induction hr with
  | refl => exact Sound.empty
  | tail _ step ih => exact ih.step step

end Soundness

/-! ## One voter, one ballot -/

/-- All ballots of a voter in a poll share one address. -/
def Addressed (h : Hall κ α) (address : κ → α → κ) : Prop :=
  ∀ b ∈ h.ballots, b.record = address b.poll b.voter

section Voters

variable [DecidableEq κ] {h : Hall κ α} {address : κ → α → κ}

/-- Two ballots of one voter in one poll are one ballot. -/
theorem Sound.ballot_unique (hs : Sound h) (ha : Addressed h address) {b c : Ballot κ α}
    (hb : b ∈ h.ballots) (hc : c ∈ h.ballots) (hpoll : b.poll = c.poll)
    (hvoter : b.voter = c.voter) : b = c := by
  apply List.inj_on_of_nodup_map hs.records hb hc
  rw [ha b hb, ha c hc, hpoll, hvoter]

theorem Sound.voters_nodup (hs : Sound h) (ha : Addressed h address) (k : κ) :
    ((h.ballots.filter (·.poll = k)).map (·.voter)).Nodup := by
  have hballots : h.ballots.Nodup := hs.records.of_map
  apply (hballots.filter _).map_on
  intro b hb c hc hvoter
  have hb' := List.mem_filter.mp hb
  have hc' := List.mem_filter.mp hc
  apply hs.ballot_unique ha hb'.1 hc'.1 _ hvoter
  rw [of_decide_eq_true hb'.2, of_decide_eq_true hc'.2]

/-- Once every elector has voted, a poll whose limit leaves no quorum is decided. -/
theorem Sound.decided_of_turnout (hs : Sound h) {k : κ} {p : Poll α}
    (hp : h.polls k = some p) {n : ℕ} (hn : p.limit = some n)
    (hsum : p.quorum + n ≤ p.electors.length + 1) (hall : p.electors.length ≤ p.yes + p.no) :
    p.outcome ≠ .undecided := by
  intro hopen
  obtain ⟨hyes, hno⟩ := (hs.decided hp).open_iff.mp hopen
  have hlt := hno n hn
  omega

variable [DecidableEq α]

/-- Those who voted on a side of a poll. -/
def Hall.voters (h : Hall κ α) (k : κ) (yes : Bool) : Finset α :=
  ((h.side k yes).map (·.voter)).toFinset

theorem Hall.mem_voters {k : κ} {yes : Bool} {m : α} :
    m ∈ h.voters k yes ↔ ∃ b ∈ h.ballots, b.poll = k ∧ b.yes = yes ∧ b.voter = m := by
  simp only [Hall.voters, Hall.side, List.mem_toFinset, List.mem_map, List.mem_filter,
    decide_eq_true_eq]
  constructor
  · rintro ⟨b, ⟨hb, hpoll, hyes⟩, hvoter⟩
    exact ⟨b, hb, hpoll, hyes, hvoter⟩
  · rintro ⟨b, hb, hpoll, hyes, hvoter⟩
    exact ⟨b, ⟨hb, hpoll, hyes⟩, hvoter⟩

theorem Sound.card_voters (hs : Sound h) (ha : Addressed h address) (k : κ) (yes : Bool) :
    (h.voters k yes).card = (h.side k yes).length := by
  have hnodup : ((h.side k yes).map (·.voter)).Nodup := by
    have hfilter : h.ballots.filter (fun b => b.poll = k ∧ b.yes = yes) =
        (h.ballots.filter (·.poll = k)).filter (·.yes = yes) := by
      rw [List.filter_filter]
      congr 1
      funext b
      simp [Bool.and_comm]
    rw [Hall.side, hfilter]
    exact List.Nodup.sublist (List.filter_sublist.map _) (hs.voters_nodup ha k)
  rw [Hall.voters, List.toFinset_card_of_nodup hnodup, List.length_map]

theorem Sound.card_yes (hs : Sound h) (ha : Addressed h address) {k : κ} {p : Poll α}
    (hp : h.polls k = some p) : (h.voters k true).card = p.yes := by
  rw [hs.card_voters ha, hs.yes hp]

theorem Sound.card_no (hs : Sound h) (ha : Addressed h address) {k : κ} {p : Poll α}
    (hp : h.polls k = some p) : (h.voters k false).card = p.no := by
  rw [hs.card_voters ha, hs.no hp]

theorem Sound.voters_subset (hs : Sound h) {k : κ} {p : Poll α} (hp : h.polls k = some p)
    (yes : Bool) : h.voters k yes ⊆ p.electors.toFinset := by
  intro m hm
  obtain ⟨b, hb, hpoll, -, hvoter⟩ := Hall.mem_voters.mp hm
  obtain ⟨q, hq, hin⟩ := hs.elector b hb
  rw [hpoll] at hq
  obtain rfl : p = q := by simpa [hp] using hq
  rw [List.mem_toFinset, ← hvoter]
  exact hin

/-- Nobody votes on both sides. -/
theorem Sound.voters_disjoint (hs : Sound h) (ha : Addressed h address) (k : κ) :
    Disjoint (h.voters k true) (h.voters k false) := by
  rw [Finset.disjoint_left]
  intro m hyes hno
  obtain ⟨b, hb, hbpoll, hbyes, hbvoter⟩ := Hall.mem_voters.mp hyes
  obtain ⟨c, hc, hcpoll, hcyes, hcvoter⟩ := Hall.mem_voters.mp hno
  have heq := hs.ballot_unique ha hb hc (hbpoll.trans hcpoll.symm) (hbvoter.trans hcvoter.symm)
  rw [heq, hcyes] at hbyes
  cases hbyes

/-- The two counts together are at most the electorate. -/
theorem Sound.turnout_le (hs : Sound h) (ha : Addressed h address) {k : κ} {p : Poll α}
    (hp : h.polls k = some p) : p.yes + p.no ≤ p.electors.length := by
  have hunion : h.voters k true ∪ h.voters k false ⊆ p.electors.toFinset :=
    Finset.union_subset (hs.voters_subset hp true) (hs.voters_subset hp false)
  have hcard := Finset.card_le_card hunion
  rw [Finset.card_union_of_disjoint (hs.voters_disjoint ha k), hs.card_yes ha hp,
    hs.card_no ha hp] at hcard
  exact hcard.trans (List.toFinset_card_le _)

/-- A poll that passed has a quorum of electors behind it. -/
theorem Sound.quorum_of_carried (hs : Sound h) (ha : Addressed h address) {k : κ}
    (hk : k ∈ h.carried) : ∃ p, h.polls k = some p ∧ h.voters k true ⊆ p.electors.toFinset ∧
      p.quorum ≤ (h.voters k true).card := by
  obtain ⟨p, hp, hcarried⟩ := (hs.carried k).mp hk
  refine ⟨p, hp, hs.voters_subset hp true, ?_⟩
  rw [hs.card_yes ha hp]
  exact (hs.decided hp).carried.mp hcarried

end Voters

end Polls
