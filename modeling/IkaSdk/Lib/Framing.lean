import IkaSdk.Lib.Bytes

/-! Frames cut from a stream while it arrives. A framing tells from the front of
the stream whether a frame stands there, and never changes its mind when more
bytes arrive, so what is read does not depend on how the stream is cut. -/

namespace Wire

/-- A way to write frames one after the other. The front of a stream reads as a
frame and what follows it, as a refusal, or as too short to tell. -/
structure Framing (F E : Type) where
  fits : F → Prop
  encode : F → Bytes
  cut : Bytes → Option (Except E (F × Bytes))
  encode_pos : ∀ f, 0 < (encode f).length
  cut_encode : ∀ f, fits f → ∀ rest, cut (encode f ++ rest) = some (.ok (f, rest))
  cut_ok : ∀ {bytes f rest}, cut bytes = some (.ok (f, rest)) → fits f ∧ bytes = encode f ++ rest
  cut_error : ∀ {bytes e}, cut bytes = some (.error e) → ∀ more, cut (bytes ++ more) =
    some (.error e)

/-- Where a reader stands: it waits for more bytes, or it has stopped. -/
inductive Reading (E S : Type)
  | waits (state : S) (pending : Bytes)
  | stops (error : E) (state : S)
deriving DecidableEq, Repr

def Reading.andThen {E S : Type} : Reading E S → (S → Bytes → Reading E S) → Reading E S
  | waits state pending, next => next state pending
  | stops error state, _ => stops error state

namespace Framing

variable {F E S : Type} (framing : Framing F E) (take : S → F → S × Option E)

theorem cut_shorter {bytes rest : Bytes} {f : F} (h : framing.cut bytes = some (.ok (f, rest))) :
    rest.length < bytes.length := by
  obtain ⟨-, rfl⟩ := framing.cut_ok h
  have hpos := framing.encode_pos f
  rw [List.length_append]
  omega

theorem cut_append {bytes rest : Bytes} {f : F} (h : framing.cut bytes = some (.ok (f, rest)))
    (more : Bytes) : framing.cut (bytes ++ more) = some (.ok (f, rest ++ more)) := by
  obtain ⟨hfits, rfl⟩ := framing.cut_ok h
  rw [List.append_assoc]
  exact framing.cut_encode f hfits (rest ++ more)

theorem cut_frames (rest : Bytes) {f : F} (frames : List F)
    (hfits : ∀ g ∈ f :: frames, framing.fits g) :
    framing.cut ((f :: frames).flatMap framing.encode ++ rest) =
      some (.ok (f, frames.flatMap framing.encode ++ rest)) := by
  rw [List.flatMap_cons, List.append_assoc]
  exact framing.cut_encode f (hfits f (List.mem_cons_self ..)) _

/-- A stream is frames and the beginning of a frame in one way only. -/
theorem frames_unique {frames frames' : List F} {rest rest' : Bytes}
    (hfits : ∀ f ∈ frames, framing.fits f) (hfits' : ∀ f ∈ frames', framing.fits f)
    (hrest : framing.cut rest = none) (hrest' : framing.cut rest' = none)
    (h : frames.flatMap framing.encode ++ rest = frames'.flatMap framing.encode ++ rest') :
    frames = frames' ∧ rest = rest' := by
  induction frames generalizing frames' with
  | nil =>
    cases frames' with
    | nil => exact ⟨rfl, h⟩
    | cons f frames' =>
      have hcut := framing.cut_frames rest' frames' hfits'
      rw [← h] at hcut
      exact absurd (hrest.symm.trans hcut) (by simp)
  | cons f frames ih =>
    have hcut := framing.cut_frames rest frames hfits
    cases frames' with
    | nil =>
      rw [h] at hcut
      exact absurd (hrest'.symm.trans hcut) (by simp)
    | cons f' frames' =>
      have hcut' := framing.cut_frames rest' frames' hfits'
      rw [← h, hcut] at hcut'
      obtain ⟨rfl, htail⟩ := Prod.mk.inj (Except.ok.inj (Option.some.inj hcut'))
      obtain ⟨rfl, hrests⟩ := ih (fun g hg => hfits g (List.mem_cons_of_mem _ hg))
        (fun g hg => hfits' g (List.mem_cons_of_mem _ hg)) htail
      exact ⟨rfl, hrests⟩

/-- Take every frame that stands complete, until one is refused. -/
def drain (state : S) (bytes : Bytes) : Reading E S :=
  match _h : framing.cut bytes with
  | none => .waits state bytes
  | some (.error e) => .stops e state
  | some (.ok (f, rest)) =>
    match take state f with
    | (state, some e) => .stops e state
    | (state, none) => drain state rest
termination_by bytes.length
decreasing_by exact framing.cut_shorter ‹_›

/-- Take frames that are given, until one is refused. -/
def takeAll : S → List F → S × Option E
  | state, [] => (state, none)
  | state, f :: frames =>
    match take state f with
    | (state, some e) => (state, some e)
    | (state, none) => takeAll state frames

/-- Take the frames of a stream that arrives in chunks. -/
def feed : S → Bytes → List Bytes → Reading E S
  | state, pending, [] => .waits state pending
  | state, pending, chunk :: chunks =>
    (framing.drain take state (pending ++ chunk)).andThen fun state pending =>
      feed state pending chunks

/-- Induction along a drain: the front of the stream waits, is refused, stops the
taker, or is taken and the rest is drained. -/
theorem drain_rule {motive : S → Bytes → Prop}
    (waits : ∀ state bytes, framing.cut bytes = none → motive state bytes)
    (refused : ∀ state bytes e, framing.cut bytes = some (.error e) → motive state bytes)
    (stopped : ∀ state bytes f rest next e, framing.cut bytes = some (.ok (f, rest)) →
      take state f = (next, some e) → motive state bytes)
    (taken : ∀ state bytes f rest next, framing.cut bytes = some (.ok (f, rest)) →
      take state f = (next, none) → motive next rest → motive state bytes)
    (state : S) (bytes : Bytes) : motive state bytes := by
  -- on the length of the stream, which every frame taken makes shorter
  induction hn : bytes.length using Nat.strong_induction_on generalizing bytes state with
  | _ n ih =>
    cases hcut : framing.cut bytes with
    | none => exact waits state bytes hcut
    | some result =>
      cases result with
      | error e => exact refused state bytes e hcut
      | ok read =>
        obtain ⟨f, rest⟩ := read
        cases htake : take state f with
        | mk next stop =>
          cases stop with
          | some e => exact stopped state bytes f rest next e hcut htake
          | none =>
            have hrest := ih rest.length (hn ▸ framing.cut_shorter hcut) next rest rfl
            exact taken state bytes f rest next hcut htake hrest

variable {framing take} {state state' : S} {bytes rest : Bytes} {f : F} {e : E}

theorem drain_waits (h : framing.cut bytes = none) :
    framing.drain take state bytes = .waits state bytes := by
  rw [drain]
  split <;> simp_all

theorem drain_refused (h : framing.cut bytes = some (.error e)) :
    framing.drain take state bytes = .stops e state := by
  rw [drain]
  split <;> simp_all

theorem drain_taken (h : framing.cut bytes = some (.ok (f, rest)))
    (ht : take state f = (state', none)) :
    framing.drain take state bytes = framing.drain take state' rest := by
  rw [drain]
  split <;> simp_all

theorem drain_stopped (h : framing.cut bytes = some (.ok (f, rest)))
    (ht : take state f = (state', some e)) :
    framing.drain take state bytes = .stops e state' := by
  rw [drain]
  split <;> simp_all

/-- The bytes that a reader waits on are the beginning of a frame. -/
theorem cut_of_drain_waits (h : framing.drain take state bytes = .waits state' rest) :
    framing.cut rest = none := by
  induction state, bytes using drain_rule framing take with
  | waits state bytes hcut =>
    rw [drain_waits hcut] at h
    cases h
    exact hcut
  | refused state bytes e hcut =>
    rw [drain_refused hcut] at h
    cases h
  | stopped state bytes f after next e hcut htake =>
    rw [drain_stopped hcut htake] at h
    cases h
  | taken state bytes f after next hcut htake ih =>
    rw [drain_taken hcut htake] at h
    exact ih h

theorem takeAll_cons {frames : List F} (h : takeAll take state (f :: frames) = (state', none)) :
    ∃ next, take state f = (next, none) ∧ takeAll take next frames = (state', none) := by
  rw [takeAll] at h
  cases htake : take state f with
  | mk next stopped =>
    rw [htake] at h
    cases stopped with
    | some e => cases h
    | none => exact ⟨next, rfl, h⟩

theorem takeAll_of_cons {frames : List F} {next : S} (hf : take state f = (next, none))
    (hframes : takeAll take next frames = (state', none)) :
    takeAll take state (f :: frames) = (state', none) := by
  rw [takeAll, hf]
  exact hframes

theorem frames_of_drain_waits (h : framing.drain take state bytes = .waits state' rest) :
    ∃ frames, (∀ f ∈ frames, framing.fits f) ∧ bytes = frames.flatMap framing.encode ++ rest ∧
      takeAll take state frames = (state', none) := by
  induction state, bytes using drain_rule framing take with
  | waits state bytes hcut =>
    rw [drain_waits hcut] at h
    cases h
    exact ⟨[], by simp, rfl, rfl⟩
  | refused state bytes e hcut =>
    rw [drain_refused hcut] at h
    cases h
  | stopped state bytes f after next e hcut htake =>
    rw [drain_stopped hcut htake] at h
    cases h
  | taken state bytes f after next hcut htake ih =>
    rw [drain_taken hcut htake] at h
    obtain ⟨frames, hfits, hafter, hframes⟩ := ih h
    obtain ⟨hf, hbytes⟩ := framing.cut_ok hcut
    refine ⟨f :: frames, ?_, ?_, takeAll_of_cons htake hframes⟩
    · exact List.forall_mem_cons.mpr ⟨hf, hfits⟩
    · rw [hbytes, hafter, List.flatMap_cons, List.append_assoc]

/-- The frames at the front are taken first, then what follows them is read. -/
theorem drain_append (state : S) (xs ys : Bytes) :
    framing.drain take state (xs ++ ys) = (framing.drain take state xs).andThen fun state pending =>
      framing.drain take state (pending ++ ys) := by
  induction state, xs using drain_rule framing take with
  | waits state xs hcut => rw [drain_waits hcut, Reading.andThen]
  | refused state xs e hcut =>
    rw [drain_refused hcut, drain_refused (framing.cut_error hcut ys), Reading.andThen]
  | stopped state xs f rest next e hcut htake =>
    rw [drain_stopped hcut htake, drain_stopped (framing.cut_append hcut ys) htake,
      Reading.andThen]
  | taken state xs f rest next hcut htake ih =>
    rw [drain_taken hcut htake, drain_taken (framing.cut_append hcut ys) htake]
    exact ih

/-- What the frames give does not depend on the chunks they arrive in. -/
theorem feed_eq_drain (chunks : List Bytes) (h : framing.cut bytes = none) :
    framing.feed take state bytes chunks =
      framing.drain take state (bytes ++ chunks.flatten) := by
  induction chunks generalizing state bytes with
  | nil =>
    rw [List.flatten_nil, List.append_nil, drain_waits h]
    rfl
  | cons chunk chunks ih =>
    rw [List.flatten_cons, ← List.append_assoc, drain_append, feed]
    cases hdrain : framing.drain take state (bytes ++ chunk) with
    | stops e state' => rfl
    | waits state' pending => exact ih (cut_of_drain_waits hdrain)

theorem drain_encoded {frames : List F} (hfits : ∀ f ∈ frames, framing.fits f)
    (htake : takeAll take state frames = (state', none)) :
    framing.drain take state (frames.flatMap framing.encode ++ rest) =
      framing.drain take state' rest := by
  induction frames generalizing state with
  | nil =>
    cases htake
    rfl
  | cons f frames ih =>
    have hcut := framing.cut_encode f (hfits f (List.mem_cons_self ..))
      (frames.flatMap framing.encode ++ rest)
    rw [List.flatMap_cons, List.append_assoc]
    obtain ⟨next, hnext, hrest⟩ := takeAll_cons htake
    rw [drain_taken hcut hnext]
    exact ih (fun g hg => hfits g (List.mem_cons_of_mem _ hg)) hrest

/-- A reader waits exactly when the stream is frames that it took, and the
beginning of a frame. -/
theorem drain_waits_iff : framing.drain take state bytes = .waits state' rest ↔
    ∃ frames, (∀ f ∈ frames, framing.fits f) ∧ bytes = frames.flatMap framing.encode ++ rest ∧
      takeAll take state frames = (state', none) ∧ framing.cut rest = none := by
  constructor
  · intro h
    obtain ⟨frames, hfits, hbytes, htake⟩ := frames_of_drain_waits h
    exact ⟨frames, hfits, hbytes, htake, cut_of_drain_waits h⟩
  · rintro ⟨frames, hfits, rfl, htake, hcut⟩
    rw [drain_encoded hfits htake, drain_waits hcut]

end Framing

end Wire
