import IkaSdk.Lib.Bytes
import IkaSdk.Lib.Except

/-! Records kept as fields of a buffer, each written at an offset of its own. A field that no
later write touches reads back as what was written there. -/

namespace Wire

/-- A field to be written: where it stands and what goes there. -/
abbrev Field := ℕ × Bytes

/-- Write the fields in order, if the buffer holds each of them. -/
def putFields (buffer : Bytes) (fields : List Field) : Except String Bytes :=
  fields.foldlM (fun buffer field => setAt buffer field.1 field.2) buffer

/-- The bytes from `offset` on, `width` of them, are none of the field's. -/
def Apart (offset width : ℕ) (field : Field) : Prop :=
  offset + width ≤ field.1 ∨ field.1 + field.2.length ≤ offset

instance (offset width : ℕ) (field : Field) : Decidable (Apart offset width field) :=
  inferInstanceAs (Decidable (_ ∨ _))

/-- Each field ends before the next one starts. -/
def InOrder (fields : List Field) : Prop :=
  fields.Pairwise fun field next => field.1 + field.2.length ≤ next.1

theorem putFields_cons {buffer written : Bytes} {field : Field} {fields : List Field} :
    putFields buffer (field :: fields) = .ok written ↔
      ∃ first, setAt buffer field.1 field.2 = .ok first ∧ putFields first fields = .ok written := by
  rw [putFields, List.foldlM_cons, bind_ok_iff]
  rfl

theorem setAt_length {buffer bytes written : Bytes} {offset : ℕ}
    (h : setAt buffer offset bytes = .ok written) : written.length = buffer.length := by
  obtain ⟨hbound, rfl⟩ := setAt_ok h
  simp only [List.length_append, List.length_take, List.length_drop]
  omega

theorem setAt_of_le {buffer bytes : Bytes} {offset : ℕ}
    (h : offset + bytes.length ≤ buffer.length) :
    ∃ written, setAt buffer offset bytes = .ok written :=
  ⟨_, if_neg (not_lt.mpr h)⟩

theorem putFields_length {buffer written : Bytes} {fields : List Field}
    (h : putFields buffer fields = .ok written) : written.length = buffer.length := by
  induction fields generalizing buffer with
  | nil => exact congrArg List.length (Except.ok.inj h).symm
  | cons field fields ih =>
    obtain ⟨first, hfirst, hrest⟩ := putFields_cons.mp h
    rw [ih hrest, setAt_length hfirst]

/-- Fields that fit into the buffer can be written. -/
theorem putFields_of_fit {buffer : Bytes} {fields : List Field}
    (h : ∀ field ∈ fields, field.1 + field.2.length ≤ buffer.length) :
    ∃ written, putFields buffer fields = .ok written := by
  induction fields generalizing buffer with
  | nil => exact ⟨buffer, rfl⟩
  | cons field fields ih =>
    obtain ⟨first, hfirst⟩ := setAt_of_le (h field List.mem_cons_self)
    obtain ⟨written, hwritten⟩ := ih fun other hother => by
      rw [setAt_length hfirst]
      exact h other (List.mem_cons_of_mem _ hother)
    exact ⟨written, putFields_cons.mpr ⟨first, hfirst, hwritten⟩⟩

/-- What stands apart from every field written is left as it was. -/
theorem sliceAt_putFields_of_apart {buffer written : Bytes} {fields : List Field}
    {offset width : ℕ} (h : putFields buffer fields = .ok written)
    (hapart : ∀ field ∈ fields, Apart offset width field) :
    sliceAt offset width written = sliceAt offset width buffer := by
  induction fields generalizing buffer with
  | nil => rw [Except.ok.inj h]
  | cons field fields ih =>
    obtain ⟨first, hfirst, hrest⟩ := putFields_cons.mp h
    rw [ih hrest fun other hother => hapart other (List.mem_cons_of_mem _ hother)]
    exact sliceAt_setAt_of_apart hfirst (hapart field List.mem_cons_self)

/-- A field written reads back. -/
theorem sliceAt_putFields {buffer written : Bytes} {fields : List Field} {field : Field}
    (h : putFields buffer fields = .ok written) (horder : InOrder fields)
    (hfield : field ∈ fields) : sliceAt field.1 field.2.length written = field.2 := by
  induction fields generalizing buffer with
  | nil => exact absurd hfield List.not_mem_nil
  | cons first fields ih =>
    obtain ⟨after, hafter, hrest⟩ := putFields_cons.mp h
    obtain ⟨hfirst, hothers⟩ := List.pairwise_cons.mp horder
    rcases List.mem_cons.mp hfield with rfl | hlater
    · rw [sliceAt_putFields_of_apart hrest fun other hother => Or.inl (hfirst other hother)]
      exact sliceAt_setAt hafter
    · exact ih hrest hothers hlater

theorem sliceAt_written {buffer written bytes : Bytes} {fields : List Field} {offset width : ℕ}
    (h : putFields buffer fields = .ok written) (horder : InOrder fields)
    (hfield : (offset, bytes) ∈ fields) (hwidth : bytes.length = width) :
    sliceAt offset width written = bytes := by
  rw [← hwidth]
  exact sliceAt_putFields h horder hfield

theorem length_sliceAt {bytes : Bytes} {offset width : ℕ} (h : offset + width ≤ bytes.length) :
    (sliceAt offset width bytes).length = width := by
  rw [sliceAt, List.length_take, List.length_drop]
  omega

/-! ## Copies -/

/-- `bytes` over those of the buffer from `offset` on, as many as it has room for. -/
def copyAt (buffer : Bytes) (offset : ℕ) (bytes : Bytes) : Bytes :=
  buffer.take offset ++ bytes.take (buffer.length - offset) ++ buffer.drop (offset + bytes.length)

def copyFields (buffer : Bytes) (fields : List Field) : Bytes :=
  fields.foldl (fun buffer field => copyAt buffer field.1 field.2) buffer

/-- Each field starts where the one before it ends. -/
def Consecutive : ℕ → List Field → Prop
  | _, [] => True
  | offset, field :: fields => field.1 = offset ∧ Consecutive (offset + field.2.length) fields

theorem copyFields_consecutive {buffer : Bytes} {offset : ℕ} {fields : List Field}
    (h : Consecutive offset fields)
    (hfits : offset + (fields.flatMap Prod.snd).length ≤ buffer.length) :
    copyFields buffer fields = buffer.take offset ++ fields.flatMap Prod.snd ++
      buffer.drop (offset + (fields.flatMap Prod.snd).length) := by
  induction fields generalizing buffer offset with
  | nil => simp [copyFields]
  | cons field fields ih =>
    obtain ⟨rfl, hrest⟩ := h
    rw [List.flatMap_cons, List.length_append] at hfits
    have hroom : field.2.take (buffer.length - field.1) = field.2 :=
      List.take_of_length_le (by omega)
    have hfront : (buffer.take field.1 ++ field.2).length = field.1 + field.2.length := by
      rw [List.length_append, List.length_take]
      omega
    have hcopied : copyAt buffer field.1 field.2 =
        buffer.take field.1 ++ field.2 ++ buffer.drop (field.1 + field.2.length) := by
      rw [copyAt, hroom]
    have hlength : (copyAt buffer field.1 field.2).length = buffer.length := by
      rw [hcopied, List.length_append, hfront, List.length_drop]
      omega
    rw [copyFields, List.foldl_cons, ← copyFields, ih hrest (by omega), hcopied,
      List.take_left' hfront, List.drop_append, hfront, List.drop_eq_nil_of_le (by omega),
      List.nil_append, List.drop_drop, List.flatMap_cons, List.length_append]
    simp only [List.append_assoc]
    congr 4
    omega

/-- Fields that fill a buffer are all that it holds. -/
theorem copyFields_filled {n : ℕ} {fields : List Field} (h : Consecutive 0 fields)
    (hlength : (fields.flatMap Prod.snd).length = n) :
    copyFields (List.replicate n 0) fields = fields.flatMap Prod.snd := by
  rw [copyFields_consecutive h (by simp [hlength]), List.drop_of_length_le (by simp [hlength])]
  simp

theorem sliceAt_of_append {whole bytes : Bytes} {offset width : ℕ} (front tail : Bytes)
    (hwhole : whole = front ++ bytes ++ tail) (hfront : front.length = offset)
    (hwidth : bytes.length = width) : sliceAt offset width whole = bytes := by
  rw [hwhole, ← hwidth]
  exact sliceAt_append bytes tail hfront

/-! ## Regions that stay -/

/-- The bytes before `first` and those from `last` on are the same in both buffers. -/
structure AgreeOutside (first last : ℕ) (data data' : Bytes) : Prop where
  length : data'.length = data.length
  slices : ∀ offset width, offset + width ≤ first ∨ last ≤ offset →
    sliceAt offset width data' = sliceAt offset width data

theorem AgreeOutside.refl (first last : ℕ) (data : Bytes) : AgreeOutside first last data data :=
  ⟨rfl, fun _ _ _ => rfl⟩

theorem AgreeOutside.trans {first last : ℕ} {data data' data'' : Bytes}
    (h : AgreeOutside first last data data') (h' : AgreeOutside first last data' data'') :
    AgreeOutside first last data data'' :=
  ⟨h'.length.trans h.length, fun offset width hout =>
    (h'.slices offset width hout).trans (h.slices offset width hout)⟩

theorem agreeOutside_putFields {buffer written : Bytes} {fields : List Field} {first last : ℕ}
    (h : putFields buffer fields = .ok written)
    (hinside : ∀ field ∈ fields, first ≤ field.1 ∧ field.1 + field.2.length ≤ last) :
    AgreeOutside first last buffer written := by
  refine ⟨putFields_length h, ?_⟩
  intro offset width hout
  apply sliceAt_putFields_of_apart h
  intro field hfield
  obtain ⟨hfirst, hlast⟩ := hinside field hfield
  rcases hout with hbefore | hafter
  · exact .inl (hbefore.trans hfirst)
  · exact .inr (hlast.trans hafter)

theorem AgreeOutside.drop {first last : ℕ} {data data' : Bytes}
    (h : AgreeOutside first last data data') {offset : ℕ} (hout : last ≤ offset) :
    data'.drop offset = data.drop offset := by
  have hslice := h.slices offset data.length (.inr hout)
  unfold sliceAt at hslice
  rwa [List.take_of_length_le (by rw [List.length_drop, h.length]; omega),
    List.take_of_length_le (by rw [List.length_drop]; omega)] at hslice

/-! ## One byte -/

/-- The byte at an index that the length was checked for. -/
def nthByte (data : Bytes) (offset : ℕ) : UInt8 := (data.drop offset).headD 0

theorem nthByte_eq (data : Bytes) (offset : ℕ) :
    nthByte data offset = (sliceAt offset 1 data).headD 0 := by
  unfold nthByte sliceAt
  cases data.drop offset <;> simp

theorem nthByte_of_slice {data : Bytes} {offset : ℕ} {b : UInt8}
    (h : sliceAt offset 1 data = [b]) : nthByte data offset = b := by
  rw [nthByte_eq, h]
  rfl

theorem AgreeOutside.nthByte {first last : ℕ} {data data' : Bytes}
    (h : AgreeOutside first last data data') {offset : ℕ}
    (hout : offset + 1 ≤ first ∨ last ≤ offset) : nthByte data' offset = nthByte data offset := by
  rw [nthByte_eq, nthByte_eq, h.slices offset 1 hout]

end Wire
