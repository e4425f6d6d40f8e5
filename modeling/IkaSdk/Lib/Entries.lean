import IkaSdk.Lib.Except
import Mathlib.Data.List.Forall2
import Mathlib.Data.List.Induction
import Mathlib.Data.List.Nodup

/-! Entries under keys, in the order in which they were made. -/

namespace Wire

variable {α β : Type}

theorem of_getElem?_concat {xs : List α} {x y : α} {j : ℕ} (h : (xs ++ [x])[j]? = some y) :
    xs[j]? = some y ∨ (j = xs.length ∧ y = x) := by
  rw [List.getElem?_append] at h
  split_ifs at h with hlt
  · exact .inl h
  · have hmem : y = x := by simpa using List.mem_of_getElem? h
    have hbound : j - xs.length < 1 := by
      obtain ⟨hzero, -⟩ := List.getElem?_eq_some_iff.mp h
      exact hzero
    exact .inr ⟨by omega, hmem⟩

theorem related_of_mem {R : α → β → Prop} {xs : List α} {ys : List β} {y : β}
    (h : List.Forall₂ R xs ys) (hy : y ∈ ys) : ∃ x ∈ xs, R x y := by
  induction h with
  | nil => cases hy
  | cons hone _ ih =>
    rcases List.mem_cons.mp hy with rfl | htail
    · exact ⟨_, List.mem_cons_self, hone⟩
    · obtain ⟨x, hx, hrelated⟩ := ih htail
      exact ⟨x, List.mem_cons_of_mem _ hx, hrelated⟩

theorem mapM_ok {ε : Type} {f : α → Except ε β} {xs : List α} {ys : List β}
    (h : xs.mapM f = .ok ys) :
    List.Forall₂ (fun x y => f x = .ok y) xs ys := by
  induction xs generalizing ys with
  | nil =>
    obtain rfl := Except.ok.inj h
    exact .nil
  | cons x xs ih =>
    rw [List.mapM_cons] at h
    obtain ⟨y, hy, h⟩ := bind_ok h
    obtain ⟨rest, hrest, h⟩ := bind_ok h
    obtain rfl := Except.ok.inj h
    exact .cons hy (ih hrest)

theorem exists_mapM {ε γ : Type} {f : α → Except ε β} {g : γ → β} {R : α → γ → Prop} {xs : List α}
    (h : ∀ x ∈ xs, ∃ y, f x = .ok (g y) ∧ R x y) :
    ∃ ys, xs.mapM f = .ok (ys.map g) ∧ List.Forall₂ R xs ys := by
  induction xs with
  | nil => exact ⟨[], rfl, .nil⟩
  | cons x xs ih =>
    obtain ⟨y, hy, hrelated⟩ := h x List.mem_cons_self
    obtain ⟨ys, hys, hall⟩ := ih fun other hother => h other (List.mem_cons_of_mem _ hother)
    refine ⟨y :: ys, ?_, .cons hrelated hall⟩
    rw [List.mapM_cons, hy, ok_bind, hys, ok_bind]
    rfl

theorem exists_split {xs : List α} {x : α} {k : ℕ} (x' : α) (hx : xs[k]? = some x) :
    ∃ front back, xs = front ++ x :: back ∧ xs.set k x' = front ++ x' :: back := by
  obtain ⟨hlt, rfl⟩ := List.getElem?_eq_some_iff.mp hx
  obtain ⟨front, back, hsplit, -, hset⟩ := List.exists_of_set hlt
  exact ⟨front, back, hsplit, hset⟩

/-- An entry of two lists one after the other is one of the first or one of the second. -/
theorem append_split {xs ys front back : List α} {x : α} (h : xs ++ ys = front ++ x :: back) :
    (∃ rest, xs = front ++ x :: rest ∧ back = rest ++ ys) ∨
      ∃ rest, front = xs ++ rest ∧ ys = rest ++ x :: back := by
  rcases List.append_eq_append_iff.mp h with ⟨rest, hfront, hys⟩ | ⟨rest, hxs, hback⟩
  · exact .inr ⟨rest, hfront, hys⟩
  · rcases List.cons_eq_append_iff.mp hback with ⟨rfl, hys⟩ | ⟨rest', rfl, hback⟩
    · exact .inr ⟨[], by rw [hxs, List.append_nil, List.append_nil], hys⟩
    · exact .inl ⟨rest', hxs, List.tail_eq_of_cons_eq hback⟩

theorem map_set_same {f : α → β} {xs : List α} {x x' : α} {k : ℕ} (hx : xs[k]? = some x)
    (hsame : f x' = f x) : (xs.set k x').map f = xs.map f := by
  obtain ⟨front, back, rfl, hset⟩ := exists_split x' hx
  rw [hset]
  simp only [List.map_append, List.map_cons, hsame]

/-- An entry that is replaced by one with a value gives one value more. -/
theorem filterMap_set_perm {f : α → Option β} {xs : List α} {x x' : α} {y : β} {k : ℕ}
    (hx : xs[k]? = some x) (hnone : f x = none) (hsome : f x' = some y) :
    ((xs.set k x').filterMap f).Perm (y :: xs.filterMap f) := by
  obtain ⟨front, back, rfl, hset⟩ := exists_split x' hx
  rw [hset]
  simp only [List.filterMap_append, List.filterMap_cons, hnone, hsome]
  exact List.perm_middle

theorem filterMap_set_same {f : α → Option β} {xs : List α} {x x' : α} {k : ℕ}
    (hx : xs[k]? = some x) (hsame : f x' = f x) :
    (xs.set k x').filterMap f = xs.filterMap f := by
  obtain ⟨front, back, rfl, hset⟩ := exists_split x' hx
  rw [hset]
  simp only [List.filterMap_append, List.filterMap_cons, hsame]

/-- A rearrangement that gives no place a value of an earlier one leaves each value where it is. -/
theorem eq_of_perm_of_later {xs ys : List α} (hnodup : xs.Nodup) (hperm : ys.Perm xs)
    (hlater : ∀ (k : ℕ) (y : α), ys[k]? = some y → ∃ j : ℕ, k ≤ j ∧ xs[j]? = some y) :
    ys = xs := by
  induction xs using List.reverseRecOn generalizing ys with
  | nil => exact hperm.eq_nil
  | append_singleton xs x ih =>
    have hlength : ys.length = xs.length + 1 := by simpa using hperm.length_eq
    have hne : ys ≠ [] := by
      rintro rfl
      simp at hlength
    obtain ⟨front, y, rfl⟩ := List.eq_nil_or_concat' ys |>.resolve_left hne
    have hfront : front.length = xs.length := by simpa using hlength
    have hlast : y = x := by
      obtain ⟨j, hj, hvalue⟩ := hlater front.length y (by simp)
      have hbound := (List.getElem?_eq_some_iff.mp hvalue).1
      have heq : j = xs.length := by simp at hbound; omega
      simpa [heq] using hvalue.symm
    subst hlast
    have hpermfront : front.Perm xs := (List.perm_append_right_iff _).mp hperm
    have hnotin : y ∉ front := by
      intro hmem
      have hmem' := hpermfront.mem_iff.mp hmem
      exact (List.nodup_append.mp hnodup).2.2 y hmem' y (List.mem_singleton_self _) rfl
    rw [ih (List.nodup_append.mp hnodup).1 hpermfront fun k z hz => ?_]
    have hk : k < front.length := (List.getElem?_eq_some_iff.mp hz).1
    obtain ⟨j, hj, hvalue⟩ := hlater k z (by rw [List.getElem?_append_left hk, hz])
    rcases of_getElem?_concat hvalue with hbefore | ⟨-, rfl⟩
    · exact ⟨j, hj, hbefore⟩
    · exact absurd (List.mem_of_getElem? hz) hnotin

section Keys

variable [BEq α] [LawfulBEq α] {entries : List (α × β)} {key : α} {value : β}

theorem lookup_mem (h : entries.lookup key = some value) : (key, value) ∈ entries := by
  obtain ⟨front, back, hsplit, -⟩ := List.lookup_eq_some_iff.mp h
  simp [hsplit]

theorem not_mem_of_lookup (h : entries.lookup key = none) : (key, value) ∉ entries := by
  intro hmem
  have hother := List.lookup_eq_none_iff.mp h _ hmem
  simp at hother

/-- A key of its own goes last. -/
theorem nodup_concat (h : (entries.map Prod.fst).Nodup) (hnew : entries.lookup key = none) :
    ((entries ++ [(key, value)]).map Prod.fst).Nodup := by
  rw [List.map_append, List.nodup_append]
  refine ⟨h, List.nodup_singleton _, ?_⟩
  intro k hk k' hk' heq
  obtain ⟨entry, hentry, rfl⟩ := List.mem_map.mp hk
  have hkey : k' = key := by simpa using hk'
  have hmem : (key, entry.2) ∈ entries := by
    rw [← hkey, ← heq]
    exact hentry
  exact not_mem_of_lookup hnew hmem

end Keys

end Wire
