/-
# Facts about tables

What the operations of tables do to their entries, their keys and their sizes, and what is found
once many entries are written.
-/
import GuidedXml.Table
import Mathlib.Data.List.Nodup

namespace GuidedXml.Table

variable {κ α β : Type} [DecidableEq κ] {k : κ} {a : α} {es : List (κ × α)}

/-! ## Entries and sizes -/

theorem mem_entries_of_get? {t : Table κ α} {k : κ} {a : α} (hk : t.get? k = some a) :
    (k, a) ∈ t.entries := by
  obtain ⟨es⟩ := t
  induction es with
  | nil => simp [get?, lookup] at hk
  | cons e es ih =>
    obtain ⟨j, b⟩ := e
    simp only [get?, lookup] at hk
    split_ifs at hk with hj
    · simp [hj, Option.some.inj hk]
    · exact List.mem_cons_of_mem _ (ih hk)

theorem mem_keys_of_get? {t : Table κ α} (hk : t.get? k = some a) : k ∈ t.keys :=
  List.mem_map_of_mem (mem_entries_of_get? hk)

theorem size_modify (t : Table κ α) (k : κ) (f : α → α) : (t.modify k f).size = t.size :=
  List.length_map _

theorem size_erase_le (t : Table κ α) (k : κ) : (t.erase k).size ≤ t.size :=
  List.length_filter_le _ _

/-- Erasing a key that is there makes the table smaller. -/
theorem size_erase_lt {t : Table κ α} {k : κ} {a : α} (hk : t.get? k = some a) :
    (t.erase k).size < t.size := by
  apply List.length_filter_lt_length_iff_exists.mpr
  exact ⟨(k, a), mem_entries_of_get? hk, by simp⟩

theorem get?_eq_none_of_size {t : Table κ α} (ht : t.size = 0) (k : κ) : t.get? k = none := by
  rw [get?, List.eq_nil_of_length_eq_zero ht]
  rfl

/-! ## Writing -/

/-- What is read of the entries is written like the entries. -/
theorem map_write (f : α → β) (k : κ) (a : α) (es : List (κ × α)) :
    (write k a es).map (fun x => (x.1, f x.2)) = write k (f a) (es.map fun x => (x.1, f x.2)) := by
  induction es with
  | nil => rfl
  | cons x es ih =>
    simp only [write, List.map_cons]
    split_ifs
    · rfl
    · rw [List.map_cons, ih]

/-- A value that is there already can be written without any change. -/
theorem write_of_lookup (hl : lookup k es = some a) : write k a es = es := by
  induction es with
  | nil => simp [lookup] at hl
  | cons x es ih =>
    rw [lookup] at hl
    rw [write]
    split_ifs at hl ⊢ with hx
    · rw [← Option.some.inj hl, ← hx]
    · rw [ih hl]

theorem insert_of_get? {t : Table κ α} (hk : t.get? k = some a) : t.insert k a = t :=
  congrArg mk (write_of_lookup hk)

/-- A change that changes no value of the key changes nothing. -/
theorem modify_eq_self {t : Table κ α} {f : α → α} (hf : ∀ x ∈ t.entries, x.1 = k → f x.2 = x.2) :
    t.modify k f = t := by
  have hsame : t.entries.map (fun x => if x.1 = k then (x.1, f x.2) else x) = t.entries := by
    refine (List.map_congr_left fun x hx => ?_).trans (List.map_id _)
    split_ifs with hxk
    · exact Prod.ext rfl (hf x hx hxk)
    · rfl
  exact congrArg mk hsame

/-- An entry of a table that was modified comes from an entry for the same key. -/
theorem exists_of_mem_modify {t : Table κ α} {f : α → α} {x : κ × α}
    (hx : x ∈ (t.modify k f).entries) :
    ∃ y ∈ t.entries, y.1 = x.1 ∧ x.2 = if x.1 = k then f y.2 else y.2 := by
  obtain ⟨y, hy, rfl⟩ := List.mem_map.mp hx
  refine ⟨y, hy, ?_⟩
  split_ifs
  · exact ⟨rfl, rfl⟩
  · exact ⟨rfl, rfl⟩

theorem mem_of_mem_write {x : κ × α} (hx : x ∈ write k a es) : x = (k, a) ∨ x ∈ es := by
  induction es with
  | nil => exact Or.inl (List.mem_singleton.mp hx)
  | cons y es ih =>
    rw [write] at hx
    split_ifs at hx
    · exact (List.mem_cons.mp hx).imp_right (List.mem_cons_of_mem _)
    · rcases List.mem_cons.mp hx with rfl | hx
      · exact Or.inr (List.mem_cons_self ..)
      · exact (ih hx).imp_right (List.mem_cons_of_mem _)

/-- A key that is written is there once. -/
theorem nodup_keys_write (hnd : (es.map Prod.fst).Nodup) :
    ((write k a es).map Prod.fst).Nodup := by
  induction es with
  | nil => exact List.nodup_singleton k
  | cons y es ih =>
    obtain ⟨hnew, hnd⟩ := List.nodup_cons.mp hnd
    rw [write]
    split_ifs with hk
    · exact List.nodup_cons.mpr ⟨hk ▸ hnew, hnd⟩
    · refine List.nodup_cons.mpr ⟨fun hmem => ?_, ih hnd⟩
      obtain ⟨x, hx, heq⟩ := List.mem_map.mp hmem
      rcases mem_of_mem_write hx with rfl | hx
      · exact hk heq.symm
      · exact hnew (heq ▸ List.mem_map_of_mem hx)

/-- A key without an entry has no value. -/
theorem lookup_eq_none (hk : k ∉ es.map Prod.fst) : lookup k es = none := by
  induction es with
  | nil => rfl
  | cons e es ih =>
    rw [List.map_cons, List.mem_cons, not_or] at hk
    rw [lookup, if_neg (Ne.symm hk.1), ih hk.2]

/-- Of entries that are written one after the other, each with a key of its own, all are found, and
else what was there. -/
theorem get?_foldl_insert (hnd : (es.map Prod.fst).Nodup) (t : Table κ α) (k : κ) :
    (es.foldl (fun t e => t.insert e.1 e.2) t).get? k = (lookup k es).or (t.get? k) := by
  induction es generalizing t with
  | nil => rfl
  | cons e es ih =>
    obtain ⟨hnew, hnd⟩ := List.nodup_cons.mp hnd
    rw [List.foldl_cons, ih hnd, get?_insert, lookup]
    by_cases hk : k = e.1
    · subst hk
      rw [if_pos rfl, if_pos rfl, lookup_eq_none hnew]
      rfl
    · rw [if_neg hk, if_neg (Ne.symm hk)]

/-- A list that was put is there unless it is empty. -/
theorem get?_putList (t : Table κ (List α)) (k k' : κ) (as : List α) :
    (t.putList k as).get? k' =
      if k' = k then (if as.isEmpty then none else some as) else t.get? k' := by
  cases as with
  | nil => exact get?_erase t k k'
  | cons a as => exact get?_insert t k k' _

/-! ## Entries for other keys -/

section Others

variable {q : κ → Bool}

/-- Writing a key leaves the entries for the other keys where they are. -/
theorem filter_write (hq : q k = false) (a : α) (es : List (κ × α)) :
    (write k a es).filter (fun e => q e.1) = es.filter fun e => q e.1 := by
  induction es with
  | nil => simp [write, hq]
  | cons e es ih =>
    obtain ⟨j, b⟩ := e
    rw [write]
    split_ifs with hj
    · subst hj
      simp [hq]
    · rw [List.filter_cons, List.filter_cons, ih]

/-- Erasing a key leaves the entries for the other keys where they are. -/
theorem filter_erase (hq : q k = false) (t : Table κ α) :
    (t.erase k).entries.filter (fun e => q e.1) = t.entries.filter fun e => q e.1 := by
  rw [erase, List.filter_filter]
  refine List.filter_congr fun e _ => ?_
  by_cases he : e.1 = k
  · simp [he, hq]
  · simp [he]

/-- A key without a value has no entry. -/
theorem ne_of_get?_eq_none {t : Table κ α} (hk : t.get? k = none) : ∀ e ∈ t.entries, e.1 ≠ k := by
  obtain ⟨es⟩ := t
  change lookup k es = none at hk
  induction es with
  | nil => simp
  | cons e es ih =>
    obtain ⟨j, b⟩ := e
    rw [lookup] at hk
    split_ifs at hk with hj
    exact List.forall_mem_cons.mpr ⟨hj, ih hk⟩

/-- Tables that agree off some keys are the same if these keys have no values in either. -/
theorem eq_of_filter {t t' : Table κ α}
    (hoff : t'.entries.filter (fun e => q e.1) = t.entries.filter fun e => q e.1)
    (ht : ∀ k, q k = false → t.get? k = none) (ht' : ∀ k, q k = false → t'.get? k = none) :
    t' = t := by
  have hall : ∀ {t : Table κ α}, (∀ k, q k = false → t.get? k = none) →
      t.entries.filter (fun e => q e.1) = t.entries := by
    intro t ht
    refine List.filter_eq_self.mpr fun e he => ?_
    by_contra hq
    rw [Bool.not_eq_true] at hq
    exact ne_of_get?_eq_none (ht e.1 hq) e he rfl
  rw [hall ht, hall ht'] at hoff
  obtain ⟨es⟩ := t
  exact congrArg Table.mk hoff

end Others

/-- A table is empty if no key has a value. -/
theorem isEmpty_iff {t : Table κ α} : t.isEmpty = true ↔ ∀ k, t.get? k = none := by
  rw [isEmpty, List.isEmpty_iff]
  constructor
  · intro hnil k
    rw [get?, hnil]
    rfl
  · intro hnone
    refine List.eq_nil_iff_forall_not_mem.mpr fun e he => ?_
    exact ne_of_get?_eq_none (hnone e.1) e he rfl

end GuidedXml.Table
