import FeedLink.Table
import Mathlib.Data.List.Nodup
import Mathlib.Data.List.Perm.Basic

/-!
# Tables with distinct keys

Most of what is said about a table is said through `Table.get?`, and two tables that find the same
are as good as equal. Where a table is walked through entry by entry that is not enough: an entry
that no look-up finds would be walked over too. `Distinct` rules such entries out, and every
operation keeps it.

## Main results

* `mem_iff_get?` — the entries of a table are what its look-ups find
* `perm_cons_erase` — taking out a key takes out one entry
* `erase_set_of_none` — putting in an entry under a new key can be undone
-/

namespace FeedLink

namespace Table

variable {α β : Type} [DecidableEq α]

/-- No two entries of a table have the same key. -/
def Distinct (t : Table α β) : Prop := (keys t).Nodup

theorem erase_eq_filter (key : α) (t : Table α β) :
    erase key t = t.filter fun e => e.1 ≠ key := by
  induction t with
  | nil => rfl
  | cons e rest ih =>
    obtain ⟨k, v⟩ := e
    by_cases hk : k = key <;> simp [erase, hk, ih]

theorem erase_sublist (key : α) (t : Table α β) : (erase key t).Sublist t := by
  rw [erase_eq_filter]
  exact List.filter_sublist

theorem mem_of_get? {key : α} {value : β} {t : Table α β} (h : get? key t = some value) :
    (key, value) ∈ t := by
  induction t with
  | nil => simp at h
  | cons e rest ih =>
    obtain ⟨k, v⟩ := e
    by_cases hk : k = key
    · obtain rfl : v = value := by simpa [get?, hk] using h
      simp [hk]
    · exact List.mem_cons_of_mem _ (ih (by simpa [get?, hk] using h))

theorem get?_eq_none_iff {key : α} {t : Table α β} : get? key t = none ↔ key ∉ keys t := by
  induction t with
  | nil => simp [keys]
  | cons e rest ih =>
    obtain ⟨k, v⟩ := e
    by_cases hk : k = key
    · simp [get?, keys, hk]
    · simpa [get?, keys, hk, Ne.symm hk] using ih

/-- **The entries of a table are what its look-ups find.** -/
theorem mem_iff_get? {t : Table α β} (ht : Distinct t) {key : α} {value : β} :
    (key, value) ∈ t ↔ get? key t = some value := by
  refine ⟨fun hm => ?_, mem_of_get?⟩
  induction t with
  | nil => simp at hm
  | cons e rest ih =>
    obtain ⟨k, v⟩ := e
    obtain ⟨hk, hrest⟩ := List.nodup_cons.mp ht
    rcases List.mem_cons.mp hm with h | h
    · obtain ⟨rfl, rfl⟩ := Prod.mk.injEq .. ▸ h
      simp [get?]
    · have hne : k ≠ key := by
        rintro rfl
        have hmem : k ∈ keys rest := List.mem_map_of_mem (f := Prod.fst) h
        exact hk hmem
      simpa [get?, hne] using ih hrest h

omit [DecidableEq α] in
theorem distinct_nil : Distinct ([] : Table α β) := List.nodup_nil

theorem distinct_erase {t : Table α β} (ht : Distinct t) (key : α) : Distinct (erase key t) :=
  ht.sublist ((erase_sublist key t).map _)

theorem distinct_set {t : Table α β} (ht : Distinct t) (key : α) (value : β) :
    Distinct (set key value t) := by
  refine List.nodup_cons.mpr ⟨?_, distinct_erase ht key⟩
  exact get?_eq_none_iff.mp (get?_erase_self key t)

theorem erase_of_none {key : α} {t : Table α β} (h : get? key t = none) : erase key t = t := by
  rw [erase_eq_filter, List.filter_eq_self]
  intro e he
  have hk : key ∉ keys t := get?_eq_none_iff.mp h
  have : e.1 ≠ key := by
    rintro rfl
    exact hk (List.mem_map_of_mem he)
  simpa using this

theorem erase_erase_self (key : α) (t : Table α β) : erase key (erase key t) = erase key t :=
  erase_of_none (get?_erase_self key t)

theorem set_of_none {key : α} {t : Table α β} (h : get? key t = none) (value : β) :
    set key value t = (key, value) :: t := by
  rw [set, erase_of_none h]

/-- Putting in an entry under a new key can be undone. -/
theorem erase_set_of_none {key : α} {t : Table α β} (h : get? key t = none) (value : β) :
    erase key (set key value t) = t := by
  rw [set, erase, if_pos rfl, erase_erase_self, erase_of_none h]

/-- **Taking out a key takes out one entry.** -/
theorem perm_cons_erase {t : Table α β} (ht : Distinct t) {key : α} {value : β}
    (h : get? key t = some value) : t.Perm ((key, value) :: erase key t) := by
  induction t with
  | nil => simp at h
  | cons e rest ih =>
    obtain ⟨k, v⟩ := e
    obtain ⟨hk, hrest⟩ := List.nodup_cons.mp ht
    by_cases hkey : k = key
    · subst hkey
      obtain rfl : v = value := by simpa [get?] using h
      rw [erase, if_pos rfl, erase_of_none (get?_eq_none_iff.mpr hk)]
    · rw [erase, if_neg hkey]
      have hperm := ih hrest (by simpa [get?, hkey] using h)
      exact (hperm.cons _).trans (List.Perm.swap ..)

theorem get?_of_perm {t t' : Table α β} (hp : t.Perm t') (ht : Distinct t) (key : α) :
    get? key t = get? key t' := by
  have ht' : Distinct t' := (hp.map Prod.fst).nodup_iff.mp ht
  refine Option.ext fun value => ?_
  rw [← mem_iff_get? ht, ← mem_iff_get? ht', hp.mem_iff]

/-- Only the entries under a key are looked at. -/
theorem get?_filter (key : α) (t : Table α β) :
    get? key (t.filter fun e => e.1 = key) = get? key t := by
  induction t with
  | nil => rfl
  | cons e rest ih =>
    obtain ⟨k, v⟩ := e
    by_cases hk : k = key
    · rw [List.filter_cons_of_pos (by simpa using hk), get?, get?, if_pos hk, if_pos hk]
    · rw [List.filter_cons_of_neg (by simpa using hk), get?, if_neg hk, ih]

/-! ### Tables with one entry -/

theorem get?_of_single {key : α} {value : β} {t : Table α β} (ht : t = [(key, value)]) :
    get? key t = some value := by
  rw [ht, get?, if_pos rfl]

theorem eq_of_single {key other : α} {value value' : β} {t : Table α β} (ht : t = [(key, value)])
    (hget : get? other t = some value') : key = other ∧ value = value' := by
  rw [ht, get?] at hget
  split at hget
  · next heq => exact ⟨heq, Option.some.inj hget⟩
  · contradiction

theorem erase_of_single {key : α} {value : β} {t : Table α β} (ht : t = [(key, value)]) :
    erase key t = [] := by
  rw [ht, erase, if_pos rfl, erase]

/-! ### Whether there is an entry -/

theorem has_eq_false_iff {key : α} {t : Table α β} : has key t = false ↔ get? key t = none := by
  simp [has]

theorem has_eq_true_iff {key : α} {t : Table α β} :
    has key t = true ↔ ∃ value, get? key t = some value := by
  simp [has, Option.isSome_iff_exists]

end Table

end FeedLink
