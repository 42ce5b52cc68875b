import FeedLink.Proofs.Json.RoundTrip
import Mathlib.Data.List.Nodup
import Mathlib.Order.Defs.LinearOrder
import Mathlib.Data.String.Basic

/-!
# Fields in order

Sorting the fields of an object changes which field is where, not what stands under a key, as long
as no key is there twice. What has been read from a text is in order already, at every level.

## Main results

* `lookup_sortFields` — what stands under a key after sorting
* `Ascending.eq_of_lookup` — fields in ascending order are what stands under their keys
* `Value.field?_sorted` — the fields of an object in order
* `Value.sorted_congr` — an object in order does not show in which order its fields were
* `Document.sorted_of_value` — what has been read is in order
-/

namespace FeedLink.Json

variable {α : Type} {key k : String}

/-! ### What stands under a key -/

theorem lookup_insertField (value : α) (fields : List (String × α)) :
    lookup k (insertField key value fields) = if key = k then some value else lookup k fields := by
  induction fields with
  | nil => rfl
  | cons field rest ih =>
    obtain ⟨l, v⟩ := field
    unfold insertField
    split
    · rfl
    · split
      · next heq =>
        subst heq
        simp only [lookup]
        split <;> rfl
      · next hne =>
        simp only [lookup, ih]
        split
        · next hl =>
          subst hl
          rw [if_neg hne]
        · rfl

theorem lookup_eq_none_iff {fields : List (String × α)} :
    lookup k fields = none ↔ k ∉ fields.map Prod.fst := by
  induction fields with
  | nil => simp [lookup]
  | cons field rest ih =>
    obtain ⟨l, v⟩ := field
    simp only [lookup, List.map_cons, List.mem_cons, not_or]
    split
    · next heq => simp [heq]
    · next hne => simp [ih, Ne.symm hne]

private theorem lookup_foldl {fields : List (String × α)} (hkeys : (fields.map Prod.fst).Nodup)
    (sorted : List (String × α)) :
    lookup k (fields.foldl (fun sorted f => insertField f.1 f.2 sorted) sorted) =
      (lookup k fields).or (lookup k sorted) := by
  induction fields generalizing sorted with
  | nil => rfl
  | cons field rest ih =>
    obtain ⟨hnot, hkeys⟩ := List.nodup_cons.mp hkeys
    rw [List.foldl_cons, ih hkeys, lookup_insertField]
    obtain ⟨l, v⟩ := field
    simp only [lookup]
    split
    · next heq =>
      subst heq
      rw [lookup_eq_none_iff.mpr hnot, Option.none_or, Option.some_or]
    · rfl

/-- **Sorting changes nothing under a key** when no key is there twice. -/
theorem lookup_sortFields {fields : List (String × α)} (hkeys : (fields.map Prod.fst).Nodup)
    (k : String) : lookup k (sortFields fields) = lookup k fields :=
  (lookup_foldl hkeys []).trans (Option.or_none ..)

/-- **What is sorted after something else** takes its place under every key that it has. -/
theorem lookup_sortFields_append {fields fields' : List (String × α)}
    (hkeys : (fields.map Prod.fst).Nodup) (hkeys' : (fields'.map Prod.fst).Nodup) (k : String) :
    lookup k (sortFields (fields ++ fields')) = (lookup k fields').or (lookup k fields) := by
  have happend : sortFields (fields ++ fields') =
      fields'.foldl (fun sorted f => insertField f.1 f.2 sorted) (sortFields fields) :=
    List.foldl_append
  rw [happend, lookup_foldl hkeys', lookup_sortFields hkeys]

theorem lookup_of_mem {fields : List (String × α)} (hkeys : (fields.map Prod.fst).Nodup)
    {v : α} (hmem : (k, v) ∈ fields) : lookup k fields = some v := by
  induction fields with
  | nil => simp at hmem
  | cons field rest ih =>
    obtain ⟨hnot, hkeys⟩ := List.nodup_cons.mp hkeys
    rcases List.mem_cons.mp hmem with rfl | hmem
    · exact if_pos rfl
    · refine (if_neg ?_).trans (ih hkeys hmem)
      rintro rfl
      exact hnot (List.mem_map.mpr ⟨_, hmem, rfl⟩)

theorem mem_of_lookup {fields : List (String × α)} {v : α} (hlookup : lookup k fields = some v) :
    (k, v) ∈ fields := by
  induction fields with
  | nil => simp [lookup] at hlookup
  | cons field rest ih =>
    obtain ⟨l, w⟩ := field
    rw [lookup] at hlookup
    split at hlookup
    · next heq =>
      obtain rfl := Option.some.inj hlookup
      exact heq ▸ List.mem_cons_self ..
    · exact List.mem_cons_of_mem _ (ih hlookup)

/-- What stands under a key where what stands under every key was changed. -/
theorem lookup_map {β : Type} (g : α → β) (fields : List (String × α)) (k : String) :
    lookup k (fields.map fun f => (f.1, g f.2)) = (lookup k fields).map g := by
  induction fields with
  | nil => rfl
  | cons field rest ih =>
    obtain ⟨l, v⟩ := field
    simp only [List.map_cons, lookup, ih]
    split <;> rfl

/-- What stands under a key where fields were left out by their keys. -/
theorem lookup_filter (p : String → Prop) [DecidablePred p] (fields : List (String × α))
    (k : String) :
    lookup k (fields.filter fun f => p f.1) = if p k then lookup k fields else none := by
  induction fields with
  | nil => exact (ite_self none).symm
  | cons field rest ih =>
    obtain ⟨l, v⟩ := field
    by_cases hl : p l
    · have hcons : ((l, v) :: rest).filter (fun f => p f.1) =
          (l, v) :: rest.filter fun f => p f.1 := List.filter_cons_of_pos (decide_eq_true hl)
      rw [hcons, lookup, lookup, ih]
      by_cases hk : l = k
      · rw [if_pos hk, if_pos hk, if_pos (hk ▸ hl)]
      · rw [if_neg hk, if_neg hk]
    · have hcons : ((l, v) :: rest).filter (fun f => p f.1) = rest.filter fun f => p f.1 :=
        List.filter_cons_of_neg (by simpa using hl)
      rw [hcons, ih, lookup]
      by_cases hk : l = k
      · rw [if_neg (hk ▸ hl), if_neg (hk ▸ hl)]
      · rw [if_neg hk]

namespace Value

theorem sortedFields_eq_map (fields : List (String × Value)) :
    sortedFields fields = fields.map fun f => (f.1, f.2.sorted) := by
  induction fields with
  | nil => rfl
  | cons field rest ih =>
    obtain ⟨l, v⟩ := field
    rw [sortedFields, List.map_cons, ih]

theorem keys_sortedFields (fields : List (String × Value)) :
    (sortedFields fields).map Prod.fst = fields.map Prod.fst := by
  rw [sortedFields_eq_map, List.map_map]
  rfl

theorem lookup_sortedFields (k : String) (fields : List (String × Value)) :
    lookup k (sortedFields fields) = (lookup k fields).map sorted := by
  rw [sortedFields_eq_map, lookup_map]

/-- **The fields of an object in order** are its fields, each of them in order. -/
theorem field?_sorted {fields : List (String × Value)} (hkeys : (fields.map Prod.fst).Nodup)
    (k : String) : (Value.obj fields).sorted.field? k = (lookup k fields).map sorted := by
  rw [sorted, object, field?, lookup_sortFields (keys_sortedFields fields ▸ hkeys),
    lookup_sortedFields]

end Value

/-! ### Ascending keys -/

/-- The keys ascend. -/
def Ascending (fields : List (String × α)) : Prop := fields.Pairwise fun f g => f.1 < g.1

theorem ascending_filter {fields : List (String × α)} (hfields : Ascending fields)
    (p : String × α → Bool) : Ascending (fields.filter p) :=
  hfields.filter p

theorem Ascending.nodup_keys {fields : List (String × α)} (hfields : Ascending fields) :
    (fields.map Prod.fst).Nodup :=
  List.pairwise_map.mpr (hfields.imp ne_of_lt)

/-- In ascending order a field is there exactly if it is what stands under its key. -/
theorem Ascending.mem_iff {fields : List (String × α)} (hfields : Ascending fields) {v : α} :
    (k, v) ∈ fields ↔ lookup k fields = some v :=
  ⟨lookup_of_mem hfields.nodup_keys, mem_of_lookup⟩

/-- The order of fields in ascending order is no choice. -/
theorem Ascending.eq_of_perm {fields fields' : List (String × α)} (hfields : Ascending fields)
    (hfields' : Ascending fields') (hperm : fields.Perm fields') : fields = fields' :=
  hperm.eq_of_pairwise (fun _ _ _ _ hlt hgt => absurd hgt (lt_asymm hlt)) hfields hfields'

/-- **Fields in ascending order are what stands under their keys.** -/
theorem Ascending.eq_of_lookup {fields fields' : List (String × α)} (hfields : Ascending fields)
    (hfields' : Ascending fields') (hlookup : ∀ k, lookup k fields = lookup k fields') :
    fields = fields' := by
  refine hfields.eq_of_perm hfields' ((List.perm_ext_iff_of_nodup
    (hfields.nodup_keys.of_map Prod.fst) (hfields'.nodup_keys.of_map Prod.fst)).mpr ?_)
  rintro ⟨k, v⟩
  rw [hfields.mem_iff, hfields'.mem_iff, hlookup]

theorem mem_insertField {value : α} {fields : List (String × α)} {f : String × α}
    (hmem : f ∈ insertField key value fields) : f = (key, value) ∨ f ∈ fields := by
  induction fields with
  | nil => exact .inl (List.mem_singleton.mp hmem)
  | cons field rest ih =>
    obtain ⟨l, v⟩ := field
    unfold insertField at hmem
    split at hmem
    · exact List.mem_cons.mp hmem
    · split at hmem
      · exact (List.mem_cons.mp hmem).imp_right (List.mem_cons_of_mem _)
      · rcases List.mem_cons.mp hmem with rfl | hmem
        · exact .inr (List.mem_cons_self ..)
        · exact (ih hmem).imp_right (List.mem_cons_of_mem _)

theorem ascending_insertField {fields : List (String × α)} (hfields : Ascending fields)
    (key : String) (value : α) : Ascending (insertField key value fields) := by
  induction fields with
  | nil => exact List.pairwise_singleton ..
  | cons field rest ih =>
    obtain ⟨l, v⟩ := field
    obtain ⟨hfirst, hrest⟩ := List.pairwise_cons.mp hfields
    unfold insertField
    split
    · next hlt =>
      refine List.pairwise_cons.mpr ⟨fun f hf => ?_, hfields⟩
      rcases List.mem_cons.mp hf with rfl | hf
      · exact hlt
      · exact lt_trans hlt (hfirst f hf)
    · next hnlt =>
      split
      · next heq => exact List.pairwise_cons.mpr ⟨heq ▸ hfirst, hrest⟩
      · next hne =>
        refine List.pairwise_cons.mpr ⟨fun f hf => ?_, ih hrest⟩
        rcases mem_insertField hf with rfl | hf
        · exact lt_of_le_of_ne (not_lt.mp hnlt) (Ne.symm hne)
        · exact hfirst f hf

theorem ascending_sortFields (fields : List (String × α)) : Ascending (sortFields fields) := by
  have hfoldl : ∀ sorted : List (String × α), Ascending sorted →
      Ascending (fields.foldl (fun sorted f => insertField f.1 f.2 sorted) sorted) := by
    induction fields with
    | nil => exact fun _ hsorted => hsorted
    | cons f rest ih => exact fun _ hsorted => ih _ (ascending_insertField hsorted f.1 f.2)
  exact hfoldl [] List.Pairwise.nil

theorem mem_of_mem_sortFields {fields : List (String × α)} {f : String × α}
    (hmem : f ∈ sortFields fields) : f ∈ fields := by
  have hfoldl : ∀ sorted : List (String × α),
      f ∈ fields.foldl (fun sorted f => insertField f.1 f.2 sorted) sorted →
        f ∈ sorted ∨ f ∈ fields := by
    clear hmem
    induction fields with
    | nil => exact fun _ hmem => .inl hmem
    | cons g rest ih =>
      intro sorted hmem
      rcases ih _ hmem with hmem | hmem
      · rcases mem_insertField hmem with rfl | hmem
        · exact .inr (List.mem_cons_self ..)
        · exact .inl hmem
      · exact .inr (List.mem_cons_of_mem _ hmem)
  exact (hfoldl [] hmem).resolve_left List.not_mem_nil

/-- A field whose key is greater than all others comes last. -/
theorem insertField_last {value : α} {fields : List (String × α)}
    (hgreater : ∀ f ∈ fields, f.1 < key) :
    insertField key value fields = fields ++ [(key, value)] := by
  induction fields with
  | nil => rfl
  | cons field rest ih =>
    obtain ⟨l, v⟩ := field
    have hlt : l < key := hgreater _ (List.mem_cons_self ..)
    rw [insertField, if_neg (lt_asymm hlt), if_neg (ne_of_gt hlt),
      ih fun f hf => hgreater f (List.mem_cons_of_mem _ hf), List.cons_append]

theorem insertField_perm {value : α} {fields : List (String × α)}
    (hnew : key ∉ fields.map Prod.fst) :
    (insertField key value fields).Perm ((key, value) :: fields) := by
  induction fields with
  | nil => exact .refl _
  | cons field rest ih =>
    obtain ⟨l, v⟩ := field
    obtain ⟨hne, hnew⟩ : key ≠ l ∧ key ∉ rest.map Prod.fst := by simpa using hnew
    rw [insertField, if_neg hne]
    split
    · exact .refl _
    · exact ((ih hnew).cons _).trans (.swap ..)

theorem sortFields_perm {fields : List (String × α)} (hkeys : (fields.map Prod.fst).Nodup) :
    (sortFields fields).Perm fields := by
  have hfoldl : ∀ sorted : List (String × α), ((sorted ++ fields).map Prod.fst).Nodup →
      (fields.foldl (fun sorted f => insertField f.1 f.2 sorted) sorted).Perm
        (sorted ++ fields) := by
    clear hkeys
    induction fields with
    | nil => exact fun sorted _ => by simp
    | cons f rest ih =>
      intro sorted hkeys
      have hmiddle : (sorted ++ f :: rest).Perm (f :: (sorted ++ rest)) := List.perm_middle
      have hkeys' := (hmiddle.map Prod.fst).nodup_iff.mp hkeys
      have hnew : f.1 ∉ sorted.map Prod.fst := fun hmem =>
        (List.nodup_cons.mp hkeys').1 (by simpa using .inl (by simpa using hmem))
      have hinsert : (insertField f.1 f.2 sorted).Perm (f :: sorted) := insertField_perm hnew
      have happend := hinsert.append_right rest
      refine (ih _ ?_).trans (happend.trans hmiddle.symm)
      exact (happend.map Prod.fst).nodup_iff.mpr hkeys'
  exact hfoldl [] hkeys

/-- The order of fields does not matter where no key is there twice. -/
theorem sortFields_congr {fields fields' : List (String × α)}
    (hkeys : (fields.map Prod.fst).Nodup) (hperm : fields.Perm fields') :
    sortFields fields = sortFields fields' := by
  have hkeys' := (hperm.map Prod.fst).nodup_iff.mp hkeys
  exact (ascending_sortFields fields).eq_of_perm (ascending_sortFields fields')
    ((sortFields_perm hkeys).trans (hperm.trans (sortFields_perm hkeys').symm))

/-- Fields in ascending order stay as they are. -/
theorem sortFields_of_ascending {fields : List (String × α)} (hfields : Ascending fields) :
    sortFields fields = fields := by
  have hfoldl : ∀ sorted : List (String × α), (∀ f ∈ sorted, ∀ g ∈ fields, f.1 < g.1) →
      fields.foldl (fun sorted f => insertField f.1 f.2 sorted) sorted = sorted ++ fields := by
    induction fields with
    | nil => exact fun sorted _ => (List.append_nil sorted).symm
    | cons f rest ih =>
      obtain ⟨hfirst, hrest⟩ := List.pairwise_cons.mp hfields
      intro sorted hsorted
      have hlast : insertField f.1 f.2 sorted = sorted ++ [f] :=
        insertField_last fun g hg => hsorted g hg f (List.mem_cons_self ..)
      rw [List.foldl_cons, hlast, ih hrest, List.append_assoc, List.singleton_append]
      intro g hg g' hg'
      rcases List.mem_append.mp hg with hg | hg
      · exact hsorted g hg g' (List.mem_cons_of_mem _ hg')
      · obtain rfl := List.mem_singleton.mp hg
        exact hfirst g' hg'
  exact hfoldl [] (by simp)

/-! ### What has been read -/

namespace Value

/-- An object in order does not show in which order its fields were. -/
theorem sorted_congr {fields fields' : List (String × Value)}
    (hkeys : (fields.map Prod.fst).Nodup) (hperm : fields.Perm fields') :
    (Value.obj fields).sorted = (Value.obj fields').sorted := by
  have hsorted : (sortedFields fields).Perm (sortedFields fields') := by
    rw [sortedFields_eq_map, sortedFields_eq_map]
    exact hperm.map _
  rw [sorted, sorted, object, object, sortFields_congr (keys_sortedFields fields ▸ hkeys) hsorted]

theorem sortedFields_of_sorted {fields : List (String × Value)}
    (hfields : ∀ f ∈ fields, f.2.sorted = f.2) : sortedFields fields = fields := by
  rw [sortedFields_eq_map]
  have hsame : ∀ f ∈ fields, (f.1, f.2.sorted) = f := fun f hf => Prod.ext rfl (hfields f hf)
  rw [List.map_congr_left hsame, List.map_id']

end Value

/-! ### Results that may fail -/

theorem bind_eq_ok_iff {ε β : Type} {x : Except ε α} {f : α → Except ε β} {b : β} :
    (x >>= f) = .ok b ↔ ∃ a, x = .ok a ∧ f a = .ok b := by
  constructor
  · intro hbind
    cases x with
    | error e => contradiction
    | ok a => exact ⟨a, rfl, hbind⟩
  · rintro ⟨a, rfl, hok⟩
    exact hok

theorem map_eq_ok_iff {ε β : Type} {x : Except ε α} {f : α → β} {b : β} :
    x.map f = .ok b ↔ ∃ a, x = .ok a ∧ f a = b := by
  constructor
  · intro hmap
    cases x with
    | error e => contradiction
    | ok a => exact ⟨a, rfl, Except.ok.inj hmap⟩
  · rintro ⟨a, rfl, rfl⟩
    rfl

namespace Document

open Value

theorem ending_eq_ok {stop : Option Fault} {a b : α} (hending : ending stop a = .ok b) : a = b := by
  unfold ending at hending
  split at hending
  · exact Except.ok.inj hending
  · contradiction

mutual

/-- **What has been read is in order.** -/
theorem sorted_of_value (d : Document) {v : Value} (hvalue : d.value = .ok v) : v.sorted = v := by
  cases d with
  | null | bool | num | str =>
    obtain rfl := Except.ok.inj hvalue
    rfl
  | faulty => contradiction
  | arr deep items stop =>
    cases deep with
    | true => contradiction
    | false =>
      obtain ⟨vs, hvalues, hending⟩ := bind_eq_ok_iff.mp hvalue
      obtain rfl := ending_eq_ok hending
      rw [sorted, sortedItems_of_values items hvalues]
  | obj deep fields stop =>
    cases deep with
    | true => contradiction
    | false =>
      obtain ⟨vs, hvalues, hending⟩ := bind_eq_ok_iff.mp hvalue
      obtain rfl := ending_eq_ok hending
      have hsorted := sorted_of_fieldValues fields hvalues
      rw [object, sorted, sortedFields_of_sorted fun f hf => hsorted f (mem_of_mem_sortFields hf),
        object, sortFields_of_ascending (ascending_sortFields vs)]

theorem sortedItems_of_values (items : List Document) {vs : List Value}
    (hvalues : values items = .ok vs) : sortedItems vs = vs := by
  cases items with
  | nil =>
    obtain rfl := Except.ok.inj hvalues
    rfl
  | cons d rest =>
    obtain ⟨v, hvalue, hbind⟩ := bind_eq_ok_iff.mp hvalues
    obtain ⟨vs, hrest, hok⟩ := bind_eq_ok_iff.mp hbind
    obtain rfl := Except.ok.inj hok
    rw [sortedItems, sorted_of_value d hvalue, sortedItems_of_values rest hrest]

theorem sorted_of_fieldValues (fields : List (Key × Document)) {vs : List (String × Value)}
    (hvalues : fieldValues fields = .ok vs) : ∀ f ∈ vs, f.2.sorted = f.2 := by
  cases fields with
  | nil =>
    obtain rfl := Except.ok.inj hvalues
    simp
  | cons field rest =>
    obtain ⟨key, d⟩ := field
    cases key with
    | unpaired => contradiction
    | text key =>
      obtain ⟨v, hvalue, hbind⟩ := bind_eq_ok_iff.mp hvalues
      obtain ⟨vs, hrest, hok⟩ := bind_eq_ok_iff.mp hbind
      obtain rfl := Except.ok.inj hok
      intro f hf
      rcases List.mem_cons.mp hf with rfl | hf
      · exact sorted_of_value d hvalue
      · exact sorted_of_fieldValues rest hrest f hf

end

end Document

/-- A value in order stays as it is. -/
theorem Value.sorted_sorted (v : Value) : v.sorted.sorted = v.sorted :=
  (Document.ofValue v).sorted_of_value (Document.value_ofValue v)

end FeedLink.Json
