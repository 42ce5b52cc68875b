import FeedLink.Proofs.Json.Outline
import Mathlib.Data.List.Nodup

/-!
# Reading the fields that a record knows

A record whose fields have one name each takes from an object what stands under these names, and
nothing else: whatever else the object has makes no difference, and neither does the order. So the
object is read as soon as every value under a known name is, and every field that may not be missing
is there, and what the record is then can be told name by name. This holds of records that have
fields which may not be missing, which are not independent in the sense of `Record.Independent`.

## Main definitions

* `Field.Receives` — a field has what an object gives it
* `Record.Plain` — the fields of a record have one name each, and none touches another
* `Record.known` — the fields of an object that are read

## Main results

* `Record.Plain.exists_takes` — an object is read field by field
* `Record.Plain.exists_ofValue_obj` — what becomes of the object
* `Record.ofValue_object_congr` — what is read of an object is told by the fields that are known
-/

namespace FeedLink.Json

variable {α β σ : Type}

namespace Field

variable {name name' : String} {c : Codec α} {c' : Codec β} {get : σ → α} {get' : σ → β}
  {set : α → σ → σ} {set' : β → σ → σ}

@[simp] theorem name_required : (required name c get set).name = name := rfl

@[simp] theorem spares_required_left {g : Field σ} :
    (required name c get set).Spares g ↔ (defaulted name c get set).Spares g := .rfl

@[simp] theorem spares_required_right {f : Field σ} :
    f.Spares (required name c get set) ↔ f.Spares (defaulted name c get set) := .rfl

/-- What an object gives to a field: nothing, and then the field is as it was before, or a value,
and then the field is as the value says. -/
def Receives (f : Field σ) (given : Option Value) (before after : σ) : Prop :=
  match given with
  | none => f.write after = f.write before
  | some v => ∃ put s, f.read (.ofValue v) = .ok put ∧ f.write after = f.write (put s)

theorem Receives.congr {f : Field σ} {given : Option Value} {before before' after : σ}
    (hreceives : f.Receives given before after) (hbefore : f.write before = f.write before') :
    f.Receives given before' after := by
  cases given with
  | none => exact hreceives.trans hbefore
  | some v => exact hreceives

/-- A field of a codec has what its codec reads. -/
theorem receives_defaulted_iff (hwrite : Function.Injective c.write)
    (hget : ∀ a s, get (set a s) = a) {given : Option Value} {before after : σ} :
    (defaulted name c get set).Receives given before after ↔
      match given with
      | none => get after = get before
      | some v => c.ofValue v = .ok (get after) := by
  cases given with
  | none => exact write_defaulted_eq_iff hwrite
  | some v =>
    constructor
    · rintro ⟨put, s, hread, hafter⟩
      obtain ⟨a, hvalue, rfl⟩ := exists_of_read_defaulted hread
      rw [(write_defaulted_eq_iff hwrite).mp hafter, hget]
      exact hvalue
    · intro hvalue
      refine ⟨set (get after), after, map_eq_ok_iff.mpr ⟨_, hvalue, rfl⟩, ?_⟩
      exact (write_defaulted_eq_iff hwrite).mpr (hget _ _).symm

theorem receives_required_iff (hwrite : Function.Injective c.write)
    (hget : ∀ a s, get (set a s) = a) {given : Option Value} {before after : σ} :
    (required name c get set).Receives given before after ↔
      match given with
      | none => get after = get before
      | some v => c.ofValue v = .ok (get after) :=
  (receives_defaulted_iff hwrite hget : (defaulted name c get set).Receives given before after ↔ _)

end Field

theorem lookup_cons_of_ne {k key : String} {v : α} {fields : List (String × α)} (hne : k ≠ key) :
    lookup k ((key, v) :: fields) = lookup k fields := by
  rw [lookup, if_neg (Ne.symm hne)]

theorem lookup_cons_self {key : String} {v : α} {fields : List (String × α)} :
    lookup key ((key, v) :: fields) = some v := by
  rw [lookup, if_pos rfl]

namespace Record

/-- The fields of a record have one name each, no two the same, and none touches another. -/
structure Plain (r : Record σ) : Prop where
  names : (r.fields.map Field.name).Nodup
  noAliases : ∀ f ∈ r.fields, f.aliases = []
  separate : r.Separate

variable {r : Record σ} {fields : List (String × Value)} {p : Partial σ} {f g : Field σ}
  {key : String} {v : Value} {put : σ → σ}

/-- What has been met stays met. -/
theorem Takes.mem_met {p q : Partial σ} (htakes : r.Takes fields p q) {name : String}
    (hmet : name ∈ p.met) : name ∈ q.met := by
  induction htakes with
  | nil => exact hmet
  | skip _ _ ih => exact ih hmet
  | take _ _ _ _ ih => exact ih (List.mem_cons_of_mem _ hmet)

namespace Plain

theorem answersTo_iff (hplain : r.Plain) (hf : f ∈ r.fields) :
    f.answersTo key = true ↔ f.name = key := by
  simp [Field.answersTo, hplain.noAliases f hf]

theorem find?_eq_none_iff (hplain : r.Plain) :
    r.fields.find? (·.answersTo key) = none ↔ ∀ f ∈ r.fields, f.name ≠ key := by
  rw [List.find?_eq_none]
  exact forall₂_congr fun f hf => not_congr (hplain.answersTo_iff hf)

theorem eq_of_name (hplain : r.Plain) (hf : f ∈ r.fields) (hg : g ∈ r.fields)
    (hname : f.name = g.name) : f = g :=
  List.inj_on_of_nodup_map hplain.names hf hg hname

/-- An object is read field by field, if every value under the name of a field is read. -/
theorem exists_takes (hplain : r.Plain) (hkeys : (fields.map Prod.fst).Nodup)
    (hread : ∀ f ∈ r.fields, ∀ v, lookup f.name fields = some v →
      ∃ put, f.read (.ofValue v) = .ok put)
    (hnew : ∀ key ∈ fields.map Prod.fst, key ∉ p.met) :
    ∃ q, r.Takes fields p q ∧
      (∀ f ∈ r.fields, f.Receives (lookup f.name fields) p.record q.record) ∧
      ∀ f ∈ r.fields, (lookup f.name fields).isSome → f.name ∈ q.met := by
  induction fields generalizing p with
  | nil => exact ⟨p, .nil p, fun f _ => rfl, fun f _ hsome => by contradiction⟩
  | cons field rest ih =>
    obtain ⟨key, v⟩ := field
    obtain ⟨hkey, hrest⟩ := List.nodup_cons.mp hkeys
    have hgone : lookup key rest = none := lookup_eq_none_iff.mpr hkey
    have hread' : ∀ f ∈ r.fields, ∀ v, lookup f.name rest = some v →
        ∃ put, f.read (.ofValue v) = .ok put := by
      intro f hf w hw
      have hne : f.name ≠ key := by
        rintro rfl
        rw [hgone] at hw
        contradiction
      exact hread f hf w ((lookup_cons_of_ne hne).trans hw)
    cases hfind : r.fields.find? (·.answersTo key) with
    | none =>
      obtain ⟨q, htakes, hreceives, hmet⟩ := ih hrest hread' fun k hk =>
        hnew k (List.mem_cons_of_mem _ hk)
      refine ⟨q, .skip hfind htakes, fun f hf => ?_, fun f hf => ?_⟩
      · rw [lookup_cons_of_ne (hplain.find?_eq_none_iff.mp hfind f hf)]
        exact hreceives f hf
      · rw [lookup_cons_of_ne (hplain.find?_eq_none_iff.mp hfind f hf)]
        exact hmet f hf
    | some f =>
      have hf : f ∈ r.fields := List.mem_of_find?_eq_some hfind
      obtain rfl : f.name = key :=
        (hplain.answersTo_iff hf).mp (by simpa using List.find?_some hfind)
      obtain ⟨put, hput⟩ := hread f hf v lookup_cons_self
      have hunmet : f.name ∉ p.met := hnew f.name (List.mem_cons_self ..)
      obtain ⟨q, htakes, hreceives, hmet⟩ := ih (p := ⟨put p.record, f.name :: p.met⟩) hrest hread'
        fun k hk => by
          rw [List.mem_cons, not_or]
          exact ⟨fun heq => hkey (heq ▸ hk), hnew k (List.mem_cons_of_mem _ hk)⟩
      refine ⟨q, .take hfind hunmet hput htakes, fun g hg => ?_, fun g hg hsome => ?_⟩
      · by_cases hgf : g = f
        · -- nothing else stands under the name, so the field keeps what it was just given
          subst hgf
          have hkept := hreceives g hg
          rw [hgone] at hkept
          rw [lookup_cons_self]
          exact ⟨put, p.record, hput, hkept⟩
        · have hne : g.name ≠ f.name := fun hname => hgf (hplain.eq_of_name hg hf hname)
          rw [lookup_cons_of_ne hne]
          exact (hreceives g hg).congr (hplain.separate.spares hf hg (Ne.symm hgf) _ put hput _)
      · by_cases hgf : g = f
        · subst hgf
          exact htakes.mem_met (List.mem_cons_self ..)
        · have hne : g.name ≠ f.name := fun hname => hgf (hplain.eq_of_name hg hf hname)
          rw [lookup_cons_of_ne hne] at hsome
          exact hmet g hg hsome

/-- **What becomes of an object.** It is read if every value under the name of a field is, and every
field is there that may not be missing, and then every field has what the object gives it. -/
theorem exists_ofValue_obj (hplain : r.Plain) (hkeys : (fields.map Prod.fst).Nodup)
    (hread : ∀ f ∈ r.fields, ∀ v, lookup f.name fields = some v →
      ∃ put, f.read (.ofValue v) = .ok put)
    (hthere : ∀ f ∈ r.fields, f.absence = .refused → (lookup f.name fields).isSome) :
    ∃ a, r.codec.ofValue (.obj fields) = .ok a ∧
      ∀ f ∈ r.fields, f.Receives (lookup f.name fields) r.blank a := by
  obtain ⟨q, htakes, hreceives, hmet⟩ :=
    hplain.exists_takes (p := ⟨r.blank, []⟩) hkeys hread fun _ _ => List.not_mem_nil
  have hcomplete : r.complete q = .ok q.record := by
    have hnone :
        r.fields.find? (fun f => f.absence = .refused && !q.met.contains f.name) = none := by
      rw [List.find?_eq_none]
      intro f hf
      by_cases habsence : f.absence = .refused
      · simpa [habsence] using hmet f hf (hthere f hf habsence)
      · simp [habsence]
    rw [complete, hnone]
  refine ⟨q.record, ?_, hreceives⟩
  rw [Codec.ofValue, Document.ofValue]
  show (r.readFields (Document.ofFields fields) ⟨r.blank, []⟩ >>= r.complete) = .ok q.record
  exact bind_eq_ok_iff.mpr ⟨q, readFields_eq_ok_iff.mpr htakes, hcomplete⟩

end Plain

/-! ### Fields that a record does not know -/

theorem find?_eq_none_iff_not_knows :
    r.fields.find? (·.answersTo key) = none ↔ ¬r.Knows key := by
  rw [List.find?_eq_none, Knows]
  simp only [not_exists, not_and]

/-- The fields of an object that are read. -/
def known (r : Record σ) (fields : List (String × Value)) : List (String × Value) :=
  fields.filter fun f => r.Knows f.1

theorem lookup_known (fields : List (String × Value)) (k : String) :
    lookup k (r.known fields) = if r.Knows k then lookup k fields else none :=
  lookup_filter r.Knows fields k

/-- The fields that are not read might as well not be there. -/
theorem readFields_known (r : Record σ) (fields : List (String × Value)) (p : Partial σ) :
    r.readFields (Document.ofFields (r.known fields)) p =
      r.readFields (Document.ofFields fields) p := by
  induction fields generalizing p with
  | nil => rfl
  | cons field rest ih =>
    obtain ⟨key, v⟩ := field
    cases hfind : r.fields.find? (·.answersTo key) with
    | none =>
      have hunknown : r.known ((key, v) :: rest) = r.known rest :=
        List.filter_cons_of_neg (by simpa using find?_eq_none_iff_not_knows.mp hfind)
      rw [hunknown, readFields_of_unknown hfind, ih]
    | some f =>
      have hknown : r.known ((key, v) :: rest) = (key, v) :: r.known rest :=
        List.filter_cons_of_pos (decide_eq_true
          ⟨f, List.mem_of_find?_eq_some hfind, by simpa using List.find?_some hfind⟩)
      rw [hknown, Document.ofFields, Document.ofFields, readFields, readFields, hfind]
      simp only [ih]

/-- **What is read of an object is told by the fields that the record knows.** Objects that have the
same under every key that the record knows are read alike, or refused alike. -/
theorem ofValue_object_congr {fields' : List (String × Value)}
    (hsame : ∀ k, r.Knows k →
      (Value.object fields).field? k = (Value.object fields').field? k) :
    r.codec.ofValue (.object fields) = r.codec.ofValue (.object fields') := by
  have hknown : r.known (sortFields fields) = r.known (sortFields fields') := by
    refine Ascending.eq_of_lookup (ascending_filter (ascending_sortFields fields) _)
      (ascending_filter (ascending_sortFields fields') _) fun k => ?_
    show lookup k (r.known _) = lookup k (r.known _)
    rw [lookup_known, lookup_known]
    exact ite_congr rfl (hsame k) fun _ => rfl
  have hread : ∀ fs, r.codec.ofValue (.object fs) =
      (r.readFields (Document.ofFields (r.known (sortFields fs))) ⟨r.blank, []⟩ >>= r.complete) :=
    fun fs => congrArg (· >>= r.complete) (r.readFields_known (sortFields fs) _).symm
  rw [hread, hread, hknown]

end Record

end FeedLink.Json
