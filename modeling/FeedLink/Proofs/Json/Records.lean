import FeedLink.Json.Codec
import FeedLink.Proofs.Json.Fields
import Mathlib.Data.List.Forall2
import Mathlib.Data.List.Pairwise

/-!
# Records that are read back

A record reads the fields of an object in the order in which they come, and puts each where it
belongs. If its fields have names of their own and go where no other field goes, then the order does
not matter, and neither does a field that is missing and would have had its default. What such a
record writes it reads back, whatever order its fields are put into on the way.

## Main definitions

* `Codec.ReadsBack` — what is written of a value is read as the value
* `Field.Commutes` — two fields of a record go to different places
* `Record.Independent` — the fields of a record stand for themselves
* `Record.Reads` — the fields of an object, read into a record one after the other
* `Record.Restores` — the fields of a record, written and read one after the other

## Main results

* `Record.Reads.perm` — the order of the fields does not matter
* `Record.Independent.ofValue_object` — an object with some of the fields of a record
* `Record.Independent.readsBack` — what a record writes it reads back
-/

namespace FeedLink.Json

variable {α β σ : Type}

/-! ### Codecs -/

theorem Document.ofValues_eq_map (vs : List Value) : ofValues vs = vs.map ofValue := by
  induction vs with
  | nil => rfl
  | cons v vs ih => rw [ofValues, ih, List.map_cons]

namespace Codec

/-- What is written of a value, its fields in order, is read as the value. -/
def ReadsBack (c : Codec α) (a : α) : Prop := c.ofValue (c.toValue a) = .ok a

@[simp] theorem ofValue_str (s : String) : string.ofValue (.str s) = .ok s := rfl

@[simp] theorem ofValue_bool (b : Bool) : bool.ofValue (.bool b) = .ok b := rfl

@[simp] theorem readsBack_string (s : String) : string.ReadsBack s := rfl

@[simp] theorem readsBack_bool (b : Bool) : bool.ReadsBack b := rfl

theorem ReadsBack.map {c : Codec α} {a : α} (hread : c.ReadsBack a) (wrap : α → β) :
    (c.ofValue (c.toValue a)).map wrap = .ok (wrap a) :=
  congrArg (Except.map wrap) hread

theorem readsBack_value {v : Value} (hsorted : v.sorted = v) : value.ReadsBack v := by
  have hvalue : (Document.ofValue v.sorted).value = .ok v := by
    rw [Document.value_ofValue, Value.sorted_sorted, hsorted]
  exact congrArg Document.orBroken hvalue

variable {c : Codec α}

theorem readItems_eq_ok_iff {read : Document → Except DecodeError α} {ds : List Document}
    {as : List α} :
    readItems read ds = .ok as ↔ List.Forall₂ (fun d a => read d = .ok a) ds as := by
  induction ds generalizing as with
  | nil =>
    rw [List.forall₂_nil_left_iff]
    exact ⟨fun hread => (Except.ok.inj hread).symm, fun heq => heq ▸ rfl⟩
  | cons d ds ih =>
    rw [readItems, bind_eq_ok_iff, List.forall₂_cons_left_iff]
    refine exists_congr fun a => ?_
    rw [bind_eq_ok_iff]
    constructor
    · rintro ⟨hread, rest, hrest, hok⟩
      exact ⟨rest, hread, ih.mp hrest, (Except.ok.inj hok).symm⟩
    · rintro ⟨rest, hread, hrest, rfl⟩
      exact ⟨hread, rest, ih.mpr hrest, rfl⟩

/-- An array is read item by item. -/
theorem ofValue_arr_eq_ok_iff {vs : List Value} {as : List α} :
    c.list.ofValue (.arr vs) = .ok as ↔ List.Forall₂ (fun v a => c.ofValue v = .ok a) vs as := by
  have harr : c.list.ofValue (.arr vs) = readItems c.read (Document.ofValues vs) := by
    rw [ofValue, Document.ofValue]
    simp only [list]
    cases readItems c.read (Document.ofValues vs) <;> rfl
  rw [harr, readItems_eq_ok_iff, Document.ofValues_eq_map, List.forall₂_map_left_iff]
  rfl

theorem ofValue_arr {xs : List β} {f : β → Value} {g : β → α}
    (hitems : ∀ x ∈ xs, c.ofValue (f x) = .ok (g x)) :
    c.list.ofValue (.arr (xs.map f)) = .ok (xs.map g) := by
  rw [ofValue_arr_eq_ok_iff, List.forall₂_map_left_iff, List.forall₂_map_right_iff,
    List.forall₂_same]
  exact hitems

theorem toValue_list (as : List α) : c.list.toValue as = .arr (as.map c.toValue) := by
  have hitems : Value.sortedItems (as.map c.write) = as.map c.toValue := by
    induction as with
    | nil => rfl
    | cons a as ih => rw [List.map_cons, Value.sortedItems, ih, List.map_cons, toValue]
  exact congrArg Value.arr hitems

theorem readsBack_list {as : List α} (hitems : ∀ a ∈ as, c.ReadsBack a) : c.list.ReadsBack as := by
  rw [ReadsBack, toValue_list, ofValue_arr (g := id) hitems, List.map_id]

/-- What is not null is there. -/
theorem ofValue_option {v : Value} (hnull : v ≠ .null) :
    c.option.ofValue v = (c.ofValue v).map some := by
  cases v with
  | null => exact absurd rfl hnull
  | bool | num | str | arr | obj => rfl

theorem ofValue_some {v : Value} {a : α} (hread : c.ofValue v = .ok a) (hnull : v ≠ .null) :
    c.option.ofValue v = .ok (some a) := by
  rw [ofValue_option hnull, hread]
  rfl

theorem readsBack_option {o : Option α} (hsome : ∀ a ∈ o, c.ReadsBack a)
    (hnull : ∀ a, c.toValue a ≠ .null) : c.option.ReadsBack o := by
  cases o with
  | none => rfl
  | some a => exact ofValue_some (hsome a rfl) (hnull a)

@[simp] theorem readsBack_strings (as : List String) : string.list.ReadsBack as :=
  readsBack_list fun a _ => readsBack_string a

@[simp] theorem readsBack_string? (o : Option String) : string.option.ReadsBack o :=
  readsBack_option (fun a _ => readsBack_string a) fun _ => Value.noConfusion

end Codec

/-! ### Fields -/

namespace Field

/-- Two fields of a record go to different places. -/
def Commutes (f g : Field σ) : Prop :=
  ∀ d e put put', f.read d = .ok put → g.read e = .ok put' → ∀ s, put (put' s) = put' (put s)

variable {f g : Field σ} {name name' : String} {c : Codec α} {c' : Codec β} {get : σ → α}
  {get' : σ → β} {set : α → σ → σ} {set' : β → σ → σ}

instance : Std.Symm (Commutes (σ := σ)) where
  symm _ _ hfg d e put put' hput hput' s := (hfg e d put' put hput' hput s).symm

@[simp] theorem name_defaulted : (defaulted name c get set).name = name := rfl

theorem read_defaulted (v : Value) :
    (defaulted name c get set).read (.ofValue v) = (c.ofValue v).map set := rfl

/-- What a field that has a default puts is one of its values. -/
theorem exists_of_read_defaulted {d : Document} {put : σ → σ}
    (hread : (defaulted name c get set).read d = .ok put) : ∃ a, c.read d = .ok a ∧ set a = put :=
  map_eq_ok_iff.mp hread

theorem commutes_defaulted (hset : ∀ a b s, set a (set' b s) = set' b (set a s)) :
    (defaulted name c get set).Commutes (defaulted name' c' get' set') := by
  intro d e put put' hput hput' s
  obtain ⟨a, -, rfl⟩ := exists_of_read_defaulted hput
  obtain ⟨b, -, rfl⟩ := exists_of_read_defaulted hput'
  exact hset a b s

@[simp] theorem commutes_also_left {aliases : List String} :
    (f.also aliases).Commutes g ↔ f.Commutes g := .rfl

@[simp] theorem commutes_also_right {aliases : List String} :
    f.Commutes (g.also aliases) ↔ f.Commutes g := .rfl

end Field

/-! ### Records -/

namespace Record

variable {r : Record σ}

/-- A field that the record has, and that has not been met, is read into it. -/
theorem readFields_cons {d : Document} {f : Field σ} {key : String} {set : σ → σ}
    {p : Record.Partial σ} (rest : List (Key × Document))
    (hfind : r.fields.find? (·.answersTo key) = some f) (hnew : p.met.contains f.name = false)
    (hread : f.read d = .ok set) :
    r.readFields ((.text key, d) :: rest) p =
      r.readFields rest ⟨set p.record, f.name :: p.met⟩ := by
  rw [Record.readFields, hfind]
  simp only [hnew, hread]
  rfl

/-- The fields of a record stand for themselves: each has names of its own, goes where no other
goes, and may be missing. -/
structure Independent (r : Record σ) : Prop where
  names : (r.fields.flatMap fun f => f.name :: f.aliases).Nodup
  commute : r.fields.Pairwise Field.Commutes
  optional : ∀ f ∈ r.fields, f.absence = .anywhere

/-- The fields of an object, read one after the other, turn one record into another. Every field
is one of the record and comes under its name. -/
inductive Reads (r : Record σ) : List (String × Value) → σ → σ → Prop
  | nil (s : σ) : r.Reads [] s s
  | cons {f : Field σ} {v : Value} {put : σ → σ} {fields : List (String × Value)} {s t : σ} :
    f ∈ r.fields → f.read (.ofValue v) = .ok put → r.Reads fields (put s) t →
      r.Reads ((f.name, v) :: fields) s t

/-- The fields of a record `a`, written and read one after the other, turn one record into
another. -/
inductive Restores (a : σ) : List (Field σ) → σ → σ → Prop
  | nil (s : σ) : Restores a [] s s
  | cons {f : Field σ} {v : Value} {put : σ → σ} {fields : List (Field σ)} {s t : σ} :
    f.write a = some v → f.read (.ofValue v.sorted) = .ok put → Restores a fields (put s) t →
      Restores a (f :: fields) s t

variable {fields fields' : List (String × Value)} {s t a : σ}

/-- No two fields answer to one key. -/
theorem Independent.find?_of_answersTo (hind : r.Independent) {f : Field σ} (hf : f ∈ r.fields)
    {key : String} (hkey : f.answersTo key = true) :
    r.fields.find? (·.answersTo key) = some f := by
  have answersTo_iff (g : Field σ) : g.answersTo key = true ↔ key ∈ g.name :: g.aliases := by
    simp [Field.answersTo, eq_comm (a := key)]
  have hnames := hind.names
  generalize r.fields = fs at hf hnames
  induction fs with
  | nil => contradiction
  | cons g rest ih =>
    rw [List.flatMap_cons, List.nodup_append] at hnames
    obtain ⟨-, hrest, hapart⟩ := hnames
    rcases List.mem_cons.mp hf with rfl | hf
    · exact List.find?_cons_of_pos hkey
    · have hmem : key ∈ rest.flatMap fun f => f.name :: f.aliases :=
        List.mem_flatMap.mpr ⟨f, hf, (answersTo_iff f).mp hkey⟩
      have hother : ¬g.answersTo key = true := fun hg =>
        hapart key ((answersTo_iff g).mp hg) key hmem rfl
      rw [List.find?_cons_of_neg (by simpa using hother), ih hf hrest]

theorem Independent.find?_name (hind : r.Independent) {f : Field σ} (hf : f ∈ r.fields) :
    r.fields.find? (·.answersTo f.name) = some f :=
  hind.find?_of_answersTo hf (by simp [Field.answersTo])

theorem Independent.commutes (hind : r.Independent) {f g : Field σ} (hf : f ∈ r.fields)
    (hg : g ∈ r.fields) (hne : f ≠ g) : f.Commutes g :=
  hind.commute.forall hf hg hne

/-- No field has to be there. -/
theorem Independent.complete_eq (hind : r.Independent) (p : Partial σ) :
    r.complete p = .ok p.record := by
  have hnone : r.fields.find? (fun f => f.absence = .refused && !p.met.contains f.name) = none := by
    rw [List.find?_eq_none]
    intro f hf
    simp [hind.optional f hf]
  rw [complete, hnone]

/-- **The order of the fields does not matter.** -/
theorem Reads.perm (hind : r.Independent) (hperm : fields.Perm fields')
    (hkeys : (fields.map Prod.fst).Nodup) (hreads : r.Reads fields s t) : r.Reads fields' s t := by
  induction hperm generalizing s with
  | nil => exact hreads
  | cons field hperm ih =>
    cases hreads with
    | cons hf hread hrest => exact .cons hf hread (ih (List.nodup_cons.mp hkeys).2 hrest)
  | swap field field' rest =>
    cases hreads with
    | @cons f _ put _ _ _ hf hread hrest =>
      cases hrest with
      | @cons g _ put' _ _ _ hg hread' hrest =>
        have hne : f ≠ g := by
          rintro rfl
          simp at hkeys
        have hswap : put' (put s) = put (put' s) :=
          (hind.commutes hf hg hne _ _ _ _ hread hread' s).symm
        exact .cons hg hread' (.cons hf hread (hswap ▸ hrest))
  | trans hperm _ ih ih' =>
    exact ih' ((hperm.map Prod.fst).nodup_iff.mp hkeys) (ih hkeys hreads)

/-- Fields that come one after the other are read in a document. -/
theorem Reads.readFields (hind : r.Independent) (hkeys : (fields.map Prod.fst).Nodup)
    (hreads : r.Reads fields s t) {met : List String} (hnew : ∀ f ∈ fields, f.1 ∉ met) :
    ∃ met', r.readFields (Document.ofFields fields) ⟨s, met⟩ = .ok ⟨t, met'⟩ := by
  induction hreads generalizing met with
  | nil s => exact ⟨met, rfl⟩
  | @cons f v put rest s t hf hread hrest ih =>
    obtain ⟨hfirst, hkeys⟩ := List.nodup_cons.mp hkeys
    have hunmet : met.contains f.name = false := by
      simpa using hnew (f.name, v) (List.mem_cons_self ..)
    rw [Document.ofFields, readFields_cons _ (hind.find?_name hf) hunmet hread]
    refine ih hkeys fun g hg => ?_
    rw [List.mem_cons, not_or]
    exact ⟨fun heq => hfirst (List.mem_map.mpr ⟨g, hg, heq⟩), hnew g (List.mem_cons_of_mem _ hg)⟩

/-- **An object with some of the fields of a record** is read as the record that they make of the
blank one. -/
theorem Independent.ofValue_object (hind : r.Independent) (hkeys : (fields.map Prod.fst).Nodup)
    (hreads : r.Reads fields r.blank a) : r.codec.ofValue (.object fields) = .ok a := by
  have hperm : fields.Perm (sortFields fields) := (sortFields_perm hkeys).symm
  obtain ⟨met, hread⟩ := (hreads.perm hind hperm hkeys).readFields hind
    ((hperm.map Prod.fst).nodup_iff.mp hkeys) fun _ _ => List.not_mem_nil
  rw [Codec.ofValue, Value.object, Document.ofValue]
  simp only [codec, read, hread]
  exact hind.complete_eq ⟨a, met⟩

/-- What is written of the fields of a record and read again. -/
theorem Restores.reads {fs : List (Field σ)} (hsub : fs ⊆ r.fields)
    (hrestores : Restores a fs s t) :
    r.Reads (Value.sortedFields (fs.filterMap fun f => (f.write a).map fun v => (f.name, v)))
      s t := by
  induction hrestores with
  | nil s => exact .nil s
  | @cons f v put rest s t hwrite hread _ ih =>
    obtain ⟨hf, hsub⟩ := List.cons_subset.mp hsub
    simp only [List.filterMap_cons, hwrite, Option.map_some, Value.sortedFields]
    exact .cons hf hread (ih hsub)

theorem reads_nil_iff : r.Reads [] s t ↔ s = t :=
  ⟨fun h => by cases h; rfl, fun h => h ▸ .nil s⟩

theorem reads_cons_iff {key : String} {v : Value} :
    r.Reads ((key, v) :: fields) s t ↔
      ∃ f ∈ r.fields, f.name = key ∧
        ∃ put, f.read (.ofValue v) = .ok put ∧ r.Reads fields (put s) t := by
  constructor
  · rintro (_ | ⟨hf, hread, hrest⟩)
    exact ⟨_, hf, rfl, _, hread, hrest⟩
  · rintro ⟨f, hf, rfl, put, hread, hrest⟩
    exact .cons hf hread hrest

variable {fs : List (Field σ)} {c : Codec α} {get : σ → α} {set : α → σ → σ}

theorem restores_nil_iff : Restores a [] s t ↔ s = t :=
  ⟨fun h => by cases h; rfl, fun h => h ▸ .nil s⟩

theorem restores_defaulted_iff {name : String} (hread : c.ReadsBack (get a)) :
    Restores a (.defaulted name c get set :: fs) s t ↔ Restores a fs (set (get a) s) t := by
  have hput : (Field.defaulted name c get set).read (.ofValue (c.write (get a)).sorted) =
      .ok (set (get a)) := congrArg (Except.map set) hread
  refine ⟨fun h => ?_, fun h => .cons rfl hput h⟩
  cases h with
  | cons hwrite hread' hrest =>
    obtain rfl := Option.some.inj hwrite
    obtain rfl := Except.ok.inj (hput.symm.trans hread')
    exact hrest

theorem restores_also_iff {f : Field σ} {aliases : List String} :
    Restores a (f.also aliases :: fs) s t ↔ Restores a (f :: fs) s t := by
  constructor <;> rintro (_ | ⟨hwrite, hread, hrest⟩) <;> exact .cons hwrite hread hrest

theorem Independent.nodup_keys (hind : r.Independent) (a : σ) :
    ((r.writeFields a).map Prod.fst).Nodup := by
  have hnames : (r.fields.map Field.name).Nodup := by
    have hsub : (r.fields.map Field.name).Sublist
        (r.fields.flatMap fun f => f.name :: f.aliases) := by
      induction r.fields with
      | nil => exact .slnil
      | cons f rest ih =>
        exact .cons_cons _ (ih.trans (List.sublist_append_right ..))
    exact hind.names.sublist hsub
  refine hnames.sublist ?_
  rw [writeFields]
  induction r.fields with
  | nil => exact .slnil
  | cons f rest ih =>
    cases hwrite : f.write a with
    | none => exact .cons _ (by simpa [hwrite] using ih)
    | some v => simpa [hwrite] using ih

/-- **What a record writes it reads back.** -/
theorem Independent.readsBack (hind : r.Independent) (hrestores : Restores a r.fields r.blank a) :
    r.codec.ReadsBack a :=
  hind.ofValue_object ((Value.keys_sortedFields _).symm ▸ hind.nodup_keys a)
    (hrestores.reads (List.Subset.refl _))

theorem toValue_ne_null (a : σ) : r.codec.toValue a ≠ .null := Value.noConfusion

end Record

end FeedLink.Json
