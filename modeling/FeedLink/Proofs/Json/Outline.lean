import FeedLink.Proofs.Json.Records

/-!
# Payloads with fewer fields, and with more

A record whose fields may all be missing reads an object from which fields have been taken. What
was taken has its default, and what is left is read as before. It also reads an object to which
fields have been added, as long as it does not know them. Both hold at every level at which an
object is read into a record, and which levels these are is the outline of the payload: a string or
a value that is passed on as it came is taken whole, a list is followed item by item, and a record
field by field.

A field is found under any of its names, so the outline under a key is that of the field which
answers to the key.

## Main definitions

* `Outline` — where an object inside a payload is read into a record
* `Outline.whole`, `Outline.list`, `Outline.record` — the outlines there are
* `Outline.Follows` — what reads payloads bears that they lose fields and gain others
* `Record.Separate` — no field of a record touches another
* `Record.Takes` — what reading the fields of an object comes down to

## Main results

* `Record.readFields_eq_ok_iff` — what reading the fields of an object comes down to
* `Record.Takes.thinned` — fields are taken from an object that is read
* `Record.Takes.padded` — fields are added to it
* `Record.Independent.follows` — a record follows its outline if its fields do
-/

namespace FeedLink.Json

variable {α β σ : Type}

/-- Where an object inside a payload is read into a record, so that its fields may come and go. -/
structure Outline where
  /-- The second value is the first with fields taken from such objects. -/
  Thins : Value → Value → Prop
  /-- The second value is the first with fields added to such objects that nobody knows. -/
  Pads : Value → Value → Prop
  /-- What is written of a thinned payload once it is read, from the payload and what was written of
  the full one. -/
  fade : Value → Value → Value
  /-- The defaults of the fields. -/
  defaults : List Value

namespace Field

/-- The value that an object has for a field, under whichever of its names. -/
def sent? (f : Field σ) : List (String × Value) → Option Value
  | [] => none
  | (key, v) :: rest => if f.answersTo key then some v else f.sent? rest

end Field

/-- A field of the record answers to a key. -/
def Record.Knows (r : Record σ) (key : String) : Prop := ∃ f ∈ r.fields, f.answersTo key = true

instance (r : Record σ) (key : String) : Decidable (r.Knows key) :=
  inferInstanceAs (Decidable (∃ f ∈ r.fields, f.answersTo key = true))

namespace Outline

/-- A value that is not looked into. -/
def whole : Outline := ⟨Eq, Eq, fun _ w => w, []⟩

/-- What is written of a field once a thinned object has been read, from what the object has for the
field: the default if that is nothing, and else what was written before, faded in turn. -/
def fadeField (g : Outline) (default written : Option Value) : Option Value → Option Value
  | none => default
  | some v => written.map (g.fade v)

/-- A list whose items have an outline. -/
def list (g : Outline) : Outline where
  Thins
    | .arr vs, .arr vs' => List.Forall₂ g.Thins vs vs'
    | v, v' => v = v'
  Pads
    | .arr vs, .arr vs' => List.Forall₂ g.Pads vs vs'
    | v, v' => v = v'
  fade
    | .arr vs, .arr ws => .arr (vs.zipWith g.fade ws)
    | _, w => w
  defaults := g.defaults

/-- The second list is the first without some of its fields, and with values that are thinned along
the outline under their key. -/
inductive ThinsFields (under : String → Outline) :
    List (String × Value) → List (String × Value) → Prop
  | nil : ThinsFields under [] []
  | drop {key : String} {v : Value} {fields fields' : List (String × Value)} :
    ThinsFields under fields fields' → ThinsFields under ((key, v) :: fields) fields'
  | keep {key : String} {v v' : Value} {fields fields' : List (String × Value)} :
    (under key).Thins v v' → ThinsFields under fields fields' →
      ThinsFields under ((key, v) :: fields) ((key, v') :: fields')

/-- The second list is the first with more fields, all of which are unknown, and with values that
are padded along the outline under their key. -/
inductive PadsFields (Known : String → Prop) (under : String → Outline) :
    List (String × Value) → List (String × Value) → Prop
  | nil : PadsFields Known under [] []
  | add {key : String} {v : Value} {fields fields' : List (String × Value)} :
    ¬Known key → PadsFields Known under fields fields' →
      PadsFields Known under fields ((key, v) :: fields')
  | keep {key : String} {v v' : Value} {fields fields' : List (String × Value)} :
    (under key).Pads v v' → PadsFields Known under fields fields' →
      PadsFields Known under ((key, v) :: fields) ((key, v') :: fields')

section Record

variable (r : Record σ) (inside : String → Outline)

/-- The outline under a key, which is that of the field that answers to the key. -/
def under (key : String) : Outline :=
  ((r.fields.find? (·.answersTo key)).map fun f => inside f.name).getD whole

/-- An object that is read into a record, whose field of a name has the outline `inside name`. -/
def record : Outline where
  Thins
    | .obj fields, .obj fields' => ThinsFields (under r inside) fields fields'
    | v, v' => v = v'
  Pads
    | .obj fields, .obj fields' => PadsFields r.Knows (under r inside) fields fields'
    | v, v' => v = v'
  fade
    | .obj fields, .obj written =>
      .obj (r.fields.filterMap fun f =>
        ((inside f.name).fadeField (f.write r.blank) (lookup f.name written) (f.sent? fields)).map
          (f.name, ·))
    | _, w => w
  defaults := (r.writeFields r.blank).map Prod.snd ++ r.fields.flatMap (inside ·.name |>.defaults)

end Record

/-- A record none of whose fields is looked into. -/
def flat (r : Record σ) : Outline := record r fun _ => whole

end Outline

/-! ### Documents of values -/

namespace Document

mutual

/-- Nothing is wrong with the syntax of a value, even where it is skipped. -/
theorem fault?_ofValue (v : Value) : (ofValue v).fault? = none := by
  cases v with
  | null | bool | num | str => rfl
  | arr items => rw [ofValue, fault?, itemsFault?_ofValues items, Option.none_or]
  | obj fields => rw [ofValue, fault?, fieldsFault?_ofFields fields, Option.none_or]

theorem itemsFault?_ofValues (items : List Value) : itemsFault? (ofValues items) = none := by
  cases items with
  | nil => rfl
  | cons v rest =>
    rw [ofValues, itemsFault?, fault?_ofValue v, itemsFault?_ofValues rest, Option.none_or]

theorem fieldsFault?_ofFields (fields : List (String × Value)) :
    fieldsFault? (ofFields fields) = none := by
  cases fields with
  | nil => rfl
  | cons field rest =>
    rw [ofFields, fieldsFault?, fault?_ofValue field.2, fieldsFault?_ofFields rest, Option.none_or]

end

end Document

/-! ### What is written tells values apart -/

namespace Codec

variable {c : Codec α}

@[simp] theorem injective_write_string : Function.Injective string.write :=
  fun _ _ heq => Value.str.inj heq

@[simp] theorem injective_write_bool : Function.Injective bool.write :=
  fun _ _ heq => Value.bool.inj heq

@[simp] theorem injective_write_value : Function.Injective value.write := fun _ _ heq => heq

theorem injective_write_list (hwrite : Function.Injective c.write) :
    Function.Injective c.list.write :=
  fun _ _ heq => List.map_injective_iff.mpr hwrite (Value.arr.inj heq)

theorem injective_write_option (hwrite : Function.Injective c.write)
    (hnull : ∀ a, c.write a ≠ .null) : Function.Injective c.option.write := by
  rintro (_ | a) (_ | b) heq
  · rfl
  · exact absurd heq.symm (hnull b)
  · exact absurd heq (hnull a)
  · exact congrArg some (hwrite heq)

end Codec

@[simp] theorem Field.write_defaulted_eq_iff {name : String} {c : Codec α} {get : σ → α}
    {set : α → σ → σ} (hwrite : Function.Injective c.write) {a b : σ} :
    (defaulted name c get set).write a = (defaulted name c get set).write b ↔ get a = get b :=
  Option.some_inj.trans hwrite.eq_iff

@[simp] theorem Field.write_also {f : Field σ} {aliases : List String} (a : σ) :
    (f.also aliases).write a = f.write a := rfl

/-! ### Codecs that follow an outline -/

/-- What reads payloads bears that they lose fields and gain others: a thinned payload is read, and
what is written of it fades, and a padded payload is read as the same. -/
structure Outline.Follows (g : Outline) (read : Value → Except DecodeError α) (write : α → Value) :
    Prop where
  thinned {v v' : Value} {a : α} : read v = .ok a → g.Thins v v' →
    ∃ a', read v' = .ok a' ∧ write a' = g.fade v' (write a)
  padded {v v' : Value} {a : α} : read v = .ok a → g.Pads v v' → read v' = .ok a

theorem Outline.Follows.map {g : Outline} {read : Value → Except DecodeError α} {write : α → Value}
    (hfollows : g.Follows read write) {wrap : α → β} {write' : β → Value}
    (hwrap : ∀ a, write' (wrap a) = write a) :
    g.Follows (fun v => (read v).map wrap) write' where
  thinned hread hthins := by
    obtain ⟨a, hvalue, rfl⟩ := map_eq_ok_iff.mp hread
    obtain ⟨a', hvalue', hwrite⟩ := hfollows.thinned hvalue hthins
    refine ⟨wrap a', map_eq_ok_iff.mpr ⟨a', hvalue', rfl⟩, ?_⟩
    rw [hwrap, hwrap, hwrite]
  padded hread hpads := by
    obtain ⟨a, hvalue, rfl⟩ := map_eq_ok_iff.mp hread
    exact map_eq_ok_iff.mpr ⟨a, hfollows.padded hvalue hpads, rfl⟩

/-- A codec follows an outline. -/
abbrev Codec.Follows (c : Codec α) (g : Outline) : Prop := g.Follows c.ofValue c.write

namespace Codec

variable {c : Codec α} {g : Outline}

@[simp] theorem follows_whole : c.Follows .whole where
  thinned hread hthins := ⟨_, hthins ▸ hread, rfl⟩
  padded hread hpads := hpads ▸ hread

section Items

variable {vs vs' : List Value} {as : List α}

theorem Follows.thinned_items (hfollows : c.Follows g)
    (hreads : List.Forall₂ (fun v a => c.ofValue v = .ok a) vs as)
    (hthins : List.Forall₂ g.Thins vs vs') :
    ∃ as', List.Forall₂ (fun v a => c.ofValue v = .ok a) vs' as' ∧
      as'.map c.write = vs'.zipWith g.fade (as.map c.write) := by
  induction hthins generalizing as with
  | nil =>
    obtain rfl := List.forall₂_nil_left_iff.mp hreads
    exact ⟨[], .nil, rfl⟩
  | cons hthins _ ih =>
    obtain ⟨a, rest, hread, hrest, rfl⟩ := List.forall₂_cons_left_iff.mp hreads
    obtain ⟨a', hread', hwrite⟩ := hfollows.thinned hread hthins
    obtain ⟨rest', hrest', hwrites⟩ := ih hrest
    refine ⟨a' :: rest', .cons hread' hrest', ?_⟩
    rw [List.map_cons, hwrite, hwrites, List.map_cons, List.zipWith_cons_cons]

theorem Follows.padded_items (hfollows : c.Follows g)
    (hreads : List.Forall₂ (fun v a => c.ofValue v = .ok a) vs as)
    (hpads : List.Forall₂ g.Pads vs vs') :
    List.Forall₂ (fun v a => c.ofValue v = .ok a) vs' as := by
  induction hpads generalizing as with
  | nil => exact hreads
  | cons hpads _ ih =>
    obtain ⟨a, rest, hread, hrest, rfl⟩ := List.forall₂_cons_left_iff.mp hreads
    exact .cons (hfollows.padded hread hpads) (ih hrest)

end Items

/-- A list follows the outline of its items. -/
theorem Follows.list (hfollows : c.Follows g) : c.list.Follows g.list where
  thinned {v v' as} hread hthins := by
    cases v with
    | arr vs =>
      cases v' with
      | arr vs' =>
        obtain ⟨as', hreads, hwrites⟩ :=
          hfollows.thinned_items (ofValue_arr_eq_ok_iff.mp hread) hthins
        exact ⟨as', ofValue_arr_eq_ok_iff.mpr hreads, congrArg Value.arr hwrites⟩
      | _ => contradiction
    | _ =>
      obtain rfl := hthins
      exact ⟨as, hread, rfl⟩
  padded {v v' as} hread hpads := by
    cases v with
    | arr vs =>
      cases v' with
      | arr vs' =>
        exact ofValue_arr_eq_ok_iff.mpr
          (hfollows.padded_items (ofValue_arr_eq_ok_iff.mp hread) hpads)
      | _ => contradiction
    | _ =>
      obtain rfl := hpads
      exact hread

end Codec

/-! ### Fields that follow an outline -/

namespace Field

/-- Reading one field leaves what is written of the other alone. -/
def Spares (f g : Field σ) : Prop :=
  ∀ d put, f.read d = .ok put → ∀ s, g.write (put s) = g.write s

/-- A field bears that the value it is read from loses fields and gains others. What is written of
the field depends on nothing else that the record holds. -/
structure Follows (f : Field σ) (g : Outline) : Prop where
  thinned {v v' : Value} {put : σ → σ} : f.read (.ofValue v) = .ok put → g.Thins v v' →
    ∃ put', f.read (.ofValue v') = .ok put' ∧
      ∀ s s', f.write (put' s') = (f.write (put s)).map (g.fade v')
  padded {v v' : Value} {put : σ → σ} : f.read (.ofValue v) = .ok put → g.Pads v v' →
    f.read (.ofValue v') = .ok put

variable {f g : Field σ} {outline : Outline} {name name' : String} {c : Codec α} {c' : Codec β}
  {get : σ → α} {get' : σ → β} {set : α → σ → σ} {set' : β → σ → σ}

theorem spares_defaulted (hget : ∀ a s, get' (set a s) = get' s) :
    (defaulted name c get set).Spares (defaulted name' c' get' set') := by
  intro d put hread s
  obtain ⟨a, -, rfl⟩ := exists_of_read_defaulted hread
  show some (c'.write (get' (set a s))) = some (c'.write (get' s))
  rw [hget]

@[simp] theorem spares_also_left {aliases : List String} :
    (f.also aliases).Spares g ↔ f.Spares g := .rfl

@[simp] theorem spares_also_right {aliases : List String} :
    f.Spares (g.also aliases) ↔ f.Spares g := .rfl

theorem follows_defaulted (hfollows : c.Follows outline) (hget : ∀ a s, get (set a s) = a) :
    (defaulted name c get set).Follows outline where
  thinned {v v' put} hread hthins := by
    obtain ⟨a, hvalue, rfl⟩ := exists_of_read_defaulted hread
    obtain ⟨a', hvalue', hwrite⟩ := hfollows.thinned hvalue hthins
    refine ⟨set a', map_eq_ok_iff.mpr ⟨a', hvalue', rfl⟩, fun s s' => ?_⟩
    show some (c.write (get (set a' s'))) = some (outline.fade v' (c.write (get (set a s))))
    rw [hget, hget, hwrite]
  padded {v v' put} hread hpads := by
    obtain ⟨a, hvalue, rfl⟩ := exists_of_read_defaulted hread
    exact map_eq_ok_iff.mpr ⟨a, hfollows.padded hvalue hpads, rfl⟩

@[simp] theorem follows_also {aliases : List String} :
    (f.also aliases).Follows outline ↔ f.Follows outline :=
  ⟨fun h => ⟨h.thinned, h.padded⟩, fun h => ⟨h.thinned, h.padded⟩⟩

/-! ### What an object has for a field -/

variable {key : String} {v : Value} {fields : List (String × Value)}

theorem sent?_cons_of_answersTo (hkey : f.answersTo key = true) :
    f.sent? ((key, v) :: fields) = some v := by
  rw [sent?, if_pos hkey]

theorem sent?_cons_of_not_answersTo (hkey : ¬f.answersTo key = true) :
    f.sent? ((key, v) :: fields) = f.sent? fields := by
  rw [sent?, if_neg hkey]

end Field

/-! ### Records that are read from fewer fields, and from more -/

namespace Record

variable {r : Record σ} {inside : String → Outline}

/-- No field of a record touches another. -/
def Separate (r : Record σ) : Prop := r.fields.Pairwise fun f g => f.Spares g ∧ g.Spares f

/-- What reading the fields of an object comes down to: those that nobody knows are skipped, and
each of the others is put into the record under the field that answers to its key, which has not
been met before. -/
inductive Takes (r : Record σ) : List (String × Value) → Partial σ → Partial σ → Prop
  | nil (p : Partial σ) : r.Takes [] p p
  | skip {key : String} {v : Value} {fields : List (String × Value)} {p q : Partial σ} :
    r.fields.find? (·.answersTo key) = none → r.Takes fields p q → r.Takes ((key, v) :: fields) p q
  | take {key : String} {v : Value} {fields : List (String × Value)} {p q : Partial σ} {f : Field σ}
      {put : σ → σ} :
    r.fields.find? (·.answersTo key) = some f → f.name ∉ p.met → f.read (.ofValue v) = .ok put →
      r.Takes fields ⟨put p.record, f.name :: p.met⟩ q → r.Takes ((key, v) :: fields) p q

variable {fields fields' : List (String × Value)} {p t q : Partial σ} {f g : Field σ}

theorem Separate.spares (hsep : r.Separate) (hf : f ∈ r.fields) (hg : g ∈ r.fields) (hne : f ≠ g) :
    f.Spares g := by
  have hsymm : Std.Symm fun f g : Field σ => f.Spares g ∧ g.Spares f := ⟨fun _ _ h => h.symm⟩
  exact (List.Pairwise.forall hsep hf hg hne).1

theorem readFields_of_unknown {key : String} {v : Value}
    (hfind : r.fields.find? (·.answersTo key) = none) :
    r.readFields (Document.ofFields ((key, v) :: fields)) p =
      r.readFields (Document.ofFields fields) p := by
  rw [Document.ofFields, readFields, hfind]
  simp only [Document.fault?_ofValue]

theorem readFields_of_known {key : String} {v : Value}
    (hfind : r.fields.find? (·.answersTo key) = some f) :
    r.readFields (Document.ofFields ((key, v) :: fields)) p = .ok q ↔
      f.name ∉ p.met ∧ ∃ put, f.read (.ofValue v) = .ok put ∧
        r.readFields (Document.ofFields fields) ⟨put p.record, f.name :: p.met⟩ = .ok q := by
  rw [Document.ofFields, readFields, hfind]
  simp only [List.contains_iff_mem]
  by_cases hmet : f.name ∈ p.met
  · rw [if_pos hmet]
    exact ⟨fun h => by contradiction, fun h => absurd hmet h.1⟩
  · rw [if_neg hmet, bind_eq_ok_iff]
    exact (and_iff_right hmet).symm

theorem readFields_eq_ok_iff :
    r.readFields (Document.ofFields fields) p = .ok q ↔ r.Takes fields p q := by
  induction fields generalizing p with
  | nil => exact ⟨fun h => Except.ok.inj h ▸ .nil p, fun h => by cases h; rfl⟩
  | cons field rest ih =>
    obtain ⟨key, v⟩ := field
    constructor
    · intro hread
      cases hfind : r.fields.find? (·.answersTo key) with
      | none =>
        rw [readFields_of_unknown hfind] at hread
        exact .skip hfind (ih.mp hread)
      | some f =>
        obtain ⟨hnew, put, hput, hrest⟩ := (readFields_of_known hfind).mp hread
        exact .take hfind hnew hput (ih.mp hrest)
    · intro htakes
      cases htakes with
      | skip hfind hrest =>
        rw [readFields_of_unknown hfind]
        exact ih.mpr hrest
      | take hfind hnew hput hrest =>
        exact (readFields_of_known hfind).mpr ⟨hnew, _, hput, ih.mpr hrest⟩

/-- A field that has been met keeps its value. -/
theorem Takes.write_of_met (htakes : r.Takes fields p q) (hsep : r.Separate) (hf : f ∈ r.fields)
    (hmet : f.name ∈ p.met) : f.write q.record = f.write p.record := by
  induction htakes with
  | nil => rfl
  | skip _ _ ih => exact ih hmet
  | @take _ _ _ p _ g put hfind hnew hput _ ih =>
    have hne : g ≠ f := by
      rintro rfl
      exact hnew hmet
    have hg : g ∈ r.fields := List.mem_of_find?_eq_some hfind
    rw [ih (List.mem_cons_of_mem _ hmet), hsep.spares hg hf hne _ put hput p.record]

theorem under_of_find? {key : String} (hfind : r.fields.find? (·.answersTo key) = some f) :
    Outline.under r inside key = inside f.name := by
  rw [Outline.under, hfind]
  rfl

/-- **Fields are taken from an object that is read.** What is left is read as before, and what is
gone leaves the record as it was. -/
theorem Takes.thinned (htakes : r.Takes fields p q) (hind : r.Independent) (hsep : r.Separate)
    (hfields : ∀ f ∈ r.fields, f.Follows (inside f.name))
    (hthins : Outline.ThinsFields (Outline.under r inside) fields fields')
    (hmet : t.met ⊆ p.met) :
    ∃ q', r.Takes fields' t q' ∧ ∀ f ∈ r.fields, f.write q'.record =
      (inside f.name).fadeField (f.write t.record) (f.write q.record) (f.sent? fields') := by
  induction hthins generalizing p t with
  | nil =>
    cases htakes
    exact ⟨t, .nil t, fun f _ => rfl⟩
  | drop _ ih =>
    cases htakes with
    | skip _ hrest => exact ih hrest hmet
    | take _ _ _ hrest => exact ih hrest fun _ hname => List.mem_cons_of_mem _ (hmet hname)
  | @keep key v v' _ rest' hvalue _ ih =>
    cases htakes with
    | skip hfind hrest =>
      obtain ⟨q', hrest', hwrite⟩ := ih hrest hmet
      refine ⟨q', .skip hfind hrest', fun g hg => ?_⟩
      have hother : ¬g.answersTo key = true := List.find?_eq_none.mp hfind g hg
      rw [Field.sent?_cons_of_not_answersTo hother]
      exact hwrite g hg
    | @take _ _ _ _ _ f put hfind hnew hput hrest =>
      have hf : f ∈ r.fields := List.mem_of_find?_eq_some hfind
      have hanswers : f.answersTo key = true := by simpa using List.find?_some hfind
      rw [under_of_find? hfind] at hvalue
      obtain ⟨put', hput', hfade⟩ := (hfields f hf).thinned hput hvalue
      obtain ⟨q', hrest', hwrite⟩ := ih (t := ⟨put' t.record, f.name :: t.met⟩) hrest
        (List.cons_subset_cons _ hmet)
      refine ⟨q', .take hfind (fun h => hnew (hmet h)) hput' hrest', fun g hg => ?_⟩
      by_cases hkey : g.answersTo key = true
      · -- no other field answers to the key, and this one has been met on both sides
        obtain rfl : g = f :=
          Option.some.inj ((hind.find?_of_answersTo hg hkey).symm.trans hfind)
        rw [Field.sent?_cons_of_answersTo hkey, Outline.fadeField,
          hrest'.write_of_met hsep hg (List.mem_cons_self ..),
          hrest.write_of_met hsep hg (List.mem_cons_self ..)]
        exact hfade _ _
      · have hne : f ≠ g := by
          rintro rfl
          exact hkey hanswers
        rw [Field.sent?_cons_of_not_answersTo hkey, hwrite g hg,
          hsep.spares hf hg hne _ put' hput' t.record]

/-- **Unknown fields are added to an object that is read.** The record is the same. -/
theorem Takes.padded (htakes : r.Takes fields p q)
    (hfields : ∀ f ∈ r.fields, f.Follows (inside f.name))
    (hpads : Outline.PadsFields r.Knows (Outline.under r inside) fields fields') :
    r.Takes fields' p q := by
  induction hpads generalizing p with
  | nil => exact htakes
  | add hunknown _ ih =>
    have hfind := List.find?_eq_none.mpr fun f hf hkey => hunknown ⟨f, hf, hkey⟩
    exact .skip hfind (ih htakes)
  | keep hvalue _ ih =>
    cases htakes with
    | skip hfind hrest => exact .skip hfind (ih hrest)
    | take hfind hnew hput hrest =>
      rw [under_of_find? hfind] at hvalue
      have hfollows := hfields _ (List.mem_of_find?_eq_some hfind)
      exact .take hfind hnew (hfollows.padded hput hvalue) (ih hrest)

/-! ### Records that follow their outline -/

variable {a : σ}

theorem Independent.ofValue_obj_eq_ok_iff (hind : r.Independent) :
    r.codec.ofValue (.obj fields) = .ok a ↔ ∃ met, r.Takes fields ⟨r.blank, []⟩ ⟨a, met⟩ := by
  rw [Codec.ofValue, Document.ofValue]
  show (r.readFields (Document.ofFields fields) ⟨r.blank, []⟩ >>= r.complete) = .ok a ↔ _
  rw [bind_eq_ok_iff]
  constructor
  · rintro ⟨⟨b, met⟩, hread, hcomplete⟩
    rw [hind.complete_eq] at hcomplete
    obtain rfl := Except.ok.inj hcomplete
    exact ⟨met, readFields_eq_ok_iff.mp hread⟩
  · rintro ⟨met, htakes⟩
    exact ⟨⟨a, met⟩, readFields_eq_ok_iff.mpr htakes, hind.complete_eq _⟩

theorem Independent.eq_of_name (hind : r.Independent) (hf : f ∈ r.fields) (hg : g ∈ r.fields)
    (hname : f.name = g.name) : f = g := by
  have hfind := hind.find?_name hf
  rw [hname, hind.find?_name hg] at hfind
  exact (Option.some.inj hfind).symm

theorem Independent.lookup_writeFields (hind : r.Independent) (a : σ) (hf : f ∈ r.fields) :
    lookup f.name (r.writeFields a) = f.write a := by
  cases hwrite : f.write a with
  | some v =>
    refine lookup_of_mem (hind.nodup_keys a) (List.mem_filterMap.mpr ⟨f, hf, ?_⟩)
    rw [hwrite]
    rfl
  | none =>
    rw [lookup_eq_none_iff]
    intro hmem
    obtain ⟨⟨name, v⟩, hfield, hname⟩ := List.mem_map.mp hmem
    obtain ⟨g, hg, hwritten⟩ := List.mem_filterMap.mp hfield
    obtain ⟨w, hw, heq⟩ := Option.map_eq_some_iff.mp hwritten
    obtain rfl : g = f := hind.eq_of_name hg hf ((congrArg Prod.fst heq).trans hname)
    rw [hwrite] at hw
    contradiction

/-- **A record follows its outline if its fields do.** -/
theorem Independent.follows (hind : r.Independent) (hsep : r.Separate)
    (hfields : ∀ f ∈ r.fields, f.Follows (inside f.name)) :
    r.codec.Follows (.record r inside) where
  thinned {v v' a} hread hthins := by
    cases v with
    | obj fields =>
      cases v' with
      | obj fields' =>
        obtain ⟨met, htakes⟩ := hind.ofValue_obj_eq_ok_iff.mp hread
        obtain ⟨⟨a', met'⟩, htakes', hwrite⟩ :=
          htakes.thinned hind hsep hfields hthins (t := ⟨r.blank, []⟩) (List.Subset.refl _)
        refine ⟨a', hind.ofValue_obj_eq_ok_iff.mpr ⟨met', htakes'⟩, congrArg Value.obj ?_⟩
        refine List.filterMap_congr fun f hf => ?_
        rw [hwrite f hf, hind.lookup_writeFields a hf]
      | _ => contradiction
    | _ =>
      obtain rfl := hthins
      exact ⟨a, hread, rfl⟩
  padded {v v' a} hread hpads := by
    cases v with
    | obj fields =>
      cases v' with
      | obj fields' =>
        obtain ⟨met, htakes⟩ := hind.ofValue_obj_eq_ok_iff.mp hread
        exact hind.ofValue_obj_eq_ok_iff.mpr ⟨met, htakes.padded hfields hpads⟩
      | _ => contradiction
    | _ =>
      obtain rfl := hpads
      exact hread

theorem write_ne_null (a : σ) : r.codec.write a ≠ .null := Value.noConfusion

/-- Records that differ in a field are written differently. -/
theorem Independent.injective_write (hind : r.Independent)
    (hfields : ∀ a b, (∀ f ∈ r.fields, f.write a = f.write b) → a = b) :
    Function.Injective r.codec.write := by
  intro a b hwrite
  have hwritten : r.writeFields a = r.writeFields b := Value.obj.inj hwrite
  refine hfields a b fun f hf => ?_
  rw [← hind.lookup_writeFields a hf, hwritten, hind.lookup_writeFields b hf]

end Record

/-- A record that may be null follows the outline of the record. Nothing can be taken from null. -/
theorem Codec.Follows.option {r : Record σ} {inside : String → Outline}
    (hfollows : r.codec.Follows (.record r inside)) :
    r.codec.option.Follows (.record r inside) where
  thinned {v v' o} hread hthins := by
    cases v with
    | obj fields =>
      have hnull : v' ≠ .null := by
        rintro rfl
        contradiction
      rw [ofValue_option Value.noConfusion] at hread
      obtain ⟨a, hsome, rfl⟩ := map_eq_ok_iff.mp hread
      obtain ⟨a', hread', hwrite⟩ := hfollows.thinned hsome hthins
      exact ⟨some a', ofValue_some hread' hnull, hwrite⟩
    | _ =>
      obtain rfl := hthins
      exact ⟨o, hread, rfl⟩
  padded {v v' o} hread hpads := by
    cases v with
    | obj fields =>
      have hnull : v' ≠ .null := by
        rintro rfl
        contradiction
      rw [ofValue_option Value.noConfusion] at hread
      obtain ⟨a, hsome, rfl⟩ := map_eq_ok_iff.mp hread
      exact ofValue_some (hfollows.padded hsome hpads) hnull
    | _ =>
      obtain rfl := hpads
      exact hread

end FeedLink.Json
