import FeedLink.Proofs.Json.Records

/-!
# Records that are stored

A record that is stored as a text keeps its fields in the order of their declaration, and as a value
it has them in ascending order. Both are read back as the record, if the text is one that can be
read at all. Whatever a record was read from, its fields are as their codecs give them or as they
are by default, so what holds of these holds of the record.

## Main definitions

* `Codec.Atomic` — what a codec writes has no parts
* `Codec.Stores` — what is written of a value, as a text or as a value, is read as another

## Main results

* `Record.Independent.stores` — a record is stored
* `Record.of_read` — what every field of a record keeps holds of all that is read
-/

namespace FeedLink.Json

variable {α β σ : Type}

/-! ### Codecs -/

namespace Codec

variable {c : Codec α} {a b : α}

/-- What a codec writes has no parts that could be out of order, and every text has room for it. -/
structure Atomic (c : Codec α) : Prop where
  sorted : ∀ a, (c.write a).sorted = c.write a
  fits : ∀ a room, (c.write a).fits room = true

@[simp] theorem atomic_string : string.Atomic :=
  ⟨fun _ => rfl, fun _ _ => by simp [string, Value.fits]⟩

@[simp] theorem atomic_bool : bool.Atomic := ⟨fun _ => rfl, fun _ _ => by simp [bool, Value.fits]⟩

@[simp] theorem atomic_unsigned (expected : String) : (unsigned expected).Atomic :=
  ⟨fun _ => rfl, fun _ _ => by simp [unsigned, Value.ofUInt64, Number.ofUInt64, Value.fits]⟩

theorem Atomic.option (hatomic : c.Atomic) : c.option.Atomic where
  sorted
    | none => rfl
    | some a => hatomic.sorted a
  fits
    | none, _ => by simp [Codec.option, Value.fits]
    | some a, room => hatomic.fits a room

/-- What is written of `a` is read as `b`, as a text and as a value. -/
structure Stores (c : Codec α) (a b : α) : Prop where
  text : c.ofText (c.toText a) = .ok b
  value : c.ofValue (c.toValue a) = .ok b

theorem ofText_toText (hfits : (c.write a).fits Document.maxLevels = true)
    (hread : c.ofValue (c.write a) = .ok b) : c.ofText (c.toText a) = .ok b := by
  have hdocument : c.read (.ofValue (c.write a)) = .ok b := hread
  rw [ofText, toText, Document.parse_render hfits]
  simp only [hdocument]
  rfl

/-- What is read from a text is read from a document. -/
theorem exists_read_of_ofText {s : String} (hread : c.ofText s = .ok a) :
    ∃ d, c.read d = .ok a := by
  rw [ofText] at hread
  cases hparse : Document.parse s with
  | mk d trailing =>
    simp only [hparse] at hread
    cases hd : c.read d with
    | error e => simp [hd] at hread
    | ok b =>
      cases trailing with
      | true => simp [hd] at hread
      | false => exact ⟨d, by simpa [hd] using hread⟩

/-- A word of 64 bits is read back. -/
@[simp] theorem ofValue_unsigned (expected : String) (n : UInt64) :
    (unsigned expected).ofValue (.ofUInt64 n) = .ok n := by
  have hbounds : (0 : Int) ≤ n.toNat ∧ (n.toNat : Int) ≤ 18446744073709551615 := by
    have hword : n.toNat < UInt64.size := n.toNat_lt
    simp only [UInt64.size] at hword
    omega
  have hread : readInteger expected 0 18446744073709551615 (.ofValue (.ofUInt64 n)) =
      .ok n.toNat := if_pos hbounds
  have hvalue : (unsigned expected).ofValue (.ofUInt64 n) =
      .ok (UInt64.ofNat (n.toNat : Int).toNat) :=
    congrArg (Except.map fun i : Int => UInt64.ofNat i.toNat) hread
  rw [hvalue, Int.toNat_natCast, UInt64.ofNat_toNat]

@[simp] theorem readsBack_unsigned (expected : String) (n : UInt64) :
    (unsigned expected).ReadsBack n := ofValue_unsigned expected n

end Codec

/-! ### Fields -/

namespace Field

variable {name : String} {c : Codec α} {get : σ → α} {set : α → σ → σ} {a : σ}

/-- What is written of a field is read the same in any order, and fits a text that may open so many
levels. -/
structure Storable (f : Field σ) (room : Nat) (a : σ) : Prop where
  steady : ∀ v ∈ f.write a, f.read (.ofValue v) = f.read (.ofValue v.sorted)
  fits : ∀ v ∈ f.write a, v.fits room = true

/-- What holds of a record holds of it after the field was read. -/
def Keeps (f : Field σ) (P : σ → Prop) : Prop :=
  ∀ d put, f.read d = .ok put → ∀ s, P s → P (put s)

theorem keeps_defaulted {P : σ → Prop}
    (hset : ∀ d a, c.read d = .ok a → ∀ s, P s → P (set a s)) :
    (defaulted name c get set).Keeps P := by
  intro d put hread s hs
  obtain ⟨a, ha, rfl⟩ := exists_of_read_defaulted hread
  exact hset d a ha s hs

theorem storable_defaulted {room : Nat}
    (hsteady : c.ofValue (c.write (get a)) = c.ofValue (c.toValue (get a)))
    (hfits : (c.write (get a)).fits room = true) :
    (defaulted name c get set).Storable room a where
  steady v hv := by
    obtain rfl : c.write (get a) = v := Option.some.inj hv
    exact congrArg (Except.map set) hsteady
  fits v hv := by
    obtain rfl : c.write (get a) = v := Option.some.inj hv
    exact hfits

theorem storable_of_atomic {room : Nat} (hatomic : c.Atomic) :
    (defaulted name c get set).Storable room a := by
  refine storable_defaulted ?_ (hatomic.fits _ room)
  rw [Codec.toValue, hatomic.sorted]

end Field

/-! ### Records -/

namespace Record

variable {r : Record σ} {a s t : σ} {room : Nat}

theorem fits_write (hstorable : ∀ f ∈ r.fields, f.Storable room a) :
    (r.codec.write a).fits (room + 1) = true := by
  have hfields : ∀ fs ⊆ r.fields, Value.fitsFields room
      (fs.filterMap fun f => (f.write a).map fun v => (f.name, v)) = true := by
    intro fs hfs
    induction fs with
    | nil => rfl
    | cons f rest ih =>
      obtain ⟨hf, hrest⟩ := List.cons_subset.mp hfs
      cases hwrite : f.write a with
      | none => simpa [hwrite] using ih hrest
      | some v =>
        have hv : v.fits room = true := (hstorable f hf).fits v hwrite
        simpa [hwrite, Value.fitsFields, hv] using ih hrest
  exact hfields r.fields (List.Subset.refl _)

/-- The fields of a record in the order of their declaration. -/
theorem Restores.reads_written {fs : List (Field σ)} (hsub : fs ⊆ r.fields)
    (hstorable : ∀ f ∈ r.fields, f.Storable room a) (hrestores : Restores a fs s t) :
    r.Reads (fs.filterMap fun f => (f.write a).map fun v => (f.name, v)) s t := by
  induction hrestores with
  | nil s => exact .nil s
  | @cons f v put rest s t hwrite hread _ ih =>
    obtain ⟨hf, hsub⟩ := List.cons_subset.mp hsub
    simp only [List.filterMap_cons, hwrite, Option.map_some]
    exact .cons hf (((hstorable f hf).steady v hwrite).trans hread) (ih hsub)

theorem Independent.ofValue_write (hind : r.Independent)
    (hstorable : ∀ f ∈ r.fields, f.Storable room a) (hrestores : Restores a r.fields r.blank a) :
    r.codec.ofValue (r.codec.write a) = .ok a := by
  have hreads : r.Reads (r.writeFields a) r.blank a :=
    hrestores.reads_written (List.Subset.refl _) hstorable
  obtain ⟨met, hread⟩ := hreads.readFields hind (hind.nodup_keys a) fun _ _ => List.not_mem_nil
  have hwrite : r.codec.write a = .obj (r.writeFields a) := rfl
  rw [Codec.ofValue, hwrite, Document.ofValue]
  simp only [codec, read, hread]
  exact hind.complete_eq ⟨a, met⟩

/-- **A record is stored.** -/
theorem Independent.stores (hind : r.Independent)
    (hstorable : ∀ f ∈ r.fields, f.Storable (Document.maxLevels - 1) a)
    (hrestores : Restores a r.fields r.blank a) : r.codec.Stores a a where
  text := Codec.ofText_toText (fits_write hstorable) (hind.ofValue_write hstorable hrestores)
  value := hind.readsBack hrestores

section Invariants

variable {P : σ → Prop}

/-- What is kept by reading a field is kept by reading the fields of an object. -/
theorem of_readFields (hkeeps : ∀ f ∈ r.fields, f.Keeps P) {fields : List (Key × Document)}
    {p q : Partial σ} (hread : r.readFields fields p = .ok q) (hp : P p.record) : P q.record := by
  induction fields generalizing p with
  | nil => exact Except.ok.inj hread ▸ hp
  | cons field rest ih =>
    obtain ⟨key, d⟩ := field
    cases key with
    | unpaired => contradiction
    | text key =>
      rw [readFields] at hread
      split at hread
      · split at hread
        · exact ih hread hp
        · contradiction
      · next f hfind =>
        split at hread
        · contradiction
        · obtain ⟨put, hf, hread⟩ := bind_eq_ok_iff.mp hread
          exact ih hread (hkeeps f (List.mem_of_find?_eq_some hfind) d put hf p.record hp)

/-- The same of the items of an array. -/
theorem of_readItems {length index : Nat} {stop : Option Fault} {fields : List (Field σ)}
    (hkeeps : ∀ f ∈ fields, f.Keeps P) {items : List Document}
    (hread : r.readItems length stop index fields items s = .ok t) (hs : P s) : P t := by
  induction fields generalizing index items s with
  | nil =>
    cases items with
    | nil =>
      cases stop with
      | none => exact Except.ok.inj hread ▸ hs
      | some fault => contradiction
    | cons d rest => contradiction
  | cons f fields ih =>
    obtain ⟨hf, hfields⟩ := List.forall_mem_cons.mp hkeeps
    cases items with
    | nil =>
      rw [readItems] at hread
      obtain ⟨-, -, hread⟩ := bind_eq_ok_iff.mp hread
      split at hread
      · exact ih hfields hread hs
      · contradiction
    | cons d rest =>
      obtain ⟨put, hitem, hread⟩ := bind_eq_ok_iff.mp hread
      exact ih hfields hread (hf d put hitem s hs)

/-- **What every field of a record keeps holds of all that is read**, from an object or an array, if
it holds by default. -/
theorem of_read {d : Document} (hblank : P r.blank) (hkeeps : ∀ f ∈ r.fields, f.Keeps P)
    (hread : r.codec.read d = .ok a) : P a := by
  change r.read d = .ok a at hread
  cases d with
  | obj deep fields stop =>
    cases deep with
    | true => contradiction
    | false =>
      obtain ⟨p, hfields, hread⟩ := bind_eq_ok_iff.mp hread
      obtain ⟨-, -, hcomplete⟩ := bind_eq_ok_iff.mp hread
      rw [complete] at hcomplete
      split at hcomplete
      · contradiction
      · exact Except.ok.inj hcomplete ▸ of_readFields hkeeps hfields hblank
  | arr deep items stop =>
    cases deep with
    | true => contradiction
    | false => exact of_readItems hkeeps hread hblank
  | null | bool | num | str | faulty => contradiction

end Invariants

end Record

end FeedLink.Json
