import FeedLink.Proofs.Grpc.Fields
import FeedLink.Proofs.Utf8
import Mathlib.Data.List.Nodup

/-!
# Layouts that lose nothing

A field of a message is kept in one place of a structure, and what may stand there is one of a few
kinds: a text, bytes, a truth value, a number, texts, a message or several. Each kind says which
payloads are written of what stands there, and how a payload changes it. Where the payloads that are
written of something make it again of what is blank, and the fields of a message go to different
places, the message is read back from its own bytes.

No kind writes more of what it has read than it has read. So the bytes of a message that was read
are no more than the bytes that it was read from, in whatever order these were and whatever else
stood among them.

## Main definitions

* `Grpc.Kind` — what may stand in a field
* `Grpc.Kind.Lawful` — what is written of it makes it again, and is no more than was read
* `Grpc.Schema.ReadsBack`, `Grpc.Schema.Frugal` — the same of a whole message
* `Grpc.SchemaField.Keeps` — a field is kept in one place of a structure
* `Grpc.Schema.Sound` — the fields of a layout go to different places, which make the whole

## Main results

* `Grpc.Schema.Sound.readsBack` — a message is read back
* `Grpc.Schema.Sound.frugal` — a message that was read takes no more bytes
-/

namespace FeedLink.Grpc

open Wire

variable {α σ τ : Type}

/-! ### What may stand in a field -/

/-- What may stand in a field. -/
structure Kind (α : Type) where
  blank : α
  /-- Merges a payload into what stands there. -/
  take : (depth : Nat) → Payload → α → Option α
  /-- The payloads that are written. -/
  put : α → List Payload

namespace Kind

def string : Kind String where
  blank := ""
  take
    | _, .delimited bytes, _ => Utf8.textOf? bytes
    | _, _, _ => none
  put s := if s = "" then [] else [.delimited (Utf8.bytesOf s)]

def bytes : Kind (List UInt8) where
  blank := []
  take
    | _, .delimited bytes, _ => some bytes
    | _, _, _ => none
  put bs := if bs = [] then [] else [.delimited bs]

def bool : Kind Bool where
  blank := false
  take
    | _, .varint n, _ => some (n != 0)
    | _, _, _ => none
  put b := if b then [.varint 1] else []

def int64 : Kind Int64 where
  blank := 0
  take
    | _, .varint n, _ => some (UInt64.ofNat n).toInt64
    | _, _, _ => none
  put i := if i = 0 then [] else [.varint i.toUInt64.toNat]

def strings : Kind (List String) where
  blank := []
  take
    | _, .delimited bytes, ss => (Utf8.textOf? bytes).map fun s => ss ++ [s]
    | _, _, _ => none
  put ss := ss.map fun s => .delimited (Utf8.bytesOf s)

def message (inner : Schema τ) : Kind (Option τ) where
  blank := none
  take
    | depth, .delimited bytes, t? =>
      (inner.mergeBytes (depth + 1) bytes (t?.getD inner.blank)).map some
    | _, _, _ => none
  put t? := t?.toList.map fun t => .delimited (inner.encode t)

def messages (inner : Schema τ) : Kind (List τ) where
  blank := []
  take
    | depth, .delimited bytes, ts =>
      (inner.mergeBytes (depth + 1) bytes inner.blank).map fun t => ts ++ [t]
    | _, _, _ => none
  put ts := ts.map fun t => .delimited (inner.encode t)

/-- Merges payloads one after the other. -/
def takes (k : Kind α) (depth : Nat) (ps : List Payload) (a : α) : Option α :=
  ps.foldlM (fun a p => k.take depth p a) a

/-- The number of bytes of payloads under a tag. -/
def size (tag : Nat) (ps : List Payload) : Nat := (ps.flatMap (encodeField tag)).length

/-- Only numbers of 64 bits and bytes are written of what stands in a field. If the bytes can be
counted they make it again, and they are no more than were read. -/
structure Lawful (k : Kind α) : Prop where
  written : ∀ a, ∀ p ∈ k.put a, p.Written
  restores : ∀ {tag} (depth a), size tag (k.put a) < 2 ^ 64 →
    k.takes depth (k.put a) k.blank = some a
  compact : ∀ {tag depth p a b}, k.take depth p a = some b →
    size tag (k.put b) ≤ size tag (k.put a) + size tag [p]

variable {tag depth : Nat} {ps qs : List Payload} {p : Payload}

@[simp] theorem size_nil (tag : Nat) : size tag [] = 0 := rfl

@[simp] theorem size_append (tag : Nat) (ps qs : List Payload) :
    size tag (ps ++ qs) = size tag ps + size tag qs := by
  simp [size]

theorem size_singleton (tag : Nat) (p : Payload) : size tag [p] = (encodeField tag p).length := by
  simp [size]

theorem size_varint (tag n : Nat) :
    size tag [.varint n] = (writeVarint (8 * tag)).length + (writeVarint n).length := by
  simp [size_singleton, encodeField, Payload.wireType, Payload.content]

theorem size_delimited (tag : Nat) (content : List UInt8) :
    size tag [.delimited content] = (writeVarint (8 * tag + 2)).length +
      ((writeVarint content.length).length + content.length) := by
  simp [size_singleton, encodeField, Payload.wireType, Payload.content]

/-- A smaller number takes no more room in a field. -/
theorem size_varint_mono (tag : Nat) {m n : Nat} (hle : m ≤ n) :
    size tag [.varint m] ≤ size tag [.varint n] := by
  rw [size_varint, size_varint]
  exact Nat.add_le_add_left (length_writeVarint_mono hle) _

/-- Fewer bytes take no more room in a field. -/
theorem size_delimited_mono (tag : Nat) {content content' : List UInt8}
    (hle : content.length ≤ content'.length) :
    size tag [.delimited content] ≤ size tag [.delimited content'] := by
  rw [size_delimited, size_delimited]
  exact Nat.add_le_add_left (Nat.add_le_add (length_writeVarint_mono hle) hle) _

/-- Bytes take no more room in one field than in two. -/
theorem size_delimited_add_le (tag : Nat) {content left right : List UInt8}
    (hle : content.length ≤ left.length + right.length) :
    size tag [.delimited content] ≤ size tag [.delimited left] + size tag [.delimited right] := by
  have hnumber := length_writeVarint_mono hle
  have hsum := length_writeVarint_add_le left.length right.length
  simp only [size_delimited]
  omega

/-- Bytes can be counted if the field that they stand in can. -/
theorem length_lt_of_size_lt {n : Nat} {content : List UInt8}
    (hsize : size tag (.delimited content :: ps) < n) : content.length < n := by
  simp only [size, List.flatMap_cons, encodeField, Payload.content, List.length_append] at hsize
  omega

@[simp] theorem takes_nil (k : Kind α) (depth : Nat) (a : α) : k.takes depth [] a = some a := rfl

theorem takes_cons (k : Kind α) (depth : Nat) (p : Payload) (ps : List Payload) (a : α) :
    k.takes depth (p :: ps) a = (k.take depth p a).bind (k.takes depth ps) := rfl

theorem takes_singleton (k : Kind α) (depth : Nat) (p : Payload) (a : α) :
    k.takes depth [p] a = k.take depth p a := by
  rw [takes_cons]
  cases k.take depth p a <;> rfl

/-! ### The kinds -/

theorem lawful_string : string.Lawful where
  written s p hp := by
    by_cases hempty : s = "" <;> simp_all [string, Payload.Written]
  restores depth s _ := by
    by_cases hempty : s = "" <;> simp [string, hempty, takes_singleton]
  compact {tag depth p a b} htake := by
    cases p with
    | delimited content =>
      obtain rfl : Utf8.bytesOf b = content := Utf8.textOf?_eq_some_iff.mp htake
      by_cases hempty : b = "" <;> simp [string, hempty]
    | varint | fixed64 | group | fixed32 => contradiction

theorem lawful_bytes : bytes.Lawful where
  written bs p hp := by
    by_cases hempty : bs = [] <;> simp_all [bytes, Payload.Written]
  restores depth bs _ := by
    by_cases hempty : bs = [] <;> simp [bytes, hempty, takes_singleton]
  compact {tag depth p a b} htake := by
    cases p with
    | delimited content =>
      obtain rfl : content = b := Option.some.inj htake
      by_cases hempty : content = [] <;> simp [bytes, hempty]
    | varint | fixed64 | group | fixed32 => contradiction

theorem lawful_bool : bool.Lawful where
  written b p hp := by
    cases b <;> simp_all [bool, Payload.Written]
  restores depth b _ := by
    cases b <;> rfl
  compact {tag depth p a b} htake := by
    cases p with
    | varint n =>
      obtain rfl : (n != 0) = b := Option.some.inj htake
      by_cases hzero : n = 0
      · simp [bool, hzero]
      · have hone : size tag [.varint 1] ≤ size tag [.varint n] :=
          size_varint_mono tag (Nat.pos_of_ne_zero hzero)
        simpa [bool, hzero] using Nat.le_trans hone (Nat.le_add_left ..)
    | delimited | fixed64 | group | fixed32 => contradiction

theorem put_int64 {i : Int64} (hzero : i ≠ 0) : int64.put i = [.varint i.toUInt64.toNat] :=
  if_neg hzero

/-- A negative number is written as a word, and such a word is read as the number again. -/
theorem lawful_int64 : int64.Lawful where
  written i p hp := by
    by_cases hzero : i = 0
    · simp_all [int64]
    · obtain rfl : p = .varint i.toUInt64.toNat := by simpa [put_int64 hzero] using hp
      exact i.toUInt64.toNat_lt
  restores depth i _ := by
    have hword : (UInt64.ofNat i.toUInt64.toNat).toInt64 = i := by
      rw [UInt64.ofNat_toNat]
      rfl
    by_cases hzero : i = 0
    · simp [int64, hzero]
    · rw [put_int64 hzero, takes_singleton]
      exact congrArg some hword
  compact {tag depth p a b} htake := by
    cases p with
    | varint n =>
      obtain rfl : (UInt64.ofNat n).toInt64 = b := Option.some.inj htake
      have hword : (UInt64.ofNat n).toInt64.toUInt64.toNat ≤ n := by
        show (UInt64.ofNat n).toNat ≤ n
        rw [UInt64.toNat_ofNat']
        exact Nat.mod_le ..
      by_cases hzero : (UInt64.ofNat n).toInt64 = 0
      · simp [int64, hzero]
      · rw [put_int64 hzero]
        exact Nat.le_trans (size_varint_mono tag hword) (Nat.le_add_left ..)
    | delimited | fixed64 | group | fixed32 => contradiction

/-- What comes several times makes a list again if each makes itself. -/
theorem takes_map {k : Kind (List τ)} {write : τ → Payload} {ts : List τ}
    (htake : ∀ t ∈ ts, ∀ before, k.take depth (write t) before = some (before ++ [t])) :
    ∀ before, k.takes depth (ts.map write) before = some (before ++ ts) := by
  induction ts with
  | nil => simp
  | cons t rest ih =>
    intro before
    obtain ⟨hfirst, hrest⟩ := List.forall_mem_cons.mp htake
    rw [List.map_cons, takes_cons, hfirst, Option.bind_some, ih hrest, List.append_assoc]
    rfl

theorem lawful_strings : strings.Lawful where
  written ss p hp := by
    obtain ⟨s, -, rfl⟩ := List.mem_map.mp hp
    trivial
  restores depth ss _ := takes_map (fun s _ before => by simp [strings]) []
  compact {tag depth p a b} htake := by
    cases p with
    | delimited content =>
      obtain ⟨s, htext, rfl⟩ := Option.map_eq_some_iff.mp htake
      obtain rfl := Utf8.textOf?_eq_some_iff.mp htext
      simp [strings]
    | varint | fixed64 | group | fixed32 => contradiction

end Kind

/-! ### Messages inside messages -/

namespace Schema

/-- A message that has no more bytes than can be counted is read back. -/
def ReadsBack (s : Schema σ) : Prop :=
  ∀ depth m, (s.encode m).length < 2 ^ 64 → s.mergeBytes depth (s.encode m) s.blank = some m

/-- What is merged into a message makes it no longer than it is itself. -/
def Frugal (s : Schema σ) : Prop :=
  ∀ depth bytes m t, s.mergeBytes depth bytes m = some t →
    (s.encode t).length ≤ (s.encode m).length + bytes.length

/-- A layout that may be used inside another. -/
structure Nests (s : Schema σ) : Prop where
  blank : s.encode s.blank = []
  readsBack : s.ReadsBack
  frugal : s.Frugal

end Schema

namespace Kind

variable {inner : Schema τ}

theorem lawful_message (hinner : inner.Nests) : (message inner).Lawful where
  written t? p hp := by
    obtain ⟨t, -, rfl⟩ := List.mem_map.mp hp
    trivial
  restores {tag} depth t? hsize := by
    cases t? with
    | none => rfl
    | some t =>
      have hback := hinner.readsBack (depth + 1) t (length_lt_of_size_lt hsize)
      simp [message, takes_singleton, hback]
  compact {tag depth p a b} htake := by
    cases p with
    | delimited content =>
      obtain ⟨t, hmerge, rfl⟩ := Option.map_eq_some_iff.mp htake
      have hlength := hinner.frugal _ _ _ _ hmerge
      cases a with
      | none =>
        rw [Option.getD_none, hinner.blank, List.length_nil, Nat.zero_add] at hlength
        simpa [message] using size_delimited_mono tag hlength
      | some m => exact size_delimited_add_le tag hlength
    | varint | fixed64 | group | fixed32 => contradiction

theorem lawful_messages (hinner : inner.Nests) : (messages inner).Lawful where
  written ts p hp := by
    obtain ⟨t, -, rfl⟩ := List.mem_map.mp hp
    trivial
  restores {tag} depth ts hsize := by
    refine takes_map (fun t ht before => ?_) []
    obtain ⟨ahead, behind, rfl⟩ := List.append_of_mem ht
    have hfield :
        size tag (.delimited (inner.encode t) :: (messages inner).put behind) < 2 ^ 64 := by
      simp only [messages, List.map_append, List.map_cons, size_append] at hsize ⊢
      omega
    have hback := hinner.readsBack (depth + 1) t (length_lt_of_size_lt hfield)
    simp [messages, hback]
  compact {tag depth p a b} htake := by
    cases p with
    | delimited content =>
      obtain ⟨t, hmerge, rfl⟩ := Option.map_eq_some_iff.mp htake
      have hlength := hinner.frugal _ _ _ _ hmerge
      rw [hinner.blank, List.length_nil, Nat.zero_add] at hlength
      simpa [messages] using size_delimited_mono tag hlength
    | varint | fixed64 | group | fixed32 => contradiction

end Kind

/-! ### Places of a structure -/

namespace SchemaField

variable {get : σ → α} {set : α → σ → σ} {kind : Kind α} {f : SchemaField σ} {m s : σ}
  {tag : Nat}

/-- A place of a structure, which holds what was put there last. -/
structure Lens (get : σ → α) (set : α → σ → σ) : Prop where
  get_set : ∀ a s, get (set a s) = a
  set_set : ∀ a b s, set a (set b s) = set a s
  set_get : ∀ s, set (get s) s = s

/-- A field is kept in one place of a structure. -/
structure Keeps (f : SchemaField σ) (kind : Kind α) (get : σ → α) (set : α → σ → σ) : Prop where
  lens : Lens get set
  lawful : kind.Lawful
  merge : ∀ depth p s, f.merge depth p s = (kind.take depth p (get s)).map fun a => set a s
  write : ∀ s, f.write s = (kind.put (get s)).flatMap (encodeField f.tag)

theorem keeps_string {get : σ → String} {set : String → σ → σ} (lens : Lens get set) :
    (string tag get set).Keeps .string get set where
  lens
  lawful := Kind.lawful_string
  merge depth p s := by cases p <;> rfl
  write s := by
    by_cases hempty : get s = "" <;> simp [string, Kind.string, hempty, encodeField_delimited]

theorem keeps_bytes {get : σ → List UInt8} {set : List UInt8 → σ → σ} (lens : Lens get set) :
    (bytes tag get set).Keeps .bytes get set where
  lens
  lawful := Kind.lawful_bytes
  merge depth p s := by cases p <;> rfl
  write s := by
    by_cases hempty : get s = [] <;> simp [bytes, Kind.bytes, hempty, encodeField_delimited]

theorem keeps_bool {get : σ → Bool} {set : Bool → σ → σ} (lens : Lens get set) :
    (bool tag get set).Keeps .bool get set where
  lens
  lawful := Kind.lawful_bool
  merge depth p s := by cases p <;> rfl
  write s := by
    cases htrue : get s <;> simp [bool, Kind.bool, htrue, encodeField_varint]

theorem keeps_int64 {get : σ → Int64} {set : Int64 → σ → σ} (lens : Lens get set) :
    (int64 tag get set).Keeps .int64 get set where
  lens
  lawful := Kind.lawful_int64
  merge depth p s := by cases p <;> rfl
  write s := by
    by_cases hzero : get s = 0 <;> simp [int64, Kind.int64, hzero, encodeField_varint]

theorem keeps_strings {get : σ → List String} {set : List String → σ → σ} (lens : Lens get set) :
    (strings tag get set).Keeps .strings get set where
  lens
  lawful := Kind.lawful_strings
  merge depth p s := by
    cases p with
    | delimited content => simp [strings, Kind.strings, Function.comp_def]
    | varint | fixed64 | group | fixed32 => rfl
  write s := by simp [strings, Kind.strings, List.flatMap_map, encodeField_delimited]

theorem keeps_message {inner : Schema τ} {get : σ → Option τ} {set : Option τ → σ → σ}
    (lens : Lens get set) (hinner : inner.Nests) :
    (message tag inner get set).Keeps (.message inner) get set where
  lens
  lawful := Kind.lawful_message hinner
  merge depth p s := by
    cases p with
    | delimited content => simp [message, Kind.message, Function.comp_def]
    | varint | fixed64 | group | fixed32 => rfl
  write s := by
    cases hsome : get s <;> simp [message, Kind.message, hsome, encodeField_delimited]

theorem keeps_messages {inner : Schema τ} {get : σ → List τ} {set : List τ → σ → σ}
    (lens : Lens get set) (hinner : inner.Nests) :
    (messages tag inner get set).Keeps (.messages inner) get set where
  lens
  lawful := Kind.lawful_messages hinner
  merge depth p s := by
    cases p with
    | delimited content => simp [messages, Kind.messages, Function.comp_def]
    | varint | fixed64 | group | fixed32 => rfl
  write s := by simp [messages, Kind.messages, List.flatMap_map, encodeField_delimited]

namespace Keeps

/-- Payloads change one place alone. -/
theorem foldlM_merge (hkeeps : f.Keeps kind get set) (depth : Nat) (ps : List Payload) (s : σ) :
    ps.foldlM (fun s p => f.merge depth p s) s =
      (kind.takes depth ps (get s)).map fun a => set a s := by
  induction ps generalizing s with
  | nil => simp [hkeeps.lens.set_get]
  | cons p rest ih =>
    rw [List.foldlM_cons, Kind.takes_cons, hkeeps.merge]
    cases kind.take depth p (get s) with
    | none => rfl
    | some a =>
      have hrest := ih (set a s)
      simp only [hkeeps.lens.get_set, hkeeps.lens.set_set] at hrest
      exact hrest

/-- What is merged into a place makes what is written of it no longer than it is itself. -/
theorem length_write_le {depth : Nat} {p : Payload} (hkeeps : f.Keeps kind get set)
    (hmerge : f.merge depth p s = some m) :
    ∃ a, m = set a s ∧
      (f.write m).length ≤ (f.write s).length + (encodeField f.tag p).length := by
  rw [hkeeps.merge] at hmerge
  obtain ⟨a, htake, rfl⟩ := Option.map_eq_some_iff.mp hmerge
  have hcompact : Kind.size f.tag (kind.put a) ≤
      Kind.size f.tag (kind.put (get s)) + Kind.size f.tag [p] := hkeeps.lawful.compact htake
  rw [Kind.size_singleton] at hcompact
  rw [hkeeps.write, hkeeps.write, hkeeps.lens.get_set]
  exact ⟨a, rfl, hcompact⟩

end Keeps

end SchemaField

/-! ### Fields in different places -/

namespace Schema

variable {sch : Schema σ} {m s t : σ} {before fields : List (SchemaField σ)}

/-- Fields that follow others are kept in places of their own. What these hold in `m`, put into `s`,
where they are blank, makes `t`. -/
inductive Arranged (m : σ) : List (SchemaField σ) → List (SchemaField σ) → σ → σ → Prop
  | nil {before : List (SchemaField σ)} {s : σ} : Arranged m before [] s s
  | cons {α : Type} {kind : Kind α} {get : σ → α} {set : α → σ → σ} {f : SchemaField σ}
      {before rest : List (SchemaField σ)} {s t : σ} (keeps : f.Keeps kind get set)
      (blank : get s = kind.blank)
      (apart : ∀ a s, (before ++ rest).flatMap (·.write (set a s)) =
        (before ++ rest).flatMap (·.write s))
      (others : Arranged m (before ++ [f]) rest (set (get m) s) t) :
      Arranged m before (f :: rest) s t

/-- The fields of a layout have tags of their own and go to different places, which make the
whole. -/
structure Sound (sch : Schema σ) : Prop where
  tags : ∀ tag ∈ sch.fields.map (·.tag), 0 < tag ∧ tag < 2 ^ 29
  nodup : (sch.fields.map (·.tag)).Nodup
  blank : sch.encode sch.blank = []
  arranged : ∀ m, Arranged m [] sch.fields sch.blank m

theorem mergeFields_append (depth : Nat) (left right : List (Nat × Payload)) (s : σ) :
    sch.mergeFields depth (left ++ right) s =
      (sch.mergeFields depth left s).bind (sch.mergeFields depth right) := by
  induction left generalizing s with
  | nil => rfl
  | cons x rest ih =>
    obtain ⟨tag, p⟩ := x
    rw [List.cons_append, mergeFields, mergeFields]
    split
    · exact ih s
    · rename_i f hfind
      cases hmerge : f.merge depth p s with
      | none => rfl
      | some s' => exact ih s'

/-- Payloads of one field. -/
theorem mergeFields_map {f : SchemaField σ} (hfind : sch.fields.find? (·.tag = f.tag) = some f)
    (depth : Nat) (ps : List Payload) (s : σ) :
    sch.mergeFields depth (ps.map (Prod.mk f.tag)) s =
      ps.foldlM (fun s p => f.merge depth p s) s := by
  induction ps generalizing s with
  | nil => rfl
  | cons p rest ih =>
    rw [List.map_cons, mergeFields, List.foldlM_cons]
    simp only [hfind]
    cases hmerge : f.merge depth p s with
    | none => rfl
    | some s' => exact ih s'

/-- What is written of fields is read as what they hold. -/
theorem Arranged.mergeFields_write (harranged : Arranged m before fields s t)
    (hfind : ∀ f ∈ fields, sch.fields.find? (·.tag = f.tag) = some f)
    (hlength : (fields.flatMap (·.write m)).length < 2 ^ 64) :
    ∃ read : List (Nat × Payload), fields.flatMap (·.write m) = encodeFields read ∧
      (∀ x ∈ read, x.1 ∈ fields.map (·.tag)) ∧ (∀ x ∈ read, x.2.Written) ∧
      ∀ depth, sch.mergeFields depth read s = some t := by
  induction harranged with
  | nil => exact ⟨[], rfl, by simp, by simp, fun _ => rfl⟩
  | @cons α kind get set f before rest s t hkeeps hblank _ _ ih =>
    obtain ⟨hf, hfind⟩ := List.forall_mem_cons.mp hfind
    rw [List.flatMap_cons, List.length_append] at hlength
    obtain ⟨read, hwrite, htags, hwritten, hmerge⟩ := ih hfind (by omega)
    refine ⟨(kind.put (get m)).map (Prod.mk f.tag) ++ read, ?_, ?_, ?_, fun depth => ?_⟩
    · rw [List.flatMap_cons, hwrite, hkeeps.write, encodeFields, encodeFields, List.flatMap_append,
        List.flatMap_map]
    · intro x hx
      obtain hx | hx := List.mem_append.mp hx
      · obtain ⟨p, -, rfl⟩ := List.mem_map.mp hx
        exact List.mem_cons_self
      · exact List.mem_cons_of_mem _ (htags x hx)
    · intro x hx
      obtain hx | hx := List.mem_append.mp hx
      · obtain ⟨p, hp, rfl⟩ := List.mem_map.mp hx
        exact hkeeps.lawful.written _ p hp
      · exact hwritten x hx
    · have hsize : Kind.size f.tag (kind.put (get m)) < 2 ^ 64 := by
        rw [hkeeps.write] at hlength
        exact Nat.lt_of_le_of_lt (Nat.le_add_right ..) hlength
      rw [mergeFields_append, mergeFields_map hf, hkeeps.foldlM_merge, hblank,
        hkeeps.lawful.restores depth _ hsize]
      exact hmerge depth

/-- A payload makes what is written no longer than it is itself. -/
theorem Arranged.length_write_le (harranged : Arranged m before fields s t)
    {f : SchemaField σ} (hf : f ∈ fields) {depth : Nat} {p : Payload} {u v : σ}
    (hmerge : f.merge depth p u = some v) :
    ((before ++ fields).flatMap (·.write v)).length ≤
      ((before ++ fields).flatMap (·.write u)).length + (encodeField f.tag p).length := by
  induction harranged with
  | nil => contradiction
  | @cons α kind get set g before rest s t hkeeps _ hapart _ ih =>
    obtain rfl | hf := List.mem_cons.mp hf
    · obtain ⟨a, rfl, hlength⟩ := hkeeps.length_write_le hmerge
      have hothers := congrArg List.length (hapart a u)
      simp only [List.flatMap_append, List.flatMap_cons, List.length_append] at hothers ⊢
      omega
    · simpa using ih hf

namespace Sound

/-- A field is found under its tag. -/
theorem find?_tag (hsound : sch.Sound) {f : SchemaField σ} (hf : f ∈ sch.fields) :
    sch.fields.find? (·.tag = f.tag) = some f := by
  obtain ⟨g, hfind⟩ : ∃ g, sch.fields.find? (·.tag = f.tag) = some g :=
    Option.isSome_iff_exists.mp (List.find?_isSome.mpr ⟨f, hf, by simp⟩)
  have htag : g.tag = f.tag := by simpa using List.find?_some hfind
  rwa [List.inj_on_of_nodup_map hsound.nodup (List.mem_of_find?_eq_some hfind) hf htag] at hfind

/-- **A message is read back** if its bytes can be counted. -/
theorem readsBack (hsound : sch.Sound) : sch.ReadsBack := by
  intro depth m hlength
  obtain ⟨read, hwrite, htags, hwritten, hmerge⟩ :=
    (hsound.arranged m).mergeFields_write (fun f => hsound.find?_tag) hlength
  have hencode : sch.encode m = encodeFields read := hwrite
  rw [hencode] at hlength ⊢
  rw [mergeBytes, fields?, fieldsFrom_encodeFields (fun x hx => hsound.tags _ (htags x hx)) hwritten
    (Nat.le_refl _) hlength]
  exact hmerge depth

/-- Fields make what is written no longer than they are themselves. -/
theorem length_mergeFields_le (hsound : sch.Sound) {depth : Nat} {read : List (Nat × Payload)}
    (hmerge : sch.mergeFields depth read s = some t) :
    (sch.encode t).length ≤ (sch.encode s).length + (encodeFields read).length := by
  induction read generalizing s with
  | nil =>
    obtain rfl := Option.some.inj hmerge
    exact Nat.le_add_right ..
  | cons x rest ih =>
    obtain ⟨tag, p⟩ := x
    have hfields : (encodeFields ((tag, p) :: rest)).length =
        (encodeField tag p).length + (encodeFields rest).length := List.length_append
    rw [mergeFields] at hmerge
    split at hmerge
    · have hrest := ih hmerge
      omega
    · rename_i f hfind
      obtain ⟨u, hu, hmerge⟩ := Option.bind_eq_some_iff.mp hmerge
      obtain rfl : f.tag = tag := by simpa using List.find?_some hfind
      have hrest := ih hmerge
      have hfirst := (hsound.arranged s).length_write_le (List.mem_of_find?_eq_some hfind) hu
      simp only [List.nil_append] at hfirst
      simp only [encode] at hrest ⊢
      omega

/-- **A message that was read takes no more bytes** than it was read from. -/
theorem frugal (hsound : sch.Sound) : sch.Frugal := by
  intro depth bytes m t hmerge
  obtain ⟨read, hread, hmerge⟩ := Option.bind_eq_some_iff.mp hmerge
  have hfields := length_encodeFields_le hread
  have hlength := hsound.length_mergeFields_le hmerge
  omega

theorem nests (hsound : sch.Sound) : sch.Nests :=
  ⟨hsound.blank, hsound.readsBack, hsound.frugal⟩

end Sound

end Schema

end FeedLink.Grpc
