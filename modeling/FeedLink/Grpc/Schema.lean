import FeedLink.Grpc.Wire
import FeedLink.Text.Utf8

/-!
# Messages as structures

A `Schema` is the layout of a message: for each field a tag, a way to merge a payload that came
under it into the structure, and a way to write it. Reading starts from the blank structure and
merges field after field, so of a field that comes twice the last counts, lists grow, and a message
inside the message is merged with the one before. Fields with other tags are skipped. Writing leaves
out what is blank.
-/

namespace FeedLink.Grpc

open Wire

/-- A field of a message of type `σ`. -/
structure SchemaField (σ : Type) where
  tag : Nat
  /-- Merges a payload into the structure, which stands in so many others. -/
  merge : (depth : Nat) → Payload → σ → Option σ
  write : σ → List UInt8

/-- The layout of a message. -/
structure Schema (σ : Type) where
  blank : σ
  fields : List (SchemaField σ)

namespace Schema

/-- Merges fields in the order of the bytes. -/
def mergeFields (s : Schema σ) (depth : Nat) : List (Nat × Payload) → σ → Option σ
  | [], m => some m
  | (tag, payload) :: rest, m =>
    match s.fields.find? fun f => f.tag = tag with
    | none => s.mergeFields depth rest m
    | some f => do
      let m ← f.merge depth payload m
      s.mergeFields depth rest m

/-- Merges the bytes of a message into one. -/
def mergeBytes (s : Schema σ) (depth : Nat) (bytes : List UInt8) (m : σ) : Option σ := do
  let fields ← fields? depth bytes
  s.mergeFields depth fields m

/-- Reads a message. -/
def decode? (s : Schema σ) (bytes : List UInt8) : Option σ := s.mergeBytes 0 bytes s.blank

/-- Writes a message, its fields in the order of the layout. -/
def encode (s : Schema σ) (m : σ) : List UInt8 := s.fields.flatMap (·.write m)

end Schema

namespace SchemaField

/-- A text, left out where it is empty. -/
def string (tag : Nat) (get : σ → String) (set : String → σ → σ) : SchemaField σ where
  tag
  merge
    | _, .delimited bytes, m => (Utf8.textOf? bytes).map fun s => set s m
    | _, _, _ => none
  write m :=
    if get m = "" then [] else encodeDelimited tag (Utf8.bytesOf (get m))

/-- Bytes, left out where there are none. -/
def bytes (tag : Nat) (get : σ → List UInt8) (set : List UInt8 → σ → σ) : SchemaField σ where
  tag
  merge
    | _, .delimited bytes, m => some (set bytes m)
    | _, _, _ => none
  write m := if get m = [] then [] else encodeDelimited tag (get m)

/-- A truth value, left out where it is false. -/
def bool (tag : Nat) (get : σ → Bool) (set : Bool → σ → σ) : SchemaField σ where
  tag
  merge
    | _, .varint n, m => some (set (n != 0) m)
    | _, _, _ => none
  write m := if get m then encodeVarint tag 1 else []

/-- A signed word of 64 bits, left out where it is zero. -/
def int64 (tag : Nat) (get : σ → Int64) (set : Int64 → σ → σ) : SchemaField σ where
  tag
  merge
    | _, .varint n, m => some (set (UInt64.ofNat n).toInt64 m)
    | _, _, _ => none
  write m := if get m = 0 then [] else encodeVarint tag (get m).toUInt64.toNat

/-- Any number of texts. -/
def strings (tag : Nat) (get : σ → List String) (set : List String → σ → σ) : SchemaField σ where
  tag
  merge
    | _, .delimited bytes, m => (Utf8.textOf? bytes).map fun s => set (get m ++ [s]) m
    | _, _, _ => none
  write m := (get m).flatMap fun s => encodeDelimited tag (Utf8.bytesOf s)

/-- A message that may be absent. -/
def message (tag : Nat) (inner : Schema τ) (get : σ → Option τ) (set : Option τ → σ → σ) :
    SchemaField σ where
  tag
  merge
    | depth, .delimited bytes, m =>
      (inner.mergeBytes (depth + 1) bytes ((get m).getD inner.blank)).map fun t => set (some t) m
    | _, _, _ => none
  write m :=
    match get m with
    | none => []
    | some t => encodeDelimited tag (inner.encode t)

/-- Any number of messages. -/
def messages (tag : Nat) (inner : Schema τ) (get : σ → List τ) (set : List τ → σ → σ) :
    SchemaField σ where
  tag
  merge
    | depth, .delimited bytes, m =>
      (inner.mergeBytes (depth + 1) bytes inner.blank).map fun t => set (get m ++ [t]) m
    | _, _, _ => none
  write m := (get m).flatMap fun t => encodeDelimited tag (inner.encode t)

end SchemaField

end FeedLink.Grpc
