import FeedLink.Grpc.Schema
import FeedLink.Proofs.Grpc.Wire
import Mathlib.Algebra.Group.Nat.Defs
import Mathlib.Data.List.Basic

/-!
# Fields on the wire are read back

Fields that were written one after the other are cut out of the bytes again as they were: a number
ends where its last group ends, and bytes end where the number in front of them says. Bytes that
were written by somebody else may be longer than they would have to be, since a number may have
groups that add nothing, and may have fields that nobody writes here; but fields never take fewer
bytes than writing them would.

## Main definitions

* `Grpc.Wire.Payload.Written` — a payload of the kind that is written
* `Grpc.Wire.encodeField`, `encodeFields` — the bytes of fields

## Main results

* `Grpc.Wire.readVarint_writeVarint` — a number is read back
* `Grpc.Wire.fieldsFrom_encodeFields` — fields are read back
* `Grpc.Wire.length_encodeFields_le` — fields take no fewer bytes than writing them would
-/

namespace FeedLink.Grpc.Wire

variable {fuel room tag kind n i value : Nat} {bytes rest : List UInt8} {p : Payload}

/-! ### Numbers -/

theorem toNat_ofNat_mod {m : Nat} (hm : m < 256) : (UInt8.ofNat m).toNat = m :=
  UInt8.toNat_ofNat_of_lt hm

/-- A number is read back, of which `i` groups have been read before. -/
theorem readVarintFrom_writeVarint (hn : n * 128 ^ i < 2 ^ 64) (rest : List UInt8) :
    readVarintFrom i value (writeVarint n ++ rest) = some (value + n * 128 ^ i, rest) := by
  induction n using Nat.strongRecOn generalizing i value with
  | ind n ih =>
    by_cases hlast : n < 128
    · have hbyte : (UInt8.ofNat n).toNat = n := toNat_ofNat_mod (by omega)
      have hroom : ¬(i ≥ 9 ∧ UInt8.ofNat n ≥ 2) := by
        rintro ⟨hi, htwo⟩
        have htwo : 2 ≤ n := by simpa [UInt8.le_iff_toNat_le, hbyte] using htwo
        have hpow : 128 ^ 9 ≤ 128 ^ i := Nat.pow_le_pow_right (by decide) hi
        have hbig : 2 * 128 ^ 9 ≤ n * 128 ^ i := Nat.mul_le_mul htwo hpow
        omega
      have hend : UInt8.ofNat n < 128 := by simpa [UInt8.lt_iff_toNat_lt, hbyte] using hlast
      rw [writeVarint_of_lt hlast, List.singleton_append, readVarintFrom, if_neg hroom, hbyte,
        Nat.mod_eq_of_lt hlast]
      exact if_pos hend
    · have hbyte : (UInt8.ofNat (n % 128 + 128)).toNat = n % 128 + 128 :=
        toNat_ofNat_mod (by omega)
      -- a number that needs another group leaves room for it
      have hroom : ¬(i ≥ 9 ∧ UInt8.ofNat (n % 128 + 128) ≥ 2) := by
        rintro ⟨hi, -⟩
        have hpow : 128 ^ 9 ≤ 128 ^ i := Nat.pow_le_pow_right (by decide) hi
        have hbig : 128 * 128 ^ 9 ≤ n * 128 ^ i := Nat.mul_le_mul (by omega) hpow
        omega
      have hmore : ¬UInt8.ofNat (n % 128 + 128) < 128 := by
        simp only [UInt8.lt_iff_toNat_lt, hbyte, UInt8.reduceToNat]
        omega
      have hsplit : n % 128 * 128 ^ i + n / 128 * 128 ^ (i + 1) = n * 128 ^ i := by
        rw [Nat.pow_succ', ← Nat.mul_assoc, ← Nat.add_mul, Nat.mod_add_div']
      have hrest : n / 128 * 128 ^ (i + 1) < 2 ^ 64 := by omega
      have hgroup : (n % 128 + 128) % 128 = n % 128 := by omega
      rw [writeVarint_of_not_lt hlast, List.cons_append, readVarintFrom, if_neg hroom, hbyte,
        hgroup]
      refine (if_neg hmore).trans ?_
      rw [ih (n / 128) (by omega) hrest]
      show some (value + n % 128 * 128 ^ i + _, rest) = _
      rw [Nat.add_assoc, hsplit]

/-- **A number is read back.** -/
theorem readVarint_writeVarint (hn : n < 2 ^ 64) (rest : List UInt8) :
    readVarint (writeVarint n ++ rest) = some (n, rest) := by
  rw [readVarint, readVarintFrom_writeVarint (by simpa using hn)]
  simp

theorem length_writeVarint_of_not_lt (hn : ¬n < 128) :
    (writeVarint n).length = (writeVarint (n / 128)).length + 1 := by
  rw [writeVarint_of_not_lt hn, List.length_cons]

theorem length_writeVarint_of_lt (hn : n < 128) : (writeVarint n).length = 1 := by
  rw [writeVarint_of_lt hn]
  rfl

theorem length_writeVarint_pos (n : Nat) : 0 < (writeVarint n).length := by
  by_cases hn : n < 128
  · rw [length_writeVarint_of_lt hn]
    exact Nat.one_pos
  · rw [length_writeVarint_of_not_lt hn]
    omega

/-- A smaller number takes no more bytes. -/
theorem length_writeVarint_mono {m n : Nat} (hle : m ≤ n) :
    (writeVarint m).length ≤ (writeVarint n).length := by
  induction n using Nat.strongRecOn generalizing m with
  | ind n ih =>
    have hpos := length_writeVarint_pos n
    by_cases hm : m < 128
    · rw [length_writeVarint_of_lt hm]
      exact hpos
    · have hn : ¬n < 128 := by omega
      have hdiv := ih (n / 128) (by omega) (Nat.div_le_div_right (c := 128) hle)
      rw [length_writeVarint_of_not_lt hm, length_writeVarint_of_not_lt hn]
      omega

/-- One more group is enough for a number that is a hundred times as big. -/
theorem length_writeVarint_le_succ {m n : Nat} (hle : m / 128 ≤ n) :
    (writeVarint m).length ≤ (writeVarint n).length + 1 := by
  by_cases hm : m < 128
  · rw [length_writeVarint_of_lt hm]
    omega
  · rw [length_writeVarint_of_not_lt hm]
    exact Nat.succ_le_succ (length_writeVarint_mono hle)

/-- A sum takes no more bytes than its parts. -/
theorem length_writeVarint_add_le (m n : Nat) :
    (writeVarint (m + n)).length ≤ (writeVarint m).length + (writeVarint n).length := by
  have hm := length_writeVarint_pos m
  have hn := length_writeVarint_pos n
  rcases Nat.le_total m n with hle | hle
  · have hsum : (writeVarint (m + n)).length ≤ (writeVarint n).length + 1 :=
      length_writeVarint_le_succ (by omega)
    omega
  · have hsum : (writeVarint (m + n)).length ≤ (writeVarint m).length + 1 :=
      length_writeVarint_le_succ (by omega)
    omega

/-- What a number was read from is no shorter than what writing it would give. -/
theorem exists_of_readVarintFrom (hread : readVarintFrom i value bytes = some (n, rest)) :
    ∃ m, n = value + m * 128 ^ i ∧ (writeVarint m).length + rest.length ≤ bytes.length := by
  induction bytes generalizing i value with
  | nil => simp [readVarintFrom] at hread
  | cons b bytes ih =>
    rw [readVarintFrom] at hread
    split at hread
    · contradiction
    · by_cases hend : b < 128
      · simp only [hend, if_true, Option.some.injEq, Prod.mk.injEq] at hread
        obtain ⟨rfl, rfl⟩ := hread
        refine ⟨b.toNat % 128, rfl, ?_⟩
        rw [length_writeVarint_of_lt (by omega), List.length_cons]
        omega
      · simp only [hend, if_false] at hread
        obtain ⟨m, rfl, hlength⟩ := ih hread
        refine ⟨b.toNat % 128 + 128 * m, ?_, ?_⟩
        · show value + b.toNat % 128 * 128 ^ i + _ = _
          rw [Nat.pow_succ', ← Nat.mul_assoc, Nat.mul_comm m 128, Nat.add_mul, Nat.add_assoc]
        · have hstep : (writeVarint (b.toNat % 128 + 128 * m)).length ≤
              (writeVarint m).length + 1 := length_writeVarint_le_succ (by omega)
          rw [List.length_cons]
          omega

theorem length_of_readVarint (hread : readVarint bytes = some (n, rest)) :
    (writeVarint n).length + rest.length ≤ bytes.length := by
  obtain ⟨m, rfl, hlength⟩ := exists_of_readVarintFrom hread
  simpa using hlength

/-! ### Fields -/

namespace Payload

/-- The number behind the tag that says what a payload is. -/
def wireType : Payload → Nat
  | .varint _ => 0
  | .fixed64 => 1
  | .delimited _ => 2
  | .group => 3
  | .fixed32 => 5

/-- The bytes of a payload, if it is one that is written. -/
def content : Payload → List UInt8
  | .varint n => writeVarint n
  | .delimited bytes => writeVarint bytes.length ++ bytes
  | .fixed64 | .group | .fixed32 => []

/-- A payload of the kind that is written: bytes, or a number of 64 bits. -/
def Written : Payload → Prop
  | .varint n => n < 2 ^ 64
  | .delimited _ => True
  | .fixed64 | .group | .fixed32 => False

theorem wireType_lt (p : Payload) : p.wireType < 6 := by
  cases p <;> simp [wireType]

end Payload

/-- The bytes of a field. -/
def encodeField (tag : Nat) (p : Payload) : List UInt8 :=
  writeVarint (8 * tag + p.wireType) ++ p.content

/-- The bytes of fields, one after the other. -/
def encodeFields (fields : List (Nat × Payload)) : List UInt8 :=
  fields.flatMap fun f => encodeField f.1 f.2

theorem encodeField_varint (tag n : Nat) : encodeField tag (.varint n) = encodeVarint tag n := rfl

theorem encodeField_delimited (tag : Nat) (bytes : List UInt8) :
    encodeField tag (.delimited bytes) = encodeDelimited tag bytes :=
  (List.append_assoc ..).symm

/-! ### What was written -/

theorem readKey_writeVarint (htag : 0 < tag ∧ tag < 2 ^ 29) (hkind : kind < 6)
    (rest : List UInt8) :
    readKey (writeVarint (8 * tag + kind) ++ rest) = some (tag, kind, rest) := by
  have hkey : 8 * tag + kind < UInt32.size := by
    simp only [UInt32.size]
    omega
  have hdiv : (8 * tag + kind) / 8 = tag := by omega
  have hmod : (8 * tag + kind) % 8 = kind := by omega
  rw [readKey, readVarint_writeVarint (by omega)]
  simp only [Option.bind_eq_bind, Option.bind_some, hdiv, hmod]
  exact if_pos ⟨hkey, hkind, htag.1⟩

theorem readBytes_append (bytes rest : List UInt8) :
    readBytes bytes.length (bytes ++ rest) = some (bytes, rest) := by
  rw [readBytes, if_pos (by simp), List.take_left, List.drop_left]

theorem readPayload_content (hwritten : p.Written) (hlength : p.content.length < 2 ^ 64)
    (rest : List UInt8) :
    readPayload fuel room tag p.wireType (p.content ++ rest) = some (p, rest) := by
  cases p with
  | varint n =>
    show readPayload fuel room tag 0 (writeVarint n ++ rest) = _
    rw [readPayload, readVarint_writeVarint hwritten]
    rfl
  | delimited bytes =>
    have hshort : bytes.length < 2 ^ 64 := by
      simp only [Payload.content, List.length_append] at hlength
      omega
    show readPayload fuel room tag 2 (writeVarint bytes.length ++ bytes ++ rest) = _
    rw [readPayload, List.append_assoc, readVarint_writeVarint hshort]
    simp only [Option.bind_eq_bind, Option.bind_some, readBytes_append]
    rfl
  | fixed64 | group | fixed32 => exact hwritten.elim

/-- What fields are that begin with one. -/
theorem fieldsFrom_eq_of_readKey {content rest' : List UInt8}
    (hkey : readKey bytes = some (tag, kind, content))
    (hpayload : readPayload content.length room tag kind content = some (p, rest')) :
    fieldsFrom (fuel + 1) room bytes = (fieldsFrom fuel room rest').map ((tag, p) :: ·) := by
  cases bytes with
  | nil => simp [readKey, readVarint, readVarintFrom] at hkey
  | cons b bytes =>
    rw [fieldsFrom, hkey]
    · simp only [Option.bind_eq_bind, Option.bind_some, hpayload]
      cases fieldsFrom fuel room rest' <;> rfl
    · exact List.cons_ne_nil b bytes

/-- **Fields are read back.** -/
theorem fieldsFrom_encodeFields {fields : List (Nat × Payload)}
    (htags : ∀ f ∈ fields, 0 < f.1 ∧ f.1 < 2 ^ 29) (hwritten : ∀ f ∈ fields, f.2.Written)
    (hfuel : (encodeFields fields).length ≤ fuel)
    (hlength : (encodeFields fields).length < 2 ^ 64) :
    fieldsFrom fuel room (encodeFields fields) = some fields := by
  induction fields generalizing fuel with
  | nil => rw [encodeFields, List.flatMap_nil, fieldsFrom]
  | cons f rest ih =>
    obtain ⟨tag, p⟩ := f
    obtain ⟨htag, htags⟩ := List.forall_mem_cons.mp htags
    obtain ⟨hp, hwritten⟩ := List.forall_mem_cons.mp hwritten
    have happend : encodeFields ((tag, p) :: rest) =
        writeVarint (8 * tag + p.wireType) ++ (p.content ++ encodeFields rest) :=
      List.append_assoc ..
    have hpos := length_writeVarint_pos (8 * tag + p.wireType)
    rw [happend, List.length_append, List.length_append] at hfuel hlength
    obtain ⟨fuel, rfl⟩ : ∃ k, fuel = k + 1 := ⟨fuel - 1, by omega⟩
    have hkey := readKey_writeVarint htag p.wireType_lt (p.content ++ encodeFields rest)
    have hcontent : p.content.length < 2 ^ 64 := by omega
    have hpayload : readPayload (p.content ++ encodeFields rest).length room tag p.wireType
        (p.content ++ encodeFields rest) = some (p, encodeFields rest) :=
      readPayload_content hp hcontent _
    rw [happend, fieldsFrom_eq_of_readKey hkey hpayload, ih htags hwritten (by omega) (by omega)]
    rfl

/-! ### What was read -/

theorem length_of_readKey (hread : readKey bytes = some (tag, kind, rest)) :
    (writeVarint (8 * tag + kind)).length + rest.length ≤ bytes.length := by
  obtain ⟨⟨key, left⟩, hkey, hsome⟩ := Option.bind_eq_some_iff.mp hread
  obtain ⟨-, heq⟩ := Option.ite_none_right_eq_some.mp hsome
  obtain ⟨rfl, rfl, rfl⟩ : key / 8 = tag ∧ key % 8 = kind ∧ left = rest := by simpa using heq
  have hsplit : 8 * (key / 8) + key % 8 = key := by omega
  rw [hsplit]
  exact length_of_readVarint hkey

theorem length_of_readBytes {content : List UInt8}
    (hread : readBytes n bytes = some (content, rest)) :
    content.length = n ∧ content.length + rest.length = bytes.length := by
  obtain ⟨hle, heq⟩ := Option.ite_none_right_eq_some.mp hread
  obtain ⟨rfl, rfl⟩ := Prod.mk.inj (Option.some.inj heq)
  rw [List.length_take, List.length_drop]
  omega

/-- The rest of a payload is part of what it was read from, if that is so for groups. -/
theorem length_of_readPayload_of
    (hgroup : ∀ {rest}, skipGroup fuel room tag bytes = some rest → rest.length ≤ bytes.length)
    (hread : readPayload fuel room tag kind bytes = some (p, rest)) :
    p.wireType = kind ∧ p.content.length + rest.length ≤ bytes.length := by
  rw [readPayload.eq_def] at hread
  split at hread
  · obtain ⟨⟨n, left⟩, hn, heq⟩ := Option.map_eq_some_iff.mp hread
    obtain ⟨rfl, rfl⟩ := Prod.mk.inj heq
    exact ⟨rfl, length_of_readVarint hn⟩
  · obtain ⟨⟨content, left⟩, hcontent, heq⟩ := Option.map_eq_some_iff.mp hread
    obtain ⟨rfl, rfl⟩ := Prod.mk.inj heq
    have hlength := (length_of_readBytes hcontent).2
    exact ⟨rfl, by simp only [Payload.content, List.length_nil]; omega⟩
  · obtain ⟨⟨n, left⟩, hn, hsome⟩ := Option.bind_eq_some_iff.mp hread
    obtain ⟨⟨content, left'⟩, hcontent, heq⟩ := Option.bind_eq_some_iff.mp hsome
    obtain ⟨rfl, rfl⟩ := Prod.mk.inj (Option.some.inj heq)
    have hnumber := length_of_readVarint hn
    obtain ⟨rfl, hlength⟩ := length_of_readBytes hcontent
    exact ⟨rfl, by simp only [Payload.content, List.length_append]; omega⟩
  · obtain ⟨left, hleft, heq⟩ := Option.map_eq_some_iff.mp hread
    obtain ⟨rfl, rfl⟩ := Prod.mk.inj heq
    exact ⟨rfl, by simpa [Payload.content] using hgroup hleft⟩
  · obtain ⟨⟨content, left⟩, hcontent, heq⟩ := Option.map_eq_some_iff.mp hread
    obtain ⟨rfl, rfl⟩ := Prod.mk.inj heq
    have hlength := (length_of_readBytes hcontent).2
    exact ⟨rfl, by simp only [Payload.content, List.length_nil]; omega⟩
  · contradiction

/-- What is behind a group is part of what it was read from. -/
theorem length_of_skipGroup (hread : skipGroup fuel room tag bytes = some rest) :
    rest.length ≤ bytes.length := by
  induction fuel generalizing room tag bytes rest with
  | zero => simp [skipGroup] at hread
  | succ fuel ih =>
    rw [skipGroup] at hread
    obtain ⟨⟨inner, kind, left⟩, hkey, hrest⟩ := Option.bind_eq_some_iff.mp hread
    have hleft := length_of_readKey hkey
    simp only at hrest
    split at hrest
    · obtain ⟨-, heq⟩ := Option.ite_none_right_eq_some.mp hrest
      obtain rfl := Option.some.inj heq
      omega
    · split at hrest
      · contradiction
      · obtain ⟨⟨p, left'⟩, hpayload, hskip⟩ := Option.bind_eq_some_iff.mp hrest
        have hleft' := (length_of_readPayload_of ih hpayload).2
        have hskip := ih hskip
        simp only at hskip
        omega

/-- **Fields take no fewer bytes than writing them would.** -/
theorem length_encodeFields_le {fields : List (Nat × Payload)}
    (hread : fieldsFrom fuel room bytes = some fields) :
    (encodeFields fields).length ≤ bytes.length := by
  induction fuel generalizing bytes fields with
  | zero =>
    cases bytes with
    | nil =>
      obtain rfl : [] = fields := by simpa [fieldsFrom] using hread
      exact Nat.le_refl _
    | cons b bytes => simp [fieldsFrom] at hread
  | succ fuel ih =>
    cases bytes with
    | nil =>
      obtain rfl : [] = fields := by simpa [fieldsFrom] using hread
      exact Nat.le_refl _
    | cons b bytes =>
      rw [fieldsFrom] at hread
      · obtain ⟨⟨tag, kind, content⟩, hkey, hsome⟩ := Option.bind_eq_some_iff.mp hread
        obtain ⟨⟨p, left⟩, hpayload, hsome⟩ := Option.bind_eq_some_iff.mp hsome
        obtain ⟨more, hmore, heq⟩ := Option.bind_eq_some_iff.mp hsome
        obtain rfl := Option.some.inj heq
        have hlength := length_of_readKey hkey
        obtain ⟨rfl, hcontent⟩ := length_of_readPayload_of length_of_skipGroup hpayload
        have hrest := ih hmore
        simp only [encodeFields, List.flatMap_cons, encodeField, List.length_append] at hrest ⊢
        omega
      · exact List.cons_ne_nil b bytes

end FeedLink.Grpc.Wire
