import FeedLink.Text.Utf8
import Mathlib.Data.List.Lex
import Mathlib.Data.String.Basic

/-!
# Reading back UTF-8

Any bytes are read as some text, with U+FFFD where they are no UTF-8. The UTF-8 form of a text is
read as the text, so nothing is replaced where nothing has to be. Texts are compared by their
characters, which is the same as to compare their bytes.

## Main results

* `Utf8.takeChar_of_char` — the bytes of a character are taken as the character
* `Utf8.lossyText_bytesOf` — the bytes of a text are read as the text
* `Utf8.textOf?_eq_some_iff` — a strict reader reads nothing else
* `Utf8.bytesOf_lt_iff` — the order of texts is the order of their bytes
-/

namespace FeedLink.Utf8

/-! ### Which bytes make a character -/

variable {a b c d : UInt8} {rest : List UInt8}

/-- The byte carries six bits of a character behind the first byte. -/
theorem isContinuation_iff : isContinuation b = true ↔ 0x80 ≤ b.toNat ∧ b.toNat ≤ 0xBF := by
  simp [isContinuation, UInt8.le_iff_toNat_le]

theorem maySecond_iff : maySecond a b = true ↔ (0x80 ≤ b.toNat ∧ b.toNat ≤ 0xBF) ∧
    (a.toNat = 0xE0 → 0xA0 ≤ b.toNat) ∧ (a.toNat = 0xED → b.toNat ≤ 0x9F) ∧
      (a.toNat = 0xF0 → 0x90 ≤ b.toNat) ∧ (a.toNat = 0xF4 → b.toNat ≤ 0x8F) := by
  simp only [maySecond, isContinuation, ← UInt8.toNat_inj, UInt8.le_iff_toNat_le]
  repeat' split
  all_goals simp_all
  all_goals omega

theorem takeChar_one (ha : a.toNat < 0x80) :
    takeChar a rest = (Char.ofNat a.toNat, rest) := by
  have hone : a < 0x80 := ha
  unfold takeChar
  rw [if_pos hone]

theorem takeChar_two (ha : 0xC2 ≤ a.toNat ∧ a.toNat ≤ 0xDF) (hb : isContinuation b = true) :
    takeChar a (b :: rest) = (Char.ofNat (a.toNat % 32 * 64 + payload b), rest) := by
  have hone : ¬a < 0x80 := by simp only [UInt8.lt_iff_toNat_lt, UInt8.reduceToNat]; omega
  have htwo : 0xC2 ≤ a ∧ a ≤ 0xDF := ha
  unfold takeChar
  simp only [if_neg hone, if_pos htwo, hb, if_true]

theorem takeChar_three (ha : 0xE0 ≤ a.toNat ∧ a.toNat ≤ 0xEF) (hb : maySecond a b = true)
    (hc : isContinuation c = true) :
    takeChar a (b :: c :: rest) =
      (Char.ofNat ((a.toNat % 16 * 64 + payload b) * 64 + payload c), rest) := by
  have hone : ¬a < 0x80 := by simp only [UInt8.lt_iff_toNat_lt, UInt8.reduceToNat]; omega
  have htwo : ¬(0xC2 ≤ a ∧ a ≤ 0xDF) := by
    simp only [UInt8.le_iff_toNat_le, UInt8.reduceToNat]; omega
  have hthree : 0xE0 ≤ a ∧ a ≤ 0xEF := ha
  unfold takeChar
  simp only [if_neg hone, if_neg htwo, if_pos hthree, hb, hc, if_true]

theorem takeChar_four (ha : 0xF0 ≤ a.toNat ∧ a.toNat ≤ 0xF4) (hb : maySecond a b = true)
    (hc : isContinuation c = true) (hd : isContinuation d = true) :
    takeChar a (b :: c :: d :: rest) =
      (Char.ofNat (((a.toNat % 8 * 64 + payload b) * 64 + payload c) * 64 + payload d), rest) := by
  have hone : ¬a < 0x80 := by simp only [UInt8.lt_iff_toNat_lt, UInt8.reduceToNat]; omega
  have htwo : ¬(0xC2 ≤ a ∧ a ≤ 0xDF) := by
    simp only [UInt8.le_iff_toNat_le, UInt8.reduceToNat]; omega
  have hthree : ¬(0xE0 ≤ a ∧ a ≤ 0xEF) := by
    simp only [UInt8.le_iff_toNat_le, UInt8.reduceToNat]; omega
  have hfour : 0xF0 ≤ a ∧ a ≤ 0xF4 := ha
  unfold takeChar
  simp only [if_neg hone, if_neg htwo, if_neg hthree, if_pos hfour, hb, hc, hd, if_true]

/-! ### The bytes of a text -/

theorem bytesOf_eq (s : String) : bytesOf s = s.toList.flatMap String.utf8EncodeChar := by
  rw [bytesOf, String.toUTF8_eq_toByteArray, ← String.utf8Encode_toList, List.utf8Encode]
  simp

/-- **The bytes of a character are taken as the character.** -/
theorem takeChar_of_char (ch : Char) (rest : List UInt8) :
    ∃ first more, String.utf8EncodeChar ch = first :: more ∧
      takeChar first (more ++ rest) = (ch, rest) := by
  have hvalid : ch.toNat < 0xD800 ∨ 0xDFFF < ch.toNat ∧ ch.toNat < 0x110000 := ch.valid
  have hch : Char.ofNat ch.toNat = ch := Char.ofNat_toNat ch
  have hval : ch.val.toNat = ch.toNat := rfl
  simp only [String.utf8EncodeChar, hval]
  generalize ch.toNat = v at hvalid hch
  have hbyte : ∀ n < 256, (UInt8.ofNat n).toNat = n := fun n hn => UInt8.toNat_ofNat_of_lt hn
  split
  · have hfirst := hbyte v (by omega)
    refine ⟨_, _, rfl, ?_⟩
    rw [List.nil_append, takeChar_one (by omega), hfirst, hch]
  split
  · have hfirst := hbyte (v / 64 % 32 + 192) (by omega)
    have hsecond := hbyte (v % 64 + 128) (by omega)
    refine ⟨_, _, rfl, ?_⟩
    rw [List.singleton_append, takeChar_two (by omega) (isContinuation_iff.mpr (by omega)), payload,
      hfirst, hsecond, ← hch]
    congr 2
    omega
  split
  · have hfirst := hbyte (v / 4096 % 16 + 224) (by omega)
    have hsecond := hbyte (v / 64 % 64 + 128) (by omega)
    have hthird := hbyte (v % 64 + 128) (by omega)
    refine ⟨_, _, rfl, ?_⟩
    rw [List.cons_append, List.singleton_append, takeChar_three (by omega)
      (maySecond_iff.mpr (by omega)) (isContinuation_iff.mpr (by omega)), payload, payload,
      hfirst, hsecond, hthird, ← hch]
    congr 2
    omega
  · have hfirst := hbyte (v / 262144 % 8 + 240) (by omega)
    have hsecond := hbyte (v / 4096 % 64 + 128) (by omega)
    have hthird := hbyte (v / 64 % 64 + 128) (by omega)
    have hfourth := hbyte (v % 64 + 128) (by omega)
    refine ⟨_, _, rfl, ?_⟩
    rw [List.cons_append, List.cons_append, List.singleton_append, takeChar_four (by omega)
      (maySecond_iff.mpr (by omega)) (isContinuation_iff.mpr (by omega))
      (isContinuation_iff.mpr (by omega)), payload, payload, payload, hfirst, hsecond, hthird,
      hfourth, ← hch]
    congr 2
    omega

theorem lossyChars_flatMap (chars : List Char) :
    lossyChars (chars.flatMap String.utf8EncodeChar) = chars := by
  induction chars with
  | nil => rw [List.flatMap_nil, lossyChars]
  | cons ch rest ih =>
    obtain ⟨first, more, hbytes, htake⟩ := takeChar_of_char ch (rest.flatMap String.utf8EncodeChar)
    rw [List.flatMap_cons, hbytes, List.cons_append, lossyChars, htake, ih]

/-- **The bytes of a text are read as the text.** -/
theorem lossyText_bytesOf (s : String) : lossyText (bytesOf s) = s := by
  rw [lossyText, bytesOf_eq, lossyChars_flatMap, String.ofList_toList]

/-- Bytes are read as the text that they are the form of, and as no other. -/
theorem textOf?_eq_some_iff {bytes : List UInt8} {s : String} :
    textOf? bytes = some s ↔ bytesOf s = bytes := by
  have hbytes : bytesOf s = bytes ↔ s.toByteArray = ⟨bytes.toArray⟩ := by
    rw [bytesOf, String.toUTF8_eq_toByteArray, ByteArray.ext_iff]
    constructor
    · rintro rfl
      rfl
    · intro heq
      rw [heq]
  rw [hbytes, textOf?, String.fromUTF8?]
  constructor
  · intro hread
    split at hread
    · obtain rfl := Option.some.inj hread
      rfl
    · contradiction
  · intro heq
    rw [← heq]
    exact dif_pos s.isValidUTF8

@[simp] theorem textOf?_bytesOf (s : String) : textOf? (bytesOf s) = some s :=
  textOf?_eq_some_iff.mpr rfl

/-- Texts that differ have different bytes. -/
theorem injective_bytesOf : Function.Injective bytesOf := fun s t heq => by
  rw [← lossyText_bytesOf s, heq, lossyText_bytesOf]

/-! ### The order of texts -/

/-- The bytes of a smaller character are smaller, and none of the two begins with the other. -/
theorem utf8EncodeChar_append_lt {ch ch' : Char} (hlt : ch < ch') (rest rest' : List UInt8) :
    String.utf8EncodeChar ch ++ rest < String.utf8EncodeChar ch' ++ rest' := by
  have hvalid : ch'.toNat < 0xD800 ∨ 0xDFFF < ch'.toNat ∧ ch'.toNat < 0x110000 := ch'.valid
  have hlt : ch.toNat < ch'.toNat := hlt
  have hval : ch.val.toNat = ch.toNat := rfl
  have hval' : ch'.val.toNat = ch'.toNat := rfl
  have hbyte : ∀ n < 256, (UInt8.ofNat n).toNat = n := fun n hn => UInt8.toNat_ofNat_of_lt hn
  simp only [String.utf8EncodeChar, hval, hval']
  generalize ch.toNat = v at hlt
  generalize ch'.toNat = v' at hlt hvalid
  have hsix : v / 64 ≤ v' / 64 := Nat.div_le_div_right hlt.le
  have htwelve : v / 4096 ≤ v' / 4096 := Nat.div_le_div_right hlt.le
  have heighteen : v / 262144 ≤ v' / 262144 ∧ v' / 262144 < 8 := by omega
  -- a longer form has a greater first byte, and forms of one length differ at a digit
  repeat' split
  all_goals
    simp only [List.cons_append, List.nil_append, List.cons_lt_cons_iff, UInt8.lt_iff_toNat_lt,
      ← UInt8.toNat_inj]
    simp (disch := omega) only [hbyte]
    omega

theorem flatMap_utf8EncodeChar_lt {l l' : List Char} (hlt : l < l') :
    l.flatMap String.utf8EncodeChar < l'.flatMap String.utf8EncodeChar := by
  induction l generalizing l' with
  | nil =>
    cases l' with
    | nil => exact absurd hlt (List.not_lt_nil _)
    | cons ch' rest' =>
      obtain ⟨first, more, hbytes, -⟩ := takeChar_of_char ch' []
      rw [List.flatMap_cons, hbytes]
      exact List.nil_lt_cons ..
  | cons ch rest ih =>
    cases l' with
    | nil => exact absurd hlt (List.not_lt_nil _)
    | cons ch' rest' =>
      rw [List.flatMap_cons, List.flatMap_cons]
      rcases List.cons_lt_cons_iff.mp hlt with hch | ⟨rfl, hrest⟩
      · exact utf8EncodeChar_append_lt hch _ _
      · exact List.append_left_lt (ih hrest)

/-- **The order of texts is the order of their bytes.** -/
theorem bytesOf_lt_iff {s t : String} : bytesOf s < bytesOf t ↔ s < t := by
  have hmono : ∀ {s t : String}, s < t → bytesOf s < bytesOf t := fun {s t} hlt => by
    rw [bytesOf_eq, bytesOf_eq]
    exact flatMap_utf8EncodeChar_lt (String.lt_iff_toList_lt.mp hlt)
  refine ⟨fun hlt => ?_, hmono⟩
  rcases lt_trichotomy s t with hst | rfl | hts
  · exact hst
  · exact absurd hlt (List.lt_irrefl _)
  · exact absurd hlt (List.lt_asymm (hmono hts))

end FeedLink.Utf8
