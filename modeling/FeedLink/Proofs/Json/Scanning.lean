import FeedLink.Json.Parser
import FeedLink.Json.Printer
import Mathlib.Data.List.Basic

/-!
# Tokens that were printed are scanned again

A string between quotes and an integer in decimal are scanned as what they were printed from, with
whatever stands behind them as the rest. Behind a string anything may stand. A number ends where no
digit, point or exponent follows, so what stands behind it must not go on with one (`Closes`).

## Main definitions

* `Closes` — a text that does not go on with a number

## Main results

* `stringDocument_renderString` — a printed string is scanned again
* `renderString_append_inj` — what begins with a printed string begins with no other one
* `numberDocument_renderInt` — a printed integer is scanned again
-/

namespace FeedLink.Json

/-! ### Strings -/

/-- The value of the digit for a number below sixteen is that number. -/
theorem hexDigit?_digitChar : ∀ n < 16, hexDigit? (Nat.digitChar n) = some n := by decide

/-- Every character takes a byte. -/
theorem length_le_utf8ByteSize (cs : List Char) : cs.length ≤ (String.ofList cs).utf8ByteSize := by
  induction cs with
  | nil => simp
  | cons c rest ih =>
    have hbyte : 1 ≤ c.utf8Size := c.utf8Size_pos
    rw [String.ofList_cons, String.utf8ByteSize_append, String.utf8ByteSize_singleton,
      List.length_cons]
    omega

/-- Four characters are enough for four hexadecimal digits. -/
theorem isShort_of_length {cs : List Char} (hlength : 4 ≤ cs.length) : isShort cs = false := by
  have hbytes := length_le_utf8ByteSize (cs.take 4)
  rw [List.length_take, Nat.min_eq_left hlength] at hbytes
  simpa [isShort] using hbytes

variable {acc rest : List Char}

/-- A character that was escaped is scanned again. -/
theorem scanString_escapeChar (c : Char) (acc cs : List Char) :
    scanString .plain acc true (escapeChar c ++ cs) = scanString .plain (c :: acc) true cs := by
  unfold escapeChar
  split
  · next h => subst h; simp [scanString, StringState.settle, simpleEscape?]
  split
  · next h => subst h; simp [scanString, StringState.settle, simpleEscape?]
  split
  · next h => subst h; simp [scanString, StringState.settle, simpleEscape?]
  split
  · next h => subst h; simp [scanString, StringState.settle, simpleEscape?]
  split
  · next h => subst h; simp [scanString, StringState.settle, simpleEscape?]
  split
  · next h => subst h; simp [scanString, StringState.settle, simpleEscape?]
  split
  · next h => subst h; simp [scanString, StringState.settle, simpleEscape?]
  split
  · next hcontrol =>
    -- an escape of four digits, of which the first two are zeros
    have hhigh := hexDigit?_digitChar (c.toNat / 16) (by omega)
    have hlow := hexDigit?_digitChar (c.toNat % 16) (by omega)
    have hunit : c.toNat / 16 * 16 + c.toNat % 16 = c.toNat := by omega
    have hzero : hexDigit? '0' = some 0 := by decide
    have hsurrogate : isLowSurrogate c.toNat = false ∧ isHighSurrogate c.toNat = false := by
      simp only [isLowSurrogate, isHighSurrogate, Bool.and_eq_false_iff, decide_eq_false_iff_not]
      omega
    simp [scanString, StringState.settle, isShort_of_length, hzero, hhigh, hlow, hunit,
      hsurrogate]
  · next hquote hbackslash _ _ _ _ _ hcontrol =>
    simp [scanString, StringState.settle, hquote, hbackslash, hcontrol]

theorem scanString_flatMap (s acc rest : List Char) :
    scanString .plain acc true (s.flatMap escapeChar ++ '"' :: rest) =
      .token (String.ofList (acc.reverse ++ s)) rest := by
  induction s generalizing acc with
  | nil => simp [scanString, StringState.settle]
  | cons c s ih =>
    rw [List.flatMap_cons, List.append_assoc, scanString_escapeChar, ih, List.reverse_cons,
      List.append_assoc, List.singleton_append]

/-- **A printed string is scanned again**, behind its opening quote. -/
theorem stringDocument_renderString (s : String) (rest : List Char) :
    stringDocument (s.toList.flatMap escapeChar ++ '"' :: rest) = (.str s, some rest) := by
  rw [stringDocument, scanString_flatMap, List.reverse_nil, List.nil_append, String.ofList_toList]

/-- What begins with a printed string begins with no other one. -/
theorem renderString_append_inj {s s' : String} {rest rest' : List Char}
    (heq : renderString s ++ rest = renderString s' ++ rest') : s = s' ∧ rest = rest' := by
  have htail : s.toList.flatMap escapeChar ++ '"' :: rest =
      s'.toList.flatMap escapeChar ++ '"' :: rest' := by simpa [renderString] using heq
  have hdoc := congrArg stringDocument htail
  rw [stringDocument_renderString, stringDocument_renderString] at hdoc
  obtain ⟨hs, hrest⟩ := Prod.mk.inj hdoc
  exact ⟨Document.str.inj hs, Option.some.inj hrest⟩

/-! ### Numbers -/

/-- The text does not go on with a number. -/
def Closes (rest : List Char) : Prop :=
  ∀ c ∈ rest.head?, c.isDigit = false ∧ c ≠ '.' ∧ c ≠ 'e' ∧ c ≠ 'E'

theorem closes_nil : Closes [] := by simp [Closes]

theorem scanExponent_of_closes {rest : List Char} (hrest : Closes rest) (n : Numeral) :
    scanExponent n rest = .token n rest := by
  cases rest with
  | nil => rfl
  | cons c rest =>
    obtain ⟨-, -, he, hE⟩ := hrest c rfl
    simp only [scanExponent, he, hE, or_self, if_false]

theorem scanFraction_of_closes {rest : List Char} (hrest : Closes rest) (negative : Bool)
    (whole : List Char) :
    scanFraction negative whole rest = .token ⟨negative, true, digitsToNat whole, 0⟩ rest := by
  unfold scanFraction
  split
  · next rest => exact absurd rfl (hrest '.' rfl).2.1
  · exact scanExponent_of_closes hrest _

/-- Digits are taken up to where the number ends. -/
theorem span_digits {ds rest : List Char} (hds : ∀ d ∈ ds, d.isDigit = true)
    (hrest : Closes rest) :
    (ds ++ rest).takeWhile Char.isDigit = ds ∧ (ds ++ rest).dropWhile Char.isDigit = rest := by
  rw [List.takeWhile_append_of_pos hds, List.dropWhile_append_of_pos hds]
  cases rest with
  | nil => simp
  | cons c rest => simp [(hrest c rfl).1]

theorem digitsToNat_toDigits (n : Nat) : digitsToNat (Nat.toDigits 10 n) = n :=
  Nat.ofDigitChars_toDigits (by omega) (by omega)

theorem isDigit_of_mem_toDigits {n : Nat} {d : Char} (hd : d ∈ Nat.toDigits 10 n) :
    d.isDigit = true :=
  Nat.isDigit_of_mem_toDigits (by omega) (by omega) hd

theorem toDigits_eq_cons (n : Nat) : ∃ d ds, Nat.toDigits 10 n = d :: ds ∧ d.isDigit = true := by
  cases hdigits : Nat.toDigits 10 n with
  | nil => exact absurd hdigits Nat.toDigits_ne_nil
  | cons d ds => exact ⟨d, ds, rfl, isDigit_of_mem_toDigits (hdigits ▸ List.mem_cons_self ..)⟩

/-- The first digit of a number is no zero, unless the number is. -/
theorem toDigits_of_pos (n : Nat) (hn : 0 < n) : ∃ d ds, Nat.toDigits 10 n = d :: ds ∧ d ≠ '0' := by
  induction n using Nat.strongRecOn with
  | ind n ih =>
    by_cases hsmall : n < 10
    · refine ⟨Nat.digitChar n, [], Nat.toDigits_of_lt_base hsmall, ?_⟩
      have hdigits : ∀ m < 10, 0 < m → Nat.digitChar m ≠ '0' := by decide
      exact hdigits n hsmall hn
    · obtain ⟨d, ds, hdigits, hd⟩ := ih (n / 10) (by omega) (by omega)
      rw [Nat.toDigits_of_base_le (by omega) (by omega), hdigits]
      exact ⟨d, _, rfl, hd⟩

theorem scanMagnitude_toDigits {rest : List Char} (hrest : Closes rest) (negative : Bool)
    (n : Nat) :
    scanMagnitude negative (Nat.toDigits 10 n ++ rest) = .token ⟨negative, true, n, 0⟩ rest := by
  have hvalue := digitsToNat_toDigits n
  rcases Nat.eq_zero_or_pos n with rfl | hn
  · rw [Nat.toDigits_zero] at hvalue ⊢
    have hhead : (rest.head?.map Char.isDigit).getD false = false := by
      cases rest with
      | nil => rfl
      | cons c rest => exact (hrest c rfl).1
    simp only [List.singleton_append, scanMagnitude, hhead, Bool.false_eq_true, if_false,
      scanFraction_of_closes hrest, hvalue]
  · obtain ⟨d, ds, hdigits, hd⟩ := toDigits_of_pos n hn
    have hall : ∀ c ∈ d :: ds, c.isDigit = true := fun c hc =>
      isDigit_of_mem_toDigits (hdigits ▸ hc)
    obtain ⟨htake, hdrop⟩ := span_digits (fun c hc => hall c (List.mem_cons_of_mem d hc)) hrest
    rw [hdigits] at hvalue ⊢
    rw [List.cons_append, scanMagnitude]
    · simp only [hall d (List.mem_cons_self ..), if_true, htake, hdrop,
        scanFraction_of_closes hrest, hvalue]
    · exact hd

/-- **A printed integer is scanned again.** -/
theorem numberDocument_renderInt {rest : List Char} (hrest : Closes rest) {i : Int}
    (hbound : FitsWord i) :
    numberDocument (Number.renderInt i ++ rest) = (.num (.int i hbound), some rest) := by
  have hofInt : Number.ofInt? i = some (.int i hbound) := dif_pos hbound
  unfold Number.renderInt
  split
  · next hneg =>
    have hmagnitude : -(i.natAbs : Int) = i := by omega
    have hnonzero : i.natAbs ≠ 0 := by omega
    rw [List.cons_append]
    simp only [numberDocument, scanNumber, scanMagnitude_toDigits hrest, Numeral.number?,
      Numeral.integer?, hnonzero, hmagnitude, hofInt, if_true, if_false, Option.some_or]
  · next hpos =>
    have hmagnitude : (i.natAbs : Int) = i := by omega
    have hscan : scanNumber (Nat.toDigits 10 i.natAbs ++ rest) =
        scanMagnitude false (Nat.toDigits 10 i.natAbs ++ rest) := by
      unfold scanNumber
      split
      · next cs heq =>
        obtain ⟨d, ds, hdigits, hd⟩ := toDigits_eq_cons i.natAbs
        rw [hdigits, List.cons_append] at heq
        obtain rfl := (List.cons.inj heq).1
        contradiction
      · rfl
    simp only [numberDocument, hscan, scanMagnitude_toDigits hrest, Numeral.number?,
      Numeral.integer?, hmagnitude, hofInt, if_true, if_false, Option.some_or, Bool.false_eq_true]

end FeedLink.Json
