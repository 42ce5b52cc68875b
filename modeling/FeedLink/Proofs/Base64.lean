import FeedLink.Text.Base64

/-!
# What Base64 stands for

A strict reader of the standard alphabet, which knows nothing of how the texts are written: four
characters at a time stand for twenty-four bits, which are three bytes. Only the last group may be
filled up, and then the bits that stand for no byte must be zero. Reading what was written gives the
bytes back.

## Main definitions

* `Base64.alphabet` — the characters in the order of their values
* `Base64.decode?` — the bytes that a text stands for

## Main results

* `Base64.decode?_encode` — what is written stands for the bytes
-/

namespace FeedLink.Base64

/-- The characters in the order of their values. -/
def alphabet : List Char :=
  ['A', 'B', 'C', 'D', 'E', 'F', 'G', 'H', 'I', 'J', 'K', 'L', 'M',
   'N', 'O', 'P', 'Q', 'R', 'S', 'T', 'U', 'V', 'W', 'X', 'Y', 'Z',
   'a', 'b', 'c', 'd', 'e', 'f', 'g', 'h', 'i', 'j', 'k', 'l', 'm',
   'n', 'o', 'p', 'q', 'r', 's', 't', 'u', 'v', 'w', 'x', 'y', 'z',
   '0', '1', '2', '3', '4', '5', '6', '7', '8', '9', '+', '/']

/-- The six bits that a character stands for. -/
def value? (c : Char) : Option Nat := alphabet.findIdx? (· = c)

/-- The bytes of one group: three of them, or fewer in a group that is filled up. -/
def decodeGroup? (a b c d : Char) : Option (List UInt8) := do
  let high := (← value? a) * 64 + (← value? b)
  if c = '=' ∧ d = '=' then
    if high % 16 = 0 then some [UInt8.ofNat (high / 16)] else none
  else
    let middle := high * 64 + (← value? c)
    if d = '=' then
      if middle % 4 = 0 then some [UInt8.ofNat (middle / 1024), UInt8.ofNat (middle / 4 % 256)]
      else none
    else
      let n := middle * 64 + (← value? d)
      some [UInt8.ofNat (n / 65536), UInt8.ofNat (n / 256 % 256), UInt8.ofNat (n % 256)]

/-- The bytes of a sequence of groups, of which only the last may be filled up. -/
def decodeChars? : List Char → Option (List UInt8)
  | [] => some []
  | a :: b :: c :: d :: rest => do
    let bytes ← decodeGroup? a b c d
    if d = '=' ∧ rest ≠ [] then none else return bytes ++ (← decodeChars? rest)
  | _ => none

/-- The bytes that a text stands for. -/
def decode? (s : String) : Option (List UInt8) := decodeChars? s.toList

variable {n : Nat}

theorem value?_digit (hn : n < 64) : value? (digit n) = some n := by
  revert n
  decide

theorem digit_ne_padding (hn : n < 64) : digit n ≠ '=' := by
  revert n
  decide

theorem ofNat_eq_of_toNat_eq {a : UInt8} (hn : n = a.toNat) : UInt8.ofNat n = a := by
  rw [hn, UInt8.ofNat_toNat]

theorem decodeGroup?_one (a : UInt8) :
    decodeGroup? (digit (a.toNat / 4)) (digit (a.toNat % 4 * 16)) '=' '=' = some [a] := by
  have ha := a.toNat_lt
  have hlow : ((a.toNat / 4) * 64 + a.toNat % 4 * 16) % 16 = 0 := by omega
  rw [decodeGroup?, value?_digit (by omega), value?_digit (by omega)]
  simp only [Option.bind_eq_bind, Option.bind_some, and_self, if_true, hlow]
  rw [ofNat_eq_of_toNat_eq (a := a) (by omega)]

theorem decodeGroup?_two (a b : UInt8) :
    let n := a.toNat * 256 + b.toNat
    decodeGroup? (digit (n / 1024)) (digit (n / 16 % 64)) (digit (n % 16 * 4)) '=' =
      some [a, b] := by
  intro n
  have ha := a.toNat_lt
  have hb := b.toNat_lt
  have hbits : (n / 1024 * 64 + n / 16 % 64) * 64 + n % 16 * 4 = n * 4 := by omega
  rw [decodeGroup?, value?_digit (by omega), value?_digit (by omega), value?_digit (by omega)]
  have hthird : digit (n % 16 * 4) ≠ '=' := digit_ne_padding (by omega)
  simp only [Option.bind_eq_bind, Option.bind_some, hthird, false_and, if_false, if_true, hbits,
    Nat.mul_mod_left]
  rw [ofNat_eq_of_toNat_eq (a := a) (by omega), ofNat_eq_of_toNat_eq (a := b) (by omega)]

theorem decodeGroup?_three (a b c : UInt8) :
    let n := (a.toNat * 256 + b.toNat) * 256 + c.toNat
    decodeGroup? (digit (n / 262144)) (digit (n / 4096 % 64)) (digit (n / 64 % 64))
      (digit (n % 64)) = some [a, b, c] := by
  intro n
  have ha := a.toNat_lt
  have hb := b.toNat_lt
  have hc := c.toNat_lt
  have hbits :
      ((n / 262144 * 64 + n / 4096 % 64) * 64 + n / 64 % 64) * 64 + n % 64 = n := by omega
  rw [decodeGroup?, value?_digit (by omega), value?_digit (by omega), value?_digit (by omega),
    value?_digit (by omega)]
  have hlast : digit (n % 64) ≠ '=' := digit_ne_padding (by omega)
  simp only [Option.bind_eq_bind, Option.bind_some, hlast, and_false, if_false, hbits]
  rw [ofNat_eq_of_toNat_eq (a := a) (by omega), ofNat_eq_of_toNat_eq (a := b) (by omega),
    ofNat_eq_of_toNat_eq (a := c) (by omega)]

theorem decodeChars?_encodeChars (bytes : List UInt8) :
    decodeChars? (encodeChars bytes) = some bytes := by
  induction bytes using encodeChars.induct with
  | case1 a b c rest ih =>
    have hlast : digit (((a.toNat * 256 + b.toNat) * 256 + c.toNat) % 64) ≠ '=' :=
      digit_ne_padding (by omega)
    rw [encodeChars, decodeChars?, decodeGroup?_three a b c]
    simp only [Option.bind_eq_bind, Option.bind_some, hlast, false_and, if_false, ih]
    rfl
  | case2 a b =>
    rw [encodeChars, decodeChars?, decodeGroup?_two a b]
    rfl
  | case3 a =>
    rw [encodeChars, decodeChars?, decodeGroup?_one a]
    rfl
  | case4 => rfl

/-- **What is written stands for the bytes.** -/
theorem decode?_encode (bytes : List UInt8) : decode? (encode bytes) = some bytes := by
  rw [decode?, encode, String.toList_ofList, decodeChars?_encodeChars]

end FeedLink.Base64
