/-!
# Bytes as text

`bytesOf` is the UTF-8 form of a text and `textOf?` reads it back. `lossyText` accepts any bytes:
where they stop being UTF-8 it puts U+FFFD for the longest beginning of a character that it found
there, or for a single byte that begins none.
-/

namespace FeedLink.Utf8

/-- The UTF-8 bytes of a text. -/
def bytesOf (s : String) : List UInt8 := s.toUTF8.data.toList

/-- The text that bytes are the UTF-8 form of. -/
def textOf? (bytes : List UInt8) : Option String := String.fromUTF8? ⟨bytes.toArray⟩

/-- The character that stands for bytes that are no text. -/
def replacement : Char := '\uFFFD'

/-- Is the byte inside a character, and not the first one of it? -/
def isContinuation (b : UInt8) : Bool := 0x80 ≤ b && b ≤ 0xBF

/-- May `second` follow the first byte `first` of a character of three or four bytes? This leaves
out overlong forms, surrogates and what lies past the last code point. -/
def maySecond (first second : UInt8) : Bool :=
  if first = 0xE0 then 0xA0 ≤ second && second ≤ 0xBF
  else if first = 0xED then 0x80 ≤ second && second ≤ 0x9F
  else if first = 0xF0 then 0x90 ≤ second && second ≤ 0xBF
  else if first = 0xF4 then 0x80 ≤ second && second ≤ 0x8F
  else isContinuation second

/-- The six bits that a continuation byte carries. -/
def payload (b : UInt8) : Nat := b.toNat % 64

/-- How the bytes at the front read: as a character, or as the beginning of none, and what is left
behind them. -/
def takeChar (first : UInt8) (rest : List UInt8) : Char × List UInt8 :=
  if first < 0x80 then (Char.ofNat first.toNat, rest)
  else if 0xC2 ≤ first ∧ first ≤ 0xDF then
    match rest with
    | b :: rest' =>
      if isContinuation b then (Char.ofNat (first.toNat % 32 * 64 + payload b), rest')
      else (replacement, rest)
    | [] => (replacement, [])
  else if 0xE0 ≤ first ∧ first ≤ 0xEF then
    match rest with
    | b :: rest' =>
      if maySecond first b then
        match rest' with
        | c :: rest'' =>
          if isContinuation c then
            (Char.ofNat ((first.toNat % 16 * 64 + payload b) * 64 + payload c), rest'')
          else (replacement, rest')
        | [] => (replacement, [])
      else (replacement, rest)
    | [] => (replacement, [])
  else if 0xF0 ≤ first ∧ first ≤ 0xF4 then
    match rest with
    | b :: rest' =>
      if maySecond first b then
        match rest' with
        | c :: rest'' =>
          if isContinuation c then
            match rest'' with
            | d :: rest''' =>
              if isContinuation d then
                (Char.ofNat
                  (((first.toNat % 8 * 64 + payload b) * 64 + payload c) * 64 + payload d),
                  rest''')
              else (replacement, rest'')
            | [] => (replacement, [])
          else (replacement, rest')
        | [] => (replacement, [])
      else (replacement, rest)
    | [] => (replacement, [])
  else (replacement, rest)

theorem length_takeChar_le (first : UInt8) (rest : List UInt8) :
    (takeChar first rest).2.length ≤ rest.length := by
  unfold takeChar
  repeat' split
  all_goals simp_all only [List.length_cons, List.length_nil, Nat.le_refl, Nat.zero_le]
  all_goals omega

/-- The characters of any sequence of bytes. -/
def lossyChars : List UInt8 → List Char
  | [] => []
  | b :: rest => (takeChar b rest).1 :: lossyChars (takeChar b rest).2
termination_by bytes => bytes.length
decreasing_by
  have := length_takeChar_le b rest
  simp only [List.length_cons]
  omega

/-- The text of any sequence of bytes. -/
def lossyText (bytes : List UInt8) : String := String.ofList (lossyChars bytes)

end FeedLink.Utf8
