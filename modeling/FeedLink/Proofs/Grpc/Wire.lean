import FeedLink.Grpc.Wire

/-!
# What is written can be told apart

The bytes of a number end where the number ends, so no bytes that follow can be mistaken for a part
of it. The same goes for a field that carries bytes, since their number is written in front of them.
Of two messages that are the same bytes, the first numbers and the first fields are therefore the
same, and so is what follows.

## Main results

* `Grpc.Wire.writeVarint_append_inj` — a number and what follows it
* `Grpc.Wire.encodeDelimited_append_inj` — bytes in a field and what follows it
-/

namespace FeedLink.Grpc.Wire

theorem ofNat_inj {m n : Nat} (hm : m < 256) (hn : n < 256) (heq : UInt8.ofNat m = UInt8.ofNat n) :
    m = n := by
  have htoNat := congrArg UInt8.toNat heq
  rwa [UInt8.toNat_ofNat', UInt8.toNat_ofNat', Nat.mod_eq_of_lt hm, Nat.mod_eq_of_lt hn] at htoNat

theorem writeVarint_of_lt {n : Nat} (hn : n < 128) : writeVarint n = [UInt8.ofNat n] := by
  rw [writeVarint, if_pos hn]

theorem writeVarint_of_not_lt {n : Nat} (hn : ¬n < 128) :
    writeVarint n = UInt8.ofNat (n % 128 + 128) :: writeVarint (n / 128) := by
  rw [writeVarint, if_neg hn]

/-- **A number and what follows it.** The first byte tells whether the number ends there. -/
theorem writeVarint_append_inj {m n : Nat} {rest rest' : List UInt8}
    (heq : writeVarint m ++ rest = writeVarint n ++ rest') : m = n ∧ rest = rest' := by
  induction m using Nat.strongRecOn generalizing n with
  | ind m ih =>
    by_cases hm : m < 128 <;> by_cases hn : n < 128
    · rw [writeVarint_of_lt hm, writeVarint_of_lt hn] at heq
      obtain ⟨hfirst, hrest⟩ := List.cons.inj heq
      exact ⟨ofNat_inj (by omega) (by omega) hfirst, hrest⟩
    · rw [writeVarint_of_lt hm, writeVarint_of_not_lt hn] at heq
      have hfirst := ofNat_inj (by omega) (by omega) (List.cons.inj heq).1
      omega
    · rw [writeVarint_of_not_lt hm, writeVarint_of_lt hn] at heq
      have hfirst := ofNat_inj (by omega) (by omega) (List.cons.inj heq).1
      omega
    · rw [writeVarint_of_not_lt hm, writeVarint_of_not_lt hn] at heq
      obtain ⟨hlow, hhigh⟩ := List.cons.inj heq
      have hfirst := ofNat_inj (by omega) (by omega) hlow
      obtain ⟨hquotient, hrest⟩ := ih (m / 128) (by omega) hhigh
      exact ⟨by omega, hrest⟩

/-- **Bytes in a field and what follows it.** -/
theorem encodeDelimited_append_inj {tag : Nat} {content content' rest rest' : List UInt8}
    (heq : encodeDelimited tag content ++ rest = encodeDelimited tag content' ++ rest') :
    content = content' ∧ rest = rest' := by
  simp only [encodeDelimited, List.append_assoc] at heq
  obtain ⟨hlength, heq⟩ := writeVarint_append_inj (List.append_cancel_left heq)
  exact List.append_inj heq hlength

end FeedLink.Grpc.Wire
