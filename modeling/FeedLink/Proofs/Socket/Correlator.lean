import FeedLink.Proofs.Table
import FeedLink.Socket.Correlator

/-!
# What becomes of a registration

Every operation of the correlator is described by two look-ups: which ticket is pending under a key,
and how a ticket was settled. A ticket moves once, from the first table to the second, and
`Correlator.Coherent` is what keeps it from moving again: what is pending is not settled, and no
ticket is pending under two keys.

## Main results

* `get?_pending_settle`, `settlement?_settle` — taking one registration out
* `get?_pending_register`, `settlement?_register` — registering under a key that is not pending
* `settlement?_clear` — dropping all of them
* `Coherent.settle`, `Coherent.register`, `Coherent.clear` — every operation keeps coherence
-/

namespace FeedLink.Socket

namespace Correlator

/-! ### Look-ups after an operation -/

variable (c : Correlator)

theorem get?_pending_settle (key other : String) (s : Settlement) :
    Table.get? other (c.settle key s).2.pending =
      if key = other then none else Table.get? other c.pending := by
  unfold settle
  split
  · next h =>
    by_cases hk : key = other
    · subst hk
      simp [h]
    · simp [hk]
  · simp [Table.get?_erase]

theorem settlement?_settle (key : String) (s : Settlement) (ticket : Ticket) :
    (c.settle key s).2.settlement? ticket =
      if Table.get? key c.pending = some ticket then some s else c.settlement? ticket := by
  unfold settle
  split
  · next h => simp [h]
  · next t h => simp [settlement?, h, Table.get?_set]

@[simp] theorem drawn_settle (key : String) (s : Settlement) :
    (c.settle key s).2.drawn = c.drawn := by
  unfold settle
  split <;> rfl

variable {c}

/-- Nothing happens to a table in which the key is not pending. -/
theorem settle_of_none {key : String} (h : Table.get? key c.pending = none) (s : Settlement) :
    (c.settle key s).2 = c := by
  simp [settle, h]

theorem key_register (c : Correlator) (id : RequestId) (what : String) :
    (c.register id what).1.key = id.key := rfl

theorem ticket_register (c : Correlator) (id : RequestId) (what : String) :
    (c.register id what).1.ticket = ⟨c.drawn⟩ := by
  simp [register]

theorem register_of_none {id : RequestId} (h : Table.get? id.key c.pending = none)
    (what : String) :
    (c.register id what).2 =
      { c with pending := Table.set id.key ⟨c.drawn⟩ c.pending, drawn := c.drawn + 1 } := by
  simp [register, settle_of_none h]

theorem get?_pending_register {id : RequestId} (h : Table.get? id.key c.pending = none)
    (what other : String) :
    Table.get? other (c.register id what).2.pending =
      if id.key = other then some ⟨c.drawn⟩ else Table.get? other c.pending := by
  rw [register_of_none h, Table.get?_set]

theorem settlement?_register {id : RequestId} (h : Table.get? id.key c.pending = none)
    (what : String) (ticket : Ticket) :
    (c.register id what).2.settlement? ticket = c.settlement? ticket := by
  rw [register_of_none h]
  rfl

private theorem get?_foldl_dropped (pending : Table String Ticket)
    (settled : Table Ticket Settlement) (ticket : Ticket) :
    Table.get? ticket (pending.foldl (fun s e => Table.set e.2 .dropped s) settled) =
      if ticket ∈ pending.map Prod.snd then some .dropped else Table.get? ticket settled := by
  induction pending generalizing settled with
  | nil => simp
  | cons e rest ih =>
    rw [List.foldl_cons, ih, Table.get?_set]
    by_cases ht : e.2 = ticket
    · simp [ht]
    · have hmem : ticket ∈ (e :: rest).map Prod.snd ↔ ticket ∈ rest.map Prod.snd := by
        rw [List.map_cons, List.mem_cons, or_iff_right (Ne.symm ht)]
      simp only [ht, hmem, if_false]

@[simp] theorem pending_clear (c : Correlator) : c.clear.2.pending = [] := rfl

theorem settlement?_clear (c : Correlator) (ticket : Ticket) :
    c.clear.2.settlement? ticket =
      if ticket ∈ c.pending.map Prod.snd then some .dropped else c.settlement? ticket :=
  get?_foldl_dropped ..

theorem settlement?_clear_of_pending {key : String} {ticket : Ticket}
    (h : Table.get? key c.pending = some ticket) :
    c.clear.2.settlement? ticket = some .dropped := by
  rw [settlement?_clear, if_pos (List.mem_map_of_mem (f := Prod.snd) (Table.mem_of_get? h))]

/-- Settling a key leaves every ticket alone that is not pending under it. -/
theorem settlement?_settle_of_ne {key : String} {s : Settlement} {ticket : Ticket}
    (h : Table.get? key c.pending ≠ some ticket) :
    (c.settle key s).2.settlement? ticket = c.settlement? ticket := by
  rw [settlement?_settle, if_neg h]

/-! ### Coherence -/

/-- A ticket is pending under one key, or settled, or not drawn yet. -/
structure Coherent (c : Correlator) : Prop where
  distinct : Table.Distinct c.pending
  pending_drawn : ∀ {key ticket}, Table.get? key c.pending = some ticket → ticket.number < c.drawn
  settled_drawn : ∀ {ticket s}, c.settlement? ticket = some s → ticket.number < c.drawn
  /-- What is pending is not settled. -/
  unsettled : ∀ {key ticket}, Table.get? key c.pending = some ticket → c.settlement? ticket = none
  /-- No ticket is pending under two keys. -/
  key_eq : ∀ {key other ticket}, Table.get? key c.pending = some ticket →
    Table.get? other c.pending = some ticket → key = other

theorem coherent_empty : Coherent .empty where
  distinct := Table.distinct_nil
  pending_drawn := by simp [empty]
  settled_drawn := by simp [empty, settlement?]
  unsettled := by simp [empty]
  key_eq := by simp [empty]

theorem distinct_settle (hc : Table.Distinct c.pending) (key : String) (s : Settlement) :
    Table.Distinct (c.settle key s).2.pending := by
  unfold settle
  split
  · exact hc
  · exact Table.distinct_erase hc key

theorem Coherent.settle (hc : c.Coherent) (key : String) (s : Settlement) :
    (c.settle key s).2.Coherent where
  distinct := distinct_settle hc.distinct key s
  pending_drawn := by
    intro k t h
    rw [get?_pending_settle] at h
    split at h
    · contradiction
    · simpa using hc.pending_drawn h
  settled_drawn := by
    intro t s' h
    rw [settlement?_settle] at h
    split at h
    · next hp => simpa using hc.pending_drawn hp
    · simpa using hc.settled_drawn h
  unsettled := by
    intro k t h
    rw [get?_pending_settle] at h
    split at h
    · contradiction
    · next hne =>
      rw [settlement?_settle_of_ne fun hp => hne (hc.key_eq hp h)]
      exact hc.unsettled h
  key_eq := by
    intro k k' t h h'
    rw [get?_pending_settle] at h h'
    split at h
    · contradiction
    · split at h'
      · contradiction
      · exact hc.key_eq h h'

theorem Coherent.register (hc : c.Coherent) {id : RequestId}
    (hid : Table.get? id.key c.pending = none) (what : String) :
    (c.register id what).2.Coherent where
  distinct := by
    rw [register_of_none hid]
    exact Table.distinct_set hc.distinct _ _
  pending_drawn := by
    intro k t h
    rw [get?_pending_register hid] at h
    rw [register_of_none hid]
    split at h
    · obtain rfl := Option.some.inj h
      exact Nat.lt_succ_self _
    · exact Nat.lt_succ_of_lt (hc.pending_drawn h)
  settled_drawn := by
    intro t s h
    rw [settlement?_register hid] at h
    rw [register_of_none hid]
    exact Nat.lt_succ_of_lt (hc.settled_drawn h)
  unsettled := by
    intro k t h
    rw [settlement?_register hid]
    rw [get?_pending_register hid] at h
    split at h
    · obtain rfl := Option.some.inj h
      cases hs : c.settlement? ⟨c.drawn⟩ with
      | none => rfl
      | some s => exact absurd (hc.settled_drawn hs) (Nat.lt_irrefl _)
    · exact hc.unsettled h
  key_eq := by
    intro k k' t h h'
    have hnew : ∀ key, Table.get? key c.pending ≠ some ⟨c.drawn⟩ := fun key hkey =>
      Nat.lt_irrefl _ (hc.pending_drawn hkey)
    rw [get?_pending_register hid] at h h'
    split at h <;> split at h'
    · next h₁ h₂ => exact h₁.symm.trans h₂
    · obtain rfl := Option.some.inj h
      exact absurd h' (hnew _)
    · obtain rfl := Option.some.inj h'
      exact absurd h (hnew _)
    · exact hc.key_eq h h'

/-- A registration that is evicted at once leaves nothing pending. -/
theorem pending_evict_register {id : RequestId} (h : Table.get? id.key c.pending = none)
    (what : String) : ((c.register id what).2.evict id.key).2.pending = c.pending := by
  have hregistered : Table.get? id.key (c.register id what).2.pending = some ⟨c.drawn⟩ :=
    (get?_pending_register h what id.key).trans (if_pos rfl)
  simp only [evict, settle, hregistered]
  rw [register_of_none h]
  exact Table.erase_set_of_none h _

theorem get?_pending_evict_register {id : RequestId} (h : Table.get? id.key c.pending = none)
    (what other : String) :
    Table.get? other ((c.register id what).2.evict id.key).2.pending =
      Table.get? other c.pending := by
  rw [pending_evict_register h]

theorem Coherent.settlement?_evict_register (hc : c.Coherent) {id : RequestId}
    (h : Table.get? id.key c.pending = none) (what : String) {ticket : Ticket} {v : Settlement}
    (hs : c.settlement? ticket = some v) :
    ((c.register id what).2.evict id.key).2.settlement? ticket = some v := by
  refine (settlement?_settle_of_ne fun hp => ?_).trans ((settlement?_register h ..).trans hs)
  rw [get?_pending_register h, if_pos rfl] at hp
  obtain rfl := Option.some.inj hp
  exact Nat.lt_irrefl _ (hc.settled_drawn hs)

theorem Coherent.clear (hc : c.Coherent) : c.clear.2.Coherent where
  distinct := Table.distinct_nil
  pending_drawn := by simp
  settled_drawn := by
    intro t s h
    rw [settlement?_clear] at h
    split at h
    · next hp =>
      obtain ⟨⟨key, _⟩, hmem, rfl⟩ := List.mem_map.mp hp
      exact hc.pending_drawn ((Table.mem_iff_get? hc.distinct).mp hmem)
    · exact hc.settled_drawn h
  unsettled := by simp
  key_eq := by simp

end Correlator

end FeedLink.Socket
