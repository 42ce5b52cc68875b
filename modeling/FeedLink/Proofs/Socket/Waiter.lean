import FeedLink.Proofs.Socket.Correlator
import FeedLink.Proofs.Socket.Registry
import Mathlib.Data.List.Perm.Subperm

/-!
# Those who wait, and the tables they wait at

A handler has two tables that change together, and many who wait at them: subscribes, requests, and
replays. Each waits under a key of its own. `Consistent` ties the three: what is pending in the
correlator belongs to one of them, and a reservation under the key of one of them is the one that
was made for it.

## What is deliberately absent

A reservation without a waiter is allowed. When a connection is lost the correlator is cleared and
the registry is not, so the reservations of replays outlive their waiters until the next connection
is attached. `Live` says that there is none, and holds as long as the reader reads.

## Main definitions

* `Waiter`, `Role` — who waits, and for what
* `Issued` — the keys that were drawn before a count
* `Consistent`, `Live`

## Main results

* `Consistent.register`, `Consistent.reserve` — somebody begins to wait
* `Consistent.release`, `Consistent.confirm` — a registration is settled, with what it reserved
* `Consistent.clear`, `Consistent.takeAll` — the connection is lost, and another one attached
* `Consistent.leave` — somebody stops waiting who has been settled
-/

namespace FeedLink.Socket

/-- What somebody waits for. -/
inductive Role where
  | subscribe (feed : Feed)
  | request
  | replay (feed : Feed)
deriving DecidableEq

namespace Role

/-- The feed reserved for whoever waits. -/
def feed? : Role → Option Feed
  | subscribe f | replay f => some f
  | request => none

def isReplay : Role → Bool
  | replay _ => true
  | subscribe _ | request => false

end Role

/-- Somebody who waits for a reply. -/
structure Waiter where
  role : Role
  pending : PendingReply
deriving DecidableEq

namespace Waiter

/-- The key of the reply that is waited for. -/
def key (w : Waiter) : String := w.pending.key

/-- The ticket with which the waiter asks. -/
def ticket (w : Waiter) : Ticket := w.pending.ticket

end Waiter

/-- The key was drawn before the count reached `n`. -/
def Issued (n : Nat) (key : String) : Prop := ∃ m < n, key = (RequestId.fresh m).key

theorem key_fresh_inj {m n : Nat} : (RequestId.fresh m).key = (RequestId.fresh n).key ↔ m = n := by
  refine ⟨fun h => ?_, fun h => h ▸ rfl⟩
  have hdigits : Nat.toDigits 10 m = Nat.toDigits 10 n := by
    have := congrArg String.toList h
    simpa [RequestId.fresh, RequestId.key] using this
  rw [← Nat.ofDigitChars_toDigits (b := 10) (n := m) (by decide) (by decide), hdigits,
    Nat.ofDigitChars_toDigits (by decide) (by decide)]

theorem Issued.mono {n n' : Nat} {key : String} (h : Issued n key) (hn : n ≤ n') :
    Issued n' key := by
  obtain ⟨m, hm, rfl⟩ := h
  exact ⟨m, Nat.lt_of_lt_of_le hm hn, rfl⟩

theorem issued_fresh (n : Nat) : Issued (n + 1) (RequestId.fresh n).key :=
  ⟨n, Nat.lt_succ_self n, rfl⟩

theorem not_issued_fresh (n : Nat) : ¬Issued n (RequestId.fresh n).key := by
  rintro ⟨m, hm, h⟩
  exact absurd (key_fresh_inj.mp h).symm (Nat.ne_of_lt hm)

/-- The tables of a handler agree with each other and with those who wait at them, whose keys were
drawn before the count reached `n`. -/
structure Consistent (c : Correlator) (r : Registry) (n : Nat) (ws : List Waiter) : Prop where
  correlator : c.Coherent
  registry : r.Coherent
  token_issued : ∀ {token f}, Table.get? token r.byToken = some f → Issued n token
  waiter_issued : ∀ {w}, w ∈ ws → Issued n w.key
  /-- Nobody shares a key. -/
  distinct : (ws.map Waiter.key).Nodup
  /-- What is pending belongs to somebody. -/
  owned : ∀ {key ticket}, Table.get? key c.pending = some ticket →
    ∃ w ∈ ws, w.key = key ∧ w.ticket = ticket
  /-- Everybody is pending or settled. -/
  waits : ∀ {w}, w ∈ ws → Table.get? w.key c.pending = some w.ticket ∨
    Table.get? w.key c.pending = none ∧ ∃ s, c.settlement? w.ticket = some s
  /-- A reservation under somebody's key is their own. -/
  place : ∀ {w f request callback previous}, w ∈ ws →
    Table.get? f r.slots = some (.reserved request callback previous) →
      request.id.key = w.key → w.role.feed? = some f ∧ w.role.isReplay = previous.isSome
  /-- Whoever is pending still has their reservation. -/
  reserved : ∀ {w f ticket}, w ∈ ws → w.role.feed? = some f →
    Table.get? w.key c.pending = some ticket → Table.get? w.key r.byToken = some f
  /-- A reply has settled the reservation too. -/
  answered : ∀ {w outcome}, w ∈ ws → c.settlement? w.ticket = some (.reply outcome) →
    Table.get? w.key r.byToken = none

/-- Every reservation waits for a reply. -/
def Live (c : Correlator) (r : Registry) : Prop :=
  ∀ token f, Table.get? token r.byToken = some f →
    ∃ ticket, Table.get? token c.pending = some ticket

variable {c : Correlator} {r r' : Registry} {n : Nat} {ws ws' : List Waiter} {w : Waiter}

theorem consistent_empty (n : Nat) : Consistent .empty .empty n [] where
  correlator := Correlator.coherent_empty
  registry := Registry.coherent_empty
  token_issued := by simp [Registry.empty]
  waiter_issued := by simp
  distinct := List.nodup_nil
  owned := by simp [Correlator.empty]
  waits := by simp
  place := by simp
  reserved := by simp
  answered := by simp

theorem live_empty (c : Correlator) : Live c .empty := by
  intro token f h
  simp [Registry.empty] at h

namespace Consistent

/-! ### Keys -/

theorem mono (h : Consistent c r n ws) {n' : Nat} (hn : n ≤ n') : Consistent c r n' ws :=
  { h with
    token_issued := fun ht => (h.token_issued ht).mono hn
    waiter_issued := fun hw => (h.waiter_issued hw).mono hn }

theorem pending_issued (h : Consistent c r n ws) {key : String} {ticket : Ticket}
    (hkey : Table.get? key c.pending = some ticket) : Issued n key := by
  obtain ⟨w, hw, rfl, -⟩ := h.owned hkey
  exact h.waiter_issued hw

/-- Nothing is pending under the next key. -/
theorem pending_fresh (h : Consistent c r n ws) :
    Table.get? (RequestId.fresh n).key c.pending = none := by
  cases hkey : Table.get? (RequestId.fresh n).key c.pending with
  | none => rfl
  | some ticket => exact absurd (h.pending_issued hkey) (not_issued_fresh n)

/-- Nothing is reserved under the next key. -/
theorem token_fresh (h : Consistent c r n ws) :
    Table.get? (RequestId.fresh n).key r.byToken = none := by
  cases htoken : Table.get? (RequestId.fresh n).key r.byToken with
  | none => rfl
  | some f => exact absurd (h.token_issued htoken) (not_issued_fresh n)

/-- Nobody waits under the next key. -/
theorem key_ne_fresh (h : Consistent c r n ws) (hw : w ∈ ws) : (RequestId.fresh n).key ≠ w.key := by
  intro hkey
  exact not_issued_fresh n (hkey ▸ h.waiter_issued hw)

/-- Whoever's key is pending is pending with their own ticket. -/
theorem ticket_eq (h : Consistent c r n ws) (hw : w ∈ ws) {ticket : Ticket}
    (hkey : Table.get? w.key c.pending = some ticket) : ticket = w.ticket := by
  rcases h.waits hw with hp | ⟨hp, -⟩
  · exact Option.some.inj (hkey.symm.trans hp)
  · simp [hp] at hkey

/-! ### Beginning to wait -/

/-- Somebody begins to wait who has reserved nothing. -/
theorem register (h : Consistent c r n ws) (what : String) :
    Consistent (c.register (.fresh n) what).2 r (n + 1)
      (⟨.request, (c.register (.fresh n) what).1⟩ :: ws) where
  correlator := h.correlator.register h.pending_fresh what
  registry := h.registry
  token_issued := fun ht => (h.token_issued ht).mono (Nat.le_succ n)
  waiter_issued := by
    intro w hw
    rcases List.mem_cons.mp hw with rfl | hw
    · exact issued_fresh n
    · exact (h.waiter_issued hw).mono (Nat.le_succ n)
  distinct := by
    refine List.nodup_cons.mpr ⟨?_, h.distinct⟩
    intro hmem
    obtain ⟨w, hw, hkey⟩ := List.mem_map.mp hmem
    exact h.key_ne_fresh hw hkey.symm
  owned := by
    intro key ticket hkey
    rw [Correlator.get?_pending_register h.pending_fresh] at hkey
    split at hkey
    · next heq =>
      refine ⟨_, List.mem_cons_self .., heq, ?_⟩
      exact (Correlator.ticket_register ..).trans (Option.some.inj hkey)
    · obtain ⟨w, hw, hkeys⟩ := h.owned hkey
      exact ⟨w, List.mem_cons_of_mem _ hw, hkeys⟩
  waits := by
    intro w hw
    rw [Correlator.get?_pending_register h.pending_fresh,
      Correlator.settlement?_register h.pending_fresh]
    rcases List.mem_cons.mp hw with rfl | hw
    · left
      exact (if_pos rfl).trans (congrArg some (Correlator.ticket_register ..).symm)
    · rw [if_neg (h.key_ne_fresh hw)]
      exact h.waits hw
  place := by
    intro w f request callback previous hw hslot hkey
    rcases List.mem_cons.mp hw with rfl | hw
    · have htoken := h.registry.token_of_slot hslot
      have hfresh : Table.get? request.id.key r.byToken = none := hkey ▸ h.token_fresh
      simp [hfresh] at htoken
    · exact h.place hw hslot hkey
  reserved := by
    intro w f ticket hw hrole hkey
    rcases List.mem_cons.mp hw with rfl | hw
    · simp [Role.feed?] at hrole
    · rw [Correlator.get?_pending_register h.pending_fresh, if_neg (h.key_ne_fresh hw)] at hkey
      exact h.reserved hw hrole hkey
  answered := by
    intro w outcome hw hs
    rw [Correlator.settlement?_register h.pending_fresh] at hs
    rcases List.mem_cons.mp hw with rfl | hw
    · exact h.token_fresh
    · exact h.answered hw hs

variable {f : Feed} {request : Request} {callback : Callback} {previous : Option SubscriptionId}

/-- Somebody begins to wait for whom a feed was reserved. -/
theorem reserve (h : Consistent c r n ws) (role : Role) (hid : request.id = .fresh n)
    (hr : r.insertReserved f request callback previous = .ok r') (hfeed : role.feed? = some f)
    (hreplay : role.isReplay = previous.isSome) (what : String) :
    Consistent (c.register request.id what).2 r' (n + 1)
      (⟨role, (c.register request.id what).1⟩ :: ws) := by
  have hkey : request.id.key = (RequestId.fresh n).key := by rw [hid]
  have hnew : Table.get? request.id.key r.byToken = none := hkey ▸ h.token_fresh
  have hbase := h.register what
  rw [← hid] at hbase
  refine { hbase with
    registry := h.registry.insertReserved hnew hr
    token_issued := ?_, waiter_issued := ?_, distinct := ?_, owned := ?_, waits := ?_
    place := ?_, reserved := ?_, answered := ?_ }
  · intro token g ht
    rw [Registry.get?_byToken_insertReserved hr] at ht
    split at ht
    · next heq => exact heq ▸ hkey ▸ issued_fresh n
    · exact hbase.token_issued ht
  · intro w hw
    rcases List.mem_cons.mp hw with rfl | hw
    · exact hbase.waiter_issued (w := ⟨.request, _⟩) (List.mem_cons_self ..)
    · exact hbase.waiter_issued (List.mem_cons_of_mem _ hw)
  · exact hbase.distinct
  · intro key ticket hp
    obtain ⟨w, hw, hkeys⟩ := hbase.owned hp
    rcases List.mem_cons.mp hw with rfl | hw
    · exact ⟨_, List.mem_cons_self .., hkeys⟩
    · exact ⟨w, List.mem_cons_of_mem _ hw, hkeys⟩
  · intro w hw
    rcases List.mem_cons.mp hw with rfl | hw
    · exact hbase.waits (w := ⟨.request, _⟩) (List.mem_cons_self ..)
    · exact hbase.waits (List.mem_cons_of_mem _ hw)
  · intro w g request' callback' previous' hw hslot hkey'
    rw [Registry.get?_slots_insertReserved hr] at hslot
    split at hslot
    · next hfg =>
      obtain ⟨rfl, -, rfl⟩ := Slot.reserved.inj (Option.some.inj hslot)
      rcases List.mem_cons.mp hw with rfl | hw
      · exact ⟨hfg ▸ hfeed, hreplay⟩
      · exact absurd (hkey.symm.trans hkey') (h.key_ne_fresh hw)
    · rcases List.mem_cons.mp hw with rfl | hw
      · have htoken := h.registry.token_of_slot hslot
        rw [hkey'] at htoken
        exact absurd (hnew.symm.trans htoken) (by simp)
      · exact h.place hw hslot hkey'
  · intro w g ticket hw hrole hp
    rw [Registry.get?_byToken_insertReserved hr]
    rcases List.mem_cons.mp hw with rfl | hw
    · exact (if_pos rfl).trans (hfeed.symm.trans hrole)
    · rw [if_neg (hkey ▸ h.key_ne_fresh hw)]
      exact hbase.reserved (List.mem_cons_of_mem _ hw) hrole hp
  · intro w outcome hw hs
    rw [Registry.get?_byToken_insertReserved hr]
    rcases List.mem_cons.mp hw with rfl | hw
    · -- nobody has settled the ticket that was just drawn
      rw [Correlator.settlement?_register (hkey ▸ h.pending_fresh), Waiter.ticket,
        Correlator.ticket_register] at hs
      exact absurd (h.correlator.settled_drawn hs) (Nat.lt_irrefl _)
    · rw [if_neg (hkey ▸ h.key_ne_fresh hw)]
      exact hbase.answered (List.mem_cons_of_mem _ hw) hs

/-! ### Being settled -/

/-- The part of consistency that does not depend on the registry, after a key was settled. -/
private theorem waits_settle (h : Consistent c r n ws) (key : String) (s : Settlement)
    (hw : w ∈ ws) :
    Table.get? w.key (c.settle key s).2.pending = some w.ticket ∨
      Table.get? w.key (c.settle key s).2.pending = none ∧
        ∃ s', (c.settle key s).2.settlement? w.ticket = some s' := by
  rw [Correlator.get?_pending_settle, Correlator.settlement?_settle]
  rcases h.waits hw with hp | ⟨hp, s', hs'⟩
  · by_cases hkey : key = w.key
    · refine .inr ⟨if_pos hkey, s, ?_⟩
      rw [hkey, if_pos hp]
    · exact .inl (by rw [if_neg hkey, hp])
  · refine .inr ⟨by simp [hp], ?_⟩
    split
    · exact ⟨s, rfl⟩
    · exact ⟨s', hs'⟩

private theorem owned_settle (h : Consistent c r n ws) {key other : String} {s : Settlement}
    {ticket : Ticket} (hp : Table.get? other (c.settle key s).2.pending = some ticket) :
    ∃ w ∈ ws, w.key = other ∧ w.ticket = ticket := by
  rw [Correlator.get?_pending_settle] at hp
  split at hp
  · contradiction
  · exact h.owned hp

/-- Only the waiter who owns a key is settled with it. -/
theorem settlement?_settle (h : Consistent c r n ws) (key : String) (s : Settlement) (hw : w ∈ ws)
    (hne : key ≠ w.key) : (c.settle key s).2.settlement? w.ticket = c.settlement? w.ticket := by
  refine Correlator.settlement?_settle_of_ne fun hp => ?_
  obtain ⟨v, hv, rfl, hticket⟩ := h.owned hp
  rcases h.waits hw with hp' | ⟨-, s', hs'⟩
  · exact hne (h.correlator.key_eq hp hp')
  · rw [h.correlator.unsettled hp] at hs'
    contradiction

private theorem answered_settle (h : Consistent c r n ws) {key : String} {s : Settlement}
    {outcome : Outcome} (hw : w ∈ ws)
    (hs : (c.settle key s).2.settlement? w.ticket = some (.reply outcome)) :
    key = w.key ∨ Table.get? w.key r.byToken = none := by
  by_cases hkey : key = w.key
  · exact .inl hkey
  · rw [h.settlement?_settle key s hw hkey] at hs
    exact .inr (h.answered hw hs)

/-- A key is settled, and the reservation under it is taken back. -/
theorem release (h : Consistent c r n ws) (key : String) (s : Settlement) :
    Consistent (c.settle key s).2 (r.release key).2 n ws := by
  cases htoken : Table.get? key r.byToken with
  | none =>
    rw [Registry.release_of_none htoken]
    refine { h with
      correlator := h.correlator.settle key s
      owned := fun hp => h.owned_settle hp
      waits := fun hw => h.waits_settle key s hw
      reserved := ?_
      answered := ?_ }
    · intro w f ticket hw hrole hp
      rw [Correlator.get?_pending_settle] at hp
      split at hp
      · contradiction
      · exact h.reserved hw hrole hp
    · intro w outcome hw hs
      rcases h.answered_settle hw hs with rfl | hnone
      · exact htoken
      · exact hnone
  | some f =>
    obtain ⟨request, callback, previous, hslot, rfl⟩ := h.registry.slot_of_token htoken
    have hrel := h.registry.release request.id.key
    rw [h.registry.release_eq hslot] at hrel ⊢
    refine { h with
      correlator := h.correlator.settle _ s
      registry := hrel
      token_issued := ?_
      owned := fun hp => h.owned_settle hp
      waits := fun hw => h.waits_settle _ s hw
      place := ?_
      reserved := ?_
      answered := ?_ }
    · intro token g ht
      rw [Table.get?_erase] at ht
      split at ht
      · contradiction
      · exact h.token_issued ht
    · intro w g request' callback' previous' hw hslot' hkey
      rw [Table.get?_erase] at hslot'
      split at hslot'
      · contradiction
      · exact h.place hw hslot' hkey
    · intro w g ticket hw hrole hp
      rw [Correlator.get?_pending_settle] at hp
      split at hp
      · contradiction
      · next hne =>
        rw [Table.get?_erase, if_neg hne]
        exact h.reserved hw hrole hp
    · intro w outcome hw hs
      rw [Table.get?_erase]
      rcases h.answered_settle hw hs with heq | hnone
      · exact if_pos heq
      · rw [hnone, ite_self]

/-- A key is settled, and the reservation under it becomes active. -/
theorem confirm (h : Consistent c r n ws) (key : String) (s : Settlement) (x : SubscriptionId) :
    Consistent (c.settle key s).2 (r.confirm key x).2 n ws := by
  cases htoken : Table.get? key r.byToken with
  | none =>
    have hrel := h.release key s
    rw [Registry.release_of_none htoken] at hrel
    rw [Registry.confirm_of_none htoken]
    exact hrel
  | some f =>
    obtain ⟨request, callback, previous, hslot, rfl⟩ := h.registry.slot_of_token htoken
    have hrel := h.release request.id.key s
    have hcon := h.registry.confirm request.id.key x
    rw [h.registry.release_eq hslot] at hrel
    rw [h.registry.confirm_eq hslot] at hcon ⊢
    refine { hrel with registry := hcon, place := ?_ }
    intro w g request' callback' previous' hw hslot' hkey
    rw [Table.get?_set] at hslot'
    split at hslot'
    · simp at hslot'
    · exact h.place hw hslot' hkey

/-- Somebody leaves who no longer waits for anything. -/
theorem leave (h : Consistent c r n ws) (hsub : ws'.Subperm ws)
    (hleft : ∀ w ∈ ws, Table.get? w.key c.pending = some w.ticket → w ∈ ws') :
    Consistent c r n ws' where
  correlator := h.correlator
  registry := h.registry
  token_issued := h.token_issued
  waiter_issued := fun hw => h.waiter_issued (hsub.subset hw)
  distinct := by
    obtain ⟨l, hperm, hl⟩ := hsub
    rw [← (hperm.map _).nodup_iff]
    exact h.distinct.sublist (hl.map _)
  owned := by
    intro key ticket hp
    obtain ⟨w, hw, rfl, rfl⟩ := h.owned hp
    exact ⟨w, hleft w hw hp, rfl, rfl⟩
  waits := fun hw => h.waits (hsub.subset hw)
  place := fun hw => h.place (hsub.subset hw)
  reserved := fun hw => h.reserved (hsub.subset hw)
  answered := fun hw => h.answered (hsub.subset hw)

theorem perm (h : Consistent c r n ws) (hperm : ws'.Perm ws) : Consistent c r n ws' :=
  h.leave hperm.subperm fun _ hw _ => hperm.mem_iff.mpr hw

/-- Somebody is settled without a reply, with what was reserved for them, and leaves. -/
theorem withdraw (h : Consistent c r n (w :: ws)) :
    Consistent (c.evict w.key).2 (r.release w.key).2 n ws := by
  refine (h.release w.key .dropped).leave (List.sublist_cons_self w ws).subperm ?_
  intro v hv hp
  rcases List.mem_cons.mp hv with rfl | hv
  · simp [Correlator.get?_pending_settle] at hp
  · exact hv

/-! ### Losing and attaching a connection -/

/-- Nobody is pending any more. -/
theorem clear (h : Consistent c r n ws) : Consistent c.clear.2 r n ws :=
  { h with
    correlator := h.correlator.clear
    owned := by simp
    waits := by
      intro w hw
      refine .inr ⟨rfl, ?_⟩
      rcases h.waits hw with hp | ⟨-, s, hs⟩
      · exact ⟨.dropped, Correlator.settlement?_clear_of_pending hp⟩
      · rw [Correlator.settlement?_clear]
        split
        · exact ⟨.dropped, rfl⟩
        · exact ⟨s, hs⟩
    reserved := by simp
    answered := by
      intro w outcome hw hs
      rw [Correlator.settlement?_clear] at hs
      split at hs
      · simp at hs
      · exact h.answered hw hs }

/-- Where nobody is pending, the registry may be emptied. -/
theorem takeAll (h : Consistent c r n ws) (hc : c.pending = []) : Consistent c .empty n ws :=
  { h with
    registry := Registry.coherent_empty
    token_issued := by simp [Registry.empty]
    place := by simp [Registry.empty]
    reserved := by simp [hc]
    answered := by simp [Registry.empty] }

/-- An active subscription is given up. -/
theorem unregister (h : Consistent c r n ws) (f : Feed) :
    Consistent c (r.unregister f).2 n ws :=
  { h with
    registry := h.registry.unregister f
    token_issued := fun ht => h.token_issued (Registry.byToken_unregister r f ▸ ht)
    place := fun hw hslot hkey => h.place hw (Registry.get?_slots_of_unregister hslot) hkey
    reserved := fun hw hrole hp => (Registry.byToken_unregister r f).symm ▸ h.reserved hw hrole hp
    answered := fun hw hs => (Registry.byToken_unregister r f).symm ▸ h.answered hw hs }

end Consistent

/-! ### Reservations that wait -/

namespace Live

theorem register (h : Live c r) {id : RequestId} (hid : Table.get? id.key c.pending = none)
    (what : String) : Live (c.register id what).2 r := by
  intro token f ht
  rw [Correlator.get?_pending_register hid]
  split
  · exact ⟨_, rfl⟩
  · exact h token f ht

theorem reserve (h : Live c r) {f : Feed} {request : Request} {callback : Callback}
    {previous : Option SubscriptionId} (hid : Table.get? request.id.key c.pending = none)
    (hr : r.insertReserved f request callback previous = .ok r') (what : String) :
    Live (c.register request.id what).2 r' := by
  intro token g ht
  rw [Registry.get?_byToken_insertReserved hr] at ht
  rw [Correlator.get?_pending_register hid]
  split
  · exact ⟨_, rfl⟩
  · next hne =>
    rw [if_neg hne] at ht
    exact h token g ht

theorem release (h : Live c r) (key : String) (s : Settlement) :
    Live (c.settle key s).2 (r.release key).2 := by
  intro token f ht
  rw [Registry.get?_byToken_release] at ht
  rw [Correlator.get?_pending_settle]
  split at ht
  · contradiction
  · next hne =>
    rw [if_neg hne]
    exact h token f ht

theorem confirm (h : Live c r) (key : String) (s : Settlement) (x : SubscriptionId) :
    Live (c.settle key s).2 (r.confirm key x).2 := by
  intro token f ht
  rw [Registry.get?_byToken_confirm] at ht
  rw [Correlator.get?_pending_settle]
  split at ht
  · contradiction
  · next hne =>
    rw [if_neg hne]
    exact h token f ht

theorem unregister (h : Live c r) (f : Feed) : Live c (r.unregister f).2 := by
  intro token g ht
  rw [Registry.byToken_unregister] at ht
  exact h token g ht

end Live

end FeedLink.Socket
