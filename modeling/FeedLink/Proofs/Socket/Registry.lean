import FeedLink.Proofs.Table
import FeedLink.Socket.Registry

/-!
# The slots of a registry and their two indices

`Registry.Coherent` says that the two indices tell the truth: a token leads to the feed that is
reserved under it, and the id of a subscription to a feed that is active under it. Only one
direction holds for ids. A server that gives one id to two feeds leaves the first of them active and
without a route.

Under coherence each operation has one plain description. Confirming and releasing go to the slot
whose request has the token as its key, or nowhere; no operation but `takeAll` looks at more than
one slot.

## Main definitions

* `Registry.Coherent`
* `Registry.replayable?` — the subscription that `takeAll` would return for a feed

## Main results

* `Coherent.insertReserved`, `Coherent.confirm`, `Coherent.release`, `Coherent.unregister`
* `release_insertReserved` — a reservation that is taken back leaves no trace
* `mem_replayables`, `nodup_replayables` — `takeAll` returns every subscription once
-/

namespace FeedLink.Socket

namespace Registry

variable {r r' : Registry} {f g : Feed} {request : Request} {callback : Callback}
  {previous : Option SubscriptionId} {token : String} {x : SubscriptionId}

/-- The indices of a registry lead to slots that bear them out. -/
structure Coherent (r : Registry) : Prop where
  distinct : Table.Distinct r.slots
  slot_of_token : ∀ {token f}, Table.get? token r.byToken = some f →
    ∃ request callback previous,
      Table.get? f r.slots = some (.reserved request callback previous) ∧ request.id.key = token
  token_of_slot : ∀ {f request callback previous},
    Table.get? f r.slots = some (.reserved request callback previous) →
      Table.get? request.id.key r.byToken = some f
  feed_of_active : ∀ {f s}, Table.get? f r.slots = some (.active s) → s.feed = f
  slot_of_id : ∀ {x f}, Table.get? x r.byId = some f →
    ∃ s, Table.get? f r.slots = some (.active s) ∧ s.id = x

theorem coherent_empty : Coherent .empty where
  distinct := Table.distinct_nil
  slot_of_token := by simp [empty]
  token_of_slot := by simp [empty]
  feed_of_active := by simp [empty]
  slot_of_id := by simp [empty]

/-- Two slots reserved under one token are the same slot. -/
theorem Coherent.feed_eq (hr : r.Coherent) {request' : Request} {callback' : Callback}
    {previous' : Option SubscriptionId}
    (h : Table.get? f r.slots = some (.reserved request callback previous))
    (h' : Table.get? g r.slots = some (.reserved request' callback' previous'))
    (hkey : request.id.key = request'.id.key) : f = g := by
  have hf := hr.token_of_slot h
  rw [hkey, hr.token_of_slot h'] at hf
  exact (Option.some.inj hf).symm

/-! ### Reserving -/

theorem insertReserved_eq_ok_iff :
    r.insertReserved f request callback previous = .ok r' ↔
      Table.get? f r.slots = none ∧
      r' = { r with
        slots := Table.set f (.reserved request callback previous) r.slots
        byToken := Table.set request.id.key f r.byToken } := by
  unfold insertReserved
  split
  · next h =>
    obtain ⟨slot, hslot⟩ := Table.has_eq_true_iff.mp h
    simp [hslot]
  · next h =>
    have hnone := Table.has_eq_false_iff.mp (Bool.not_eq_true _ ▸ h)
    simp [hnone, eq_comm]

theorem insertReserved_of_held (h : Table.has f r.slots = true) :
    r.insertReserved f request callback previous = .error (.alreadySubscribed f) := by
  simp [insertReserved, h]

theorem insertReserved_of_free (h : Table.has f r.slots = false) :
    ∃ r', r.insertReserved f request callback previous = .ok r' :=
  ⟨_, insertReserved_eq_ok_iff.mpr ⟨Table.has_eq_false_iff.mp h, rfl⟩⟩

theorem get?_slots_insertReserved
    (h : r.insertReserved f request callback previous = .ok r') (g : Feed) :
    Table.get? g r'.slots =
      if f = g then some (.reserved request callback previous) else Table.get? g r.slots := by
  obtain ⟨-, rfl⟩ := insertReserved_eq_ok_iff.mp h
  exact Table.get?_set ..

theorem get?_byToken_insertReserved
    (h : r.insertReserved f request callback previous = .ok r') (token : String) :
    Table.get? token r'.byToken =
      if request.id.key = token then some f else Table.get? token r.byToken := by
  obtain ⟨-, rfl⟩ := insertReserved_eq_ok_iff.mp h
  exact Table.get?_set ..

theorem Coherent.insertReserved (hr : r.Coherent)
    (hnew : Table.get? request.id.key r.byToken = none)
    (h : r.insertReserved f request callback previous = .ok r') : r'.Coherent where
  distinct := by
    obtain ⟨-, rfl⟩ := insertReserved_eq_ok_iff.mp h
    exact Table.distinct_set hr.distinct _ _
  slot_of_token := by
    intro t g ht
    rw [get?_byToken_insertReserved h] at ht
    rw [get?_slots_insertReserved h]
    split at ht
    · next hkey =>
      obtain rfl := Option.some.inj ht
      exact ⟨request, callback, previous, if_pos rfl, hkey⟩
    · obtain ⟨request', callback', previous', hslot, hkey⟩ := hr.slot_of_token ht
      obtain ⟨hfree, -⟩ := insertReserved_eq_ok_iff.mp h
      have hne : f ≠ g := by
        rintro rfl
        simp [hfree] at hslot
      exact ⟨request', callback', previous', by rw [if_neg hne, hslot], hkey⟩
  token_of_slot := by
    intro g request' callback' previous' hslot
    rw [get?_slots_insertReserved h] at hslot
    rw [get?_byToken_insertReserved h]
    split at hslot
    · next hfg =>
      obtain ⟨rfl, -, -⟩ := Slot.reserved.inj (Option.some.inj hslot)
      rw [if_pos rfl, hfg]
    · have htoken := hr.token_of_slot hslot
      have hne : request.id.key ≠ request'.id.key := by
        intro hkey
        simp [← hkey, hnew] at htoken
      rw [if_neg hne, htoken]
  feed_of_active := by
    intro g s hslot
    rw [get?_slots_insertReserved h] at hslot
    split at hslot
    · simp at hslot
    · exact hr.feed_of_active hslot
  slot_of_id := by
    intro y g hy
    obtain ⟨hfree, rfl⟩ := insertReserved_eq_ok_iff.mp h
    obtain ⟨s, hslot, hid⟩ := hr.slot_of_id hy
    have hne : f ≠ g := by
      rintro rfl
      simp [hfree] at hslot
    exact ⟨s, by rw [Table.get?_set, if_neg hne, hslot], hid⟩

/-! ### Confirming -/

theorem confirm_of_none (h : Table.get? token r.byToken = none) (x : SubscriptionId) :
    r.confirm token x = (none, r) := by
  simp [confirm, h]

theorem get?_byToken_confirm (r : Registry) (token other : String) (x : SubscriptionId) :
    Table.get? other (r.confirm token x).2.byToken =
      if token = other then none else Table.get? other r.byToken := by
  unfold Registry.confirm
  split
  · next h =>
    by_cases hk : token = other
    · rw [if_pos hk, ← hk, h]
    · rw [if_neg hk]
  · split <;> exact Table.get?_erase ..

/-- Confirming a token makes the slot active that is reserved under it. -/
theorem Coherent.confirm_eq (hr : r.Coherent)
    (h : Table.get? f r.slots = some (.reserved request callback previous))
    (x : SubscriptionId) :
    (r.confirm request.id.key x).2 =
      { slots := Table.set f (.active ⟨f, request, callback, x⟩) r.slots
        byId := Table.set x f r.byId
        byToken := Table.erase request.id.key r.byToken } := by
  simp [Registry.confirm, hr.token_of_slot h, h]

/-- Confirming a token makes the slot active that is reserved under it. -/
theorem Coherent.get?_slots_confirm_self (hr : r.Coherent)
    (h : Table.get? f r.slots = some (.reserved request callback previous)) (x : SubscriptionId) :
    Table.get? f (r.confirm request.id.key x).2.slots =
      some (.active ⟨f, request, callback, x⟩) := by
  rw [hr.confirm_eq h]
  exact Table.get?_set_self ..

theorem Coherent.get?_slots_confirm_of_ne (hr : r.Coherent)
    (h : Table.get? token r.byToken ≠ some f) (x : SubscriptionId) :
    Table.get? f (r.confirm token x).2.slots = Table.get? f r.slots := by
  cases htoken : Table.get? token r.byToken with
  | none => rw [confirm_of_none htoken]
  | some g =>
    obtain ⟨request, callback, previous, hslot, rfl⟩ := hr.slot_of_token htoken
    have hgf : g ≠ f := fun hgf => h (hgf ▸ htoken)
    rw [hr.confirm_eq hslot]
    exact (Table.get?_set ..).trans (if_neg hgf)

theorem Coherent.confirm (hr : r.Coherent) (token : String) (x : SubscriptionId) :
    (r.confirm token x).2.Coherent := by
  cases htoken : Table.get? token r.byToken with
  | none => rwa [confirm_of_none htoken]
  | some f =>
    obtain ⟨request, callback, previous, hslot, rfl⟩ := hr.slot_of_token htoken
    rw [hr.confirm_eq hslot]
    refine ⟨Table.distinct_set hr.distinct _ _, ?_, ?_, ?_, ?_⟩
    · intro t g ht
      rw [Table.get?_erase] at ht
      split at ht
      · contradiction
      · next hne =>
        obtain ⟨request', callback', previous', hslot', hkey⟩ := hr.slot_of_token ht
        have hfg : f ≠ g := by
          rintro rfl
          obtain ⟨rfl, -, -⟩ := Slot.reserved.inj (Option.some.inj (hslot.symm.trans hslot'))
          exact hne hkey
        exact ⟨request', callback', previous', by rw [Table.get?_set, if_neg hfg, hslot'], hkey⟩
    · intro g request' callback' previous' hslot'
      rw [Table.get?_set] at hslot'
      split at hslot'
      · simp at hslot'
      · next hfg =>
        rw [Table.get?_erase, if_neg fun hkey => hfg (hr.feed_eq hslot hslot' hkey)]
        exact hr.token_of_slot hslot'
    · intro g s hslot'
      rw [Table.get?_set] at hslot'
      split at hslot'
      · next hfg =>
        obtain rfl := Slot.active.inj (Option.some.inj hslot')
        exact hfg
      · exact hr.feed_of_active hslot'
    · intro y g hy
      rw [Table.get?_set] at hy
      split at hy
      · next hxy =>
        obtain rfl := Option.some.inj hy
        exact ⟨⟨f, request, callback, x⟩, Table.get?_set_self .., hxy⟩
      · obtain ⟨s, hslot', hid⟩ := hr.slot_of_id hy
        have hfg : f ≠ g := by
          rintro rfl
          simp [hslot] at hslot'
        exact ⟨s, by rw [Table.get?_set, if_neg hfg, hslot'], hid⟩

/-! ### Releasing -/

theorem release_of_none (h : Table.get? token r.byToken = none) : r.release token = (none, r) := by
  simp [release, h]

theorem get?_byToken_release (r : Registry) (token other : String) :
    Table.get? other (r.release token).2.byToken =
      if token = other then none else Table.get? other r.byToken := by
  unfold Registry.release
  split
  · next h =>
    by_cases hk : token = other
    · rw [if_pos hk, ← hk, h]
    · rw [if_neg hk]
  · exact Table.get?_erase ..

/-- Releasing a token empties the slot that is reserved under it. -/
theorem Coherent.release_eq (hr : r.Coherent)
    (h : Table.get? f r.slots = some (.reserved request callback previous)) :
    (r.release request.id.key).2 =
      { r with
        slots := Table.erase f r.slots, byToken := Table.erase request.id.key r.byToken } := by
  simp [Registry.release, hr.token_of_slot h]

/-- Releasing a token leaves the slots alone that are not reserved under it. -/
theorem Coherent.get?_slots_release (hr : r.Coherent) (token : String) (f : Feed) :
    Table.get? f (r.release token).2.slots =
      if Table.get? token r.byToken = some f then none else Table.get? f r.slots := by
  cases htoken : Table.get? token r.byToken with
  | none => simp [release_of_none htoken]
  | some g =>
    obtain ⟨request, callback, previous, hslot, rfl⟩ := hr.slot_of_token htoken
    rw [hr.release_eq hslot, Table.get?_erase]
    simp only [Option.some.injEq]

theorem Coherent.release (hr : r.Coherent) (token : String) : (r.release token).2.Coherent := by
  cases htoken : Table.get? token r.byToken with
  | none => rwa [release_of_none htoken]
  | some f =>
    obtain ⟨request, callback, previous, hslot, rfl⟩ := hr.slot_of_token htoken
    rw [hr.release_eq hslot]
    refine ⟨Table.distinct_erase hr.distinct _, ?_, ?_, ?_, ?_⟩
    · intro t g ht
      rw [Table.get?_erase] at ht
      split at ht
      · contradiction
      · next hne =>
        obtain ⟨request', callback', previous', hslot', hkey⟩ := hr.slot_of_token ht
        have hfg : f ≠ g := by
          rintro rfl
          obtain ⟨rfl, -, -⟩ := Slot.reserved.inj (Option.some.inj (hslot.symm.trans hslot'))
          exact hne hkey
        exact ⟨request', callback', previous', by rw [Table.get?_erase, if_neg hfg, hslot'], hkey⟩
    · intro g request' callback' previous' hslot'
      rw [Table.get?_erase] at hslot'
      split at hslot'
      · simp at hslot'
      · next hfg =>
        rw [Table.get?_erase, if_neg fun hkey => hfg (hr.feed_eq hslot hslot' hkey)]
        exact hr.token_of_slot hslot'
    · intro g s hslot'
      rw [Table.get?_erase] at hslot'
      split at hslot'
      · simp at hslot'
      · exact hr.feed_of_active hslot'
    · intro y g hy
      obtain ⟨s, hslot', hid⟩ := hr.slot_of_id hy
      have hfg : f ≠ g := by
        rintro rfl
        simp [hslot] at hslot'
      exact ⟨s, by rw [Table.get?_erase, if_neg hfg, hslot'], hid⟩

/-- **A reservation that is taken back leaves no trace.** -/
theorem release_insertReserved (hnew : Table.get? request.id.key r.byToken = none)
    (h : r.insertReserved f request callback previous = .ok r') :
    (r'.release request.id.key).2 = r := by
  obtain ⟨hfree, rfl⟩ := insertReserved_eq_ok_iff.mp h
  simp [Registry.release, Table.erase_set_of_none hfree, Table.erase_set_of_none hnew]

/-! ### Giving up -/

theorem unregister_of_active {s : Subscription} (h : Table.get? f r.slots = some (.active s)) :
    (r.unregister f).2 =
      { r with slots := Table.erase f r.slots, byId := Table.erase s.id r.byId } := by
  simp [unregister, h]

@[simp] theorem byToken_unregister (r : Registry) (f : Feed) :
    (r.unregister f).2.byToken = r.byToken := by
  unfold Registry.unregister
  split <;> rfl

theorem get?_slots_of_unregister {slot : Slot}
    (h : Table.get? g (r.unregister f).2.slots = some slot) :
    Table.get? g r.slots = some slot := by
  unfold Registry.unregister at h
  split at h
  · rw [Table.get?_erase] at h
    split at h
    · contradiction
    · exact h
  · exact h

theorem Coherent.unregister (hr : r.Coherent) (f : Feed) : (r.unregister f).2.Coherent := by
  cases hslot : Table.get? f r.slots with
  | none => simpa [Registry.unregister, hslot] using hr
  | some slot =>
    cases slot with
    | reserved => simpa [Registry.unregister, hslot] using hr
    | active s =>
      rw [unregister_of_active hslot]
      have hother : ∀ {g : Feed} {request callback previous},
          Table.get? g r.slots = some (.reserved request callback previous) → f ≠ g := by
        rintro g request callback previous hslot' rfl
        simp [hslot] at hslot'
      refine ⟨Table.distinct_erase hr.distinct _, ?_, ?_, ?_, ?_⟩
      · intro t g ht
        obtain ⟨request, callback, previous, hslot', hkey⟩ := hr.slot_of_token ht
        refine ⟨request, callback, previous, ?_, hkey⟩
        rw [Table.get?_erase, if_neg (hother hslot'), hslot']
      · intro g request callback previous hslot'
        rw [Table.get?_erase] at hslot'
        split at hslot'
        · contradiction
        · exact hr.token_of_slot hslot'
      · intro g s' hslot'
        rw [Table.get?_erase] at hslot'
        split at hslot'
        · contradiction
        · exact hr.feed_of_active hslot'
      · intro y g hy
        rw [Table.get?_erase] at hy
        split at hy
        · contradiction
        · next hne =>
          obtain ⟨s', hslot', hid⟩ := hr.slot_of_id hy
          have hfg : f ≠ g := by
            rintro rfl
            obtain rfl := Slot.active.inj (Option.some.inj (hslot.symm.trans hslot'))
            exact hne hid
          exact ⟨s', by rw [Table.get?_erase, if_neg hfg, hslot'], hid⟩

/-! ### Taking all -/

/-- The subscription to make again for a feed, if it is active or a replay of one that was. -/
def replayable? (r : Registry) (f : Feed) : Option Subscription :=
  (Table.get? f r.slots).bind fun slot => replayable (f, slot)

theorem feed_of_replayable (hr : r.Coherent) {slot : Slot} {s : Subscription}
    (hslot : Table.get? f r.slots = some slot) (h : replayable (f, slot) = some s) :
    s.feed = f := by
  cases slot with
  | active s' =>
    obtain rfl : s' = s := by simpa [replayable] using h
    exact hr.feed_of_active hslot
  | reserved request callback previous =>
    cases previous with
    | none => simp [replayable] at h
    | some id =>
      obtain rfl : ⟨f, request, callback, id⟩ = s := by simpa [replayable] using h
      rfl

theorem insertByFeed_perm (s : Subscription) (l : List Subscription) :
    (insertByFeed s l).Perm (s :: l) := by
  induction l with
  | nil => rfl
  | cons t rest ih =>
    unfold insertByFeed
    split
    · rfl
    · exact (ih.cons t).trans (List.Perm.swap ..)

theorem replayables_perm (r : Registry) : r.replayables.Perm (r.slots.filterMap replayable) := by
  unfold replayables
  induction r.slots.filterMap replayable with
  | nil => rfl
  | cons s rest ih => exact (insertByFeed_perm s _).trans (ih.cons s)

theorem mem_replayables (hr : r.Coherent) {s : Subscription} :
    s ∈ r.replayables ↔ r.replayable? s.feed = some s := by
  rw [r.replayables_perm.mem_iff, List.mem_filterMap]
  constructor
  · rintro ⟨⟨f, slot⟩, hmem, hs⟩
    have hslot := (Table.mem_iff_get? hr.distinct).mp hmem
    obtain rfl := feed_of_replayable hr hslot hs
    rw [replayable?, hslot, Option.bind_some, hs]
  · intro h
    obtain ⟨slot, hslot, hs⟩ := Option.bind_eq_some_iff.mp h
    exact ⟨_, Table.mem_of_get? hslot, hs⟩

/-- `takeAll` returns at most one subscription to a feed. -/
theorem nodup_replayables (hr : r.Coherent) : (r.replayables.map (·.feed)).Nodup := by
  rw [(r.replayables_perm.map _).nodup_iff]
  have hfeeds : ∀ e ∈ r.slots, ∀ s, replayable e = some s → s.feed = e.1 := fun e he s hs =>
    feed_of_replayable hr ((Table.mem_iff_get? hr.distinct).mp he) hs
  refine List.Nodup.sublist ?_ hr.distinct
  unfold Table.keys
  generalize r.slots = slots at hfeeds
  induction slots with
  | nil => simp
  | cons e rest ih =>
    have hrest := ih fun e' he' => hfeeds e' (List.mem_cons_of_mem _ he')
    rw [List.filterMap_cons]
    split
    · exact hrest.cons _
    · next s hs =>
      rw [List.map_cons, List.map_cons, hfeeds e (List.mem_cons_self ..) s hs]
      exact hrest.cons_cons _

end Registry

end FeedLink.Socket
