import FeedLink.Proofs.Socket.Registry

/-!
# Registries under any sequence of operations

A registry is changed by six operations, and each of them may fail: a feed is held already, a token
or a feed is not held in the way that is asked for. `Operation` makes them values, so that a history
of a registry is a list. Along every history in which nothing is reserved under a key that still
waits, the two indices tell the truth about the slots (`Coherent`), and therefore each operation
does to the slot of one feed what its name says, or nothing at all.

## Main definitions

* `Registry.Operation`, `Registry.Operation.after`, `Registry.Operation.succeeds`
* `Registry.Operation.feed?` — the feed that an operation is about
* `Registry.admissible` — nothing is reserved under a key that waits

## Main results

* `Coherent.after`, `Coherent.afterAll` — the indices stay coherent
* `Coherent.slots_after_of_ne` — an operation leaves the other feeds alone
* `Coherent.after_of_fails` — an operation that fails changes nothing
* `indices_tell_the_truth`
-/

namespace FeedLink.Socket

namespace Registry

/-- An operation on a registry. -/
inductive Operation where
  | reserve (feed : Feed) (request : Request) (callback : Callback)
  | reserveReplay (lost : Subscription) (request : Request)
  | confirm (token : String) (id : SubscriptionId)
  | release (token : String)
  | unregister (feed : Feed)
  | takeAll

namespace Operation

/-- What an attempt to reserve leaves: an attempt that is refused leaves the registry alone. -/
def reserved (r : Registry) : Except HandlerError Registry → Registry
  | .ok r' => r'
  | .error _ => r

/-- The registry after an operation. -/
def after (r : Registry) : Operation → Registry
  | .reserve feed request callback => reserved r (r.reserve feed request callback)
  | .reserveReplay lost request => reserved r (r.reserveReplay lost request)
  | .confirm token id => (r.confirm token id).2
  | .release token => (r.release token).2
  | .unregister feed => (r.unregister feed).2
  | .takeAll => r.takeAll.2

/-- Does an operation find what it asks for? -/
def succeeds (r : Registry) : Operation → Bool
  | .reserve feed request callback => (r.reserve feed request callback).isOk
  | .reserveReplay lost request => (r.reserveReplay lost request).isOk
  | .confirm token id => (r.confirm token id).1.isSome
  | .release token => (r.release token).1.isSome
  | .unregister feed => (r.unregister feed).1.isSome
  | .takeAll => true

/-- The feed that an operation is about: the one it names, or the one its token leads to. -/
def feed? (r : Registry) : Operation → Option Feed
  | .reserve feed .. | .unregister feed => some feed
  | .reserveReplay lost _ => some lost.feed
  | .confirm token _ | .release token => Table.get? token r.byToken
  | .takeAll => none

/-- The key under which an operation reserves. -/
def key? : Operation → Option String
  | .reserve _ request _ | .reserveReplay _ request => some request.id.key
  | .confirm .. | .release _ | .unregister _ | .takeAll => none

end Operation

/-- The registry after operations in turn. -/
def afterAll (r : Registry) (operations : List Operation) : Registry :=
  operations.foldl Operation.after r

/-- Is nothing reserved under a key that waits for a reply at that moment? -/
def admissible : Registry → List Operation → Bool
  | _, [] => true
  | r, operation :: rest => !operation.key?.any r.isReserved && admissible (operation.after r) rest

variable {r r' : Registry} {f g : Feed} {request : Request} {callback : Callback}
  {previous : Option SubscriptionId} {token : String} {x : SubscriptionId} {sub : Subscription}

/-! ### The indices stay coherent -/

theorem Coherent.reserved (hr : r.Coherent) (hnew : Table.get? request.id.key r.byToken = none) :
    (Operation.reserved r (r.insertReserved f request callback previous)).Coherent := by
  cases hres : r.insertReserved f request callback previous with
  | error e => exact hr
  | ok r' => exact hr.insertReserved hnew hres

/-- **An operation keeps the indices coherent**, unless it reserves under a key that waits. -/
theorem Coherent.after (hr : r.Coherent) (operation : Operation)
    (hkey : ∀ key, operation.key? = some key → Table.get? key r.byToken = none) :
    (operation.after r).Coherent := by
  cases operation with
  | reserve feed request callback => exact hr.reserved (hkey _ rfl)
  | reserveReplay lost request => exact hr.reserved (hkey _ rfl)
  | confirm token id => exact hr.confirm token id
  | release token => exact hr.release token
  | unregister feed => exact hr.unregister feed
  | takeAll => exact coherent_empty

/-- **Along every admissible history the indices stay coherent.** -/
theorem Coherent.afterAll (hr : r.Coherent) {operations : List Operation}
    (hops : r.admissible operations = true) : (r.afterAll operations).Coherent := by
  induction operations generalizing r with
  | nil => exact hr
  | cons operation rest ih =>
    obtain ⟨hfresh, hrest⟩ : operation.key?.any r.isReserved = false ∧
      (operation.after r).admissible rest = true := by simpa [admissible] using hops
    refine ih (hr.after operation fun key hkey => ?_) hrest
    rw [hkey, Option.any_some] at hfresh
    exact Table.has_eq_false_iff.mp hfresh

/-! ### What each operation does to the slots -/

theorem slots_reserved_of_ne (hne : f ≠ g) :
    Table.get? g (Operation.reserved r (r.insertReserved f request callback previous)).slots =
      Table.get? g r.slots := by
  cases hres : r.insertReserved f request callback previous with
  | error e => rfl
  | ok r' => exact (get?_slots_insertReserved hres g).trans (if_neg hne)

theorem slots_unregister_of_ne (hne : f ≠ g) :
    Table.get? g (r.unregister f).2.slots = Table.get? g r.slots := by
  unfold unregister
  split
  · exact (Table.get?_erase ..).trans (if_neg hne)
  · rfl

/-- **An operation leaves the feeds alone that it is not about**, unless it takes out all. -/
theorem Coherent.slots_after_of_ne (hr : r.Coherent) {operation : Operation}
    (hall : operation ≠ .takeAll) (hne : operation.feed? r ≠ some f) :
    Table.get? f (operation.after r).slots = Table.get? f r.slots := by
  cases operation with
  | reserve | reserveReplay => exact slots_reserved_of_ne fun heq => hne (congrArg some heq)
  | confirm token id => exact hr.get?_slots_confirm_of_ne hne id
  | release token => exact (hr.get?_slots_release token f).trans (if_neg hne)
  | unregister feed => exact slots_unregister_of_ne fun heq => hne (congrArg some heq)
  | takeAll => contradiction

/-- Confirming a token that waits succeeds, and makes the feed active that is reserved under it. -/
theorem Coherent.confirm_of_token (hr : r.Coherent)
    (htoken : Table.get? token r.byToken = some f) (x : SubscriptionId) :
    (r.confirm token x).1 = some f ∧ ∃ request callback previous,
      Table.get? f r.slots = some (.reserved request callback previous) ∧
      Table.get? f (r.confirm token x).2.slots = some (.active ⟨f, request, callback, x⟩) := by
  obtain ⟨request, callback, previous, hslot, rfl⟩ := hr.slot_of_token htoken
  refine ⟨?_, request, callback, previous, hslot, hr.get?_slots_confirm_self hslot x⟩
  simp only [Registry.confirm, htoken, hslot]

/-- Releasing takes out no active subscription. -/
theorem Coherent.active_release (hr : r.Coherent)
    (hslot : Table.get? f r.slots = some (.active sub)) (token : String) :
    Table.get? f (r.release token).2.slots = some (.active sub) := by
  rw [hr.get?_slots_release, if_neg, hslot]
  intro htoken
  obtain ⟨_, _, _, hreserved, -⟩ := hr.slot_of_token htoken
  simp [hslot] at hreserved

/-- Giving up subscriptions takes out no reservation. -/
theorem reserved_unregister
    (hslot : Table.get? f r.slots = some (.reserved request callback previous)) (g : Feed) :
    Table.get? f (r.unregister g).2.slots = some (.reserved request callback previous) := by
  by_cases hgf : g = f
  · simp only [unregister, hgf, hslot]
  · rw [slots_unregister_of_ne hgf, hslot]

/-! ### Operations that fail -/

theorem token_of_release_fails (h : (r.release token).1 = none) :
    Table.get? token r.byToken = none := by
  unfold release at h
  split at h
  · assumption
  · contradiction

theorem unregister_of_fails (h : (r.unregister f).1 = none) : (r.unregister f).2 = r := by
  unfold unregister at h ⊢
  split at h
  · contradiction
  · rfl

/-- **An operation that fails changes nothing.** -/
theorem Coherent.after_of_fails (hr : r.Coherent) {operation : Operation}
    (hfails : operation.succeeds r = false) : operation.after r = r := by
  cases operation with
  | reserve feed request callback =>
    simp only [Operation.succeeds, Operation.after] at hfails ⊢
    cases hres : r.reserve feed request callback with
    | error e => rfl
    | ok r' => rw [hres] at hfails; contradiction
  | reserveReplay lost request =>
    simp only [Operation.succeeds, Operation.after] at hfails ⊢
    cases hres : r.reserveReplay lost request with
    | error e => rfl
    | ok r' => rw [hres] at hfails; contradiction
  | confirm token id =>
    -- a token that is found leads to a reservation, so that only one that is not found can fail
    have hnone : (r.confirm token id).1 = none := by simpa [Operation.succeeds] using hfails
    cases htoken : Table.get? token r.byToken with
    | none => exact congrArg Prod.snd (confirm_of_none htoken id)
    | some f =>
      rw [(hr.confirm_of_token htoken id).1] at hnone
      contradiction
  | release token =>
    have hnone : (r.release token).1 = none := by simpa [Operation.succeeds] using hfails
    exact congrArg Prod.snd (release_of_none (token_of_release_fails hnone))
  | unregister feed =>
    exact unregister_of_fails (by simpa [Operation.succeeds] using hfails)
  | takeAll => contradiction

/-! ### The indices -/

/-- A token leads to a feed if and only if the feed is reserved by a request with that key. -/
theorem Coherent.token_iff (hr : r.Coherent) :
    Table.get? token r.byToken = some f ↔ ∃ request callback previous,
      Table.get? f r.slots = some (.reserved request callback previous) ∧
        request.id.key = token := by
  refine ⟨hr.slot_of_token, ?_⟩
  rintro ⟨request, callback, previous, hslot, rfl⟩
  exact hr.token_of_slot hslot

/-- **The indices of a registry tell the truth.** Take any history of a registry in which nothing is
reserved under a key that waits. A token leads to a feed exactly if the feed is reserved by a
request with that key, and an id that leads to a feed is the id under which the feed is active. So
confirming a token that waits makes its feed active; releasing takes out no active subscription, and
giving up takes out no reservation; a token under which nothing waits does nothing, and neither does
an operation that fails; and an operation changes the slot of the feed that it is about and of no
other, except for the one that takes out all. -/
theorem indices_tell_the_truth (operations : List Operation)
    (hops : admissible .empty operations = true) :
    let r := afterAll .empty operations
    (∀ token f, Table.get? token r.byToken = some f ↔ ∃ request callback previous,
      Table.get? f r.slots = some (.reserved request callback previous) ∧
        request.id.key = token) ∧
    (∀ x f, Table.get? x r.byId = some f →
      ∃ sub, Table.get? f r.slots = some (.active sub) ∧ sub.feed = f ∧ sub.id = x) ∧
    (∀ token f x, Table.get? token r.byToken = some f →
      (r.confirm token x).1 = some f ∧ ∃ request callback previous,
        Table.get? f r.slots = some (.reserved request callback previous) ∧
        Table.get? f (r.confirm token x).2.slots = some (.active ⟨f, request, callback, x⟩)) ∧
    (∀ token f sub, Table.get? f r.slots = some (.active sub) →
      Table.get? f (r.release token).2.slots = some (.active sub)) ∧
    (∀ f g request callback previous,
      Table.get? f r.slots = some (.reserved request callback previous) →
        Table.get? f (r.unregister g).2.slots = some (.reserved request callback previous)) ∧
    (∀ token, r.isReserved token = false →
      r.release token = (none, r) ∧ ∀ x, r.confirm token x = (none, r)) ∧
    ∀ operation : Operation,
      (operation.succeeds r = false → operation.after r = r) ∧
      (operation ≠ .takeAll → ∀ f, operation.feed? r ≠ some f →
        Table.get? f (operation.after r).slots = Table.get? f r.slots) := by
  intro r
  have hr : r.Coherent := coherent_empty.afterAll hops
  refine ⟨fun _ _ => hr.token_iff, fun x f hid => ?_, fun _ _ x htoken =>
    hr.confirm_of_token htoken x, fun token _ _ hslot => hr.active_release hslot token,
    fun _ g _ _ _ hslot => reserved_unregister hslot g, fun token hstale => ?_, fun operation =>
    ⟨hr.after_of_fails, fun hall _ hne => hr.slots_after_of_ne hall hne⟩⟩
  · obtain ⟨sub, hslot, hsub⟩ := hr.slot_of_id hid
    exact ⟨sub, hslot, hr.feed_of_active hslot, hsub⟩
  · have hnone := Table.has_eq_false_iff.mp hstale
    exact ⟨release_of_none hnone, confirm_of_none hnone⟩

/-- A subscription is acknowledged, and another feed is reserved; a stale token and a feed that is
not active are asked for in vain. -/
def activeAndReserved : List Operation :=
  [.reserve .newTxs (.subscribe 1 .newTxs .null) ⟨"f"⟩, .confirm "1" ⟨"x"⟩,
    .reserve .newBlocks (.subscribe 2 .newBlocks .null) ⟨"g"⟩, .release "1",
    .unregister .newBlocks]

theorem indices_of_active_and_reserved :
    let r := afterAll .empty activeAndReserved
    Table.get? "2" r.byToken = some .newBlocks ∧ (r.confirm "2" ⟨"y"⟩).1 = some .newBlocks ∧
      r.release "1" = (none, r) := by
  intro r
  obtain ⟨htoken, -, hconfirm, -, -, hstale, -⟩ :=
    indices_tell_the_truth activeAndReserved (by decide)
  have hwaits : Table.get? "2" r.byToken = some .newBlocks :=
    (htoken _ _).mpr ⟨.subscribe 2 .newBlocks .null, ⟨"g"⟩, none, by decide, by decide⟩
  exact ⟨hwaits, (hconfirm _ _ _ hwaits).1, (hstale "1" (by decide)).1⟩

end Registry

end FeedLink.Socket
