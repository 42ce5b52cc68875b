import FeedLink.Proofs.Socket.Waiter
import FeedLink.Socket.Step

/-!
# How calls begin and end

One equation for each way in which a call can begin, in terms of the tables before it. A subscribe
and a request either end at once, and leave the tables as they found them, or wait under a key that
nobody used before.

## Main results

* `Handler.subscribe_of_detached`, `Handler.subscribe_of_held`, `Handler.subscribe_of_refused`,
  `Handler.subscribe_of_accepted`
* `Handler.request_of_detached`, `Handler.request_of_refused`, `Handler.request_of_accepted`
* `Handler.abandon_of_waiter` — how a call ends behind which somebody waits
* `Handler.unsubscribeOnce_cases` — what an attempt to unsubscribe may change
* `Handler.registry_handleReply`, `Handler.handleText_cases` — what a frame may change
-/

namespace FeedLink.Socket

open Json

/-- Who waits behind a call. -/
def Call.waiter? : Call → Option Waiter
  | .subscribing f pending _ => some ⟨.subscribe f, pending⟩
  | .requesting pending _ => some ⟨.request, pending⟩
  | .unsubscribing .. | .closing _ | .joining => none

/-- Nobody waits for a replay behind a call. -/
theorem Call.isReplay_waiter {c : Call} {w : Waiter} (hw : c.waiter? = some w) :
    w.role.isReplay = false := by
  cases c <;> simp only [Call.waiter?, Option.some.injEq, reduceCtorEq] at hw <;> subst hw <;> rfl

namespace Handler

variable {h : Handler} {s : Settings} {now : Duration} {call : CallId} {link : LinkId}
  {feed : Feed} {params : Value} {callback : Callback} {method : String}

/-- The key of the next request. -/
def nextKey (h : Handler) : String := (RequestId.fresh h.nextId).key

/-- What the next request waits with. -/
def nextPending (h : Handler) (what : String) : PendingReply :=
  ⟨⟨h.correlator.drawn⟩, h.nextKey, what⟩

theorem register_fst (h : Handler) (what : String) :
    (h.correlator.register (.fresh h.nextId) what).1 = h.nextPending what := by
  simp [Correlator.register, nextPending, nextKey]

theorem admits_iff :
    h.admits call = true ↔ h.released = false ∧ Table.get? call h.calls = none := by
  simp [admits, Table.has_eq_false_iff]

/-! ### Subscribing -/

theorem subscribe_of_detached (hlink : h.link = none) (failure : Option TransportError) :
    h.subscribe s now call feed params callback failure =
      ({ h with nextId := h.nextId + 1 }, [.returned call (.error .notConnected)]) := by
  simp only [subscribe, hlink]

/-- A feed that is held is not subscribed to again, and nothing is sent. -/
theorem subscribe_of_held (hlink : h.link = some link)
    (hheld : Table.has feed h.registry.slots = true) (failure : Option TransportError) :
    h.subscribe s now call feed params callback failure =
      ({ h with nextId := h.nextId + 1 }, [.returned call (.error (.alreadySubscribed feed))]) := by
  simp only [subscribe, hlink, Registry.reserve, Registry.insertReserved_of_held hheld]

variable {registry : Registry}

theorem subscribe_of_refused (hlink : h.link = some link)
    (hres : h.registry.reserve feed (.subscribe h.nextId feed params) callback = .ok registry)
    (e : TransportError) :
    h.subscribe s now call feed params callback (some e) =
      ({ h with
          nextId := h.nextId + 1
          correlator :=
            ((h.correlator.register (.fresh h.nextId) ("subscribe to " ++ feed.name)).2.evict
              h.nextKey).2
          registry := (registry.release h.nextKey).2 },
        [.sent link (Request.subscribe h.nextId feed params).text (some e),
          .returned call (.error (.transport e))]) := by
  simp only [subscribe, hlink, hres, withdraw, Correlator.key_register]
  rfl

theorem subscribe_of_accepted (hlink : h.link = some link)
    (hres : h.registry.reserve feed (.subscribe h.nextId feed params) callback = .ok registry) :
    h.subscribe s now call feed params callback none =
      ({ h with
          nextId := h.nextId + 1
          correlator := (h.correlator.register (.fresh h.nextId) ("subscribe to " ++ feed.name)).2
          registry
          calls := Table.set call
            (.subscribing feed (h.nextPending ("subscribe to " ++ feed.name))
              (now + s.timeouts.requestWait)) h.calls },
        [.sent link (Request.subscribe h.nextId feed params).text none]) := by
  simp only [subscribe, hlink, hres, ← register_fst]
  rfl

/-! ### Requesting -/

theorem request_of_detached (hlink : h.link = none) (failure : Option TransportError) :
    h.request s now call method params failure =
      ({ h with nextId := h.nextId + 1 }, [.returned call (.error .notConnected)]) := by
  simp only [request, hlink]

theorem request_of_refused (hlink : h.link = some link) (e : TransportError) :
    h.request s now call method params (some e) =
      ({ h with
          nextId := h.nextId + 1
          correlator :=
            ((h.correlator.register (.fresh h.nextId) method).2.evict h.nextKey).2 },
        [.sent link (Request.new h.nextId method params).text (some e),
          .returned call (.error (.transport e))]) := by
  simp only [request, hlink, Correlator.key_register]
  rfl

theorem request_of_accepted (hlink : h.link = some link) :
    h.request s now call method params none =
      ({ h with
          nextId := h.nextId + 1
          correlator := (h.correlator.register (.fresh h.nextId) method).2
          calls := Table.set call
            (.requesting (h.nextPending method) (now + s.timeouts.requestWait)) h.calls },
        [.sent link (Request.new h.nextId method params).text none]) := by
  simp only [request, hlink, ← register_fst]
  rfl

/-! ### Ending -/

/-- Dropping a call takes out what it left in the tables. -/
theorem abandon_of_waiter {c : Call} {w : Waiter} (hcall : Table.get? call h.calls = some c)
    (hw : c.waiter? = some w) :
    h.abandon call = { h.withdraw w.key with calls := Table.erase call h.calls } := by
  cases c <;> simp only [Call.waiter?, Option.some.injEq, reduceCtorEq] at hw <;> subst hw <;>
    simp only [abandon, hcall] <;> rfl

theorem abandon_of_idle (hcall : (Table.get? call h.calls).bind Call.waiter? = none) :
    h.abandon call = { h with calls := Table.erase call h.calls } := by
  unfold abandon
  cases hc : Table.get? call h.calls with
  | none => rfl
  | some c =>
    rw [hc, Option.bind_some] at hcall
    cases c with
    | subscribing | requesting => simp [Call.waiter?] at hcall
    | unsubscribing | closing | joining => rfl

/-! ### Unsubscribing -/

/-- What one attempt to unsubscribe may change. -/
theorem unsubscribeOnce_cases (h : Handler) (feed : Feed) (failure : Option TransportError) :
    (h.unsubscribeOnce feed failure).1 = h ∨
    (h.unsubscribeOnce feed failure).1 = { h with nextId := h.nextId + 1 } ∨
    (h.unsubscribeOnce feed failure).1 =
      { h with nextId := h.nextId + 1, registry := (h.registry.unregister feed).2 } := by
  unfold unsubscribeOnce
  split
  · exact .inl rfl
  · exact .inl rfl
  · exact .inl rfl
  · split
    · exact .inr (.inl rfl)
    · exact .inr (.inr rfl)

@[simp] theorem calls_unsubscribeOnce (h : Handler) (feed : Feed)
    (failure : Option TransportError) : (h.unsubscribeOnce feed failure).1.calls = h.calls := by
  rcases h.unsubscribeOnce_cases feed failure with heq | heq | heq <;> rw [heq]

@[simp] theorem released_unsubscribeOnce (h : Handler) (feed : Feed)
    (failure : Option TransportError) :
    (h.unsubscribeOnce feed failure).1.released = h.released := by
  rcases h.unsubscribeOnce_cases feed failure with heq | heq | heq <;> rw [heq]

/-! ### Frames -/

/-- What a reply does to the registry: a token is confirmed by a string, and released by anything
else. -/
theorem registry_handleReply (h : Handler) (key : String) (outcome : Outcome) :
    (h.handleReply key outcome).registry =
      match outcome with
      | .ok (.str id) => (h.registry.confirm key ⟨id⟩).2
      | _ => (h.registry.release key).2 := by
  unfold handleReply
  dsimp only
  split
  · rfl
  · next hres =>
    have hnone := Table.has_eq_false_iff.mp (Bool.not_eq_true _ ▸ hres)
    split
    · rw [Registry.confirm_of_none hnone]
    · rw [Registry.release_of_none hnone]

/-- A reply to which no reservation belongs leaves the registry alone. -/
theorem registry_handleReply_of_none {key : String}
    (htoken : Table.get? key h.registry.byToken = none) (outcome : Outcome) :
    (h.handleReply key outcome).registry = h.registry := by
  rw [registry_handleReply]
  split
  · rw [Registry.confirm_of_none htoken]
  · rw [Registry.release_of_none htoken]

/-- A reply leaves the slots alone that are not reserved under its key. -/
theorem slots_handleReply_of_ne (hr : h.registry.Coherent) {key : String} {f : Feed}
    (hne : Table.get? key h.registry.byToken ≠ some f) (outcome : Outcome) :
    Table.get? f (h.handleReply key outcome).registry.slots = Table.get? f h.registry.slots := by
  rw [registry_handleReply]
  split
  · exact hr.get?_slots_confirm_of_ne hne _
  · rw [hr.get?_slots_release, if_neg hne]

/-- A reply settles the slot that is reserved under its key: a string makes it active, and anything
else empties it. -/
theorem slots_handleReply_self (hr : h.registry.Coherent) {f : Feed} {request : Request}
    {previous : Option SubscriptionId}
    (hslot : Table.get? f h.registry.slots = some (.reserved request callback previous))
    (outcome : Outcome) :
    Table.get? f (h.handleReply request.id.key outcome).registry.slots =
      match outcome with
      | .ok (.str x) => some (.active ⟨f, request, callback, ⟨x⟩⟩)
      | _ => none := by
  rw [registry_handleReply]
  split
  · exact hr.get?_slots_confirm_self hslot _
  · rw [hr.get?_slots_release, if_pos (hr.token_of_slot hslot)]

/-- What handling a frame may change: nothing, unless the frame is a reply. -/
theorem handleText_cases (s : Settings) (h : Handler) (text : String) :
    (h.handleText s text).1 = h ∨
    ∃ key outcome, Inbound.parse text = .ok (.reply key outcome) ∧
      h.handleText s text = (h.handleReply key outcome, []) := by
  unfold handleText
  split
  · next key outcome hparse => exact .inr ⟨key, outcome, hparse, rfl⟩
  · split <;> exact .inl rfl
  · exact .inl rfl
  · exact .inl rfl

@[simp] theorem reader_handleText (s : Settings) (h : Handler) (text : String) :
    (h.handleText s text).1.reader = h.reader := by
  rcases handleText_cases s h text with heq | ⟨key, outcome, -, heq⟩ <;> rw [heq]
  rfl

end Handler

end FeedLink.Socket
