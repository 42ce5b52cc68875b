import FeedLink.Proofs.Contract
import FeedLink.Proofs.Envelopes
import FeedLink.Proofs.Socket.Delivery
import FeedLink.Proofs.Socket.Subscribing
import Mathlib.Data.Fintype.EquivFin

/-!
# A WebSocket handler keeps the contract

The connection takes what is sent and is not lost, and the server acknowledges each subscribe with a
string that names no other subscription. What else it sends does not matter: replies that nobody
waits for, and frames of no interest.

A feed is held in the contract from the step in which its subscribe is sent. In the registry it is
reserved then, and becomes active when the acknowledgement comes; the callback is there from the
beginning, so that both hold the same feeds for the same callbacks at any time.

## Main definitions

* `Handler.Does` — the world does its part
* `Handler.binding` — a WebSocket handler as a binding
* `Handler.Follows` — a handler is where the contract is

## Main results

* `Handler.simulates` — a WebSocket handler simulates the contract
-/

namespace FeedLink.Socket

open Json

/-- What callers can tell of an output. -/
def Output.observation? : Output → Option Observation
  | .returned _ result => some (.returned result)
  | .notified callback delivery => some (.notified callback delivery)
  | .sent .. | .closed _ | .dialing => none

namespace Handler

variable {h : Handler} {s : Settings} {now : Duration} {event : Event} {call : CallId}
  {link : LinkId} {feed f : Feed} {params payload : Value} {callback : Callback} {c : Contract}
  {owed : List Observation} {d : Decoders} {asks : List Ask} {text key : String}
  {outcome : Outcome} {x : SubscriptionId}

/-- The world does its part with an event, and asks for this. -/
inductive Does (h : Handler) (now : Duration) : Event → List Ask → Prop
  | subscribe {call : CallId} {feed : Feed} {params : Value} {callback : Callback}
      (idle : h.calls = []) :
      Does h now (.subscribe call feed params callback none) [.subscribe feed params callback]
  | unsubscribe {call : CallId} {feed : Feed} (idle : h.calls = []) :
      Does h now (.unsubscribe call feed none) [.unsubscribe feed]
  | close {call : CallId} (idle : h.calls = []) : Does h now (.close call none) [.close]
  /-- The server pushes a payload to a feed that is held. -/
  | pushed {link : LinkId} {text : String} {x : SubscriptionId} {feed : Feed} {payload : Value}
      (idle : h.calls = []) (reading : h.reader = .reading link)
      (parsed : Inbound.parse text = .ok (.push x payload))
      (held : h.subscriptionId? feed = some x) :
      Does h now (.received link text) [.push feed payload]
  /-- The server replies. If somebody waits for the reply, it is a string that names no other
  subscription. -/
  | replied {link : LinkId} {text key : String} {outcome : Outcome}
      (reading : h.reader = .reading link)
      (parsed : Inbound.parse text = .ok (.reply key outcome))
      (granted : h.correlator.contains key = true →
        ∃ x, outcome = .ok (.str x) ∧ ∀ feed, h.subscriptionId? feed ≠ some ⟨x⟩) :
      Does h now (.received link text) []
  | ignored {link : LinkId} {text : String} (parsed : Inbound.parse text = .ok .other) :
      Does h now (.received link text) []
  /-- A call is given a turn. One that waits for its reply is not out of time. -/
  | resumed {call : CallId}
      (patient : ∀ feed pending deadline,
        Table.get? call h.calls = some (.subscribing feed pending deadline) →
          h.correlator.settlement? pending.ticket = none → now < deadline) :
      Does h now (.resume call none) []
  | noticed : Does h now .noticed []

/-- A WebSocket handler as a binding. -/
def binding (s : Settings) : Binding Handler Event where
  step h now event :=
    ((h.step s now event).1, (h.step s now event).2.filterMap Output.observation?)
  Does := Does
  Idle h := h.calls = []

theorem unsubscribe_of_success {h' : Handler} {failure : Option TransportError}
    {sent : List Output} (honce : h.unsubscribeOnce feed failure = (h', sent, .success ())) :
    h.unsubscribe s now call feed failure =
      ({ h' with calls := Table.erase call h'.calls }, sent ++ [.returned call (.ok none)]) := by
  simp only [unsubscribe, unsubscribeAttempt, honce]
  rfl

theorem close_of_attached (hstate : h.state ≠ .closed) (hlink : h.link = some link)
    (hreader : h.reader = .reading link) :
    h.close s now call none =
      ({ h with
          state := .closed
          correlator := h.correlator.clear.2
          registry := .empty
          link := none
          stopping := true
          nextId := h.nextId + 1
          calls := Table.set call (.closing (now + s.timeouts.closeWait)) h.calls },
        [.sent link (Request.unsubscribeAll h.nextId).text none, .closed link]) := by
  simp only [Handler.close, hstate, hlink, hreader, if_false]
  rfl

theorem step_received (hreader : h.reader = .reading link) (text : String) :
    h.step s now (.received link text) =
      ((h.handleText s text).1.readOn, (h.handleText s text).2) := by
  simp only [step, hreader, if_true]

/-- Reading on changes nothing but the reader. -/
theorem readOn_eq (h : Handler) : ∃ reader, h.readOn = { h with reader } := by
  unfold readOn
  split
  · exact ⟨_, rfl⟩
  · exact ⟨_, rfl⟩

theorem subscriptionId?_eq_some_iff : h.subscriptionId? f = some x ↔ h.Active f x := by
  unfold subscriptionId? Registry.holding Active
  cases Table.get? f h.registry.slots with
  | none => simp
  | some slot => cases slot <;> simp

theorem resume_of_unsettled {pending : PendingReply} {deadline : Duration}
    (hcall : Table.get? call h.calls = some (.subscribing feed pending deadline))
    (hunsettled : h.correlator.settlement? pending.ticket = none) (hpatient : now < deadline) :
    h.resume s now call none = (h, []) := by
  have hearly : ¬deadline ≤ now := Nat.not_le_of_lt hpatient
  simp only [resume, hcall, replyResult, hunsettled, if_neg hearly]

theorem resume_of_granted {pending : PendingReply} {deadline : Duration} {x : String}
    (hcall : Table.get? call h.calls = some (.subscribing feed pending deadline))
    (hgranted : h.correlator.settlement? pending.ticket = some (.reply (.ok (.str x))))
    (htoken : Table.get? pending.key h.registry.byToken = none) :
    h.resume s now call none =
      ({ h with
          correlator := (h.correlator.evict pending.key).2
          calls := Table.erase call h.calls },
        [.returned call (.ok none)]) := by
  simp only [resume, hcall, replyResult, hgranted, withdraw, Registry.release_of_none htoken]
  rfl

theorem resume_of_closing (s : Settings) (now : Duration) {deadline : Duration}
    (hcall : Table.get? call h.calls = some (.closing deadline)) :
    h.resume s now call none = (h, []) ∧ now < deadline ∨
      h.resume s now call none =
        ({ h with calls := Table.erase call h.calls }, [.returned call (.ok none)]) := by
  simp only [resume, hcall]
  split
  · exact .inr rfl
  · split
    · exact .inr rfl
    · next hearly => exact .inl ⟨rfl, Nat.lt_of_not_le hearly⟩

/-- A payload reaches a subscription in some text. -/
theorem exists_text_of_push (x : SubscriptionId) (hsorted : payload.sorted = payload)
    (hfits : payload.fits (Document.maxLevels - 2) = true) :
    ∃ text, Inbound.parse text = .ok (.push x payload) := by
  have hpush : Pushes x payload [("method", .str Request.subscribeMethod),
      ("params", .obj [("subscription", .str x.text), ("result", payload)])] :=
    { distinct := by simp
      readable := by simpa [Value.fits, Value.fitsFields, Document.maxLevels] using hfits
      method := by simp
      params := ⟨[("subscription", .str x.text), ("result", payload)], by simp, by simp, by simp,
        by simp⟩ }
  exact ⟨_, hsorted ▸ hpush.parse⟩

/-- A request is acknowledged with an id in some text. -/
theorem exists_text_of_grant (n : Nat) (x : String) :
    ∃ text, Inbound.parse text = .ok (.reply (RequestId.fresh n).key (.ok (.str x))) := by
  have hreply : RepliesTo (.fresh n)
      [("id", (RequestId.fresh n).toValue), ("result", .str x)] :=
    { distinct := by simp
      readable := rfl
      echo := ⟨_, by simp, .inl rfl⟩
      method := by simp }
  exact ⟨_, hreply.parse_result (v := .str x) (by simp) (by simp)⟩

/-- What the call that waits will return. -/
inductive Owes (k : Correlator) : Table CallId Call → List Observation → Prop
  | nothing : Owes k [] []
  /-- A subscribe waits, and if it was answered, then with a string. -/
  | subscribing {call : CallId} {feed : Feed} {pending : PendingReply} {deadline : Duration}
      (granted : ∀ v, k.settlement? pending.ticket = some v → ∃ x, v = .reply (.ok (.str x))) :
      Owes k [(call, .subscribing feed pending deadline)] [.returned (.ok none)]
  | closing {call : CallId} {deadline : Duration} :
      Owes k [(call, .closing deadline)] [.returned (.ok none)]

/-- What is owed stays owed when a key is settled with an acknowledgement, or not waited for. -/
theorem Owes.settle {k : Correlator} {calls : Table CallId Call} (howes : Owes k calls owed)
    {v : Settlement} (hgranted : k.contains key = true → ∃ x, v = .reply (.ok (.str x))) :
    Owes (k.settle key v).2 calls owed := by
  cases howes with
  | nothing => exact .nothing
  | closing => exact .closing
  | subscribing hold =>
    refine .subscribing fun v' hv' => ?_
    rw [Correlator.settlement?_settle] at hv'
    split at hv'
    · next hpending =>
      obtain rfl := Option.some.inj hv'
      exact hgranted (Table.has_eq_true_iff.mpr ⟨_, hpending⟩)
    · exact hold v' hv'

/-- The handler is where the contract is, apart from what it owes. -/
structure Follows (s : Settings) (c : Contract) (owed : List Observation) (h : Handler) :
    Prop where
  reachable : Reachable s h
  routable : h.registry.Routable
  present : h.released = false
  unlost : h.batches = []
  attached : c.closed = false → h.state ≠ .closed ∧ ∃ link, h.link = some link
  detached : c.closed = true → h.state = .closed ∧ h.link = none ∧ c.held = []
  held : ∀ f, (Table.get? f h.registry.slots).map Slot.callback = Table.get? f c.held
  owes : Owes h.correlator h.calls owed

/-- After a step the handler is where the contract is, and what was promised has been observed, or
is still owed. -/
def Fulfils (s : Settings) (c : Contract) (promised : List Observation)
    (out : Handler × List Output) : Prop :=
  ∃ owed, Follows s c owed out.1 ∧ promised = out.2.filterMap Output.observation? ++ owed

namespace Follows

/-- Nothing is owed where no call waits. -/
theorem settled (hf : Follows s c owed h) (hidle : h.calls = []) : owed = [] := by
  have howes := hf.owes
  rw [hidle] at howes
  cases howes
  rfl

/-- A handler that is idle waits for nothing. -/
theorem waiters_of_idle (hf : Follows s c owed h) (hidle : h.calls = []) : h.waiters = [] := by
  rw [waiters, hidle, hf.unlost]
  rfl

/-- A feed is held by both or by neither. -/
theorem has_iff (hf : Follows s c owed h) (f : Feed) :
    Table.has f c.held = Table.has f h.registry.slots := by
  rw [Table.has, ← hf.held f, Option.isSome_map]
  rfl

/-- Who is attached reads. -/
theorem reading (hf : Follows s c owed h) (hlink : h.link = some link) :
    h.reader = .reading link :=
  (hf.reachable.coherent.attached hlink hf.present).1

/-- What holds a feed of a handler that is idle was acknowledged. -/
theorem active_of_idle (hf : Follows s c owed h) (hidle : h.calls = []) (hlink : h.link = some link)
    {slot : Slot} (hslot : Table.get? f h.registry.slots = some slot) :
    ∃ sub, slot = .active sub := by
  have hc := hf.reachable.coherent
  cases slot with
  | active sub => exact ⟨sub, rfl⟩
  | reserved request callback previous =>
    -- the reservation would wait for a reply, but nobody waits
    have htoken := hc.tables.registry.token_of_slot hslot
    obtain ⟨ticket, hpending⟩ := hc.live (hf.reading hlink) _ _ htoken
    obtain ⟨w, hw, -⟩ := hc.tables.owned hpending
    rw [hf.waiters_of_idle hidle] at hw
    contradiction

theorem admits (hf : Follows s c owed h) (hidle : h.calls = []) (call : CallId) :
    h.admits call = true :=
  admits_iff.mpr ⟨hf.present, by rw [hidle]; rfl⟩

/-! ### What is asked for -/

theorem subscribe (hf : Follows s c owed h) (hidle : h.calls = []) :
    Fulfils s (c.step d (.subscribe feed params callback)).1
      (owed ++ (c.step d (.subscribe feed params callback)).2)
      (h.step s now (.subscribe call feed params callback none)) := by
  obtain rfl := hf.settled hidle
  have hadm := hf.admits hidle call
  have hr := hf.reachable.step now (.subscribe call feed params callback none)
  rw [step_subscribe hadm] at hr ⊢
  cases hclosed : c.closed with
  | true =>
    rw [subscribe_of_detached (hf.detached hclosed).2.1] at hr ⊢
    rw [Contract.step_subscribe_of_closed hclosed]
    exact ⟨[], { hf with reachable := hr }, rfl⟩
  | false =>
    obtain ⟨hstate, link, hlink⟩ := hf.attached hclosed
    cases hheld : Table.has feed h.registry.slots with
    | true =>
      rw [subscribe_of_held hlink hheld] at hr ⊢
      rw [Contract.step_subscribe_of_held hclosed ((hf.has_iff feed).trans hheld)]
      exact ⟨[], { hf with reachable := hr }, rfl⟩
    | false =>
      have hfree := Table.has_eq_false_iff.mp hheld
      obtain ⟨registry, hres⟩ : ∃ r, h.registry.reserve feed (.subscribe h.nextId feed params)
        callback = .ok r := Registry.insertReserved_of_free hheld
      rw [subscribe_of_accepted hlink hres] at hr ⊢
      obtain ⟨-, rfl⟩ := Registry.insertReserved_eq_ok_iff.mp hres
      have hpending := Correlator.get?_pending_register hf.reachable.coherent.tables.pending_fresh
        ("subscribe to " ++ feed.name) h.nextKey
      have hunsettled := hr.coherent.tables.correlator.unsettled (hpending.trans (if_pos rfl))
      rw [Contract.step_subscribe_of_free hclosed ((hf.has_iff feed).trans hheld)]
      refine ⟨[.returned (.ok none)], { hf with
        reachable := hr
        routable := hf.routable.mono rfl fun hslot => ?_
        attached := fun _ => ⟨hstate, link, hlink⟩
        detached := fun hc => absurd (hclosed.symm.trans hc) (by simp)
        held := fun f => ?_
        owes := ?_ }, rfl⟩
      · rw [Table.get?_set] at hslot
        split at hslot
        · simp at hslot
        · exact hslot
      · rw [Table.get?_set, Table.get?_set]
        split
        · rfl
        · exact hf.held f
      · rw [hidle]
        exact .subscribing fun v hv => absurd (hunsettled.symm.trans hv) (by simp)

theorem unsubscribe (hf : Follows s c owed h) (hidle : h.calls = []) :
    Fulfils s (c.step d (.unsubscribe feed)).1 (owed ++ (c.step d (.unsubscribe feed)).2)
      (h.step s now (.unsubscribe call feed none)) := by
  obtain rfl := hf.settled hidle
  have hr := hf.reachable.step now (.unsubscribe call feed none)
  have hstep : h.step s now (.unsubscribe call feed none) = h.unsubscribe s now call feed none :=
    if_pos (hf.admits hidle call)
  have howes : Owes h.correlator (Table.erase call h.calls) [] := by
    rw [hidle]
    exact .nothing
  rw [hstep] at hr ⊢
  cases hslot : Table.get? feed h.registry.slots with
  | none =>
    have honce : h.unsubscribeOnce feed none = (h, [], .success ()) := by
      simp only [unsubscribeOnce, Registry.holding, hslot]
    have hheld : Table.get? feed c.held = none := by rw [← hf.held feed, hslot, Option.map_none]
    rw [unsubscribe_of_success honce] at hr ⊢
    rw [Contract.step, Table.erase_of_none hheld]
    exact ⟨[], { hf with reachable := hr, owes := howes }, rfl⟩
  | some slot =>
    obtain ⟨link, hlink⟩ : ∃ link, h.link = some link := by
      cases hclosed : c.closed with
      | false => exact (hf.attached hclosed).2
      | true =>
        have hheld := hf.held feed
        rw [hslot, (hf.detached hclosed).2.2] at hheld
        simp at hheld
    obtain ⟨sub, rfl⟩ := hf.active_of_idle hidle hlink hslot
    have honce : h.unsubscribeOnce feed none =
        ({ h with nextId := h.nextId + 1, registry := (h.registry.unregister feed).2 },
          [.sent link (Request.unsubscribe h.nextId sub.id).text none], .success ()) := by
      simp only [unsubscribeOnce, Registry.holding, hslot, hlink]
    rw [unsubscribe_of_success honce] at hr ⊢
    refine ⟨[], { hf with
      reachable := hr
      routable := hf.routable.unregister feed
      detached := fun hclosed => ?_
      held := fun f => ?_
      owes := howes }, rfl⟩
    · have hnone := (hf.detached hclosed).2.1
      exact absurd (hlink.symm.trans hnone) (by simp)
    · simp only [Registry.unregister_of_active hslot, Contract.step, Table.get?_erase]
      split
      · rfl
      · exact hf.held f

theorem close (hf : Follows s c owed h) (hidle : h.calls = []) :
    Fulfils s (c.step d .close).1 (owed ++ (c.step d .close).2)
      (h.step s now (.close call none)) := by
  obtain rfl := hf.settled hidle
  have hr := hf.reachable.step now (.close call none)
  have hstep : h.step s now (.close call none) = h.close s now call none :=
    if_pos (hf.admits hidle call)
  rw [hstep] at hr ⊢
  cases hclosed : c.closed with
  | true =>
    obtain ⟨hstate, -, hempty⟩ := hf.detached hclosed
    have hsame : c = ⟨true, []⟩ := by rw [← hclosed, ← hempty]
    rw [show h.close s now call none = (h, [.returned call (.ok none)]) from if_pos hstate] at hr ⊢
    exact ⟨[], hsame ▸ hf, rfl⟩
  | false =>
    obtain ⟨hstate, link, hlink⟩ := hf.attached hclosed
    rw [close_of_attached hstate hlink (hf.reading hlink)] at hr ⊢
    refine ⟨[.returned (.ok none)], { hf with
      reachable := hr
      routable := Registry.routable_empty
      attached := fun hopen => by contradiction
      detached := fun _ => ⟨rfl, rfl, rfl⟩
      held := fun _ => rfl
      owes := ?_ }, rfl⟩
    rw [hidle]
    exact .closing

theorem pushed (hf : Follows s c owed h) (hidle : h.calls = []) (hreader : h.reader = .reading link)
    (hparse : Inbound.parse text = .ok (.push x payload))
    (hheld : h.subscriptionId? feed = some x) :
    Fulfils s (c.step s.decoders (.push feed payload)).1
      (owed ++ (c.step s.decoders (.push feed payload)).2)
      (h.step s now (.received link text)) := by
  obtain rfl := hf.settled hidle
  obtain ⟨sub, hslot, hid⟩ := subscriptionId?_eq_some_iff.mp hheld
  have hroute := (Registry.route_eq_some_iff hf.reachable.coherent.tables.registry
    hf.routable).mpr ⟨sub, hslot, hid, rfl⟩
  have hcallback : Table.get? feed c.held = some sub.callback := by
    rw [← hf.held feed, hslot]
    rfl
  have hr := hf.reachable.step now (.received link text)
  have htext : h.handleText s text =
      (h, [.notified sub.callback (s.decoders.decode feed payload)]) := by
    simp only [handleText, hparse, hroute]
  obtain ⟨reader, hreadOn⟩ := h.readOn_eq
  rw [step_received hreader, htext, hreadOn] at hr ⊢
  rw [Contract.step_push_of_held hcallback]
  exact ⟨[], { hf with reachable := hr }, rfl⟩

/-! ### What goes on in between -/

theorem replied (hf : Follows s c owed h) (hreader : h.reader = .reading link)
    (hparse : Inbound.parse text = .ok (.reply key outcome))
    (hgranted : h.correlator.contains key = true →
      ∃ x, outcome = .ok (.str x) ∧ ∀ feed, h.subscriptionId? feed ≠ some ⟨x⟩) :
    Fulfils s c owed (h.step s now (.received link text)) := by
  have hc := hf.reachable.coherent
  have heff : h.effect s now (.received link text) = .reply key outcome := by
    simp only [effect, hreader, frameEffect, hparse, if_true]
  have htoken (f : Feed) (htoken : Table.get? key h.registry.byToken = some f) :
      ∃ x, outcome = .ok (.str x) ∧ ∀ feed, h.subscriptionId? feed ≠ some ⟨x⟩ := by
    obtain ⟨ticket, hpending⟩ := hc.live hreader key f htoken
    exact hgranted (Table.has_eq_true_iff.mpr ⟨ticket, hpending⟩)
  have hr := hf.reachable.step now (.received link text)
  have hroutable : _ → (h.step s now (.received link text)).1.registry.Routable :=
    hc.routable_step hf.routable (.received link text)
  have hbecomes := hc.becomes s now (.received link text)
  obtain ⟨reader, hreadOn⟩ := (h.handleReply key outcome).readOn_eq
  have htext : h.handleText s text = (h.handleReply key outcome, []) := by
    simp only [handleText, hparse]
  rw [heff] at hroutable hbecomes
  rw [step_received hreader, htext, hreadOn] at hr hroutable hbecomes ⊢
  refine ⟨owed, { hf with
    reachable := hr
    routable := hroutable fun key' y heq f htoken' g sub hslot hid => ?_
    held := fun f => ?_
    owes := hf.owes.settle fun hpending => ?_ }, (List.nil_append owed).symm⟩
  · obtain ⟨rfl, rfl⟩ := Effect.reply.inj heq
    obtain ⟨x, hstr, hnew⟩ := htoken f htoken'
    obtain rfl : y = x := by simpa using hstr
    exact hnew g (subscriptionId?_eq_some_iff.mpr ⟨sub, hslot, hid⟩)
  · rw [← hf.held f]
    have hslot : ∀ request callback previous,
        Table.get? f h.registry.slots = some (.reserved request callback previous) →
          Table.get? request.id.key h.registry.byToken = some f :=
      fun _ _ _ => hc.tables.registry.token_of_slot
    have hf' := hbecomes f
    dsimp only at hf' ⊢
    generalize Table.get? f h.registry.slots = before at hf' hslot ⊢
    generalize Table.get? f (h.handleReply key outcome).registry.slots = after at hf' ⊢
    cases hf' with
    | kept | acknowledged => rfl
    | denied hdenial =>
      obtain ⟨x, hstr, -⟩ := htoken f (hslot _ _ _ rfl)
      exact absurd hstr (hdenial x)
  · obtain ⟨x, rfl, -⟩ := hgranted hpending
    exact ⟨x, rfl⟩

theorem ignored (hf : Follows s c owed h) (hparse : Inbound.parse text = .ok .other) :
    Fulfils s c owed (h.step s now (.received link text)) := by
  have hr := hf.reachable.step now (.received link text)
  have htext : h.handleText s text = (h, []) := by simp only [handleText, hparse]
  obtain ⟨reader, hreadOn⟩ := h.readOn_eq
  have hstep : h.step s now (.received link text) = ({ h with reader }, []) ∨
      h.step s now (.received link text) = (h, []) := by
    simp only [step, htext, hreadOn]
    split
    · split
      · exact .inl rfl
      · exact .inr rfl
    · exact .inr rfl
  rcases hstep with hstep | hstep
  · rw [hstep] at hr ⊢
    exact ⟨owed, { hf with reachable := hr }, rfl⟩
  · rw [hstep]
    exact ⟨owed, hf, rfl⟩

theorem noticed (hf : Follows s c owed h) : Fulfils s c owed (h.step s now .noticed) := by
  have hr := hf.reachable.step now .noticed
  have hstep : h.step s now .noticed = (h.stop (.ok ()), []) ∨ h.step s now .noticed = (h, []) := by
    simp only [step]
    split
    · exact .inr rfl
    · split
      · exact .inl rfl
      · exact .inr rfl
  rcases hstep with hstep | hstep
  · rw [hstep] at hr ⊢
    exact ⟨owed, { hf with reachable := hr }, rfl⟩
  · rw [hstep]
    exact ⟨owed, hf, rfl⟩

/-- The acknowledgement of a subscribe has confirmed its reservation, so that there is nothing to
take back when the call returns. -/
theorem unreserved (hf : Follows s c owed h) {pending : PendingReply} {deadline : Duration}
    {outcome : Outcome}
    (hcall : Table.get? call h.calls = some (.subscribing feed pending deadline))
    (hv : h.correlator.settlement? pending.ticket = some (.reply outcome)) :
    Table.get? pending.key h.registry.byToken = none :=
  hf.reachable.coherent.tables.answered (mem_waiters_of_call hcall rfl) hv

theorem resumed (hf : Follows s c owed h)
    (hpatient : ∀ feed pending deadline,
      Table.get? call h.calls = some (.subscribing feed pending deadline) →
        h.correlator.settlement? pending.ticket = none → now < deadline) :
    Fulfils s c owed (h.step s now (.resume call none)) := by
  have hr := hf.reachable.step now (.resume call none)
  rw [show h.step s now (.resume call none) = h.resume s now call none from rfl] at hr ⊢
  cases hcall : Table.get? call h.calls with
  | none =>
    have hstep : h.resume s now call none = (h, []) := by simp only [resume, hcall]
    rw [hstep]
    exact ⟨owed, hf, rfl⟩
  | some waiting =>
    have howes := hf.owes
    generalize hcalls : h.calls = calls at howes
    cases howes with
    | nothing =>
      rw [hcalls] at hcall
      contradiction
    | @subscribing _ feed pending deadline hgranted =>
      obtain ⟨rfl, rfl⟩ := Table.eq_of_single hcalls hcall
      cases hv : h.correlator.settlement? pending.ticket with
      | none =>
        rw [resume_of_unsettled hcall hv (hpatient _ _ _ hcall hv)]
        exact ⟨_, hf, rfl⟩
      | some v =>
        obtain ⟨x, rfl⟩ := hgranted v hv
        rw [resume_of_granted hcall hv (hf.unreserved hcall hv)] at hr ⊢
        refine ⟨[], { hf with reachable := hr, owes := ?_ }, rfl⟩
        rw [Table.erase_of_single hcalls]
        exact .nothing
    | @closing _ deadline =>
      obtain ⟨rfl, rfl⟩ := Table.eq_of_single hcalls hcall
      rcases resume_of_closing s now hcall with ⟨hstep, -⟩ | hstep
      · rw [hstep]
        exact ⟨_, hf, rfl⟩
      · rw [hstep] at hr ⊢
        refine ⟨[], { hf with reachable := hr, owes := ?_ }, rfl⟩
        rw [Table.erase_of_single hcalls]
        exact .nothing

/-! ### All of it -/

/-- **A step in which the world does its part keeps the handler where the contract is.** -/
theorem step (hf : Follows s c owed h) (hdoes : Does h now event asks) :
    Fulfils s (c.run s.decoders asks).1 (owed ++ (c.run s.decoders asks).2)
      (h.step s now event) := by
  cases hdoes with
  | subscribe hidle =>
    rw [Contract.run_single]
    exact hf.subscribe hidle
  | unsubscribe hidle =>
    rw [Contract.run_single]
    exact hf.unsubscribe hidle
  | close hidle =>
    rw [Contract.run_single]
    exact hf.close hidle
  | pushed hidle hreader hparse hheld =>
    rw [Contract.run_single]
    exact hf.pushed hidle hreader hparse hheld
  | replied hreader hparse hgranted =>
    rw [Contract.run, List.append_nil]
    exact hf.replied hreader hparse hgranted
  | ignored hparse =>
    rw [Contract.run, List.append_nil]
    exact hf.ignored hparse
  | resumed hpatient =>
    rw [Contract.run, List.append_nil]
    exact hf.resumed hpatient
  | noticed =>
    rw [Contract.run, List.append_nil]
    exact hf.noticed

/-- There is always an id that names no subscription. -/
theorem exists_new_id (hf : Follows s c owed h) :
    ∃ x : String, ∀ feed, h.subscriptionId? feed ≠ some ⟨x⟩ := by
  obtain ⟨x, hnew⟩ := Infinite.exists_notMem_finset
    ((Table.keys h.registry.byId).map SubscriptionId.text).toFinset
  refine ⟨x, fun feed heq => hnew (List.mem_toFinset.mpr ?_)⟩
  obtain ⟨sub, hslot, hid⟩ := subscriptionId?_eq_some_iff.mp heq
  have hroute := hf.routable feed sub hslot
  rw [hid] at hroute
  exact List.mem_map.mpr ⟨⟨x⟩, List.mem_map_of_mem (Table.mem_of_get? hroute), rfl⟩

/-- A subscribe that was answered returns when it is given a turn. -/
theorem returns_of_answered (hf : Follows s c owed h) {pending : PendingReply}
    {deadline : Duration} {v : Settlement}
    (hcalls : h.calls = [(call, .subscribing feed pending deadline)])
    (hv : h.correlator.settlement? pending.ticket = some v) :
    ∃ events observed h', (binding s).Plays h events [] observed h' ∧ h'.calls = [] := by
  have hwaiting := Table.get?_of_single hcalls
  have howes := hf.owes
  rw [hcalls] at howes
  cases howes with
  | subscribing hgranted =>
    obtain ⟨x, rfl⟩ := hgranted v hv
    have hdoes : (binding s).Does h .zero (.resume call none) [] := by
      refine Does.resumed fun feed' pending' deadline' hcall' hnone => ?_
      obtain ⟨rfl, rfl, rfl⟩ := Call.subscribing.inj (Option.some.inj (hwaiting.symm.trans hcall'))
      exact absurd (hv.symm.trans hnone) (by simp)
    refine ⟨_, _, _, .single hdoes, ?_⟩
    change (h.resume s .zero call none).1.calls = []
    rw [resume_of_granted hwaiting hv (hf.unreserved hwaiting hv)]
    exact Table.erase_of_single hcalls

/-- A subscribe that waits is answered, and returns when it is given a turn. -/
theorem returns_of_unanswered (hf : Follows s c owed h) {pending : PendingReply}
    {deadline : Duration} (hcalls : h.calls = [(call, .subscribing feed pending deadline)])
    (hunsettled : h.correlator.settlement? pending.ticket = none) :
    ∃ events observed h', (binding s).Plays h events [] observed h' ∧ h'.calls = [] := by
  have hc := hf.reachable.coherent
  have hmem : ⟨.subscribe feed, pending⟩ ∈ h.waiters :=
    mem_waiters_of_call (Table.get?_of_single hcalls) rfl
  have hpending : Table.get? pending.key h.correlator.pending = some pending.ticket := by
    rcases hc.tables.waits hmem with hpending | ⟨-, v, hv⟩
    · exact hpending
    · exact absurd (hunsettled.symm.trans hv) (by simp)
  obtain ⟨link, hlink⟩ : ∃ link, h.link = some link := by
    cases hlink : h.link with
    | some link => exact ⟨link, rfl⟩
    | none =>
      rw [hc.detached hlink hf.present] at hpending
      contradiction
  obtain ⟨n, -, hkey⟩ := hc.tables.waiter_issued hmem
  obtain ⟨x, hnew⟩ := hf.exists_new_id
  obtain ⟨text, hparse⟩ := exists_text_of_grant n x
  have hdoes : (binding s).Does h .zero (.received link text) [] :=
    Does.replied (hf.reading hlink) hparse fun _ => ⟨x, rfl, hnew⟩
  obtain ⟨h₁, hstep, hcalls₁, hv⟩ : ∃ h₁, h.step s .zero (.received link text) = (h₁, []) ∧
      h₁.calls = h.calls ∧
      h₁.correlator.settlement? pending.ticket = some (.reply (.ok (.str x))) := by
    obtain ⟨reader, hreadOn⟩ := (h.handleReply (RequestId.fresh n).key (.ok (.str x))).readOn_eq
    have htext : h.handleText s text =
        (h.handleReply (RequestId.fresh n).key (.ok (.str x)), []) := by
      simp only [handleText, hparse]
    rw [step_received (hf.reading hlink), htext, hreadOn]
    exact ⟨_, rfl, rfl, (Correlator.settlement?_settle ..).trans (if_pos (hkey ▸ hpending))⟩
  have hplay := Binding.Plays.single hdoes
  obtain ⟨owed', hf', -⟩ := hf.step hdoes
  rw [show (binding s).step h .zero (.received link text) = (h₁, []) by simp [binding, hstep]]
    at hplay
  rw [hstep] at hf'
  obtain ⟨events, observed, h', hplays, hidle⟩ :=
    hf'.returns_of_answered (hcalls₁.trans hcalls) hv
  exact ⟨_, _, h', hplay.append hplays, hidle⟩

theorem returns (hf : Follows s c owed h) :
    ∃ events observed h', (binding s).Plays h events [] observed h' ∧ h'.calls = [] := by
  have howes := hf.owes
  generalize hcalls : h.calls = calls at howes
  cases howes with
  | nothing => exact ⟨[], [], h, .nil h, hcalls⟩
  | @subscribing call feed pending deadline =>
    cases hv : h.correlator.settlement? pending.ticket with
    | none => exact hf.returns_of_unanswered hcalls hv
    | some v => exact hf.returns_of_answered hcalls hv
  | @closing call deadline =>
    have hwaiting := Table.get?_of_single hcalls
    have hdoes : (binding s).Does h deadline (.resume call none) [] := by
      refine Does.resumed fun feed' pending' deadline' hcall' _ => ?_
      exact absurd (hwaiting.symm.trans hcall') (by simp)
    refine ⟨_, _, _, .single hdoes, ?_⟩
    change (h.resume s deadline call none).1.calls = []
    rcases resume_of_closing s deadline hwaiting with ⟨-, hearly⟩ | hstep
    · exact absurd hearly (Nat.lt_irrefl _)
    · rw [hstep]
      exact Table.erase_of_single hcalls

theorem begins (hf : Follows s c [] h) (hidle : h.calls = []) {ask : Ask} (hadmits : c.Admits ask) :
    ∃ now event, Does h now event [ask] := by
  cases ask with
  | subscribe feed params callback =>
    exact ⟨.zero, .subscribe ⟨"call"⟩ feed params callback none, .subscribe hidle⟩
  | unsubscribe feed => exact ⟨.zero, .unsubscribe ⟨"call"⟩ feed none, .unsubscribe hidle⟩
  | close => exact ⟨.zero, .close ⟨"call"⟩ none, .close hidle⟩
  | push feed payload =>
    obtain ⟨⟨callback, hcallback⟩, hsorted, hfits⟩ := hadmits
    obtain ⟨slot, hslot, -⟩ := Option.map_eq_some_iff.mp ((hf.held feed).trans hcallback)
    have hopen : c.closed = false := by
      cases hclosed : c.closed with
      | false => rfl
      | true =>
        rw [(hf.detached hclosed).2.2] at hcallback
        contradiction
    obtain ⟨-, link, hlink⟩ := hf.attached hopen
    obtain ⟨sub, rfl⟩ := hf.active_of_idle hidle hlink hslot
    obtain ⟨text, hparse⟩ := exists_text_of_push sub.id hsorted hfits
    exact ⟨.zero, .received link text, .pushed hidle (hf.reading hlink) hparse
      (subscriptionId?_eq_some_iff.mpr ⟨sub, hslot, rfl⟩)⟩

end Follows

/-- **A WebSocket handler simulates the contract.** -/
theorem simulates (s : Settings) : (binding s).Simulation s.decoders (Follows s) where
  step hf hdoes := hf.step hdoes
  settled hf hidle := hf.settled hidle
  returns hf := hf.returns
  begins hf hidle hadmits := hf.begins hidle hadmits

theorem follows_initial (s : Settings) (link : LinkId) :
    Follows s .initial [] (initial link) where
  reachable := .initial link
  routable := Registry.routable_empty
  present := rfl
  unlost := rfl
  attached _ := ⟨by simp [initial], link, rfl⟩
  detached hclosed := by contradiction
  held _ := rfl
  owes := .nothing

end Handler

end FeedLink.Socket
