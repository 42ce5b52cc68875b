import FeedLink.Proofs.Contract
import FeedLink.Proofs.Grpc.Ownership

/-!
# A gRPC handler keeps the contract

The gateway opens every stream that it is asked for, and no stream ends or fails. A frame may bring
several payloads, which is as good as several pushes, one after the other.

A feed is held in the contract from the step in which its stream begins to be opened. Its slot is an
opening one then, and the callback is found in the call that waits; once the stream is there, it is
found in the receiver. That no slot is mistaken for another is what `Handler.Owned` is for.

## Main definitions

* `Handler.Does` — the world does its part
* `Handler.binding` — a gRPC handler as a binding
* `Handler.Follows` — a handler is where the contract is

## Main results

* `Handler.simulates` — a gRPC handler simulates the contract
-/

namespace FeedLink.Grpc

open Json

/-- What callers can tell of an output. -/
def Output.observation? : Output → Option Observation
  | .returned _ result => some (.returned result)
  | .notified callback delivery => some (.notified callback delivery)
  | .opening .. | .calling .. => none

namespace Handler

variable {h : Handler} {s : Settings} {now : Duration} {event : Event} {call : CallId}
  {feed f : Feed} {params : Value} {callback : Callback} {token : Token} {stream : StreamId}
  {c : Contract} {owed : List Observation} {d : Decoders} {asks : List Ask}

/-- The world does its part with an event, and asks for this. -/
inductive Does (h : Handler) (now : Duration) : Event → List Ask → Prop
  | subscribe {call : CallId} {feed : Feed} {params : Value} {callback : Callback}
      (idle : h.calls = []) :
      Does h now (.subscribe call feed params callback) [.subscribe feed params callback]
  | unsubscribe {call : CallId} {feed : Feed} (idle : h.calls = []) :
      Does h now (.unsubscribe call feed) [.unsubscribe feed]
  | close {call : CallId} (idle : h.calls = []) : Does h now (.close call) [.close]
  /-- The stream of a feed that is held brings a frame. -/
  | pushed {token : Token} {stream : StreamId} {feed : Feed} {payloads : List Value}
      {r : Receiver} (idle : h.calls = [])
      (held : Table.get? feed h.slots = some (.running token))
      (running : Table.get? token h.receivers = some r) (receiving : r.stage = .receiving stream) :
      Does h now (.signal token (.frame stream payloads)) (payloads.map (.push feed))
  | opened {call : CallId} {stream : StreamId} : Does h now (.opened call (.ok stream)) []
  /-- A call is given a turn. One that waits for its stream is not out of time. -/
  | resumed {call : CallId}
      (patient : ∀ feed params callback token deadline,
        Table.get? call h.calls = some (.subscribing feed params callback token deadline) →
          now < deadline) :
      Does h now (.resume call) []
  /-- A receiver gets to know that it is cancelled. -/
  | noticed {token : Token} : Does h now (.signal token .cancelled) []

/-- A gRPC handler as a binding. -/
def binding (s : Settings) : Binding Handler Event where
  step h now event :=
    ((h.step s now event).1, (h.step s now event).2.filterMap Output.observation?)
  Does := Does
  Idle h := h.calls = []

/-- What holds a feed does so for the callback for which the contract holds it: a subscribe that
waits for its stream, or a receiver that receives. -/
inductive Holds (receivers : Table Token Receiver) (calls : Table CallId Call) (f : Feed) :
    Option Slot → Option Callback → Prop
  | free : Holds receivers calls f none none
  | opening {call : CallId} {params : Value} {callback : Callback} {token : Token}
      {deadline : Duration}
      (waiting : Table.get? call calls = some (.subscribing f params callback token deadline)) :
      Holds receivers calls f (some (.opening token)) (some callback)
  | running {params : Value} {callback : Callback} {token : Token} {stream : StreamId}
      (receiving : Table.get? token receivers = some ⟨f, params, callback, .receiving stream⟩) :
      Holds receivers calls f (some (.running token)) (some callback)

/-- What the call that waits will return. -/
inductive Owes (slots : Table Feed Slot) (stopping : Bool) :
    Table CallId Call → List Observation → Prop
  | nothing : Owes slots stopping [] []
  | subscribing {call : CallId} {feed : Feed} {params : Value} {callback : Callback}
      {token : Token} {deadline : Duration}
      (slot : Table.get? feed slots = some (.opening token)) :
      Owes slots stopping [(call, .subscribing feed params callback token deadline)]
        [.returned (.ok none)]
  | unsubscribing {call : CallId} {token : Token} {deadline : Duration} :
      Owes slots stopping [(call, .unsubscribing token deadline)] [.returned (.ok none)]
  | closing {call : CallId} {tokens : List Token} (stopped : stopping = true) :
      Owes slots stopping [(call, .closing tokens)] [.returned (.ok none)]

/-- The handler is where the contract is, apart from what it owes. -/
structure Follows (c : Contract) (owed : List Observation) (h : Handler) : Prop where
  owned : h.Owned
  closed : h.closed = c.closed
  stopping : h.stopping = c.closed
  held : ∀ f, Holds h.receivers h.calls f (Table.get? f h.slots) (Table.get? f c.held)
  owes : Owes h.slots h.stopping h.calls owed

/-- After a step the handler is where the contract is, and what was promised has been observed, or
is still owed. -/
def Fulfils (c : Contract) (promised : List Observation) (out : Handler × List Output) : Prop :=
  ∃ owed, Follows c owed out.1 ∧ promised = out.2.filterMap Output.observation? ++ owed

theorem opened_of_idle (hidle : h.opens? call = none) (result : Except Status StreamId) :
    h.opened call result = (h, []) := by
  unfold Handler.opened
  split
  · next hcall =>
    rw [opens?_of_get? hcall] at hidle
    contradiction
  · rfl

theorem opened_of_waiting {deadline : Duration}
    (hcall : Table.get? call h.calls = some (.subscribing feed params callback token deadline))
    (hwanted : h.isCancelled token = false) :
    h.opened call (.ok stream) =
      ({ h with
          slots := Table.set feed (.running token) h.slots
          receivers := Table.set token ⟨feed, params, callback, .receiving stream⟩ h.receivers
          calls := Table.erase call h.calls },
        [.returned call (.ok none)]) := by
  simp only [Handler.opened, hcall, hwanted]
  rfl

/-- On a handler that is stopping, a receiver ends as soon as it gets to know. -/
theorem step_noticed (s : Settings) (now : Duration) (hstopping : h.stopping = true)
    (token : Token) :
    ∃ h', h.step s now (.signal token .cancelled) = (h', []) ∧ h'.calls = h.calls ∧
      h'.stopping = true ∧ h'.hasEnded token = true ∧
      ∀ other, h.hasEnded other = true → h'.hasEnded other = true := by
  cases hr : Table.get? token h.receivers with
  | none =>
    refine ⟨h, by simp only [Handler.step, notify, hr], rfl, hstopping, ?_, fun _ => id⟩
    simp only [hasEnded, hr]
  | some r =>
    refine ⟨{ h with receivers := Table.set token r.stop h.receivers }, ?_, rfl, hstopping, ?_,
      fun other hended => ?_⟩
    · simp [Handler.step, notify, hr, isCancelled, hstopping, Receiver.step]
    · simp only [hasEnded, Table.get?_set_self]
      rfl
    · simp only [hasEnded, Table.get?_set]
      split
      · next heq =>
        split at heq
        · exact Option.some.inj heq ▸ rfl
        · simpa only [hasEnded, heq] using hended
      · rfl

/-- A feed is held as before by whom it was held, unless by a call. -/
theorem Holds.recall {receivers : Table Token Receiver} {calls calls' : Table CallId Call}
    {slot : Option Slot} {callback : Option Callback}
    (hholds : Holds receivers calls f slot callback)
    (hnone : ∀ call c, Table.get? call calls = some c → c.opens? = none) :
    Holds receivers calls' f slot callback := by
  cases hholds with
  | free => exact .free
  | opening hwaiting => exact absurd (hnone _ _ hwaiting) (by simp [Call.opens?])
  | running hreceiving => exact .running hreceiving

/-- A feed is held as before where the receivers are the same. -/
theorem Holds.congr {receivers receivers' : Table Token Receiver} {calls : Table CallId Call}
    {slot : Option Slot} {callback : Option Callback}
    (hholds : Holds receivers calls f slot callback)
    (hsame : ∀ token, Table.get? token receivers' = Table.get? token receivers) :
    Holds receivers' calls f slot callback := by
  cases hholds with
  | free => exact .free
  | opening hwaiting => exact .opening hwaiting
  | running hreceiving => exact .running ((hsame _).trans hreceiving)

namespace Follows

/-- Nothing is owed where no call waits. -/
theorem settled (hf : Follows c owed h) (hidle : h.calls = []) : owed = [] := by
  have howes := hf.owes
  rw [hidle] at howes
  cases howes
  rfl

/-- A handler that is idle can be asked for anything. -/
theorem admits (hf : Follows c owed h) (hidle : h.calls = []) (event : Event) :
    h.admits event = true := by
  have hrunning : (h.closed || !h.stopping) = true := by
    rw [hf.closed, hf.stopping]
    cases c.closed <;> rfl
  unfold Handler.admits
  rw [hidle]
  cases event with
  | subscribe | request | unsubscribe | close => rw [hrunning]; rfl
  | abandon | opened | answered | resume | signal | release => rfl

/-- A handler that is idle opens no stream. -/
theorem unopened (hidle : h.calls = []) (call : CallId) (c : Call)
    (hcall : Table.get? call h.calls = some c) : c.opens? = none := by
  rw [hidle] at hcall
  contradiction

/-- A feed is held by both or by neither, and what holds it is live. -/
theorem isLive (hf : Follows c owed h) (f : Feed) :
    (Table.get? f h.slots).any h.isLive = Table.has f c.held := by
  have hholds := hf.held f
  rw [Table.has]
  generalize Table.get? f c.held = callback at hholds ⊢
  generalize Table.get? f h.slots = slot at hholds ⊢
  cases hholds with
  | free => rfl
  | opening => rfl
  | running hreceiving => simp [Handler.isLive, hasEnded, hreceiving, Receiver.hasEnded]

/-! ### What is asked for -/

theorem subscribe (hf : Follows c owed h) (hidle : h.calls = []) :
    Fulfils (c.step d (.subscribe feed params callback)).1
      (owed ++ (c.step d (.subscribe feed params callback)).2)
      (h.step s now (.subscribe call feed params callback)) := by
  obtain rfl := hf.settled hidle
  have ho : (h.step s now (.subscribe call feed params callback)).1.Owned :=
    hf.owned.step (hf.admits hidle _) s now
  have hstep : h.step s now (.subscribe call feed params callback) =
      h.subscribe s now call feed params callback := rfl
  rw [hstep] at ho ⊢
  cases hclosed : c.closed with
  | true =>
    rw [Contract.step_subscribe_of_closed hclosed, Handler.subscribe,
      if_pos (hf.closed.trans hclosed)]
    exact ⟨[], hf, rfl⟩
  | false =>
    have hopen : ¬h.closed = true := by simp [hf.closed, hclosed]
    cases hheld : Table.has feed c.held with
    | true =>
      rw [Contract.step_subscribe_of_held hclosed hheld, Handler.subscribe, if_neg hopen,
        if_pos ((hf.isLive feed).trans hheld)]
      exact ⟨[], hf, rfl⟩
    | false =>
      have hfree : ¬(Table.get? feed h.slots).any h.isLive = true := by simp [hf.isLive, hheld]
      rw [Handler.subscribe, if_neg hopen, if_neg hfree] at ho ⊢
      rw [Contract.step_subscribe_of_free hclosed hheld]
      refine ⟨[.returned (.ok none)], { hf with owned := ho, held := fun f => ?_, owes := ?_ }, rfl⟩
      · rw [Table.get?_set, Table.get?_set]
        split
        · next heq => exact heq ▸ .opening (Table.get?_set_self ..)
        · exact (hf.held f).recall (unopened hidle)
      · rw [hidle]
        exact .subscribing (Table.get?_set_self ..)

theorem unsubscribe (hf : Follows c owed h) (hidle : h.calls = []) :
    Fulfils (c.step d (.unsubscribe feed)).1 (owed ++ (c.step d (.unsubscribe feed)).2)
      (h.step s now (.unsubscribe call feed)) := by
  obtain rfl := hf.settled hidle
  have ho : (h.step s now (.unsubscribe call feed)).1.Owned :=
    hf.owned.step (hf.admits hidle _) s now
  have hstep : h.step s now (.unsubscribe call feed) = h.unsubscribe s now call feed := rfl
  rw [hstep] at ho ⊢
  have hholds := hf.held feed
  generalize hcallback : Table.get? feed c.held = callback at hholds
  generalize hslot : Table.get? feed h.slots = slot at hholds
  cases hholds with
  | free =>
    have hnone : h.unsubscribe s now call feed = (h, [.returned call (.ok none)]) := by
      simp only [Handler.unsubscribe, hslot]
    rw [hnone, Contract.step, Table.erase_of_none hcallback]
    exact ⟨[], hf, rfl⟩
  | opening hwaiting => exact absurd (unopened hidle _ _ hwaiting) (by simp [Call.opens?])
  | @running params callback token stream hreceiving =>
    have hcancel : h.unsubscribe s now call feed =
        ({ h with
            slots := Table.erase feed h.slots
            cancelled := token :: h.cancelled
            calls := Table.set call
              (.unsubscribing token (now + s.timeouts.grpcUnsubscribeWait)) h.calls }, []) := by
      simp [Handler.unsubscribe, hslot, hasEnded, hreceiving, Receiver.hasEnded]
    rw [hcancel] at ho ⊢
    refine ⟨[.returned (.ok none)], { hf with owned := ho, held := fun f => ?_, owes := ?_ }, rfl⟩
    · rw [Contract.step, Table.get?_erase, Table.get?_erase]
      split
      · exact .free
      · exact (hf.held f).recall (unopened hidle)
    · rw [hidle]
      exact .unsubscribing

theorem close (hf : Follows c owed h) (hidle : h.calls = []) :
    Fulfils (c.step d .close).1 (owed ++ (c.step d .close).2) (h.step s now (.close call)) := by
  obtain rfl := hf.settled hidle
  have ho : (h.step s now (.close call)).1.Owned :=
    hf.owned.step (hf.admits hidle _) s now
  have hstep : h.step s now (.close call) = h.close call := rfl
  rw [hstep] at ho ⊢
  cases hclosed : c.closed with
  | true =>
    have hslots : h.slots = [] := (hf.owned.shut (hf.closed.trans hclosed)).1
    rw [Handler.close, if_pos (hf.closed.trans hclosed)]
    refine ⟨[], { hf with
      closed := hf.closed.trans hclosed
      stopping := hf.stopping.trans hclosed
      held := fun f => ?_ }, rfl⟩
    rw [hslots]
    exact .free
  | false =>
    have hopen : ¬h.closed = true := by simp [hf.closed, hclosed]
    rw [Handler.close, if_neg hopen] at ho ⊢
    dsimp only at ho ⊢
    split at ho
    · next hended =>
      rw [if_pos hended]
      refine ⟨[], { hf with
        owned := ho
        closed := rfl
        stopping := rfl
        held := fun f => .free
        owes := ?_ }, rfl⟩
      rw [hidle]
      exact .nothing
    · next hended =>
      rw [if_neg hended]
      refine ⟨[.returned (.ok none)], { hf with
        owned := ho
        closed := rfl
        stopping := rfl
        held := fun f => .free
        owes := ?_ }, rfl⟩
      rw [hidle]
      exact .closing rfl

theorem pushed (hf : Follows c owed h) (hidle : h.calls = []) {payloads : List Value} {r : Receiver}
    (hslot : Table.get? feed h.slots = some (.running token))
    (hrunning : Table.get? token h.receivers = some r) (hreceiving : r.stage = .receiving stream) :
    Fulfils (c.run s.decoders (payloads.map (.push feed))).1
      (owed ++ (c.run s.decoders (payloads.map (.push feed))).2)
      (h.step s now (.signal token (.frame stream payloads))) := by
  obtain rfl := hf.settled hidle
  have ho : (h.step s now (.signal token (.frame stream payloads))).1.Owned :=
    hf.owned.step rfl s now
  have hstep : h.step s now (.signal token (.frame stream payloads)) =
      ({ h with receivers := Table.set token r h.receivers },
        payloads.map fun p => .notified r.callback (s.decoders.decode r.feed p)) := by
    simp [Handler.step, notify, hrunning, Receiver.step, hreceiving]
  have hholds := hf.held feed
  rw [hslot] at hholds
  generalize hcallback : Table.get? feed c.held = callback at hholds
  cases hholds with
  | @running params callback _ stream' hreceiver =>
    obtain rfl := Option.some.inj (hrunning.symm.trans hreceiver)
    rw [hstep] at ho ⊢
    rw [Contract.run_pushes hcallback]
    refine ⟨[], { hf with owned := ho, held := fun f => (hf.held f).congr fun other => ?_ }, ?_⟩
    · rw [Table.get?_set]
      split
      · next heq => rw [← heq, hrunning]
      · rfl
    · simp [List.filterMap_map, Function.comp_def, Output.observation?]

/-! ### What goes on in between -/

/-- A token is not cancelled while its slot is there. -/
theorem uncancelled (hf : Follows c owed h) {slot : Slot}
    (hslot : Table.get? f h.slots = some slot) : h.isCancelled slot.token = false := by
  have htaken := hf.owned.taken hslot
  have hrunning : h.stopping = false := by
    cases hstopping : h.stopping with
    | false => rfl
    | true =>
      have hclosed : h.closed = true := hf.closed.trans (hf.stopping.symm.trans hstopping)
      rw [(hf.owned.shut hclosed).1] at hslot
      contradiction
  simpa [isCancelled, hrunning] using htaken

/-- The call has returned that was the only one. -/
theorem finished (hf : Follows c owed h) {waiting : Call} (hcalls : h.calls = [(call, waiting)])
    (hwaiting : waiting.opens? = none) :
    Follows c [] { h with calls := Table.erase call h.calls } := by
  have hunopened (other : CallId) (c : Call) (hother : Table.get? other h.calls = some c) :
      c.opens? = none :=
    (Table.eq_of_single hcalls hother).2 ▸ hwaiting
  have hidle : h.opens? call = none := (opens?_of_get? (Table.get?_of_single hcalls)).trans hwaiting
  exact
    { hf with
      owned := hf.owned.recall (opens?_erase_of_idle hidle)
      held := fun f => (hf.held f).recall hunopened
      owes := by
        rw [Table.erase_of_single hcalls]
        exact .nothing }

/-- The stream of the only call is there: its receiver holds the feed for the same callback. -/
theorem holds_opened (hf : Follows c owed h) {deadline : Duration}
    (hcalls : h.calls = [(call, .subscribing feed params callback token deadline)])
    (hslot : Table.get? feed h.slots = some (.opening token)) (calls : Table CallId Call)
    (f : Feed) :
    Holds (Table.set token ⟨feed, params, callback, .receiving stream⟩ h.receivers) calls f
      (Table.get? f (Table.set feed (.running token) h.slots)) (Table.get? f c.held) := by
  have hholds := hf.held f
  rw [Table.get?_set]
  split
  · next heq =>
    obtain rfl := heq
    rw [hslot] at hholds
    generalize Table.get? feed c.held = held at hholds ⊢
    cases hholds with
    | opening hwaiting =>
      obtain ⟨-, hsame⟩ := Table.eq_of_single hcalls hwaiting
      obtain ⟨-, -, rfl, -⟩ := Call.subscribing.inj hsame
      exact .running (Table.get?_set_self ..)
  · next hne =>
    generalize hslot' : Table.get? f h.slots = slot at hholds ⊢
    generalize Table.get? f c.held = held at hholds ⊢
    cases hholds with
    | free => exact .free
    | opening hwaiting =>
      obtain ⟨-, hsame⟩ := Table.eq_of_single hcalls hwaiting
      exact absurd (Call.subscribing.inj hsame).1 hne
    | @running _ _ token' _ hreceiving =>
      have hother : token ≠ token' := fun heq =>
        hne (hf.owned.single (hf.owned.backed hslot) (hf.owned.backed hslot') heq).1
      exact .running ((Table.get?_set ..).trans ((if_neg hother).trans hreceiving))

theorem opened (hf : Follows c owed h) :
    Fulfils c owed (h.step s now (.opened call (.ok stream))) := by
  have ho : (h.step s now (.opened call (.ok stream))).1.Owned := hf.owned.step rfl s now
  have hstep : h.step s now (.opened call (.ok stream)) = h.opened call (.ok stream) := rfl
  rw [hstep] at ho ⊢
  cases hopens : h.opens? call with
  | none =>
    rw [opened_of_idle hopens]
    exact ⟨owed, hf, rfl⟩
  | some opens =>
    obtain ⟨waiting, hcall, hopens⟩ := Option.bind_eq_some_iff.mp hopens
    have howes := hf.owes
    generalize hcalls : h.calls = calls at howes
    cases howes with
    | nothing =>
      rw [hcalls] at hcall
      contradiction
    | subscribing hslot =>
      obtain ⟨rfl, rfl⟩ := Table.eq_of_single hcalls hcall
      rw [opened_of_waiting hcall (hf.uncancelled hslot)] at ho ⊢
      refine ⟨[], { hf with
        owned := ho
        held := fun f => hf.holds_opened hcalls hslot _ f
        owes := ?_ }, rfl⟩
      rw [Table.erase_of_single hcalls]
      exact .nothing
    | unsubscribing | closing =>
      obtain ⟨rfl, rfl⟩ := Table.eq_of_single hcalls hcall
      contradiction

theorem noticed (hf : Follows c owed h) :
    Fulfils c owed (h.step s now (.signal token .cancelled)) := by
  have ho : (h.step s now (.signal token .cancelled)).1.Owned := hf.owned.step rfl s now
  have hstep : h.step s now (.signal token .cancelled) = h.notify s now token .cancelled := rfl
  rw [hstep] at ho ⊢
  cases hr : Table.get? token h.receivers with
  | none =>
    have hnone : h.notify s now token .cancelled = (h, []) := by simp only [notify, hr]
    rw [hnone]
    exact ⟨owed, hf, rfl⟩
  | some r =>
    cases hcancelled : h.isCancelled token with
    | false =>
      have hnone : h.notify s now token .cancelled = (h, []) := by simp [notify, hr, hcancelled]
      rw [hnone]
      exact ⟨owed, hf, rfl⟩
    | true =>
      have hended : h.notify s now token .cancelled =
          ({ h with receivers := Table.set token r.stop h.receivers }, []) := by
        simp [notify, hr, hcancelled, Receiver.step]
      rw [hended] at ho ⊢
      refine ⟨owed, { hf with owned := ho, held := fun f => ?_ }, rfl⟩
      have hholds := hf.held f
      generalize hslot : Table.get? f h.slots = slot at hholds ⊢
      generalize Table.get? f c.held = held at hholds ⊢
      cases hholds with
      | free => exact .free
      | opening hwaiting => exact .opening hwaiting
      | @running _ _ token' _ hreceiving =>
        have hother : token ≠ token' := by
          rintro rfl
          exact absurd (hcancelled.symm.trans (hf.uncancelled hslot)) (by simp)
        exact .running ((Table.get?_set ..).trans ((if_neg hother).trans hreceiving))

theorem resumed (hf : Follows c owed h)
    (hpatient : ∀ feed params callback token deadline,
      Table.get? call h.calls = some (.subscribing feed params callback token deadline) →
        now < deadline) :
    Fulfils c owed (h.step s now (.resume call)) := by
  have hstep : h.step s now (.resume call) = h.resume s now call := rfl
  rw [hstep]
  cases hcall : Table.get? call h.calls with
  | none =>
    have hnone : h.resume s now call = (h, []) := by simp only [Handler.resume, hcall]
    rw [hnone]
    exact ⟨owed, hf, rfl⟩
  | some waiting =>
    have howes := hf.owes
    generalize hcalls : h.calls = calls at howes
    cases howes with
    | nothing =>
      rw [hcalls] at hcall
      contradiction
    | @subscribing waiting feed params callback token deadline hslot =>
      obtain ⟨rfl, rfl⟩ := Table.eq_of_single hcalls hcall
      have hwanted : h.isCancelled token = false := hf.uncancelled hslot
      have hearly : ¬deadline ≤ now := Nat.not_le_of_lt (hpatient _ _ _ _ _ hcall)
      have hnone : h.resume s now waiting = (h, []) := by
        simp [Handler.resume, hcall, hwanted, hearly]
      rw [hnone]
      exact ⟨_, hf, rfl⟩
    | unsubscribing | closing =>
      obtain ⟨rfl, rfl⟩ := Table.eq_of_single hcalls hcall
      simp only [Handler.resume, hcall]
      split
      · exact ⟨[], hf.finished hcalls rfl, rfl⟩
      · exact ⟨_, hf, rfl⟩

/-! ### All of it -/

/-- **A step in which the world does its part keeps the handler where the contract is.** -/
theorem step (hf : Follows c owed h) (hdoes : Does h now event asks) :
    Fulfils (c.run s.decoders asks).1 (owed ++ (c.run s.decoders asks).2)
      (h.step s now event) := by
  cases hdoes with
  | subscribe hidle =>
    rw [Contract.run_single]
    exact hf.subscribe hidle
  | unsubscribe hidle =>
    rw [Contract.run_single]
    exact hf.unsubscribe hidle
  | close hidle =>
    rw [Contract.run_single]
    exact hf.close hidle
  | pushed hidle hslot hrunning hreceiving => exact hf.pushed hidle hslot hrunning hreceiving
  | opened =>
    rw [Contract.run, List.append_nil]
    exact hf.opened
  | resumed hpatient =>
    rw [Contract.run, List.append_nil]
    exact hf.resumed hpatient
  | noticed =>
    rw [Contract.run, List.append_nil]
    exact hf.noticed

/-- The receivers of a handler that is stopping can be brought to an end, one after the other. -/
theorem exists_end (hstopping : h.stopping = true) (tokens : List Token) :
    ∃ events observed h', (binding s).Plays h events [] observed h' ∧ h'.calls = h.calls ∧
      tokens.all h'.hasEnded = true ∧
      ∀ token, h.hasEnded token = true → h'.hasEnded token = true := by
  induction tokens generalizing h with
  | nil => exact ⟨[], [], h, .nil h, rfl, rfl, fun _ => id⟩
  | cons token rest ih =>
    obtain ⟨h₁, hstep, hcalls₁, hstopping₁, hended₁, hkept₁⟩ :=
      step_noticed s .zero hstopping token
    have hdoes : (binding s).Does h .zero (.signal token .cancelled) [] := Does.noticed
    have hplay := Binding.Plays.single hdoes
    rw [show (binding s).step h .zero (.signal token .cancelled) = (h₁, []) by
      simp [binding, hstep]] at hplay
    obtain ⟨events, observed, h', hplays, hcalls', hended, hkept⟩ := ih hstopping₁
    refine ⟨_, _, h', hplay.append hplays, hcalls'.trans hcalls₁, ?_, fun t ht => ?_⟩
    · rw [List.all_cons, hended, hkept token hended₁, Bool.and_self]
    · exact hkept t (hkept₁ t ht)

theorem returns (hf : Follows c owed h) :
    ∃ events observed h', (binding s).Plays h events [] observed h' ∧ h'.calls = [] := by
  have howes := hf.owes
  generalize hcalls : h.calls = calls at howes
  cases howes with
  | nothing => exact ⟨[], [], h, .nil h, hcalls⟩
  | @subscribing call feed params callback token deadline hslot =>
    have hdoes : (binding s).Does h .zero (.opened call (.ok ⟨0⟩)) [] := Does.opened
    refine ⟨_, _, _, .single hdoes, ?_⟩
    change (h.opened call (.ok ⟨0⟩)).1.calls = []
    rw [opened_of_waiting (Table.get?_of_single hcalls) (hf.uncancelled hslot)]
    exact Table.erase_of_single hcalls
  | @unsubscribing call token deadline =>
    have hcall := Table.get?_of_single hcalls
    have hdoes : (binding s).Does h deadline (.resume call) [] :=
      Does.resumed fun _ _ _ _ _ hother => absurd (hcall.symm.trans hother) (by simp)
    have hlate : deadline ≤ deadline := Nat.le_refl _
    refine ⟨_, _, _, .single hdoes, ?_⟩
    change (h.resume s deadline call).1.calls = []
    simp only [Handler.resume, hcall, hlate, decide_true, Bool.or_true, if_true, finish]
    exact Table.erase_of_single hcalls
  | @closing call tokens hstopping =>
    obtain ⟨events, observed, h', hplays, hcalls', hended, -⟩ := exists_end hstopping tokens
    have hsingle := hcalls'.trans hcalls
    have hcall := Table.get?_of_single hsingle
    have hdoes : (binding s).Does h' .zero (.resume call) [] :=
      Does.resumed fun _ _ _ _ _ hother => absurd (hcall.symm.trans hother) (by simp)
    refine ⟨_, _, _, hplays.append (.single hdoes), ?_⟩
    change (h'.resume s .zero call).1.calls = []
    simp only [Handler.resume, hcall, hended, if_true, finish]
    exact Table.erase_of_single hsingle

theorem begins (hf : Follows c [] h) (hidle : h.calls = []) {ask : Ask} (hadmits : c.Admits ask) :
    ∃ now event, Does h now event [ask] := by
  cases ask with
  | subscribe feed params callback =>
    exact ⟨.zero, .subscribe ⟨"call"⟩ feed params callback, .subscribe hidle⟩
  | unsubscribe feed => exact ⟨.zero, .unsubscribe ⟨"call"⟩ feed, .unsubscribe hidle⟩
  | close => exact ⟨.zero, .close ⟨"call"⟩, .close hidle⟩
  | push feed payload =>
    obtain ⟨⟨callback, hcallback⟩, -⟩ := hadmits
    have hholds := hf.held feed
    generalize hslot : Table.get? feed h.slots = slot at hholds
    rw [hcallback] at hholds
    cases hholds with
    | opening hwaiting => exact absurd (unopened hidle _ _ hwaiting) (by simp [Call.opens?])
    | @running params _ token stream hreceiving =>
      exact ⟨.zero, .signal token (.frame stream [payload]), .pushed hidle hslot hreceiving rfl⟩

end Follows

/-- **A gRPC handler simulates the contract.** -/
theorem simulates (s : Settings) : (binding s).Simulation s.decoders Follows where
  step hf hdoes := hf.step hdoes
  settled hf hidle := hf.settled hidle
  returns hf := hf.returns
  begins hf hidle hadmits := hf.begins hidle hadmits

theorem follows_initial : Follows .initial [] initial where
  owned := owned_initial
  closed := rfl
  stopping := rfl
  held _ := .free
  owes := .nothing

end Handler

end FeedLink.Grpc
