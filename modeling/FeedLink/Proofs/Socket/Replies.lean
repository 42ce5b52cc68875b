import FeedLink.Proofs.Envelopes
import FeedLink.Proofs.Socket.Waiting

/-!
# Every request gets its own reply

A request that was written waits under a key of its own. Whatever else happens on the handler, it
returns what the first verdict on that key says, or times out where there is none, and it returns
at a turn of its own. It makes no subscription, and leaves nothing behind under its key.

What is written and what comes in are spelled out as texts: `Request.envelope` is the request,
`Carries` are the frames that bring a verdict on it, and `Foreign` those that do not.

## Main definitions

* `Moment.Tells` — what a moment tells a request, event by event

## Main results

* `Handler.tells_of_moment` — every moment tells what it should
* `Handler.request_begins` — what an accepted request starts with
* `Handler.request_gets_its_own_reply`
-/

namespace FeedLink.Socket

open Json

/-- What a moment tells the request with the `n`th correlation id, event by event. A reply to it is
a verdict if the reader reads, and no other frame is; and its registration is dropped exactly where
a connection that is read from is lost, or an open handler is closed. -/
structure Moment.Tells (s : Settings) (n : Nat) (m : Moment) : Prop where
  reply {link : LinkId} {text : String} {outcome : Outcome} :
    m.event = .received link text → m.before.reader = .reading link → Carries n text outcome →
      m.verdict? s (toString n) = some (.reply outcome)
  foreign {link : LinkId} {text : String} :
    m.event = .received link text → Foreign n text → m.verdict? s (toString n) = none
  dropped :
    m.verdict? s (toString n) = some .dropped ↔
      (∃ link e, m.event = .lost link e ∧ m.before.reader = .reading link ∧
        m.before.stopping = false) ∨
      ∃ call failure, m.event = .close call failure ∧ m.before.admits call = true ∧
        m.before.state ≠ .closed
  framed {outcome : Outcome} :
    m.verdict? s (toString n) = some (.reply outcome) →
      ∃ link text, m.event = .received link text ∧ m.before.reader = .reading link

namespace Handler

variable {h : Handler} {s : Settings} {call : CallId} {link : LinkId}

/-- **Every moment tells a request what it should.** -/
theorem tells_of_moment (s : Settings) (n : Nat) (m : Moment) : m.Tells s n where
  reply hevent hreader hcarries :=
    Moment.verdict?_eq_reply_iff.mpr ⟨_, _, hevent, hreader, hcarries.parse⟩
  foreign {link text} hevent hforeign := by
    obtain ⟨h, now, event⟩ := m
    obtain rfl : event = .received link text := hevent
    exact verdict?_received s now h link hforeign.parse_ne
  dropped := Moment.verdict?_eq_dropped_iff
  framed hverdict := by
    obtain ⟨link, text, hevent, hreader, -⟩ := Moment.verdict?_eq_reply_iff.mp hverdict
    exact ⟨link, text, hevent, hreader⟩

/-- A request that was written waits under the next key, unsettled. -/
theorem request_begins (hr : Reachable s h) (hadm : h.admits call = true)
    (hlink : h.link = some link) (now : Duration) (method : String) (params : Value) :
    let sent : Moment := ⟨h, now, .request call method params none⟩
    sent.outputs s = [.sent link (Request.envelope h.nextId method params) none] ∧
    Table.get? call (sent.after s).calls =
      some (.requesting (h.nextPending method) (now + s.timeouts.requestWait)) ∧
    (sent.after s).correlator.settlement? (h.nextPending method).ticket = none ∧
    Table.get? h.nextKey (sent.after s).registry.byToken = none := by
  intro sent
  have hc := hr.coherent
  have hstep : h.step s now (.request call method params none) =
      h.request s now call method params none := by simp only [step, hadm, if_true]
  have hpending : Table.get? h.nextKey (sent.after s).correlator.pending =
      some (h.nextPending method).ticket := by
    simp only [sent, Moment.after, hstep, request_of_accepted hlink]
    exact (Correlator.get?_pending_register hc.tables.pending_fresh method _).trans (if_pos rfl)
  refine ⟨?_, ?_, (hc.step _).tables.correlator.unsettled hpending, ?_⟩
  · simp only [sent, Moment.outputs, hstep, request_of_accepted hlink, Request.text_new]
  · simp only [sent, Moment.after, hstep, request_of_accepted hlink]
    exact Table.get?_set_self ..
  · simp only [sent, Moment.after, hstep, request_of_accepted hlink]
    exact hc.tables.token_fresh

/-- **Every request gets its own reply and nothing else.** A request is written once, under the next
correlation id. In every run that follows,

* a frame that carries a reply to it is a verdict, and no other frame is one; else its registration
  is only dropped, where the connection is lost or the handler is closed;
* a reply under its key makes no subscription;
* once the call has ended, its key is not in the correlator;
* until then it returns at its own turn, and what it returns is what the first verdict on its key
  says, or a timeout if there is none and its deadline is reached;
* it ends where it returns or is dropped; and
* a frame that is no reply under its key, or that comes after a verdict, makes no difference to what
  it returns later. -/
theorem request_gets_its_own_reply (hr : Reachable s h) (hadm : h.admits call = true)
    (hlink : h.link = some link) (now : Duration) (method : String) (params : Value) :
    let sent : Moment := ⟨h, now, .request call method params none⟩
    let key := toString h.nextId
    sent.outputs s = [.sent link (Request.envelope h.nextId method params) none] ∧
    ∀ events : List (Duration × Event),
      let ms := moments s (sent.after s) events
      let h' := (sent.after s).after s events
      (∀ m ∈ ms, m.Tells s h.nextId) ∧
      (∀ m ∈ ms, ∀ outcome, m.effect s = .reply key outcome →
        (m.after s).registry = m.before.registry) ∧
      ((∃ m ∈ ms, m.Ends s call) → Table.get? key h'.correlator.pending = none) ∧
      ((∀ m ∈ ms, ¬m.Ends s call) → ∀ (now' : Duration) (event : Event),
        let next : Moment := ⟨h', now', event⟩
        next.results s call =
          (if event.resumes call then
            ((waited s method (now + s.timeouts.requestWait) now'
              (firstVerdict s key ms)).map (·.map some)).toList
          else []) ∧
        (next.Ends s call ↔ event = .abandon call ∨ next.results s call ≠ []) ∧
        ∀ l text, event = .received l text →
          (∀ outcome, Inbound.parse text ≠ .ok (.reply key outcome)) ∨
            (firstVerdict s key ms).isSome = true →
          ∀ now'' failure, ((next.after s).resume s now'' call failure).2 =
            (h'.resume s now'' call failure).2) := by
  intro sent key
  obtain ⟨hsent, hcall, hunsettled, htoken⟩ := request_begins hr hadm hlink now method params
  have hr₀ : Reachable s (sent.after s) := hr.step now _
  have hissued : Issued (sent.after s).nextId h.nextKey :=
    hr₀.coherent.tables.waiter_issued (mem_waiters_of_call hcall rfl)
  refine ⟨hsent, fun events => ⟨fun m _ => tells_of_moment s h.nextId m, ?_, ?_, ?_⟩⟩
  · intro m hm outcome heff
    obtain ⟨pre, -, -, hbefore⟩ := exists_of_mem_moments hm
    have hm' : Reachable s m.before := hr₀.of_mem_moments hm
    have hnone : Table.get? h.nextKey m.before.registry.byToken = none := by
      have hevolves : Evolves (sent.after s) m.before := hbefore ▸ hr₀.evolves_after pre
      exact hevolves.token_none hm'.coherent.tables.registry hr₀.coherent.tables.registry
        hissued htoken
    have hstep := registry_step s m.now hm'.coherent m.event
    rw [show m.before.effect s m.now m.event = _ from heff] at hstep
    exact hstep.trans (registry_handleReply_of_none hnone outcome)
  · exact fun hends => (withdrawn_after hr₀ hcall rfl events hends).1
  · intro hstay now' event next
    obtain ⟨hcall', hsettlement⟩ := settlement?_after hr₀ hcall rfl hunsettled events hstay
    have hc' := (hr₀.after events).coherent
    refine ⟨?_, ends_iff s now' event hc' hcall' rfl, ?_⟩
    · have hturn := congrArg (fun v => (waited s method (now + s.timeouts.requestWait) now' v).map
        fun result => result.map some) hsettlement
      rw [results_of_waiting s now' event hcall' rfl]
      exact congrArg
        (fun turn : Option CallResult => if event.resumes call then turn.toList else []) hturn
    · rintro l text rfl hother now'' failure
      have hcall'' : Table.get? call (next.after s).calls = _ :=
        (get?_calls_step_of_ne hc' (by simp [Event.caller?])).trans hcall'
      have hturn := turn_received s now' hc' hcall' rfl l
        (hother.imp id fun hsome => by rw [hsettlement]; exact hsome) now''
      rw [outputs_resume_of_waiting hcall'' rfl, outputs_resume_of_waiting hcall' rfl]
      exact congrArg
        (fun turn : Option CallResult => (turn.map (Output.returned call)).toList) hturn

/-- The first request of a handler returns the string with which it is answered, the error of the
server, that there was no response once the connection is lost, or a timeout. -/
theorem first_request_gets_its_own_reply :
    let sent : Moment := ⟨initial ⟨0⟩, .zero, .request ⟨"a"⟩ "ping" .null none⟩
    let returned (events : List (Duration × Event)) (now : Duration) : List CallResult :=
      (Moment.mk ((sent.after .standard).after .standard events) now (.resume ⟨"a"⟩ none)).results
        .standard ⟨"a"⟩
    let answered (text : String) : List CallResult :=
      returned [(.zero, .received ⟨0⟩ text)] .zero
    sent.outputs .standard = [.sent ⟨0⟩
      "\x7b\"jsonrpc\":\"2.0\",\"id\":\"1\",\"method\":\"ping\",\"params\":null\x7d" none] ∧
    answered "\x7b\"id\":\"1\",\"result\":\"pong\"\x7d" = [.ok (some (.str "pong"))] ∧
    answered "\x7b\"id\":1,\"error\":\x7b\"code\":-32601,\"message\":\"unknown\"\x7d\x7d" =
      [.error (.remote ⟨-32601, "unknown", none⟩)] ∧
    returned [(.zero, .lost ⟨0⟩ .closed)] .zero = [.error .noResponse] ∧
    returned [] (.ofSeconds 3600) =
      [.error (.timeout "ping" Settings.standard.timeouts.requestWait)] := by
  intro sent returned answered
  have hadm : (initial ⟨0⟩).admits ⟨"a"⟩ = true := by decide
  have hlink : (initial ⟨0⟩).link = some ⟨0⟩ := rfl
  obtain ⟨hsent, hrun⟩ := request_gets_its_own_reply (.initial (s := .standard) ⟨0⟩) hadm hlink
    .zero "ping" .null
  -- the call is still there after one event
  have hreturned (event : Event) (hcall : (Table.get? ⟨"a"⟩
      ((Moment.mk (sent.after .standard) .zero event).after .standard).calls).isSome = true) :
      returned [(.zero, event)] .zero =
        ((waited .standard "ping" Settings.standard.timeouts.requestWait .zero
          (firstVerdict .standard "1" (moments .standard (sent.after .standard)
            [(.zero, event)]))).map (·.map some)).toList := by
    have hstay : ∀ m ∈ moments .standard (sent.after .standard) [(.zero, event)],
        ¬m.Ends .standard ⟨"a"⟩ := fun m hm hend => by
      obtain rfl := List.mem_singleton.mp hm
      exact Option.isSome_iff_ne_none.mp hcall hend
    exact ((hrun [(.zero, event)]).2.2.2 hstay .zero (.resume ⟨"a"⟩ none)).1
  refine ⟨hsent.trans (by cbv), ?_, ?_, ?_, ?_⟩
  · exact (hreturned _ (by decide +kernel)).trans (by decide +kernel)
  · exact (hreturned _ (by decide +kernel)).trans (by decide +kernel)
  · exact (hreturned _ (by decide +kernel)).trans (by decide +kernel)
  · refine ((hrun []).2.2.2 (by simp) (.ofSeconds 3600) (.resume ⟨"a"⟩ none)).1.trans ?_
    decide +kernel

end Handler

end FeedLink.Socket
