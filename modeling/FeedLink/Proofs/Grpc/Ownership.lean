import FeedLink.Proofs.Grpc.Receiver

/-!
# Who holds a feed

A slot does not say whose it is, and a subscribe that ends without a stream takes out any opening
slot that it finds under its feed. That it finds its own rests on the tokens: whoever cancels a
token has taken its slot, and whoever holds a token that is not cancelled still has it. `Changes`
lists what a step does to the slots, the tokens and the subscribes in progress; that the feeds are
`Owned` is shown once by going through this list, and so is what becomes of a slot.

Callers begin a call under a name that no other call has at the time, and nobody drops a handler on
which a call has not returned: runs of such events are `admitsAll`.

## Main definitions

* `Handler.admits`, `Handler.admitsAll` — the events that may come next
* `Handler.Changes` — what an event makes of the slots, and of those who hold them
* `Handler.Owned` — who holds a feed has its slot, and the other way round
* `Handler.Exclusive`, `Handler.Respects`, `Handler.Refuses` — what this means to callers: at most
  one of them holds a feed, no step takes it from them, and a closed handler turns them down

## Main results

* `Handler.changes_step` — a step changes what its event changes
* `Handler.owned_run` — whatever happens, the feeds are owned
* `Handler.Changes.fate` — what becomes of a subscribe that waits for its stream
* `Handler.Owned.slots_of_ended` — a subscribe that fails frees its own feed only
* `Handler.Owned.slot_step` — who can take a slot from its owner
* `Handler.feed_has_one_owner` — a feed is held by one call or one receiver, in every run
-/

namespace FeedLink.Grpc

open Json

/-- The token of whoever holds a feed. -/
def Slot.token : Slot → Token
  | .opening token | .running token => token

/-- The feed for which a call opens a stream, and the token under which it does. -/
def Call.opens? : Call → Option (Feed × Token)
  | .subscribing feed _ _ token _ => some (feed, token)
  | .requesting .. | .unsubscribing .. | .closing _ => none

namespace Handler

variable {h : Handler} {s : Settings} {now : Duration} {event : Event} {call : CallId}
  {feed f : Feed} {token : Token} {r : Receiver} {calls : Table CallId Call}
  {outputs : List Output}

/-- What the call with a name opens, if there is one. -/
def opens? (h : Handler) (call : CallId) : Option (Feed × Token) :=
  (Table.get? call h.calls).bind Call.opens?

/-- May the event come next? A call begins on a handler that is still there, under a name that no
call has that has not returned, and a handler is dropped when no call on it is left. -/
def admits (h : Handler) : Event → Bool
  | .subscribe call _ _ _ | .request call _ _ | .unsubscribe call _ | .close call =>
    (h.closed || !h.stopping) && !Table.has call h.calls
  | .release => h.calls.isEmpty
  | .abandon _ | .opened _ _ | .answered _ _ | .resume _ | .signal _ _ => true

/-- May the events come one after the other? -/
def admitsAll (s : Settings) : Handler → List (Duration × Event) → Bool
  | _, [] => true
  | h, (now, event) :: rest => h.admits event && admitsAll s (h.step s now event).1 rest

/-! ### Subscribes in progress -/

theorem opens?_of_get? {c : Call} (hcall : Table.get? call h.calls = some c) :
    h.opens? call = c.opens? := by
  rw [opens?, hcall, Option.bind_some]

theorem opens?_of_none (hnew : Table.get? call h.calls = none) : h.opens? call = none := by
  rw [opens?, hnew, Option.bind_none]

/-- A call has ended. -/
theorem opens?_erase {h' : Handler} {ended : CallId} (hcalls : h'.calls = Table.erase ended h.calls)
    (call : CallId) : h'.opens? call = if ended = call then none else h.opens? call := by
  simp only [opens?, hcalls, Table.get?_erase]
  split
  · rfl
  · rfl

/-- A call has begun. -/
theorem opens?_set {h' : Handler} {begun : CallId} {c : Call}
    (hcalls : h'.calls = Table.set begun c h.calls) (call : CallId) :
    h'.opens? call = if begun = call then c.opens? else h.opens? call := by
  simp only [opens?, hcalls, Table.get?_set]
  split
  · rfl
  · rfl

theorem opens?_of_ended {h' : Handler} (hcalls : h'.calls = Table.erase call h.calls) :
    h'.opens? call = none := by
  rw [opens?_erase hcalls, if_pos rfl]

/-- A call that opens no stream has ended. -/
theorem opens?_erase_of_idle (hidle : h.opens? call = none) (call' : CallId) :
    { h with calls := Table.erase call h.calls }.opens? call' = h.opens? call' := by
  rw [opens?_erase rfl]
  split
  · next heq => rw [← heq, hidle]
  · rfl

/-- A call that opens no stream has begun, under a new name. -/
theorem opens?_set_of_idle {c : Call} (hnew : Table.get? call h.calls = none)
    (hidle : c.opens? = none) (call' : CallId) :
    { h with calls := Table.set call c h.calls }.opens? call' = h.opens? call' := by
  rw [opens?_set rfl, hidle]
  split
  · next heq => rw [← heq, opens?_of_none hnew]
  · rfl

/-- The calls that are left when one of them has ended. -/
theorem opens?_of_erase {h' : Handler} {ended : CallId}
    (hcalls : h'.calls = Table.erase ended h.calls) (hcall : h'.opens? call = some (feed, token)) :
    ended ≠ call ∧ h.opens? call = some (feed, token) := by
  rw [opens?_erase hcalls] at hcall
  split at hcall
  · contradiction
  · next hne => exact ⟨hne, hcall⟩

/-- Who is told something opens no stream. -/
theorem opens?_of_told (hidle : h.opens? call = none) {result : CallResult} (told : CallId)
    (result' : CallResult) (hmem : Output.returned told result' ∈ [Output.returned call result]) :
    h.opens? told = none := by
  obtain ⟨rfl, -⟩ := Output.returned.inj (List.mem_singleton.mp hmem)
  exact hidle

/-! ### What a step changes -/

/-- What an event makes of the slots, of the tokens and of the subscribes in progress, and what it
does to the world outside. -/
inductive Changes (s : Settings) (now : Duration) (h : Handler) :
    Event → Handler → List Output → Prop
  /-- At most a call begins or ends that opens no stream. -/
  | idle {event : Event} {calls : Table CallId Call} {outputs : List Output}
      (same : ∀ call, { h with calls }.opens? call = h.opens? call)
      (untold : ∀ call result, .returned call result ∈ outputs → h.opens? call = none) :
      Changes s now h event { h with calls } outputs
  | begin {call : CallId} {feed : Feed} {params : Value} {callback : Callback}
      (unclosed : h.closed = false) (running : h.stopping = false) (new : h.opens? call = none)
      (free : (Table.get? feed h.slots).any h.isLive = false) :
      Changes s now h (.subscribe call feed params callback)
        { h with
          drawn := h.drawn + 1
          slots := Table.set feed (.opening ⟨h.drawn⟩) h.slots
          calls := Table.set call (.subscribing feed params callback ⟨h.drawn⟩
            (now + s.timeouts.requestWait)) h.calls }
        [.opening (.call call) feed params]
  /-- A subscribe gets its stream. -/
  | obtain {call : CallId} {feed : Feed} {params : Value} {callback : Callback} {token : Token}
      {stream : StreamId} (waiting : h.opens? call = some (feed, token))
      (wanted : h.isCancelled token = false) :
      Changes s now h (.opened call (.ok stream))
        { h with
          slots := Table.set feed (.running token) h.slots
          receivers := Table.set token ⟨feed, params, callback, .receiving stream⟩ h.receivers
          calls := Table.erase call h.calls }
        [.returned call (.ok none)]
  /-- A subscribe ends without a stream. -/
  | fail {event : Event} {call : CallId} {feed : Feed} {token : Token} {outputs : List Output}
      (waiting : h.opens? call = some (feed, token))
      (told : outputs = [] ∨ ∃ e, outputs = [.returned call (.error e)]) :
      Changes s now h event
        { h.freeOpening feed token with calls := Table.erase call h.calls } outputs
  | unsubscribe {call : CallId} {feed : Feed} {slot : Slot} {calls : Table CallId Call}
      {outputs : List Output} (held : Table.get? feed h.slots = some slot)
      (same : ∀ call, { h with calls }.opens? call = h.opens? call)
      (untold : ∀ call result, .returned call result ∈ outputs → h.opens? call = none) :
      Changes s now h (.unsubscribe call feed)
        { h with
          slots := Table.erase feed h.slots, cancelled := slot.token :: h.cancelled, calls }
        outputs
  | close {call : CallId} {calls : Table CallId Call} {outputs : List Output}
      (same : ∀ call, { h with calls }.opens? call = h.opens? call)
      (untold : ∀ call result, .returned call result ∈ outputs → h.opens? call = none) :
      Changes s now h (.close call)
        { h with closed := true, slots := [], stopping := true, calls } outputs
  /-- A receiver goes on. -/
  | signal {token : Token} {signal : Signal} {r : Receiver} {outputs : List Output}
      (held : Table.get? token h.receivers = some r)
      (untold : ∀ call result, .returned call result ∉ outputs) :
      Changes s now h (.signal token signal)
        { h with receivers := Table.set token (r.step s now signal).1 h.receivers } outputs
  | release (left : h.calls = []) : Changes s now h .release { h with stopping := true } []

theorem Changes.refl (h : Handler)
    (huntold : ∀ call result, .returned call result ∈ outputs → h.opens? call = none) :
    Changes s now h event h outputs :=
  show Changes s now h event { h with calls := h.calls } outputs from
    .idle (fun _ => rfl) huntold

/-- A call that opens no stream returns. -/
theorem changes_finish (hidle : h.opens? call = none) (result : CallResult) :
    Changes s now h event (h.finish call result).1 (h.finish call result).2 :=
  .idle (opens?_erase_of_idle hidle) (opens?_of_told hidle)

theorem freeOpening_of_cancelled (hcancelled : h.isCancelled token = true) :
    h.freeOpening feed token = h := by
  simp only [freeOpening, hcancelled, if_true]

theorem calls_freeOpening (h : Handler) (feed : Feed) (token : Token) :
    (h.freeOpening feed token).calls = h.calls := by
  unfold freeOpening
  split
  · rfl
  · split <;> rfl

/-- Which calls there are makes no difference to a feed that is freed. -/
theorem freeOpening_calls (h : Handler) (calls : Table CallId Call) (feed : Feed) (token : Token) :
    { h with calls }.freeOpening feed token = { h.freeOpening feed token with calls } := by
  have hsame : ({ h with calls } : Handler).isCancelled token = h.isCancelled token := rfl
  unfold freeOpening
  rw [hsame]
  split
  · rfl
  · dsimp only
    split <;> rfl

/-- A subscribe returns an error. -/
theorem changes_fail (hwaiting : h.opens? call = some (feed, token)) (e : HandlerError) :
    Changes s now h event ((h.freeOpening feed token).finish call (.error e)).1
      ((h.freeOpening feed token).finish call (.error e)).2 := by
  rw [finish, calls_freeOpening]
  exact .fail hwaiting (.inr ⟨e, rfl⟩)

/-- A subscribe whose token was cancelled returns an error, and frees nothing. -/
theorem changes_fail_of_cancelled (hwaiting : h.opens? call = some (feed, token))
    (hcancelled : h.isCancelled token = true) (e : HandlerError) :
    Changes s now h event (h.finish call (.error e)).1 (h.finish call (.error e)).2 := by
  have hsame : h.freeOpening feed token = h := freeOpening_of_cancelled hcancelled
  have hchanges : Changes s now h event _ _ := changes_fail hwaiting e
  rwa [hsame] at hchanges

theorem changes_opened (s : Settings) (now : Duration) (h : Handler) (call : CallId)
    (result : Except Status StreamId) :
    Changes s now h (.opened call result) (h.opened call result).1 (h.opened call result).2 := by
  unfold opened
  split
  · next feed params callback token deadline hcall =>
    have hwaiting := opens?_of_get? hcall
    cases result with
    | error status => exact changes_fail hwaiting _
    | ok stream =>
      dsimp only
      split
      · next hcancelled => exact changes_fail_of_cancelled hwaiting hcancelled _
      · next hwanted => exact .obtain hwaiting (Bool.not_eq_true _ ▸ hwanted)
  · exact .refl h (by simp)

theorem changes_resume (s : Settings) (now : Duration) (h : Handler) (call : CallId) :
    Changes s now h (.resume call) (h.resume s now call).1 (h.resume s now call).2 := by
  have hkeep : Changes s now h (.resume call) h [] := .refl h (by simp)
  unfold resume
  split
  · exact hkeep
  · next feed _ _ token _ hcall =>
    have hwaiting := opens?_of_get? hcall
    split
    · next hcancelled => exact changes_fail_of_cancelled hwaiting hcancelled _
    · split
      · exact changes_fail hwaiting _
      · exact hkeep
  · next hcall =>
    split
    · exact changes_finish (opens?_of_get? hcall) _
    · split
      · exact changes_finish (opens?_of_get? hcall) _
      · exact hkeep
  · next hcall =>
    split
    · exact changes_finish (opens?_of_get? hcall) _
    · exact hkeep
  · next hcall =>
    split
    · exact changes_finish (opens?_of_get? hcall) _
    · exact hkeep

/-- What an unsubscribe is told, and waits for, is no stream. -/
theorem changes_unsubscribe (hnew : Table.get? call h.calls = none) (s : Settings)
    (now : Duration) (feed : Feed) :
    Changes s now h (.unsubscribe call feed) (h.unsubscribe s now call feed).1
      (h.unsubscribe s now call feed).2 := by
  have huntold : ∀ told result, .returned told result ∈ [Output.returned call (.ok none)] →
      h.opens? told = none := opens?_of_told (opens?_of_none hnew)
  unfold unsubscribe
  dsimp only
  split
  · exact .refl h huntold
  · next hheld => exact .unsubscribe hheld (fun _ => rfl) huntold
  · next hheld =>
    split
    · exact .unsubscribe hheld (fun _ => rfl) huntold
    · exact .unsubscribe hheld (opens?_set_of_idle hnew rfl) (by simp)

theorem changes_close (hnew : Table.get? call h.calls = none) (s : Settings) (now : Duration) :
    Changes s now h (.close call) (h.close call).1 (h.close call).2 := by
  have huntold : ∀ told result, .returned told result ∈ [Output.returned call (.ok none)] →
      h.opens? told = none := opens?_of_told (opens?_of_none hnew)
  unfold close
  dsimp only
  split
  · exact .refl h huntold
  · split
    · exact .close (fun _ => rfl) huntold
    · exact .close (opens?_set_of_idle hnew rfl) (by simp)

/-- **A step changes what its event changes.** -/
theorem changes_step (s : Settings) (now : Duration) (hadm : h.admits event = true) :
    Changes s now h event (h.step s now event).1 (h.step s now event).2 := by
  cases event with
  | subscribe call feed params callback =>
    obtain ⟨hthere, hnew⟩ := Bool.and_eq_true_iff.mp hadm
    rw [Bool.not_eq_true', Table.has_eq_false_iff] at hnew
    have hidle := opens?_of_none hnew
    simp only [step]
    unfold subscribe
    split
    · exact .refl h (opens?_of_told hidle)
    · next hopen =>
      split
      · exact .refl h (opens?_of_told hidle)
      · next hfree =>
        rw [Bool.not_eq_true] at hopen hfree
        exact .begin hopen (by simpa [hopen] using hthere) hidle hfree
  | request call method params =>
    obtain ⟨-, hnew⟩ := Bool.and_eq_true_iff.mp hadm
    rw [Bool.not_eq_true', Table.has_eq_false_iff] at hnew
    simp only [step]
    unfold request
    split
    · exact .refl h (opens?_of_told (opens?_of_none hnew))
    · exact .idle (opens?_set_of_idle hnew rfl) (by simp)
  | unsubscribe call feed =>
    obtain ⟨-, hnew⟩ := Bool.and_eq_true_iff.mp hadm
    rw [Bool.not_eq_true', Table.has_eq_false_iff] at hnew
    exact changes_unsubscribe hnew s now feed
  | close call =>
    obtain ⟨-, hnew⟩ := Bool.and_eq_true_iff.mp hadm
    rw [Bool.not_eq_true', Table.has_eq_false_iff] at hnew
    exact changes_close hnew s now
  | abandon call =>
    simp only [step]
    unfold abandon
    dsimp only
    split
    · next feed _ _ token _ hcall =>
      rw [freeOpening_calls]
      exact .fail (opens?_of_get? hcall) (.inl rfl)
    · next hother =>
      refine .idle (opens?_erase_of_idle ?_) (by simp)
      cases hcall : Table.get? call h.calls with
      | none => exact opens?_of_none hcall
      | some c =>
        cases c with
        | subscribing => exact absurd hcall (hother _ _ _ _ _)
        | requesting | unsubscribing | closing => exact opens?_of_get? hcall
  | opened call result => exact changes_opened s now h call result
  | answered call result =>
    simp only [step]
    unfold answered
    split
    · next hcall => exact changes_finish (opens?_of_get? hcall) _
    · exact .refl h (by simp)
  | resume call => exact changes_resume s now h call
  | signal token signal =>
    simp only [step]
    cases hr : Table.get? token h.receivers with
    | none =>
      simp only [notify, hr]
      exact .refl h (by simp)
    | some r =>
      rcases notify_cases s now hr signal with heq | heq
      · rw [heq]
        exact .refl h (by simp)
      · rw [heq]
        refine .signal hr fun call result hmem => ?_
        obtain ⟨act, -, hact⟩ := List.mem_map.mp hmem
        cases act <;> contradiction
  | release => exact .release (List.isEmpty_iff.mp hadm)

/-! ### Owners and their slots -/

/-- Somebody stands behind the slot of a feed: a subscribe that opens its stream, or a receiver. -/
def Backed (h : Handler) (feed : Feed) : Slot → Prop
  | .opening token => ∃ call, h.opens? call = some (feed, token)
  | .running token => ∃ r, Table.get? token h.receivers = some r ∧ r.feed = feed

/-- Who holds a feed has its slot, and the other way round. -/
structure Owned (h : Handler) : Prop where
  /-- A subscribe that has not returned has its slot, and so does a receiver that has not ended, as
  long as the token is not cancelled. -/
  claimed : ∀ {feed slot}, h.Backed feed slot → h.isLive slot = true →
    h.isCancelled slot.token = false → Table.get? feed h.slots = some slot
  backed : ∀ {feed slot}, Table.get? feed h.slots = some slot → h.Backed feed slot
  /-- Who cancels a token has taken its slot. -/
  taken : ∀ {feed slot}, Table.get? feed h.slots = some slot → slot.token ∉ h.cancelled
  /-- Nothing is under one token twice. -/
  single : ∀ {feed feed' slot slot'}, h.Backed feed slot → h.Backed feed' slot' →
    slot.token = slot'.token → feed = feed' ∧ slot = slot'
  alone : ∀ {call call' feed feed' token}, h.opens? call = some (feed, token) →
    h.opens? call' = some (feed', token) → call = call'
  issued : ∀ {feed slot}, h.Backed feed slot → slot.token.number < h.drawn
  cancelled : ∀ {token}, token ∈ h.cancelled → token.number < h.drawn
  shut : h.closed = true → h.slots = [] ∧ h.stopping = true
  /-- Nobody subscribes on a handler that was dropped. -/
  left : h.stopping = true → h.closed = false → ∀ call, h.opens? call = none

theorem owned_initial : initial.Owned where
  claimed {feed slot} hbacked := by
    cases slot <;> obtain ⟨x, hx⟩ := hbacked <;> simp [initial, opens?] at hx
  backed := by simp [initial]
  taken := by simp [initial]
  single {feed feed' slot slot'} hbacked := by
    cases slot <;> obtain ⟨x, hx⟩ := hbacked <;> simp [initial, opens?] at hx
  alone := by simp [initial, opens?]
  issued {feed slot} hbacked := by
    cases slot <;> obtain ⟨x, hx⟩ := hbacked <;> simp [initial, opens?] at hx
  cancelled := by simp [initial]
  shut := by simp [initial]
  left := by simp [initial]

/-- The slot of a subscribe whose token is not cancelled. -/
theorem Owned.slot_of_opens (ho : h.Owned) (hwaiting : h.opens? call = some (feed, token))
    (hwanted : h.isCancelled token = false) : Table.get? feed h.slots = some (.opening token) := by
  have hbacked : h.Backed feed (.opening token) := ⟨call, hwaiting⟩
  exact ho.claimed hbacked rfl hwanted

/-- A slot in which a stream is opened has a token that is not cancelled. -/
theorem Owned.uncancelled (ho : h.Owned) (hslot : Table.get? feed h.slots = some (.opening token)) :
    h.isCancelled token = false := by
  obtain ⟨call, hcall⟩ := ho.backed hslot
  have hrunning : h.stopping = false := by
    rw [← Bool.not_eq_true]
    intro hstopping
    cases hclosed : h.closed with
    | true => simp [(ho.shut hclosed).1] at hslot
    | false => simp [ho.left hstopping hclosed] at hcall
  have htaken : token ∉ h.cancelled := ho.taken hslot
  simpa [isCancelled, hrunning] using htaken

/-- A slot is live as long as its receiver is. -/
theorem isLive_congr {h' : Handler} (hreceivers : h'.receivers = h.receivers) (slot : Slot) :
    h'.isLive slot = h.isLive slot := by
  cases slot with
  | opening => rfl
  | running => simp only [isLive, hasEnded, hreceivers]

/-- The same somebodies stand behind the slots. -/
theorem backed_congr {h' : Handler} (hreceivers : h'.receivers = h.receivers)
    (hsame : ∀ call, h'.opens? call = h.opens? call) (feed : Feed) (slot : Slot) :
    h'.Backed feed slot ↔ h.Backed feed slot := by
  cases slot with
  | opening => simp only [Backed, hsame]
  | running => simp only [Backed, hreceivers]

/-- Calls that open no stream begin and end. -/
theorem Owned.recall (ho : h.Owned)
    (hsame : ∀ call, { h with calls }.opens? call = h.opens? call) : { h with calls }.Owned := by
  have hbacked : ∀ feed slot, { h with calls }.Backed feed slot ↔ h.Backed feed slot :=
    backed_congr rfl hsame
  exact
    { claimed := fun hb hlive hwanted =>
        ho.claimed ((hbacked _ _).mp hb) ((isLive_congr rfl _).symm.trans hlive) hwanted
      backed := fun hslot => (hbacked _ _).mpr (ho.backed hslot)
      taken := ho.taken
      single := fun hb hb' => ho.single ((hbacked _ _).mp hb) ((hbacked _ _).mp hb')
      alone := fun hcall hcall' => ho.alone (hsame _ ▸ hcall) (hsame _ ▸ hcall')
      issued := fun hb => ho.issued ((hbacked _ _).mp hb)
      cancelled := ho.cancelled
      shut := ho.shut
      left := fun hstopping hopen call => (hsame call).trans (ho.left hstopping hopen call) }

/-- A subscribe begins, under a token that nobody drew before. -/
theorem Owned.begin (ho : h.Owned) (hclosed : h.closed = false) (hrunning : h.stopping = false)
    (hnew : h.opens? call = none) (hfree : (Table.get? feed h.slots).any h.isLive = false)
    (params : Value) (callback : Callback) (deadline : Duration) :
    { h with
      drawn := h.drawn + 1
      slots := Table.set feed (.opening ⟨h.drawn⟩) h.slots
      calls := Table.set call (.subscribing feed params callback ⟨h.drawn⟩ deadline)
        h.calls }.Owned := by
  set h' : Handler := { h with
    drawn := h.drawn + 1
    slots := Table.set feed (.opening ⟨h.drawn⟩) h.slots
    calls := Table.set call (.subscribing feed params callback ⟨h.drawn⟩ deadline) h.calls }
    with hh'
  have hopens : ∀ {call' feed' token}, h'.opens? call' = some (feed', token) ↔
      call = call' ∧ feed = feed' ∧ token = ⟨h.drawn⟩ ∨ h.opens? call' = some (feed', token) := by
    intro call' feed' token
    rw [opens?_set (h := h) rfl]
    by_cases heq : call = call'
    · simp [← heq, hnew, Call.opens?, eq_comm]
    · simp [heq]
  have hbacked : ∀ {feed' slot}, h'.Backed feed' slot ↔
      feed = feed' ∧ slot = .opening ⟨h.drawn⟩ ∨ h.Backed feed' slot := by
    intro feed' slot
    cases slot with
    | opening token => simp [Backed, hopens, exists_or]
    | running token => simp [Backed, hh']
  have hunissued : ∀ {feed' slot}, h.Backed feed' slot → slot.token ≠ ⟨h.drawn⟩ := by
    intro feed' slot hb heq
    have hlt := ho.issued hb
    simp [heq] at hlt
  have hunopened : ∀ {call' feed'}, h.opens? call' ≠ some (feed', ⟨h.drawn⟩) := by
    intro call' feed' hcall'
    have hb : h.Backed feed' (.opening ⟨h.drawn⟩) := ⟨call', hcall'⟩
    exact hunissued hb rfl
  constructor
  case claimed =>
    intro feed' slot hb hlive hwanted
    rcases hbacked.mp hb with ⟨rfl, rfl⟩ | hb
    · exact Table.get?_set_self ..
    · have hlive : h.isLive slot = true := (isLive_congr rfl slot).symm.trans hlive
      have hslot := ho.claimed hb hlive hwanted
      refine (Table.get?_set ..).trans ((if_neg ?_).trans hslot)
      rintro rfl
      simp [hslot, hlive] at hfree
  case backed =>
    intro feed' slot hslot
    rw [Table.get?_set] at hslot
    split at hslot
    · next heq => exact hbacked.mpr (.inl ⟨heq, (Option.some.inj hslot).symm⟩)
    · exact hbacked.mpr (.inr (ho.backed hslot))
  case taken =>
    intro feed' slot hslot
    rw [Table.get?_set] at hslot
    split at hslot
    · obtain rfl := Option.some.inj hslot
      exact fun hmem => absurd (ho.cancelled hmem) (Nat.lt_irrefl _)
    · exact ho.taken hslot
  case single =>
    intro feed₁ feed₂ slot₁ slot₂ hb₁ hb₂ htoken
    rcases hbacked.mp hb₁ with ⟨rfl, rfl⟩ | hb₁ <;> rcases hbacked.mp hb₂ with ⟨rfl, rfl⟩ | hb₂
    · exact ⟨rfl, rfl⟩
    · exact absurd htoken.symm (hunissued hb₂)
    · exact absurd htoken (hunissued hb₁)
    · exact ho.single hb₁ hb₂ htoken
  case alone =>
    intro call₁ call₂ feed₁ feed₂ token h₁ h₂
    rcases hopens.mp h₁ with ⟨rfl, -, rfl⟩ | h₁ <;> rcases hopens.mp h₂ with ⟨rfl, -, heq⟩ | h₂
    · rfl
    · exact absurd h₂ hunopened
    · exact absurd (heq ▸ h₁) hunopened
    · exact ho.alone h₁ h₂
  case issued =>
    intro feed' slot hb
    rcases hbacked.mp hb with ⟨-, rfl⟩ | hb
    · exact Nat.lt_succ_self _
    · exact Nat.lt_succ_of_lt (ho.issued hb)
  case cancelled => exact fun hmem => Nat.lt_succ_of_lt (ho.cancelled hmem)
  case shut => exact fun hshut => absurd (hclosed.symm.trans hshut) Bool.false_ne_true
  case left => exact fun hstopping => absurd (hrunning.symm.trans hstopping) Bool.false_ne_true

/-- A subscribe that waits for its stream gets it: the receiver takes over its slot. -/
theorem Owned.obtain (ho : h.Owned) (hwaiting : h.opens? call = some (feed, token))
    (hwanted : h.isCancelled token = false) (hfeed : r.feed = feed) :
    { h with
      slots := Table.set feed (.running token) h.slots
      receivers := Table.set token r h.receivers
      calls := Table.erase call h.calls }.Owned := by
  have hslot := ho.slot_of_opens hwaiting hwanted
  set h' : Handler := { h with
    slots := Table.set feed (.running token) h.slots
    receivers := Table.set token r h.receivers
    calls := Table.erase call h.calls } with hh'
  have hown : h.Backed feed (.opening token) := ⟨call, hwaiting⟩
  have htaken : token ∉ h.cancelled := ho.taken hslot
  have hissued : token.number < h.drawn := ho.issued hown
  have hopens : ∀ {call' feed' token'}, h'.opens? call' = some (feed', token') →
      token' ≠ token ∧ h.opens? call' = some (feed', token') := by
    intro call' feed' token' hcall'
    obtain ⟨hne, hcall'⟩ := opens?_of_erase rfl hcall'
    exact ⟨fun heq => hne (ho.alone hwaiting (heq ▸ hcall')), hcall'⟩
  have hbacked : ∀ {feed' slot}, h'.Backed feed' slot →
      feed' = feed ∧ slot = .running token ∨ slot.token ≠ token ∧ h.Backed feed' slot := by
    intro feed' slot hb
    cases slot with
    | opening token' =>
      obtain ⟨call', hcall'⟩ := hb
      obtain ⟨hne, hcall'⟩ := hopens hcall'
      exact .inr ⟨hne, call', hcall'⟩
    | running token' =>
      obtain ⟨r', hr', rfl⟩ := hb
      rw [Table.get?_set] at hr'
      split at hr'
      · next heq =>
        obtain rfl := Option.some.inj hr'
        exact .inl ⟨hfeed, by rw [heq]⟩
      · next hne => exact .inr ⟨Ne.symm hne, r', hr', rfl⟩
  constructor
  case claimed =>
    intro feed' slot hb hlive hwanted'
    rcases hbacked hb with ⟨rfl, rfl⟩ | ⟨hne, hb⟩
    · exact Table.get?_set_self ..
    · have hlive : h.isLive slot = true := by
        cases slot with
        | opening => rfl
        | running token' =>
          have hne : token ≠ token' := Ne.symm hne
          have hsame : h'.hasEnded token' = h.hasEnded token' := by
            simp only [hasEnded, hh', Table.get?_set, if_neg hne]
          rwa [isLive, hsame] at hlive
      have hslot' := ho.claimed hb hlive hwanted'
      refine (Table.get?_set ..).trans ((if_neg ?_).trans hslot')
      rintro rfl
      obtain rfl := Option.some.inj (hslot.symm.trans hslot')
      exact hne rfl
  case backed =>
    intro feed' slot hslot'
    rw [Table.get?_set] at hslot'
    split at hslot'
    · next heq =>
      obtain rfl := Option.some.inj hslot'
      exact ⟨r, Table.get?_set_self .., hfeed.trans heq⟩
    · next hfeed' =>
      have hb := ho.backed hslot'
      have hne : token ≠ slot.token := fun heq => hfeed' (ho.single hown hb heq).1
      cases slot with
      | opening token' =>
        obtain ⟨call', hcall'⟩ := hb
        refine ⟨call', (opens?_erase (h := h) rfl call').trans ((if_neg ?_).trans hcall')⟩
        rintro rfl
        exact hne (Prod.mk.inj (Option.some.inj (hwaiting.symm.trans hcall'))).2
      | running token' =>
        obtain ⟨r', hr', hfeed''⟩ := hb
        exact ⟨r', (Table.get?_set ..).trans ((if_neg hne).trans hr'), hfeed''⟩
  case taken =>
    intro feed' slot hslot'
    rw [Table.get?_set] at hslot'
    split at hslot'
    · obtain rfl := Option.some.inj hslot'
      exact htaken
    · exact ho.taken hslot'
  case single =>
    intro feed₁ feed₂ slot₁ slot₂ hb₁ hb₂ htoken
    rcases hbacked hb₁ with ⟨rfl, rfl⟩ | ⟨hne₁, hb₁⟩ <;>
      rcases hbacked hb₂ with ⟨rfl, rfl⟩ | ⟨hne₂, hb₂⟩
    · exact ⟨rfl, rfl⟩
    · exact absurd htoken.symm hne₂
    · exact absurd htoken hne₁
    · exact ho.single hb₁ hb₂ htoken
  case alone => exact fun h₁ h₂ => ho.alone (hopens h₁).2 (hopens h₂).2
  case issued =>
    intro feed' slot hb
    rcases hbacked hb with ⟨-, rfl⟩ | ⟨-, hb⟩
    · exact hissued
    · exact ho.issued hb
  case cancelled => exact ho.cancelled
  case shut =>
    intro hclosed
    simp [(ho.shut hclosed).1] at hslot
  case left =>
    intro hstopping hclosed
    simp [ho.left hstopping hclosed] at hwaiting

/-- A subscribe that ends without a stream frees its own feed, unless its token was cancelled. -/
theorem Owned.slots_freeOpening (ho : h.Owned) (hwaiting : h.opens? call = some (feed, token))
    (f : Feed) :
    Table.get? f (h.freeOpening feed token).slots =
      if f = feed ∧ h.isCancelled token = false then none else Table.get? f h.slots := by
  cases hwanted : h.isCancelled token with
  | true => simp [freeOpening_of_cancelled hwanted]
  | false =>
    simp only [freeOpening, hwanted, ho.slot_of_opens hwaiting hwanted, Bool.false_eq_true,
      if_false, Table.get?_erase, and_true, eq_comm]

/-- What a subscribe that ends without a stream leaves of a handler. -/
theorem frame_freeOpening (h : Handler) (feed : Feed) (token : Token) :
    ∃ slots, h.freeOpening feed token = { h with slots } := by
  unfold freeOpening
  split
  · exact ⟨h.slots, rfl⟩
  · split
    · exact ⟨_, rfl⟩
    · exact ⟨h.slots, rfl⟩

/-- A subscribe ends without a stream. -/
theorem Owned.fail (ho : h.Owned) (hwaiting : h.opens? call = some (feed, token)) :
    { h.freeOpening feed token with calls := Table.erase call h.calls }.Owned := by
  have hslots := ho.slots_freeOpening hwaiting
  have hshut : h.closed = true → (h.freeOpening feed token).slots = [] := by
    intro hclosed
    obtain ⟨hempty, hstopping⟩ := ho.shut hclosed
    rw [freeOpening_of_cancelled (by simp [isCancelled, hstopping]), hempty]
  obtain ⟨slots, heq⟩ := frame_freeOpening h feed token
  rw [heq] at hslots hshut ⊢
  have hkept : ∀ {f slot}, Table.get? f slots = some slot → Table.get? f h.slots = some slot := by
    intro f slot hslot
    rw [hslots] at hslot
    split at hslot
    · contradiction
    · exact hslot
  set h' : Handler := { h with slots, calls := Table.erase call h.calls } with hh'
  have hown : h.Backed feed (.opening token) := ⟨call, hwaiting⟩
  have hopens : ∀ {call' feed' token'}, h'.opens? call' = some (feed', token') →
      call ≠ call' ∧ h.opens? call' = some (feed', token') :=
    fun hcall' => opens?_of_erase rfl hcall'
  have hbacked : ∀ {f slot}, h'.Backed f slot → slot ≠ .opening token ∧ h.Backed f slot := by
    intro f slot hb
    cases slot with
    | opening token' =>
      obtain ⟨call', hcall'⟩ := hb
      obtain ⟨hne, hcall'⟩ := hopens hcall'
      refine ⟨?_, call', hcall'⟩
      rintro ⟨⟩
      exact hne (ho.alone hwaiting hcall')
    | running => exact ⟨by simp, hb⟩
  constructor
  case claimed =>
    intro f slot hb hlive hwanted
    obtain ⟨hne, hb⟩ := hbacked hb
    have hslot := ho.claimed hb ((isLive_congr rfl slot).symm.trans hlive) hwanted
    refine (hslots f).trans ((if_neg ?_).trans hslot)
    rintro ⟨rfl, huncancelled⟩
    have hslot' := ho.slot_of_opens hwaiting huncancelled
    exact hne (Option.some.inj (hslot.symm.trans hslot'))
  case backed =>
    intro f slot hslot
    have hb := ho.backed (hkept hslot)
    cases slot with
    | running => exact hb
    | opening token' =>
      obtain ⟨call', hcall'⟩ := hb
      refine ⟨call', (opens?_erase (h := h) rfl call').trans ((if_neg ?_).trans hcall')⟩
      rintro rfl
      obtain ⟨rfl, rfl⟩ := Prod.mk.inj (Option.some.inj (hwaiting.symm.trans hcall'))
      -- the slot would have been freed
      have huncancelled := ho.uncancelled (hkept hslot)
      have hfreed := hslots feed
      rw [hslot, if_pos ⟨rfl, huncancelled⟩] at hfreed
      contradiction
  case taken => exact fun hslot => ho.taken (hkept hslot)
  case single => exact fun hb₁ hb₂ => ho.single (hbacked hb₁).2 (hbacked hb₂).2
  case alone => exact fun h₁ h₂ => ho.alone (hopens h₁).2 (hopens h₂).2
  case issued => exact fun hb => ho.issued (hbacked hb).2
  case cancelled => exact ho.cancelled
  case shut => exact fun hclosed => ⟨hshut hclosed, (ho.shut hclosed).2⟩
  case left =>
    intro hstopping hclosed
    simp [ho.left hstopping hclosed] at hwaiting

/-- A slot is given up, and its token cancelled. -/
theorem Owned.unsubscribe (ho : h.Owned) {slot : Slot}
    (hheld : Table.get? feed h.slots = some slot) :
    { h with
      slots := Table.erase feed h.slots, cancelled := slot.token :: h.cancelled }.Owned := by
  have hkept : ∀ {f slot}, Table.get? f (Table.erase feed h.slots) = some slot →
      feed ≠ f ∧ Table.get? f h.slots = some slot := by
    intro f slot hslot
    rw [Table.get?_erase] at hslot
    split at hslot
    · contradiction
    · next hne => exact ⟨hne, hslot⟩
  set h' : Handler := { h with
    slots := Table.erase feed h.slots, cancelled := slot.token :: h.cancelled } with hh'
  have hbacked : ∀ f slot, h'.Backed f slot ↔ h.Backed f slot := backed_congr rfl fun _ => rfl
  constructor
  case claimed =>
    intro f slot' hb hlive hwanted
    simp only [isCancelled, hh', List.contains_cons, Bool.or_eq_false_iff,
      beq_eq_false_iff_ne] at hwanted
    obtain ⟨hrunning, hne, huncancelled⟩ := hwanted
    have hslot := ho.claimed ((hbacked f slot').mp hb) ((isLive_congr rfl slot').symm.trans hlive)
      (by rw [isCancelled, hrunning, huncancelled, Bool.or_false])
    refine (Table.get?_erase ..).trans ((if_neg ?_).trans hslot)
    rintro rfl
    obtain rfl := Option.some.inj (hheld.symm.trans hslot)
    exact hne rfl
  case backed => exact fun hslot => (hbacked _ _).mpr (ho.backed (hkept hslot).2)
  case taken =>
    intro f slot' hslot
    obtain ⟨hne, hslot⟩ := hkept hslot
    intro hmem
    rcases List.mem_cons.mp hmem with heq | hmem
    · exact hne (ho.single (ho.backed hheld) (ho.backed hslot) heq.symm).1
    · exact ho.taken hslot hmem
  case single => exact fun hb hb' => ho.single ((hbacked _ _).mp hb) ((hbacked _ _).mp hb')
  case alone => exact ho.alone
  case issued => exact fun hb => ho.issued ((hbacked _ _).mp hb)
  case cancelled =>
    intro token hmem
    rcases List.mem_cons.mp hmem with rfl | hmem
    · exact ho.issued (ho.backed hheld)
    · exact ho.cancelled hmem
  case shut =>
    intro hclosed
    simp [(ho.shut hclosed).1] at hheld
  case left => exact ho.left

/-- Every feed is given up, and every token cancelled. -/
theorem Owned.close (ho : h.Owned) :
    { h with closed := true, slots := [], stopping := true }.Owned where
  claimed _ _ hwanted := by simp [isCancelled] at hwanted
  backed := by simp
  taken := by simp
  single hb hb' := ho.single ((backed_congr rfl (fun _ => rfl) _ _).mp hb)
    ((backed_congr rfl (fun _ => rfl) _ _).mp hb')
  alone := ho.alone
  issued hb := ho.issued ((backed_congr rfl (fun _ => rfl) _ _).mp hb)
  cancelled := ho.cancelled
  shut _ := ⟨rfl, rfl⟩
  left _ hopen := absurd hopen.symm Bool.false_ne_true

/-- The handler is dropped, when no call on it is left. -/
theorem Owned.release (ho : h.Owned) (hleft : h.calls = []) :
    { h with stopping := true }.Owned where
  claimed _ _ hwanted := by simp [isCancelled] at hwanted
  backed hslot := (backed_congr rfl (fun _ => rfl) _ _).mpr (ho.backed hslot)
  taken := ho.taken
  single hb hb' := ho.single ((backed_congr rfl (fun _ => rfl) _ _).mp hb)
    ((backed_congr rfl (fun _ => rfl) _ _).mp hb')
  alone := ho.alone
  issued hb := ho.issued ((backed_congr rfl (fun _ => rfl) _ _).mp hb)
  cancelled := ho.cancelled
  shut hclosed := ⟨(ho.shut hclosed).1, rfl⟩
  left _ _ call := opens?_of_none (by rw [hleft, Table.get?_nil])

/-- A receiver goes on, for the same feed. -/
theorem Owned.signal (ho : h.Owned) (hr : Table.get? token h.receivers = some r)
    (signal : Signal) :
    { h with receivers := Table.set token (r.step s now signal).1 h.receivers }.Owned := by
  obtain ⟨hfeed, -, -⟩ := (Receiver.moves_step s now r signal).same
  set h' : Handler :=
    { h with receivers := Table.set token (r.step s now signal).1 h.receivers } with hh'
  have hbacked : ∀ {f slot}, h'.Backed f slot ↔ h.Backed f slot := by
    intro f slot
    cases slot with
    | opening => rfl
    | running token' =>
      by_cases heq : token = token'
      · simp [Backed, hh', ← heq, hr, hfeed]
      · simp [Backed, hh', Table.get?_set, heq]
  have hlive : ∀ {slot}, h'.isLive slot = true → h.isLive slot = true := by
    intro slot hl
    cases slot with
    | opening => rfl
    | running token' =>
      by_cases heq : token = token'
      · subst heq
        simp only [isLive, hasEnded, hh', Table.get?_set_self, hr, Bool.not_eq_true',
          ← Bool.not_eq_true] at hl ⊢
        exact fun hended => hl ((Receiver.moves_step s now r signal).stays_ended hended)
      · simpa only [isLive, hasEnded, hh', Table.get?_set, if_neg heq] using hl
  constructor
  case claimed => exact fun hb hl hwanted => ho.claimed (hbacked.mp hb) (hlive hl) hwanted
  case backed => exact fun hslot => hbacked.mpr (ho.backed hslot)
  case taken => exact ho.taken
  case single => exact fun hb hb' => ho.single (hbacked.mp hb) (hbacked.mp hb')
  case alone => exact ho.alone
  case issued => exact fun hb => ho.issued (hbacked.mp hb)
  case cancelled => exact ho.cancelled
  case shut => exact ho.shut
  case left => exact ho.left

theorem Owned.changes {h' : Handler} (ho : h.Owned) (hchanges : Changes s now h event h' outputs) :
    h'.Owned := by
  cases hchanges with
  | idle same => exact ho.recall same
  | begin unclosed running new free => exact ho.begin unclosed running new free ..
  | obtain waiting wanted => exact ho.obtain waiting wanted rfl
  | fail waiting => exact ho.fail waiting
  | unsubscribe held same => exact (ho.unsubscribe held).recall same
  | close same => exact ho.close.recall same
  | signal held => exact ho.signal held _
  | release left => exact ho.release left

theorem Owned.step (ho : h.Owned) (hadm : h.admits event = true) (s : Settings) (now : Duration) :
    (h.step s now event).1.Owned :=
  ho.changes (changes_step s now hadm)

/-- **Whatever happens, the feeds are owned.** -/
theorem owned_run (s : Settings) (events : List (Duration × Event)) (ho : h.Owned)
    (hadm : admitsAll s h events = true) : (run s h events).1.Owned := by
  induction events generalizing h with
  | nil => exact ho
  | cons e rest ih =>
    obtain ⟨hfirst, hrest⟩ := Bool.and_eq_true_iff.mp hadm
    exact ih (ho.step hfirst s e.1) hrest

/-! ### How an owner loses a feed -/

/-- A subscribe that waits for its stream goes on waiting, gets it, or fails. -/
theorem Changes.fate {h' : Handler} (hchanges : Changes s now h event h' outputs)
    (hwaiting : h.opens? call = some (feed, token)) :
    h'.opens? call = some (feed, token) ∨ h'.opens? call = none ∧
      (h.isCancelled token = false ∧ h'.slots = Table.set feed (.running token) h.slots ∧
          outputs = [.returned call (.ok none)] ∨
        h'.slots = (h.freeOpening feed token).slots ∧
          (outputs = [] ∨ ∃ e, outputs = [.returned call (.error e)])) := by
  have hgoes {feed' : Feed} {token' : Token} {call' : CallId}
      (hends : h.opens? call' = some (feed', token'))
      (hcalls : h'.calls = Table.erase call' h.calls) :
      h'.opens? call = some (feed, token) ∨
        h'.opens? call = none ∧ call' = call ∧ feed' = feed ∧ token' = token := by
    rw [opens?_erase hcalls]
    split
    · next heq =>
      obtain ⟨rfl, rfl⟩ := Prod.mk.inj (Option.some.inj (hends.symm.trans (heq ▸ hwaiting)))
      exact .inr ⟨rfl, heq, rfl, rfl⟩
    · exact .inl hwaiting
  cases hchanges with
  | idle same | unsubscribe _ same | close same => exact .inl ((same call).trans hwaiting)
  | signal | release => exact .inl hwaiting
  | begin _ _ new =>
    rw [opens?_set (h := h) rfl]
    split
    · next heq => simp [← heq, new] at hwaiting
    · exact .inl hwaiting
  | obtain waiting wanted =>
    refine (hgoes waiting rfl).imp_right ?_
    rintro ⟨hended, rfl, rfl, rfl⟩
    exact ⟨hended, .inl ⟨wanted, rfl, rfl⟩⟩
  | fail waiting told =>
    refine (hgoes waiting rfl).imp_right ?_
    rintro ⟨hended, rfl, rfl, rfl⟩
    exact ⟨hended, .inr ⟨rfl, told⟩⟩

/-- **A subscribe that fails frees its own feed only**, and nothing at all when its token was
cancelled: whoever cancelled it has taken the slot. -/
theorem Owned.slots_of_ended (ho : h.Owned) (s : Settings) (now : Duration)
    (hadm : h.admits event = true) (hwaiting : h.opens? call = some (feed, token))
    (hended : (h.step s now event).1.opens? call = none)
    (hfailed : .returned call (.ok none) ∉ (h.step s now event).2) (f : Feed) :
    Table.get? f (h.step s now event).1.slots =
      if f = feed ∧ h.isCancelled token = false then none else Table.get? f h.slots := by
  rcases (changes_step s now hadm).fate hwaiting with hwaits | ⟨-, ⟨-, -, htold⟩ | ⟨hslots, -⟩⟩
  · simp [hwaits] at hended
  · simp [htold] at hfailed
  · rw [hslots, ho.slots_freeOpening hwaiting]

/-- What makes a subscribe fail: it is dropped, its stream could not be opened, or took too long. -/
def FailsBy (now : Duration) (call : CallId) (deadline : Duration) (event : Event) : Prop :=
  event = .abandon call ∨ (∃ status, event = .opened call (.error status)) ∨
    event = .resume call ∧ deadline ≤ now

theorem ended_of_failsBy (s : Settings) {params : Value} {callback : Callback}
    {deadline : Duration}
    (hcall : Table.get? call h.calls = some (.subscribing feed params callback token deadline))
    (hfails : FailsBy now call deadline event) :
    (h.step s now event).1.opens? call = none ∧
      .returned call (.ok none) ∉ (h.step s now event).2 := by
  have hfree : ∀ feed token, (h.freeOpening feed token).finish call =
      fun result => ({ h.freeOpening feed token with calls := Table.erase call h.calls },
        [.returned call result]) := by
    intro feed token
    rw [← calls_freeOpening h feed token]
    rfl
  rcases hfails with rfl | ⟨status, rfl⟩ | ⟨rfl, hdue⟩
  · simp only [step, abandon, hcall, freeOpening_calls]
    exact ⟨opens?_of_ended rfl, by simp⟩
  · simp only [step, opened, hcall, hfree]
    exact ⟨opens?_of_ended rfl, by simp⟩
  · simp only [step, resume, hcall, hfree, hdue, if_true]
    split
    · exact ⟨opens?_of_ended rfl, by simp [finish]⟩
    · exact ⟨opens?_of_ended rfl, by simp⟩

/-- **Nobody takes a live slot from its owner** but who unsubscribes from the feed, or closes the
handler. The subscribe that has an opening slot hands it over to its receiver, or frees it. -/
theorem Owned.slot_step (ho : h.Owned) (s : Settings) (now : Duration)
    (hadm : h.admits event = true) {slot : Slot} (hslot : Table.get? feed h.slots = some slot)
    (hlive : h.isLive slot = true) :
    Table.get? feed (h.step s now event).1.slots = some slot ∨
      Table.get? feed (h.step s now event).1.slots = none ∧
        (∃ call, event = .unsubscribe call feed ∨ event = .close call) ∨
      ∃ call token, slot = .opening token ∧ h.opens? call = some (feed, token) ∧
        (h.step s now event).1.opens? call = none ∧
        (Table.get? feed (h.step s now event).1.slots = none ∨
          Table.get? feed (h.step s now event).1.slots = some (.running token) ∧
            (h.step s now event).2 = [.returned call (.ok none)]) := by
  generalize hstep : h.step s now event = next
  have hchanges := changes_step s now hadm
  rw [hstep] at hchanges
  obtain ⟨h', outputs⟩ := next
  dsimp only at hchanges ⊢
  cases hchanges with
  | idle | signal | release => exact .inl hslot
  | close => exact .inr (.inl ⟨rfl, _, .inr rfl⟩)
  | @unsubscribe call feed' =>
    rw [Table.get?_erase]
    split
    · next heq => exact .inr (.inl ⟨rfl, call, .inl (heq ▸ rfl)⟩)
    · exact .inl hslot
  | begin _ _ _ free =>
    refine .inl ((Table.get?_set ..).trans ((if_neg ?_).trans hslot))
    rintro rfl
    simp [hslot, hlive] at free
  | @obtain call feed' _ _ token _ waiting wanted =>
    rw [Table.get?_set]
    split
    · next heq =>
      obtain rfl := heq
      obtain rfl := Option.some.inj (hslot.symm.trans (ho.slot_of_opens waiting wanted))
      exact .inr (.inr ⟨call, token, rfl, waiting, opens?_of_ended rfl, .inr ⟨rfl, rfl⟩⟩)
    · exact .inl hslot
  | @fail _ call feed' token _ waiting =>
    rw [ho.slots_freeOpening waiting]
    split
    · next heq =>
      obtain ⟨rfl, hwanted⟩ := heq
      obtain rfl := Option.some.inj (hslot.symm.trans (ho.slot_of_opens waiting hwanted))
      exact .inr (.inr ⟨call, token, rfl, waiting, opens?_of_ended rfl, .inl rfl⟩)
    · exact .inl hslot

/-! ### Closed handlers -/

theorem Changes.stays_closed {h' : Handler} (hchanges : Changes s now h event h' outputs)
    (hclosed : h.closed = true) : h'.closed = true := by
  cases hchanges with
  | idle | obtain | unsubscribe | signal | release | begin => exact hclosed
  | close => rfl
  | @fail _ _ feed token =>
    obtain ⟨slots, heq⟩ := frame_freeOpening h feed token
    rw [heq]
    exact hclosed

theorem closed_close (h : Handler) (call : CallId) : (h.close call).1.closed = true := by
  unfold close
  dsimp only
  split
  · next hclosed => exact hclosed
  · split <;> rfl

theorem closed_run (s : Settings) (events : List (Duration × Event))
    (hadm : admitsAll s h events = true)
    (hclosed : h.closed = true ∨ ∃ now call, (now, .close call) ∈ events) :
    (run s h events).1.closed = true := by
  induction events generalizing h with
  | nil => simpa [run] using hclosed
  | cons e rest ih =>
    obtain ⟨now, event⟩ := e
    obtain ⟨hfirst, hrest⟩ := Bool.and_eq_true_iff.mp hadm
    refine ih hrest ?_
    rcases hclosed with hclosed | ⟨now', call, hmem⟩
    · exact .inl ((changes_step s now hfirst).stays_closed hclosed)
    · rcases List.mem_cons.mp hmem with heq | hmem
      · obtain ⟨-, rfl⟩ := Prod.mk.inj heq
        exact .inl (closed_close h call)
      · exact .inr ⟨now', call, hmem⟩

/-- A subscribe that waits for its stream when the handler is closed does not get it. -/
theorem Changes.error_of_closed {h' : Handler} (hchanges : Changes s now h event h' outputs)
    (ho : h.Owned) (hclosed : h.closed = true) (hwaiting : h.opens? call = some (feed, token))
    {result : CallResult} (hmem : .returned call result ∈ outputs) : ∃ e, result = .error e := by
  have huntold (hnone : h.opens? call = none) : ∃ e, result = .error e := by
    rw [hnone] at hwaiting
    contradiction
  cases hchanges with
  | idle _ untold | unsubscribe _ _ untold | close _ untold => exact huntold (untold _ _ hmem)
  | signal _ untold => exact absurd hmem (untold call result)
  | begin | release => simp at hmem
  | obtain _ wanted => simp [isCancelled, (ho.shut hclosed).2] at wanted
  | fail _ told =>
    rcases told with rfl | ⟨e, rfl⟩
    · simp at hmem
    · exact ⟨e, (Output.returned.inj (List.mem_singleton.mp hmem)).2⟩

/-! ### One owner -/

/-- At most one call or receiver holds a feed, and it has its slot. -/
structure Exclusive (h : Handler) : Prop where
  /-- A subscribe whose token is not cancelled finds its own slot. -/
  opener : ∀ {call feed token}, h.opens? call = some (feed, token) →
    h.isCancelled token = false → Table.get? feed h.slots = some (.opening token)
  /-- A slot in which a stream is opened belongs to one subscribe in progress. -/
  opening : ∀ {feed token}, Table.get? feed h.slots = some (.opening token) →
    h.isCancelled token = false ∧ ∃! call, h.opens? call = some (feed, token)
  /-- A receiver that has not ended, and is not cancelled, finds its own slot: no other receiver of
  the feed is like this, and no stream is opened beside it. -/
  receiver : ∀ {token r}, Table.get? token h.receivers = some r → r.hasEnded = false →
    h.isCancelled token = false →
    Table.get? r.feed h.slots = some (.running token) ∧
      (∀ {token' r'}, Table.get? token' h.receivers = some r' → r'.hasEnded = false →
        h.isCancelled token' = false → r'.feed = r.feed → token' = token) ∧
      ∀ {call token'}, h.opens? call = some (r.feed, token') → h.isCancelled token' = true

/-- A step leaves the slots to those who have them. -/
structure Respects (s : Settings) (now : Duration) (h : Handler) (event : Event) : Prop where
  ended : ∀ {call feed params callback token deadline},
    Table.get? call h.calls = some (.subscribing feed params callback token deadline) →
    FailsBy now call deadline event →
    (h.step s now event).1.opens? call = none ∧
      .returned call (.ok none) ∉ (h.step s now event).2
  /-- A subscribe that ends without its stream frees its own feed, unless its token was cancelled,
  and no other. -/
  failed : ∀ {call feed token}, h.opens? call = some (feed, token) →
    (h.step s now event).1.opens? call = none →
    .returned call (.ok none) ∉ (h.step s now event).2 → ∀ f,
      Table.get? f (h.step s now event).1.slots =
        if f = feed ∧ h.isCancelled token = false then none else Table.get? f h.slots
  /-- A live slot stays, is given up, or is handed on by the subscribe whose slot it is. -/
  live : ∀ {feed slot}, Table.get? feed h.slots = some slot → h.isLive slot = true →
    Table.get? feed (h.step s now event).1.slots = some slot ∨
      Table.get? feed (h.step s now event).1.slots = none ∧
        (∃ call, event = .unsubscribe call feed ∨ event = .close call) ∨
      ∃ call token, slot = .opening token ∧ h.opens? call = some (feed, token) ∧
        (h.step s now event).1.opens? call = none ∧
        (Table.get? feed (h.step s now event).1.slots = none ∨
          Table.get? feed (h.step s now event).1.slots = some (.running token) ∧
            (h.step s now event).2 = [.returned call (.ok none)])

/-- A handler stays closed: the subscribes that it finds fail, and calls begin in vain. -/
structure Refuses (s : Settings) (now : Duration) (h : Handler) (event : Event) : Prop where
  closed : (h.step s now event).1.closed = true
  slots : (h.step s now event).1.slots = []
  pending : ∀ {call feed token result}, h.opens? call = some (feed, token) →
    .returned call result ∈ (h.step s now event).2 → ∃ e, result = .error e
  subscribe : ∀ {call feed params callback}, event = .subscribe call feed params callback →
    h.step s now event = (h, [.returned call (.error .notConnected)])
  request : ∀ {call method params}, event = .request call method params →
    h.step s now event = (h, [.returned call (.error .notConnected)])

theorem Owned.exclusive (ho : h.Owned) : h.Exclusive where
  opener := ho.slot_of_opens
  opening hslot := by
    obtain ⟨call, hcall⟩ := ho.backed hslot
    exact ⟨ho.uncancelled hslot, call, hcall, fun _ hcall' => ho.alone hcall' hcall⟩
  receiver {token r} hr hrunning hwanted := by
    have hclaims {token : Token} {r' : Receiver} (hr' : Table.get? token h.receivers = some r')
        (hrunning : r'.hasEnded = false) (hwanted : h.isCancelled token = false) :
        Table.get? r'.feed h.slots = some (.running token) := by
      have hbacked : h.Backed r'.feed (.running token) := ⟨r', hr', rfl⟩
      exact ho.claimed hbacked (by simp [isLive, hasEnded, hr', hrunning]) hwanted
    have hslot := hclaims hr hrunning hwanted
    refine ⟨hslot, fun hr' hrunning' hwanted' hfeed => ?_, fun {call token'} hwaiting => ?_⟩
    · have hslot' := hclaims hr' hrunning' hwanted'
      rw [hfeed, hslot] at hslot'
      exact (Slot.running.inj (Option.some.inj hslot')).symm
    · rw [← Bool.not_eq_false]
      intro hwanted'
      have hslot' := ho.slot_of_opens hwaiting hwanted'
      simp [hslot] at hslot'

theorem Owned.refuses (ho : h.Owned) (hclosed : h.closed = true) (s : Settings) (now : Duration)
    (hadm : h.admits event = true) : Refuses s now h event := by
  have hchanges := changes_step s now hadm
  have hstays := hchanges.stays_closed hclosed
  refine ⟨hstays, ((ho.step hadm s now).shut hstays).1, fun hwaiting hmem => ?_, ?_, ?_⟩
  · exact hchanges.error_of_closed ho hclosed hwaiting hmem
  · rintro call feed params callback rfl
    simp [Handler.step, Handler.subscribe, hclosed]
  · rintro call method params rfl
    simp [Handler.step, Handler.request, hclosed]

/-- **A feed is held by one call or one receiver**, in every run. A subscribe that fails frees no
slot but its own, none takes a slot that is live, and a closed handler holds no feed again. -/
theorem feed_has_one_owner (s : Settings) (events : List (Duration × Event))
    (hadm : admitsAll s initial events = true) :
    (run s initial events).1.Exclusive ∧
      ((∃ now call, (now, .close call) ∈ events) →
        (run s initial events).1.closed = true ∧ (run s initial events).1.slots = []) ∧
      ∀ now event, (run s initial events).1.admits event = true →
        Respects s now (run s initial events).1 event ∧
          ((run s initial events).1.closed = true →
            Refuses s now (run s initial events).1 event) := by
  have ho := owned_run s events owned_initial hadm
  refine ⟨ho.exclusive, fun hclose => ?_, fun now event hnext => ⟨⟨?_, ?_, ?_⟩, fun hclosed => ?_⟩⟩
  · have hclosed := closed_run s events hadm (.inr hclose)
    exact ⟨hclosed, (ho.shut hclosed).1⟩
  · exact ended_of_failsBy s
  · exact ho.slots_of_ended s now hnext
  · exact ho.slot_step s now hnext
  · exact ho.refuses hclosed s now hnext

/-- A subscribe is called off, and another one waits for a stream of the same feed when the stream
of the first turns out not to be opened: the slot is left to the second. -/
theorem late_failure_spares_newer_subscribe :
    let events : List (Duration × Event) :=
      [(.zero, .subscribe ⟨"a"⟩ .newTxs .null ⟨"f"⟩), (.zero, .unsubscribe ⟨"b"⟩ .newTxs),
        (.zero, .subscribe ⟨"c"⟩ .newTxs .null ⟨"g"⟩)]
    let event : Event := .opened ⟨"a"⟩ (.error (.unimplemented "newTxs"))
    admitsAll .standard initial events = true ∧
      (run .standard initial events).1.opens? ⟨"a"⟩ = some (.newTxs, ⟨0⟩) ∧
      (run .standard initial events).1.opens? ⟨"c"⟩ = some (.newTxs, ⟨1⟩) ∧
      Table.get? .newTxs ((run .standard initial events).1.step .standard .zero event).1.slots =
        some (.opening ⟨1⟩) := by
  intro events event
  have hadm : admitsAll .standard initial events = true := by decide
  obtain ⟨howners, -, hsteps⟩ := feed_has_one_owner .standard events hadm
  obtain ⟨hrespects, -⟩ := hsteps .zero event (by decide)
  have hfirst : (run .standard initial events).1.opens? ⟨"a"⟩ = some (.newTxs, ⟨0⟩) := rfl
  have hsecond : (run .standard initial events).1.opens? ⟨"c"⟩ = some (.newTxs, ⟨1⟩) := rfl
  have hcall : Table.get? ⟨"a"⟩ (run .standard initial events).1.calls =
      some (.subscribing .newTxs .null ⟨"f"⟩ ⟨0⟩ (.zero + .ofSeconds 60)) := rfl
  obtain ⟨hended, hfailed⟩ := hrespects.ended hcall (.inr (.inl ⟨_, rfl⟩))
  refine ⟨hadm, hfirst, hsecond, ?_⟩
  rw [hrespects.failed hfirst hended hfailed, if_neg (by decide)]
  exact howners.opener hsecond (by decide)

end Handler

end FeedLink.Grpc
