import FeedLink.Client.Subscriptions
import FeedLink.Grpc.Gateway
import FeedLink.Proofs.Client.Params
import FeedLink.Proofs.Json.Reading

/-!
# What a gateway is asked for by a subscription

A client turns what it is told of a feed into parameters, and leaves out what it was not told; a
gateway reads the parameters again before it opens a stream. The two agree. Whatever a client passes
on for one of the four feeds that are streamed is understood, with the items that were named, or the
default of the feed where none were, and with the filter, or an empty one. What else the parameters
hold makes no difference, for it is not read at all.

## Main definitions

* `Grpc.Streaming` — a subscription to a feed that is streamed
* `Grpc.Streaming.make` — the subscription is made by a client
* `Grpc.Streaming.items`, `Grpc.Streaming.filters` — what it asks for
* `Grpc.Streaming.call` — the procedure that is called for it

## Main results

* `Grpc.FeedParams.ofValue_object` — how the parameters of a feed are understood
* `Grpc.FeedParams.ofValue_congr` — no other field of the parameters is read
* `Grpc.params_understood` — every subscription is understood
-/

namespace FeedLink.Grpc

open Json

/-! ### How parameters are understood -/

namespace FeedParams

theorem plain_record : record.Plain where
  names := by decide
  noAliases := by simp [record, Field.defaulted]
  separate := by simp [Record.Separate, record, Field.spares_defaulted]

/-- **Parameters are understood** in which the items are texts, and the filter is a text or
missing. -/
theorem ofValue_object {fields : List (String × Value)} {items : List String}
    {filters : Option String} (hkeys : (fields.map Prod.fst).Nodup)
    (hitems : lookup "include" fields = some (Params.texts items))
    (hfilters : lookup "filters" fields = filters.map .str) :
    record.codec.ofValue (.object fields) = .ok ⟨items, filters.getD ""⟩ := by
  have htexts : Codec.string.list.ofValue (Params.texts items) = .ok items :=
    (Codec.ofValue_arr (g := id) fun s _ => Codec.ofValue_str s).trans (by rw [List.map_id])
  rw [← lookup_sortFields hkeys] at hitems hfilters
  have hkeys' := ((sortFields_perm hkeys).map Prod.fst).nodup_iff.mpr hkeys
  have hread : ∀ f ∈ record.fields, ∀ v, lookup f.name (sortFields fields) = some v →
      ∃ put, f.read (.ofValue v) = .ok put := by
    simp only [record, List.forall_mem_cons]
    refine ⟨fun v hv => ?_, fun v hv => ?_, nofun⟩
    · obtain rfl := Option.some.inj (hitems.symm.trans hv)
      exact ⟨_, map_eq_ok_iff.mpr ⟨items, htexts, rfl⟩⟩
    · obtain ⟨s, -, rfl⟩ := Option.map_eq_some_iff.mp (hfilters.symm.trans hv)
      exact ⟨_, rfl⟩
  obtain ⟨p, hp, hreceives⟩ := plain_record.exists_ofValue_obj hkeys' hread (by
    simp only [record, List.forall_mem_cons]
    exact ⟨nofun, nofun, nofun⟩)
  simp only [record, List.forall_mem_cons] at hreceives
  obtain ⟨hfirst, hsecond, -⟩ := hreceives
  rw [Field.receives_defaulted_iff (Codec.injective_write_list Codec.injective_write_string)
    (fun _ _ => rfl), Field.name_defaulted, hitems] at hfirst
  rw [Field.receives_defaulted_iff Codec.injective_write_string (fun _ _ => rfl),
    Field.name_defaulted, hfilters] at hsecond
  obtain ⟨included, filters'⟩ := p
  obtain rfl : items = included := Except.ok.inj (htexts.symm.trans hfirst)
  obtain rfl : filters.getD "" = filters' := by
    cases filters with
    | none => exact hsecond.symm
    | some s => exact Except.ok.inj hsecond
  exact hp

/-- **No other field of the parameters is read.** -/
theorem ofValue_congr {fields fields' : List (String × Value)}
    (hitems : (Value.object fields).field? "include" = (Value.object fields').field? "include")
    (hfilters : (Value.object fields).field? "filters" = (Value.object fields').field? "filters") :
    record.codec.ofValue (.object fields) = record.codec.ofValue (.object fields') := by
  refine Record.ofValue_object_congr fun k hknows => ?_
  obtain ⟨f, hf, hkey⟩ := hknows
  have hname : f.name = k := (plain_record.answersTo_iff hf).mp hkey
  simp only [record, List.mem_cons, List.not_mem_nil, or_false] at hf
  rcases hf with rfl | rfl
  · exact hname ▸ hitems
  · exact hname ▸ hfilters

end FeedParams

/-! ### From the client to the gateway -/

/-- A subscription to a feed that is streamed. -/
inductive Streaming where
  | newTxs (p : NewTxParams)
  | pendingTxs (p : PendingTxParams)
  | newBlocks (p : ItemParams)
  | bdnBlocks (p : ItemParams)

namespace Streaming

/-- The subscription is made by a client. -/
def make {σ : Type} (c : Client σ) (callback : Callback) : Streaming → Exchange σ Unit
  | .newTxs p => c.onNewTxs p callback
  | .pendingTxs p => c.onPendingTxs p callback
  | .newBlocks p => c.onNewBlocks p callback
  | .bdnBlocks p => c.onBdnBlocks p callback

def feed : Streaming → Feed
  | .newTxs _ => .newTxs
  | .pendingTxs _ => .pendingTxs
  | .newBlocks _ => .newBlocks
  | .bdnBlocks _ => .bdnBlocks

/-- The items that are named. -/
def named : Streaming → List String
  | .newTxs p => p.items
  | .pendingTxs p => p.items
  | .newBlocks p | .bdnBlocks p => p.items

/-- The items of the feed where none are named. -/
def standard : Streaming → List String
  | .newTxs _ | .pendingTxs _ => ["tx_hash"]
  | .newBlocks _ => ["hash", "header"]
  | .bdnBlocks _ => ["hash"]

/-- The items that are asked for. -/
def items (s : Streaming) : List String := if s.named = [] then s.standard else s.named

/-- The filter, if there is one. Blocks are not filtered. -/
def filters? : Streaming → Option String
  | .newTxs p => p.filters
  | .pendingTxs p => p.filters
  | .newBlocks _ | .bdnBlocks _ => none

/-- The filter as a message has it. -/
def filters (s : Streaming) : String := s.filters?.getD ""

/-- The procedure that is called. -/
def call (s : Streaming) : ProcedureCall :=
  match s with
  | .newTxs _ => ⟨"/gateway.Gateway/NewTxs", TxsRequest.schema.encode ⟨s.filters, s.items⟩⟩
  | .pendingTxs _ => ⟨"/gateway.Gateway/PendingTxs", TxsRequest.schema.encode ⟨s.filters, s.items⟩⟩
  | .newBlocks _ => ⟨"/gateway.Gateway/NewBlocks", BlocksRequest.schema.encode ⟨s.items⟩⟩
  | .bdnBlocks _ => ⟨"/gateway.Gateway/BdnBlocks", BlocksRequest.schema.encode ⟨s.items⟩⟩

/-- The fields of the parameters that are passed on. -/
def fields (s : Streaming) : List (String × Value) :=
  match s with
  | .newTxs p => { p with items := s.items }.fields
  | .pendingTxs p => { p with items := s.items }.fields
  | .newBlocks _ | .bdnBlocks _ => [("include", Params.texts s.items)]

theorem includeOr_eq (s : Streaming) : Params.includeOr s.named s.standard = s.items := by
  rw [Params.includeOr, items]
  simp only [List.isEmpty_iff]

/-- What a client passes on. -/
theorem make_eq {σ : Type} (c : Client σ) (callback : Callback) (s : Streaming) :
    s.make c callback = c.handler.subscribe s.feed (.object s.fields) callback := by
  cases s with
  | newTxs p | pendingTxs p | newBlocks p | bdnBlocks p =>
    rw [fields, ← includeOr_eq]
    rfl

theorem nodup_keys (s : Streaming) : (s.fields.map Prod.fst).Nodup := by
  cases s with
  | newTxs p => exact NewTxParams.nodup_keys _
  | pendingTxs p => exact PendingTxParams.nodup_keys _
  | newBlocks p | bdnBlocks p => exact List.nodup_singleton _

theorem lookup_include (s : Streaming) :
    lookup "include" s.fields = some (Params.texts s.items) := by
  cases s <;> rfl

theorem lookup_filters (s : Streaming) : lookup "filters" s.fields = s.filters?.map .str := by
  cases s with
  | newTxs p =>
    simp [fields, NewTxParams.fields, filters?, Params.lookup_append, Params.lookup_given,
      Params.givenText, lookup]
  | pendingTxs p =>
    simp [fields, PendingTxParams.fields, filters?, Params.lookup_append, Params.lookup_given,
      Params.givenText, lookup]
  | newBlocks p | bdnBlocks p => rfl

/-- What a client passes on is understood. -/
theorem ofValue_fields (s : Streaming) :
    FeedParams.record.codec.ofValue (.object s.fields) = .ok ⟨s.items, s.filters⟩ :=
  FeedParams.ofValue_object s.nodup_keys s.lookup_include s.lookup_filters

theorem txsRequest_ofParams (s : Streaming) :
    TxsRequest.ofParams (.object s.fields) = .ok ⟨s.filters, s.items⟩ := by
  rw [TxsRequest.ofParams, ofValue_fields]
  rfl

theorem blocksRequest_ofParams (s : Streaming) :
    BlocksRequest.ofParams (.object s.fields) = .ok ⟨s.items⟩ := by
  rw [BlocksRequest.ofParams, ofValue_fields]
  rfl

/-- The stream is opened with what was understood. -/
theorem openCall_eq (s : Streaming) : Gateway.openCall s.feed (.object s.fields) = .ok s.call := by
  have htxs := s.txsRequest_ofParams
  have hblocks := s.blocksRequest_ofParams
  cases s with
  | newTxs p =>
    show (((TxsRequest.ofParams _).map _).mapError _).map _ = _
    rw [htxs]
    rfl
  | pendingTxs p =>
    show (((TxsRequest.ofParams _).map _).mapError _).map _ = _
    rw [htxs]
    rfl
  | newBlocks p =>
    show (((BlocksRequest.ofParams _).map _).mapError _).map _ = _
    rw [hblocks]
    rfl
  | bdnBlocks p =>
    show (((BlocksRequest.ofParams _).map _).mapError _).map _ = _
    rw [hblocks]
    rfl

end Streaming

/-- **Every subscription is understood.** What a client passes on for a feed that is streamed is
accepted, with the items that were named or else those of the feed, and with the filter or else an
empty one, and so it is what the stream is opened with. Of any parameters nothing is read but what
they have under two keys. -/
theorem params_understood :
    (∀ s : Streaming, ∃ params,
      (∀ {σ : Type} (c : Client σ) (callback : Callback),
        s.make c callback = c.handler.subscribe s.feed params callback) ∧
      TxsRequest.ofParams params = .ok ⟨s.filters, s.items⟩ ∧
      BlocksRequest.ofParams params = .ok ⟨s.items⟩ ∧
      Gateway.openCall s.feed params = .ok s.call) ∧
    ∀ fields fields' : List (String × Value),
      (Value.object fields).field? "include" = (Value.object fields').field? "include" →
      (Value.object fields).field? "filters" = (Value.object fields').field? "filters" →
      TxsRequest.ofParams (.object fields) = TxsRequest.ofParams (.object fields') ∧
        BlocksRequest.ofParams (.object fields) = BlocksRequest.ofParams (.object fields') := by
  refine ⟨fun s => ⟨.object s.fields, fun c callback => s.make_eq c callback,
    s.txsRequest_ofParams, s.blocksRequest_ofParams, s.openCall_eq⟩,
    fun fields fields' hitems hfilters => ?_⟩
  have hsame := FeedParams.ofValue_congr hitems hfilters
  exact ⟨congrArg (Except.map _) hsame, congrArg (Except.map _) hsame⟩

/-- A filter, and nothing that is asked for. -/
def filtered : List (String × Value) := [("include", .arr []), ("filters", .str "value > 1")]

/-- The same among other fields, one of which is not even of the right type. -/
def crowded : List (String × Value) :=
  [("project", .null), ("filters", .str "value > 1"), ("duplicates", .str "yes"),
    ("include", .arr [])]

/-- The general result about the two, and about pending transactions of which nothing is named. -/
theorem filtered_and_crowded_understood :
    (Value.object filtered).field? "include" = (Value.object crowded).field? "include" ∧
      (Value.object filtered).field? "filters" = (Value.object crowded).field? "filters" ∧
      TxsRequest.ofParams (.object filtered) = TxsRequest.ofParams (.object crowded) ∧
      ∃ params, TxsRequest.ofParams params = .ok ⟨"value > 1", ["tx_hash"]⟩ := by
  obtain ⟨hstreaming, hsame⟩ := params_understood
  have hitems : (Value.object filtered).field? "include" =
      (Value.object crowded).field? "include" := by decide
  have hfilters : (Value.object filtered).field? "filters" =
      (Value.object crowded).field? "filters" := by decide
  obtain ⟨params, -, htxs, -⟩ := hstreaming (.pendingTxs ⟨[], true, some "value > 1", none, none⟩)
  exact ⟨hitems, hfilters, (hsame _ _ hitems hfilters).1, params, htxs⟩

end FeedLink.Grpc
