import FeedLink.Proofs.Inbound
import FeedLink.Proofs.Json.Records
import FeedLink.Proofs.Socket.Waiter

/-!
# Envelopes and frames

What a request calls itself is what a reply to it is looked up under, whether the server sends the
id back as the string that it was or as the integer with the same digits. The result of a reply, its
error and the payload of a push arrive as they were sent. All of this is about texts: a request is
written and read by the server, and a frame is written by the server and read here.

A frame is any object with the fields that it needs, in any order and among others, as long as no
key is there twice and a text may nest as deep.

## Main definitions

* `Request.envelope` — the text of a request, spelled out
* `Request.Built` — a request as callers build them
* `RequestId.Echoes` — the id of a request in a reply
* `RepliesTo`, `Pushes` — the fields of a frame
* `RemoteError.asRead` — what is left of an error on its way
* `Carries`, `Foreign` — the texts that bring an outcome to a request, and those that bring none

## Main results

* `Request.text_new`, `Request.text_subscribe`, `Request.text_unsubscribe` — what is written
* `Request.id_of_text` — what a server finds in the id field of a request
* `Request.method_of_text` — the text of a request tells its method and its parameters
* `RepliesTo.parse_result`, `RepliesTo.parse_error`, `Pushes.parse`
* `Carries.parse`, `Foreign.parse_ne` — how a text is looked at that was spelled out
* `envelopes_and_frames_agree`
-/

namespace FeedLink

open Json

namespace Json.Value

/-- An array that begins with a text is written with that text in front. -/
theorem exists_chars_arr (a : String) (rest : List Value) :
    ∃ more, (Value.arr (.str a :: rest)).chars = '[' :: (renderString a ++ more) := by
  cases rest with
  | nil => exact ⟨[']'], rfl⟩
  | cons v rest => exact ⟨',' :: charsItems (v :: rest) ++ [']'], by simp [chars, charsItems]⟩

/-- The text of an array tells the text that the array begins with. -/
theorem head_of_render_arr {a b : String} {rest rest' : List Value}
    (htext : (Value.arr (.str a :: rest)).render = (Value.arr (.str b :: rest')).render) :
    a = b := by
  obtain ⟨more, hmore⟩ := exists_chars_arr a rest
  obtain ⟨more', hmore'⟩ := exists_chars_arr b rest'
  have hchars := String.ofList_injective htext
  rw [hmore, hmore'] at hchars
  exact (renderString_append_inj (List.cons.inj hchars).2).1

end Json.Value

/-- A value stands for the id in a reply: it is the id, or the integer with the same digits. -/
def RequestId.Echoes (id : RequestId) (v : Value) : Prop :=
  v = id.toValue ∨
    ∃ i bounded, v = .num (.int i bounded) ∧ String.ofList (Number.renderInt i) = id.key

namespace Request

/-- A request as callers build them, under the `n`th correlation id. -/
inductive Built : Nat → Request → Prop
  | new (n : Nat) (method : String) (params : Value) : Built n (.new n method params)
  | subscribe (n : Nat) (feed : Feed) (params : Value) : Built n (.subscribe n feed params)
  | unsubscribe (n : Nat) (id : SubscriptionId) : Built n (.unsubscribe n id)
  | unsubscribeAll (n : Nat) : Built n (.unsubscribeAll n)
  | withFreshId {m : Nat} {r : Request} (n : Nat) (built : Built m r) : Built n (r.withFreshId n)

variable {r : Request} {n : Nat}

theorem Built.id_eq (hbuilt : Built n r) : r.id = .fresh n := by
  cases hbuilt <;> rfl

/-- The fields of the text of a request. -/
theorem writeFields_eq (r : Request) :
    record.writeFields r =
      ("jsonrpc", .str r.version) :: ("id", r.id.toValue) :: ("method", .str r.method) ::
        (r.params.map (("params", ·))).toList := by
  cases hparams : r.params <;>
    simp [Record.writeFields, record, Field.required, Field.sparse, Field.keptInArrays, hparams,
      Codec.string, Codec.value, RequestId.codec]

/-- The text of a request with parameters, spelled out. -/
def envelope (n : Nat) (method : String) (params : Value) : String :=
  (Value.obj [("jsonrpc", .str "2.0"), ("id", .str (toString n)), ("method", .str method),
    ("params", params)]).render

theorem text_new (n : Nat) (method : String) (params : Value) :
    (new n method params).text = envelope n method params :=
  congrArg (Value.render ∘ Value.obj) (writeFields_eq (new n method params))

/-- A subscribe names its feed and then its parameters. -/
theorem text_subscribe (n : Nat) (feed : Feed) (params : Value) :
    (subscribe n feed params).text = envelope n "subscribe" (.arr [.str feed.name, params]) :=
  text_new ..

/-- An unsubscribe names the id of the subscription that is given up. -/
theorem text_unsubscribe (n : Nat) (x : SubscriptionId) :
    (unsubscribe n x).text = envelope n "unsubscribe" (.arr [.str x.text]) :=
  text_new ..

/-- **What a server finds in the id field of a request** is what a reply is looked up under. -/
theorem id_of_text (hbuilt : Built n r)
    (hparams : ∀ p, r.params = some p → p.fits (Document.maxLevels - 1) = true) :
    ∃ frame, Value.parse r.text = .ok frame ∧
      (frame.field? "id").bind RequestId.keyOf? = some r.id.key := by
  have hid := hbuilt.id_eq
  have hfits : (record.write r).fits Document.maxLevels = true := by
    cases hp : r.params with
    | none => simp [Record.write, writeFields_eq, hp, hid, Value.fits, Value.fitsFields,
        Document.maxLevels, RequestId.fresh, RequestId.toValue]
    | some p =>
      have hp' := hparams p hp
      simpa [Record.write, writeFields_eq, hp, hid, Value.fits, Value.fitsFields,
        Document.maxLevels, RequestId.fresh, RequestId.toValue] using hp'
  have hkeys : ((record.writeFields r).map Prod.fst).Nodup := by
    cases hp : r.params <;> simp [writeFields_eq, hp]
  refine ⟨_, Value.parse_render _ hfits, ?_⟩
  rw [show record.codec.write r = .obj (record.writeFields r) from rfl, Value.field?_sorted hkeys,
    writeFields_eq, hid]
  rfl

/-- What stands behind the method in the text of a request. -/
def charsParams : Option Value → List Char
  | none => ['\x7d']
  | some params => ',' :: renderString "params" ++ ':' :: params.chars ++ ['\x7d']

theorem toList_text (hid : r.id = .fresh n) :
    r.text.toList = '\x7b' :: renderString "jsonrpc" ++ ':' :: renderString r.version ++
      ',' :: renderString "id" ++ ':' :: renderString (toString n) ++
      ',' :: renderString "method" ++ ':' :: renderString r.method ++ charsParams r.params := by
  have hfields : r.text.toList = (Value.obj (record.writeFields r)).chars := by
    rw [text, Codec.toText, Value.render, String.toList_ofList]
    rfl
  rw [hfields, writeFields_eq, hid]
  cases r.params <;>
    simp [Value.chars, Value.charsFields, charsParams, RequestId.fresh, RequestId.toValue]

theorem charsParams_inj {params params' : Option Value}
    (heq : charsParams params = charsParams params') :
    params.map Value.render = params'.map Value.render := by
  cases params <;> cases params' <;> simp_all [charsParams, Value.render]

/-- **The text of a request tells its method and its parameters.** -/
theorem method_of_text {r' : Request} {n' : Nat} (hid : r.id = .fresh n) (hid' : r'.id = .fresh n')
    (htext : r.text = r'.text) :
    r.method = r'.method ∧ r.params.map Value.render = r'.params.map Value.render := by
  have hchars := congrArg String.toList htext
  rw [toList_text hid, toList_text hid'] at hchars
  simp only [List.cons_append, List.append_assoc, List.cons.injEq, true_and,
    List.append_cancel_left_eq] at hchars
  obtain ⟨-, hchars⟩ := renderString_append_inj hchars
  simp only [List.cons.injEq, true_and, List.append_cancel_left_eq] at hchars
  obtain ⟨-, hchars⟩ := renderString_append_inj hchars
  simp only [List.cons.injEq, true_and, List.append_cancel_left_eq] at hchars
  obtain ⟨hmethod, hparams⟩ := renderString_append_inj hchars
  exact ⟨hmethod, charsParams_inj hparams⟩

/-- **The text of a subscribe tells its feed.** -/
theorem feed_of_text {f g : Feed} {n' : Nat} {params params' : Value}
    (htext : (subscribe n f params).text = (subscribe n' g params').text) : f = g := by
  obtain ⟨-, hparams⟩ := method_of_text rfl rfl htext
  exact congrArg Feed.mk (Value.head_of_render_arr (Option.some.inj hparams))

/-- **The text of an unsubscribe tells the id** of the subscription that is given up. -/
theorem unsubscribed_of_text {x y : SubscriptionId} {n' : Nat}
    (htext : envelope n "unsubscribe" (.arr [.str x.text]) =
      envelope n' "unsubscribe" (.arr [.str y.text])) : x = y := by
  rw [← text_unsubscribe, ← text_unsubscribe] at htext
  obtain ⟨-, hparams⟩ := method_of_text rfl rfl htext
  exact congrArg SubscriptionId.mk (Value.head_of_render_arr (Option.some.inj hparams))

end Request

/-- The fields of a frame: no key is there twice, and a text may nest as deep. -/
structure Frame (fields : List (String × Value)) : Prop where
  distinct : (fields.map Prod.fst).Nodup
  readable : (Value.obj fields).fits Document.maxLevels = true

/-- The fields of a frame that replies to the request with an id. -/
structure RepliesTo (id : RequestId) (fields : List (String × Value)) : Prop extends
    Frame fields where
  echo : ∃ v, ("id", v) ∈ fields ∧ id.Echoes v
  method : ("method", .str Request.subscribeMethod) ∉ fields

/-- The fields of a frame that pushes a payload to a subscription. -/
structure Pushes (x : SubscriptionId) (v : Value) (fields : List (String × Value)) : Prop extends
    Frame fields where
  method : ("method", .str Request.subscribeMethod) ∈ fields
  params : ∃ params, ("params", .obj params) ∈ fields ∧ (params.map Prod.fst).Nodup ∧
    ("subscription", .str x.text) ∈ params ∧ ("result", v) ∈ params

variable {fields : List (String × Value)} {n : Nat} {v : Value} {key : String}

theorem Frame.parse (hframe : Frame fields) :
    Inbound.parse (Value.obj fields).render = .ok (Inbound.ofValue (Value.obj fields).sorted) := by
  rw [Inbound.parse, Value.parse_render _ hframe.readable]
  rfl

/-- What a frame has under a key. -/
theorem Frame.field?_of_mem (hframe : Frame fields) (hmem : (key, v) ∈ fields) :
    (Value.obj fields).sorted.field? key = some v.sorted := by
  rw [Value.field?_sorted hframe.distinct, lookup_of_mem hframe.distinct hmem, Option.map_some]

/-- A text of a frame in order was there before. -/
theorem Frame.mem_of_field?_str (hframe : Frame fields) {s : String}
    (hfield : (Value.obj fields).sorted.field? key = some (.str s)) : (key, .str s) ∈ fields := by
  rw [Value.field?_sorted hframe.distinct] at hfield
  obtain ⟨w, hlookup, hsorted⟩ := Option.map_eq_some_iff.mp hfield
  cases w with
  | str => exact hsorted ▸ mem_of_lookup hlookup
  | null | bool | num | arr | obj => contradiction

/-- An object of a frame in order was an object before. -/
theorem Frame.mem_of_field?_obj (hframe : Frame fields) {e : List (String × Value)}
    (hfield : (Value.obj fields).sorted.field? key = some (.obj e)) :
    ∃ e', (key, .obj e') ∈ fields := by
  rw [Value.field?_sorted hframe.distinct] at hfield
  obtain ⟨w, hlookup, hsorted⟩ := Option.map_eq_some_iff.mp hfield
  cases w with
  | obj e' => exact ⟨e', mem_of_lookup hlookup⟩
  | null | bool | num | str | arr => contradiction

theorem RequestId.keyOf?_of_echoes {digits : String} (hecho : (RequestId.string digits).Echoes v) :
    RequestId.keyOf? v.sorted = some digits := by
  rcases hecho with rfl | ⟨i, bounded, rfl, hdigits⟩
  · rfl
  · exact congrArg some hdigits

/-- A reply is looked at as one, under the key of the request that it echoes. -/
theorem RepliesTo.parse_iff {digits : String} (hreply : RepliesTo (.string digits) fields)
    (key : String) (outcome : Outcome) :
    Inbound.parse (Value.obj fields).render = .ok (.reply key outcome) ↔
      digits = key ∧ Inbound.outcome? (Value.obj fields).sorted = some outcome := by
  obtain ⟨id, hid, hecho⟩ := hreply.echo
  have hkey : ((Value.obj fields).sorted.field? "id").bind RequestId.keyOf? = some digits := by
    rw [hreply.field?_of_mem hid, Option.bind_some, RequestId.keyOf?_of_echoes hecho]
  have hmethod : ¬Inbound.LooksLikePush (Value.obj fields).sorted := fun hpush =>
    hreply.method (hreply.mem_of_field?_str hpush)
  rw [hreply.parse, Except.ok.injEq, Inbound.ofValue_eq_reply_iff, and_iff_right hmethod, hkey,
    Option.some.injEq]

/-- **A result arrives as it was sent.** -/
theorem RepliesTo.parse_result (hreply : RepliesTo (.fresh n) fields)
    (hresult : ("result", v) ∈ fields) (herror : ∀ e, ("error", .obj e) ∉ fields) :
    Inbound.parse (Value.obj fields).render =
      .ok (.reply (RequestId.fresh n).key (.ok v.sorted)) := by
  refine (hreply.parse_iff ..).mpr ⟨rfl, ?_⟩
  rcases Inbound.outcome?_cases (Value.obj fields).sorted with ⟨e, hfield, -⟩ | ⟨-, hout⟩
  · obtain ⟨e', hmem⟩ := hreply.mem_of_field?_obj hfield
    exact absurd hmem (herror e')
  · rw [hout, hreply.field?_of_mem hresult, Option.map_some]

/-! ### Errors -/

theorem Json.Codec.int64_read (n : Int64) :
    Codec.int64.read (.num (.ofInt64 n)) = .ok n := by
  have hlow := n.le_toInt
  have hhigh := n.toInt_lt
  have hbounds : -9223372036854775808 ≤ n.toInt ∧ n.toInt ≤ 9223372036854775807 := by omega
  simp only [Codec.int64, Codec.readInteger, Number.ofInt64, if_pos hbounds, Except.map,
    Int64.ofInt_toInt]

/-- An optional value that is read once more is what it was, but null is none. -/
theorem Json.Codec.option_value_read (v : Value) :
    Codec.value.option.read (.ofValue v.sorted) = .ok ((some v.sorted).filter (· ≠ .null)) := by
  have hvalue : (Document.ofValue v.sorted).value = .ok v.sorted := by
    rw [Document.value_ofValue, Value.sorted_sorted]
  rcases eq_or_ne v.sorted .null with hnull | hne
  · rw [hnull]
    rfl
  · have hread : Codec.value.read (.ofValue v.sorted) = .ok v.sorted :=
      congrArg Document.orBroken hvalue
    have hkept : (some v.sorted).filter (· ≠ .null) = some v.sorted := by simp [hne]
    rw [hkept]
    unfold Codec.option
    dsimp only
    split
    · next hdoc =>
      rw [hdoc] at hvalue
      exact absurd (Except.ok.inj hvalue).symm hne
    · rw [hread]
      rfl

namespace RemoteError

/-- The fields of an error object, spelled out. -/
def spelled (e : RemoteError) : List (String × Value) :=
  ("code", .num (.ofInt64 e.code)) :: ("message", .str e.message) ::
    (e.data.map (("data", ·))).toList

theorem writeFields_eq (e : RemoteError) : record.writeFields e = e.spelled := by
  cases hdata : e.data <;>
    simp [record, Record.writeFields, Field.required, Field.sparse, spelled, hdata, Codec.int64,
      Codec.string, Codec.value]

/-- What is left of an error on its way: data that is null is as good as none. -/
def asRead (e : RemoteError) : RemoteError :=
  { e with data := (e.data.map Value.sorted).filter (· ≠ .null) }

/-- The error object of an error, its fields in order. -/
theorem sorted_write (e : RemoteError) :
    (record.write e).sorted =
      .obj (("code", .num (.ofInt64 e.code)) ::
        ((e.data.map fun d => ("data", d.sorted)).toList ++ [("message", .str e.message)])) := by
  obtain ⟨code, message, data⟩ := e
  cases data with
  | none =>
    have hkeys : (["code", "message"] : List String).Pairwise (· < ·) := by decide
    exact congrArg Value.obj (sortFields_of_ascending (List.pairwise_map.mp hkeys))
  | some d =>
    have hkeys : (["code", "data", "message"] : List String).Pairwise (· < ·) := by decide
    have hdistinct : (([("code", .num (.ofInt64 code)), ("message", .str message), ("data", d)] :
        List (String × Value)).map Prod.fst).Nodup := by simp
    refine (Value.sorted_congr hdistinct (.cons _ (.swap ..))).trans ?_
    exact congrArg Value.obj (sortFields_of_ascending (List.pairwise_map.mp hkeys))

/-- The fields of an error object, in order, are read into its error. -/
theorem readFields_write (e : RemoteError) :
    ∃ met, record.readFields (Document.ofFields (("code", .num (.ofInt64 e.code)) ::
        ((e.data.map fun d => ("data", d.sorted)).toList ++ [("message", .str e.message)])))
          ⟨record.blank, []⟩ = .ok ⟨e.asRead, met⟩ ∧ "code" ∈ met ∧ "message" ∈ met := by
  have hcode := congrArg (Except.map fun a (e : RemoteError) => { e with code := a })
    (Codec.int64_read e.code)
  obtain ⟨code, message, data⟩ := e
  cases data with
  | none =>
    refine ⟨["message", "code"], ?_, by simp, by simp⟩
    simp only [Option.map_none, Option.toList_none, List.nil_append, Document.ofFields]
    rw [Record.readFields_cons _ rfl rfl hcode, Record.readFields_cons _ rfl rfl rfl]
    rfl
  | some d =>
    have hdata := congrArg (Except.map fun a (e : RemoteError) => { e with data := a })
      (Codec.option_value_read d)
    refine ⟨["message", "data", "code"], ?_, by simp, by simp⟩
    simp only [Option.map_some, Option.toList_some, List.singleton_append, Document.ofFields]
    rw [Record.readFields_cons _ rfl rfl hcode, Record.readFields_cons _ rfl rfl hdata,
      Record.readFields_cons _ rfl rfl rfl]
    rfl

/-- **An error object stands for its error.** -/
theorem remoteError_write (e : RemoteError) :
    Inbound.remoteError (record.write e).sorted = e.asRead := by
  obtain ⟨met, hfields, hcode, hmessage⟩ := readFields_write e
  have hcomplete : record.complete ⟨e.asRead, met⟩ = .ok e.asRead := by
    simp [Record.complete, record, Field.required, Field.sparse, hcode, hmessage]
  have hread : record.codec.ofValue (record.write e).sorted = .ok e.asRead := by
    rw [sorted_write, Codec.ofValue, Document.ofValue]
    simp only [Record.codec, Record.read, hfields]
    exact hcomplete
  rw [Inbound.remoteError, hread]

end RemoteError

/-- **An error arrives as its code, its message and its data.** -/
theorem RepliesTo.parse_error (hreply : RepliesTo (.fresh n) fields)
    {object : List (String × Value)} (herror : ("error", .obj object) ∈ fields) {e : RemoteError}
    (hobject : object.Perm (RemoteError.record.writeFields e)) :
    Inbound.parse (Value.obj fields).render =
      .ok (.reply (RequestId.fresh n).key (.error e.asRead)) := by
  have hkeys : ((RemoteError.record.writeFields e).map Prod.fst).Nodup := by
    cases hdata : e.data <;>
      simp [RemoteError.record, Record.writeFields, Field.required, Field.sparse, hdata]
  have hsorted : (Value.obj object).sorted = (RemoteError.record.write e).sorted :=
    (Value.sorted_congr hkeys hobject.symm).symm
  refine (hreply.parse_iff ..).mpr ⟨rfl, ?_⟩
  rcases Inbound.outcome?_cases (Value.obj fields).sorted with ⟨o, hfield, hout⟩ | ⟨hother, -⟩
  · rw [hreply.field?_of_mem herror] at hfield
    rw [hout, ← Option.some.inj hfield, hsorted, RemoteError.remoteError_write]
  · exact absurd (hreply.field?_of_mem herror) (hother _)

/-- **A push arrives with its payload.** -/
theorem Pushes.parse {x : SubscriptionId} (hpush : Pushes x v fields) :
    Inbound.parse (Value.obj fields).render = .ok (.push x v.sorted) := by
  obtain ⟨params, hparams, hkeys, hsubscription, hresult⟩ := hpush.params
  have hmethod : (Value.obj fields).sorted.field? "method" = some (.str Request.subscribeMethod) :=
    hpush.field?_of_mem hpush.method
  have hfield := hpush.field?_of_mem hparams
  have hid : (Value.obj params).sorted.field? "subscription" = some (.str x.text) := by
    rw [Value.field?_sorted hkeys, lookup_of_mem hkeys hsubscription]
    rfl
  have hpayload : (Value.obj params).sorted.field? "result" = some v.sorted := by
    rw [Value.field?_sorted hkeys, lookup_of_mem hkeys hresult, Option.map_some]
  rw [hpush.toFrame.parse, Inbound.ofValue, if_pos hmethod, hfield]
  simp only [Inbound.ofPushParams, hid, hpayload, Option.bind_some, Value.asString?,
    Option.getD_some]

/-! ### Texts for a request -/

/-- A text that brings an outcome to the request with the `n`th correlation id: a frame with its id,
and with a result or an error object. -/
inductive Carries (n : Nat) : String → Outcome → Prop
  | result {fields : List (String × Value)} {v : Value} (replies : RepliesTo (.fresh n) fields)
      (result : ("result", v) ∈ fields) (noError : ∀ e, ("error", .obj e) ∉ fields) :
      Carries n (Value.obj fields).render (.ok v.sorted)
  | error {fields object : List (String × Value)} {e : RemoteError}
      (replies : RepliesTo (.fresh n) fields) (error : ("error", .obj object) ∈ fields)
      (spelled : object.Perm e.spelled) : Carries n (Value.obj fields).render (.error e.asRead)

/-- A text that brings nothing to the request with the `n`th correlation id: a reply to another
request, a push, or no frame at all. -/
inductive Foreign (n : Nat) : String → Prop
  | reply {fields : List (String × Value)} {other : String}
      (replies : RepliesTo (.string other) fields) (other_ne : other ≠ toString n) :
      Foreign n (Value.obj fields).render
  | push {fields : List (String × Value)} (frame : Frame fields)
      (method : ("method", .str "subscribe") ∈ fields) : Foreign n (Value.obj fields).render
  | unreadable {text : String} {fault : Fault} (fails : Value.parse text = .error fault) :
      Foreign n text

theorem Carries.parse {text : String} {outcome : Outcome} (hcarries : Carries n text outcome) :
    Inbound.parse text = .ok (.reply (toString n) outcome) := by
  cases hcarries with
  | result hreply hresult hnoError => exact hreply.parse_result hresult hnoError
  | @error _ _ e hreply herror hspelled =>
    exact hreply.parse_error herror (RemoteError.writeFields_eq e ▸ hspelled)

theorem Foreign.parse_ne {text : String} (hforeign : Foreign n text) (outcome : Outcome) :
    Inbound.parse text ≠ .ok (.reply (toString n) outcome) := by
  cases hforeign with
  | reply hreply hne => exact fun hparse => hne ((hreply.parse_iff ..).mp hparse).1
  | push hframe hmethod =>
    rw [hframe.parse, ne_eq, Except.ok.injEq, Inbound.ofValue_eq_reply_iff]
    exact fun hparse => hparse.1 (hframe.field?_of_mem hmethod)
  | unreadable hfails =>
    rw [Inbound.parse, hfails]
    exact nofun

/-- **Envelopes and frames agree.** What a server finds in the id field of a request is the key
under which its reply is looked up, and a reply with this id, or with the integer of the same
digits, arrives under that key, with the result or the error that it was sent with. A push arrives
with its subscription and its payload. No other request has the key, whatever its counter. -/
theorem envelopes_and_frames_agree {r : Request} (hbuilt : Request.Built n r)
    (hparams : ∀ p, r.params = some p → p.fits (Document.maxLevels - 1) = true) :
    (∃ frame, Value.parse r.text = .ok frame ∧
      (frame.field? "id").bind RequestId.keyOf? = some r.id.key) ∧
    (∀ fields, RepliesTo r.id fields →
      (∀ v, ("result", v) ∈ fields → (∀ e, ("error", .obj e) ∉ fields) →
        Inbound.parse (Value.obj fields).render = .ok (.reply r.id.key (.ok v.sorted))) ∧
      ∀ object, ("error", .obj object) ∈ fields → ∀ e : RemoteError,
        object.Perm (RemoteError.record.writeFields e) →
          Inbound.parse (Value.obj fields).render = .ok (.reply r.id.key (.error e.asRead))) ∧
    (∀ x v fields, Pushes x v fields →
      Inbound.parse (Value.obj fields).render = .ok (.push x v.sorted)) ∧
    ∀ m r', Request.Built m r' → m ≠ n → r'.id.key ≠ r.id.key := by
  have hid := hbuilt.id_eq
  refine ⟨Request.id_of_text hbuilt hparams, fun fields hreply => ?_,
    fun x v fields hpush => hpush.parse, fun m r' hbuilt' hne => ?_⟩
  · rw [hid] at hreply ⊢
    exact ⟨fun v hresult herror => hreply.parse_result hresult herror,
      fun object herror e hobject => hreply.parse_error herror hobject⟩
  · rw [hbuilt'.id_eq, hid]
    exact fun hkey => hne (Socket.key_fresh_inj.mp hkey)

theorem numeric_reply_to_subscribe :
    (∃ frame, Value.parse (Request.subscribe 7 .newTxs (.obj [])).text = .ok frame ∧
      (frame.field? "id").bind RequestId.keyOf? = some "7") ∧
    Inbound.parse (Value.obj [("result", .str "s-1"), ("id", .num (.int 7 (by decide)))]).render =
      .ok (.reply "7" (.ok (.str "s-1"))) := by
  obtain ⟨henvelope, hreplies, -⟩ :=
    envelopes_and_frames_agree (.subscribe 7 .newTxs (.obj [])) fun p hp => by
      obtain rfl := Option.some.inj hp
      rfl
  have hreply : RepliesTo (.fresh 7)
      [("result", .str "s-1"), ("id", .num (.int 7 (by decide)))] :=
    { distinct := by simp
      readable := rfl
      echo := ⟨_, by simp, .inr ⟨7, by decide, rfl, by decide⟩⟩
      method := by simp }
  exact ⟨henvelope, (hreplies _ hreply).1 (.str "s-1") (by simp) (by simp)⟩

end FeedLink
