import FeedLink.Client.OnBlockCall
import FeedLink.Client.Recording
import FeedLink.Proofs.Client.Params
import Mathlib.Data.List.Induction

/-!
# What the object of a call says

A call is built step by step, and of steps that say the same kind of thing the last one counts. In
the object that is sent for it, the fixed fields and the arguments stand side by side, and the
arguments are written last. So under every key there is the argument, or else the fixed field.

The object tells the truth about the method, the tag and the name as long as no argument says
otherwise under one of their keys, and it tells two calls apart that differ once such arguments have
been put where they end up. A call whose arguments stay clear of the fixed keys can be read off its
object.

## Main definitions

* `OnBlockCall.Edit`, `OnBlockCall.built` — building a call
* `OnBlockCall.sent?` — the text that is sent under a key
* `OnBlockCall.Faithful` — the object says what the call says
* `OnBlockCall.settled` — the call with arguments where they end up

## Main results

* `OnBlockCall.said_built` — what a call says is what was said last
* `OnBlockCall.field?_toValue` — what is under a key of the object
* `OnBlockCall.faithful_iff_agrees` — when the object says what the call says
* `OnBlockCall.toValue_eq_iff` — which calls have the same object
* `OnBlockCall.faithful_unless_displaced` — the two for the calls that a client sends
-/

namespace FeedLink.OnBlockCall

open Json

/-! ### Building a call -/

/-- A step in building a call. -/
inductive Edit where
  | arg (key value : String)
  | named (name : String)
  | tagged (tag : String)

namespace Edit

def apply : Edit → OnBlockCall → OnBlockCall
  | arg key value => OnBlockCall.arg key value
  | named name => OnBlockCall.named name
  | tagged tag => OnBlockCall.tagged tag

/-- The tag that a step sets. -/
def tag? : Edit → Option String
  | tagged tag => some tag
  | arg .. | named _ => none

/-- The name that a step sets. -/
def name? : Edit → Option String
  | named name => some name
  | arg .. | tagged _ => none

/-- The argument that a step puts under a key. -/
def arg? (k : String) : Edit → Option String
  | arg key value => if key = k then some value else none
  | named _ | tagged _ => none

variable (e : Edit) (call : OnBlockCall)

/-! A step changes what it says and nothing else. -/

theorem method_apply : (e.apply call).method = call.method := by cases e <;> rfl

theorem tag_apply : (e.apply call).tag = e.tag?.or call.tag := by cases e <;> rfl

theorem name_apply : (e.apply call).name = e.name?.or call.name := by cases e <;> rfl

theorem lookup_apply (k : String) :
    lookup k (e.apply call).args = (e.arg? k).or (lookup k call.args) := by
  cases e with
  | arg key value =>
    refine (lookup_insertField value call.args).trans ?_
    rw [arg?]
    split <;> rfl
  | named name | tagged tag => rfl

theorem ascending_apply (hargs : Ascending call.args) : Ascending (e.apply call).args := by
  cases e with
  | arg key value => exact ascending_insertField hargs key value
  | named name | tagged tag => exact hargs

/-- What the last of the steps says that says anything. -/
def last (said : Edit → Option String) (edits : List Edit) : Option String :=
  edits.reverse.findSome? said

theorem last_concat (said : Edit → Option String) (edits : List Edit) :
    last said (edits ++ [e]) = (said e).or (last said edits) := by
  rw [last, last, List.reverse_concat, List.findSome?_cons]
  cases said e <;> rfl

end Edit

/-- The call of a method that steps build. -/
def built (method : String) (edits : List Edit) : OnBlockCall :=
  edits.foldl (fun call e => e.apply call) (new method)

/-- A call says what was said last, and lists its arguments in order. -/
structure Said (method : String) (edits : List Edit) (call : OnBlockCall) : Prop where
  method : call.method = method
  tag : call.tag = Edit.last Edit.tag? edits
  name : call.name = Edit.last Edit.name? edits
  args : ∀ key, lookup key call.args = Edit.last (Edit.arg? key) edits
  ascending : Ascending call.args

theorem said_new (method : String) : Said method [] (new method) :=
  ⟨rfl, rfl, rfl, fun _ => rfl, List.Pairwise.nil⟩

/-- One more step. -/
theorem Said.apply {method : String} {edits : List Edit} {call : OnBlockCall}
    (hsaid : Said method edits call) (e : Edit) : Said method (edits ++ [e]) (e.apply call) where
  method := by rw [Edit.method_apply, hsaid.method]
  tag := by rw [Edit.tag_apply, Edit.last_concat, hsaid.tag]
  name := by rw [Edit.name_apply, Edit.last_concat, hsaid.name]
  args key := by rw [Edit.lookup_apply, Edit.last_concat, hsaid.args]
  ascending := Edit.ascending_apply e call hsaid.ascending

/-- **What a call says is what was said last.** -/
theorem said_built (method : String) (edits : List Edit) :
    Said method edits (built method edits) := by
  induction edits using List.reverseRecOn with
  | nil => exact said_new method
  | append_singleton edits e ih =>
    rw [built, List.foldl_concat]
    exact ih.apply e

theorem ascending_built (method : String) (edits : List Edit) :
    Ascending (built method edits).args :=
  (said_built method edits).ascending

/-! ### The object -/

/-- The keys of the fixed fields. -/
def fixedKeys : List String := ["method", "tag", "name"]

variable {a b call : OnBlockCall}

/-- What the fixed field under a key says. -/
def fixed? (call : OnBlockCall) (key : String) : Option String :=
  if key = "method" then some call.method
  else if key = "tag" then call.tag
  else if key = "name" then call.name
  else none

theorem fixed?_eq_none {key : String} (hkey : key ∉ fixedKeys) : call.fixed? key = none := by
  simp only [fixedKeys, List.mem_cons, List.not_mem_nil, or_false, not_or] at hkey
  rw [fixed?, if_neg hkey.1, if_neg hkey.2.1, if_neg hkey.2.2]

/-- The text that is sent under a key: the argument, or else the fixed field. -/
def sent? (call : OnBlockCall) (key : String) : Option String :=
  (lookup key call.args).or (call.fixed? key)

/-- The fixed fields that are sent. -/
def fixedFields (call : OnBlockCall) : List (String × Value) :=
  [("method", .str call.method)] ++ Params.givenText "tag" call.tag ++
    Params.givenText "name" call.name

theorem nodup_fixedFields (call : OnBlockCall) : (call.fixedFields.map Prod.fst).Nodup :=
  (Params.keys_append (Params.keys_append (Params.keys_refl _) (Params.keys_given "tag" _))
    (Params.keys_given "name" _)).nodup (by simp)

theorem lookup_fixedFields (call : OnBlockCall) (k : String) :
    lookup k call.fixedFields = (call.fixed? k).map .str := by
  rw [fixedFields, Params.givenText, Params.givenText, Params.lookup_append, Params.lookup_append,
    Params.lookup_given, Params.lookup_given]
  by_cases hmethod : k = "method"
  · subst hmethod
    rfl
  by_cases htag : k = "tag"
  · subst htag
    simp [lookup, fixed?]
  by_cases hname : k = "name"
  · subst hname
    simp [lookup, fixed?]
  · simp [lookup, fixed?, hmethod, htag, hname, Ne.symm hmethod, Ne.symm htag, Ne.symm hname]

/-- **What is under a key of the object** is the text that is sent under it, and nothing else. -/
theorem field?_toValue (hargs : Ascending call.args) (k : String) :
    call.toValue.field? k = (call.sent? k).map .str := by
  have hkeys : ((call.args.map fun a => (a.1, Value.str a.2)).map Prod.fst).Nodup := by
    rw [List.map_map]
    exact hargs.nodup_keys
  have hlookup : call.toValue.field? k = (lookup k (call.args.map fun a => (a.1, Value.str a.2))).or
      (lookup k call.fixedFields) :=
    lookup_sortFields_append call.nodup_fixedFields hkeys k
  rw [hlookup, lookup_map, lookup_fixedFields, sent?]
  cases lookup k call.args <;> rfl

/-- Two calls have the same object if the same texts are sent for them. -/
theorem toValue_eq_iff_sent? (ha : Ascending a.args) (hb : Ascending b.args) :
    a.toValue = b.toValue ↔ ∀ k, a.sent? k = b.sent? k := by
  constructor
  · intro heq k
    have hfield : (a.sent? k).map Value.str = (b.sent? k).map Value.str := by
      rw [← field?_toValue ha, ← field?_toValue hb, heq]
    exact Option.map_injective (fun _ _ => Value.str.inj) hfield
  · intro hsent
    refine congrArg Value.obj ((ascending_sortFields _).eq_of_lookup (ascending_sortFields _)
      fun k => ?_)
    exact (field?_toValue ha k).trans ((congrArg _ (hsent k)).trans (field?_toValue hb k).symm)

/-! ### When the object says what the call says -/

/-- The object says what the call says: its method, its tag and its name, as far as it has them, and
all of its arguments. -/
structure Faithful (call : OnBlockCall) : Prop where
  method : call.toValue.field? "method" = some (.str call.method)
  tag : call.toValue.field? "tag" = call.tag.map .str
  name : call.toValue.field? "name" = call.name.map .str
  args : ∀ key value, lookup key call.args = some value →
    call.toValue.field? key = some (.str value)

/-- Arguments under the keys of fixed fields say what these say. -/
def Agrees (call : OnBlockCall) : Prop :=
  ∀ a ∈ call.args, a.1 ∈ fixedKeys → call.fixed? a.1 = some a.2

instance : Decidable call.Agrees :=
  inferInstanceAs (Decidable (∀ a ∈ call.args, a.1 ∈ fixedKeys → call.fixed? a.1 = some a.2))

theorem agrees_iff (hargs : Ascending call.args) :
    call.Agrees ↔ ∀ key ∈ fixedKeys, call.sent? key = call.fixed? key := by
  constructor
  · intro hagrees key hkey
    rw [sent?]
    cases hlookup : lookup key call.args with
    | none => rfl
    | some value => exact (hagrees _ (mem_of_lookup hlookup) hkey).symm
  · rintro hsame ⟨key, value⟩ hmem hkey
    rw [← hsame key hkey, sent?, hargs.mem_iff.mp hmem, Option.some_or]

/-- **The object says what the call says** exactly if no argument says otherwise under the key of a
fixed field. -/
theorem faithful_iff_agrees (hargs : Ascending call.args) : call.Faithful ↔ call.Agrees := by
  have hfield := field?_toValue hargs
  have hinj : Function.Injective (Option.map Value.str) :=
    Option.map_injective fun _ _ => Value.str.inj
  rw [agrees_iff hargs]
  simp only [fixedKeys, List.forall_mem_cons]
  constructor
  · intro hfaithful
    refine ⟨hinj ?_, hinj ?_, hinj ?_, nofun⟩
    · exact (hfield _).symm.trans hfaithful.method
    · exact (hfield _).symm.trans hfaithful.tag
    · exact (hfield _).symm.trans hfaithful.name
  · rintro ⟨hmethod, htag, hname, -⟩
    refine ⟨(hfield _).trans (congrArg _ hmethod), (hfield _).trans (congrArg _ htag),
      (hfield _).trans (congrArg _ hname), fun key value hlookup => ?_⟩
    -- An argument is what is sent under its key, whatever that is.
    rw [hfield, sent?, hlookup]
    rfl

/-! ### Which calls have the same object -/

/-- The call with the arguments under fixed keys where they end up. -/
def settled (call : OnBlockCall) : OnBlockCall where
  method := (lookup "method" call.args).getD call.method
  tag := (lookup "tag" call.args).or call.tag
  name := (lookup "name" call.args).or call.name
  args := call.args.filter fun a => a.1 ∉ fixedKeys

theorem ascending_settled (hargs : Ascending call.args) : Ascending call.settled.args :=
  ascending_filter hargs _

theorem lookup_settled (call : OnBlockCall) (k : String) :
    lookup k call.settled.args = if k ∉ fixedKeys then lookup k call.args else none :=
  lookup_filter (· ∉ fixedKeys) call.args k

/-- The same texts are sent. -/
theorem sent?_settled (call : OnBlockCall) (k : String) : call.settled.sent? k = call.sent? k := by
  rw [sent?, lookup_settled]
  by_cases hkey : k ∈ fixedKeys
  · rw [if_neg (not_not_intro hkey), Option.none_or]
    simp only [fixedKeys, List.mem_cons, List.not_mem_nil, or_false] at hkey
    rcases hkey with rfl | rfl | rfl
    · rw [sent?]
      show some ((lookup "method" call.args).getD call.method) = _
      cases lookup "method" call.args <;> rfl
    · rfl
    · rfl
  · rw [if_pos hkey, fixed?_eq_none hkey, sent?, fixed?_eq_none hkey]

theorem settled_eq_of_sent? (ha : Ascending a.args) (hb : Ascending b.args)
    (hsent : ∀ k, a.sent? k = b.sent? k) : a.settled = b.settled := by
  have hmethod : some a.settled.method = some b.settled.method := by
    have hsame := hsent "method"
    rw [← sent?_settled, ← sent?_settled b, sent?, sent?, lookup_settled, lookup_settled] at hsame
    exact hsame
  have hargs : a.settled.args = b.settled.args := by
    refine (ascending_settled ha).eq_of_lookup (ascending_settled hb) fun k => ?_
    rw [lookup_settled, lookup_settled]
    by_cases hkey : k ∈ fixedKeys
    · rw [if_neg (not_not_intro hkey), if_neg (not_not_intro hkey)]
    · have hsame := hsent k
      rw [sent?, sent?, fixed?_eq_none hkey, fixed?_eq_none hkey, Option.or_none,
        Option.or_none] at hsame
      rw [hsame]
  rw [OnBlockCall.mk.injEq]
  exact ⟨Option.some.inj hmethod, hsent "tag", hsent "name", hargs⟩

/-- **Two calls have the same object** exactly if they are the same with their arguments where they
end up. -/
theorem toValue_eq_iff (ha : Ascending a.args) (hb : Ascending b.args) :
    a.toValue = b.toValue ↔ a.settled = b.settled := by
  rw [toValue_eq_iff_sent? ha hb]
  refine ⟨settled_eq_of_sent? ha hb, fun hsettled k => ?_⟩
  rw [← sent?_settled a, hsettled, sent?_settled]

/-- All arguments stay clear of the fixed keys. -/
def Plain (call : OnBlockCall) : Prop := ∀ a ∈ call.args, a.1 ∉ fixedKeys

instance : Decidable call.Plain :=
  inferInstanceAs (Decidable (∀ a ∈ call.args, a.1 ∉ fixedKeys))

/-- Arguments that stay clear of the fixed keys are where they end up. -/
theorem settled_eq_self_iff : call.settled = call ↔ call.Plain := by
  constructor
  · intro hsettled
    have hargs : call.settled.args = call.args := congrArg args hsettled
    simpa [settled, List.filter_eq_self, Plain] using hargs
  · intro hplain
    have hnone : ∀ key ∈ fixedKeys, lookup key call.args = none := fun key hkey => by
      rw [lookup_eq_none_iff, List.mem_map]
      rintro ⟨a, ha, rfl⟩
      exact hplain a ha hkey
    have hargs : call.args.filter (fun a => a.1 ∉ fixedKeys) = call.args :=
      List.filter_eq_self.mpr fun a ha => decide_eq_true (hplain a ha)
    rw [settled, hargs, hnone "method" (by decide), hnone "tag" (by decide),
      hnone "name" (by decide)]
    rfl

theorem eq_of_toValue_eq (ha : Ascending a.args) (hb : Ascending b.args) (haplain : a.Plain)
    (hbplain : b.Plain) (heq : a.toValue = b.toValue) : a = b := by
  rw [← settled_eq_self_iff.mpr haplain, ← settled_eq_self_iff.mpr hbplain]
  exact (toValue_eq_iff ha hb).mp heq

/-! ### The calls that are sent -/

/-- A client passes on the objects of its calls, in their order. -/
theorem onEthOnBlock_eq {σ : Type} (c : Client σ) {p : OnBlockParams} (callback : Callback)
    (hcalls : p.calls ≠ []) :
    c.onEthOnBlock p callback = c.handler.subscribe .ethOnBlock p.toValue callback := by
  rw [Client.onEthOnBlock, if_neg (mt List.isEmpty_iff.mp hcalls), Client.subscribe]

theorem field?_calls (p : OnBlockParams) :
    p.toValue.field? "call-params" = some (.arr (p.calls.map toValue)) :=
  Value.field?_object_of_mem (by simp) (by simp)

/-- **What the object of a call says.** The call says what was said last when it was built, and a
client that is asked for it passes on its object. Under every key of the object is the argument, or
else the fixed field. So the object says what the call says exactly if no argument says otherwise
under the key of a fixed field, and another call has the same object exactly if it is the same with
its arguments where they end up; calls whose arguments stay clear of the fixed keys are told
apart. -/
theorem faithful_unless_displaced (method : String) (edits : List Edit) :
    Said method edits (built method edits) ∧
      (∀ {σ : Type} (c : Client σ) (p : OnBlockParams) (callback : Callback),
        built method edits ∈ p.calls →
          c.onEthOnBlock p callback = c.handler.subscribe .ethOnBlock p.toValue callback ∧
            p.toValue.field? "call-params" = some (.arr (p.calls.map toValue))) ∧
      (∀ k, (built method edits).toValue.field? k = ((built method edits).sent? k).map .str) ∧
      ((built method edits).Faithful ↔ (built method edits).Agrees) ∧
      ∀ (method' : String) (edits' : List Edit),
        ((built method edits).toValue = (built method' edits').toValue ↔
          (built method edits).settled = (built method' edits').settled) ∧
        ((built method edits).Plain → (built method' edits').Plain →
          built method edits ≠ built method' edits' →
            (built method edits).toValue ≠ (built method' edits').toValue) := by
  have hargs := ascending_built method edits
  refine ⟨said_built method edits, fun c p callback hmem => ?_, field?_toValue hargs,
    faithful_iff_agrees hargs, fun method' edits' => ?_⟩
  · exact ⟨onEthOnBlock_eq c callback (List.ne_nil_of_mem hmem), field?_calls p⟩
  · have hargs' := ascending_built method' edits'
    exact ⟨toValue_eq_iff hargs hargs', fun hplain hplain' hne heq =>
      hne (eq_of_toValue_eq hargs hargs' hplain hplain' heq)⟩

/-- Steps that build a call with a name. The block is set twice. -/
def balanceEdits (address : String) : List Edit :=
  [.arg "address" address, .tagged "latest", .named "balance", .tagged "0x10"]

/-- A client that records is asked for the balances of an address. -/
def balances : OnBlockParams := ⟨[], [built "eth_getBalance" (balanceEdits "0xabc")]⟩

/-- The general result about this request, and about the same call with another address. -/
theorem balance_faithful :
    (Client.onEthOnBlock ⟨Recorder.handler .gatewaySocket, "Mainnet"⟩ balances ⟨"seen"⟩ =
      (Recorder.handler .gatewaySocket).subscribe .ethOnBlock balances.toValue ⟨"seen"⟩) ∧
    (built "eth_getBalance" (balanceEdits "0xabc")).Faithful ∧
    (built "eth_getBalance" (balanceEdits "0xabc")).toValue ≠
      (built "eth_getBalance" (balanceEdits "0xdef")).toValue := by
  obtain ⟨-, hsent, -, hfaithful, hother⟩ :=
    faithful_unless_displaced "eth_getBalance" (balanceEdits "0xabc")
  obtain ⟨-, happart⟩ := hother "eth_getBalance" (balanceEdits "0xdef")
  exact ⟨(hsent _ _ _ (List.mem_singleton_self _)).1, hfaithful.mpr (by decide),
    happart (by decide) (by decide) (by decide)⟩

/-- An argument takes the place of the name that tells a call apart, or of the method. And a tag
cannot be told from an argument under its key. -/
theorem argument_displaces_name :
    ¬ (built "eth_call" [.named "balance", .arg "name" "other"]).Faithful ∧
      ¬ (built "eth_call" [.arg "method" "eth_getCode"]).Faithful ∧
      built "eth_call" [.tagged "latest"] ≠ built "eth_call" [.arg "tag" "latest"] ∧
      (built "eth_call" [.tagged "latest"]).toValue =
        (built "eth_call" [.arg "tag" "latest"]).toValue := by
  refine ⟨fun hfaithful => ?_, fun hfaithful => ?_, by decide, by decide⟩
  · have hname : some (Value.str "other") = some (Value.str "balance") := hfaithful.name
    simp at hname
  · have hmethod : some (Value.str "eth_getCode") = some (Value.str "eth_call") := hfaithful.method
    simp at hmethod

end FeedLink.OnBlockCall
