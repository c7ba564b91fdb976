import Keyring.Registry.Handler
import Mathlib.Data.Finset.Card
import Mathlib.Data.List.Induction

/-!
# Traces of dispatches

Which handlers are called, and with what, when a registry is called over and over. A block goes to
the handler that was registered last for its type since the registry was cleared last, and to no
other: `Registry.trace` reads this off the calls alone. A handler may call the registry in its turn,
and such a call counts like any other one, from where it begins.
-/

namespace Keyring

namespace Registry

/-! ## Calls and what they leave -/

/-- A call of a registry with its arguments. -/
inductive Call (Handler : Type) where
  | register (type : Value) (handler : Handler)
  | dispatch (type data length : Value)
  | clear

variable {Handler : Type}

namespace Call

/-- Whether a call clears the registry. -/
def isClear : Call Handler → Bool
  | .clear => true
  | _ => false

/-- The type that a call registers a handler for, and the handler. -/
def registration? : Call Handler → Option (Int × Handler)
  | .register type handler =>
    match type.toInteger with
    | .error _ => none
    | .ok n => some (n, handler)
  | _ => none

/-- The type and the block that a dispatch is about, if its arguments can be read. -/
def block? : Call Handler → Option (Int × Bytes)
  | .dispatch type data length =>
    match type.toInteger, blockData data length with
    | .ok n, .ok block => some (n, block)
    | _, _ => none
  | _ => none

end Call

/-- The registry after a call. A dispatch leaves it as it is, and so does a call that fails. -/
def next (registry : Registry Handler) : Call Handler → Registry Handler
  | .register type handler =>
    match registry.register type handler with
    | .error _ => registry
    | .ok (changed, _) => changed
  | .dispatch .. => registry
  | .clear => .empty

/-- The registry after calls, one after the other. -/
def after (registry : Registry Handler) (calls : List (Call Handler)) : Registry Handler :=
  calls.foldl next registry

theorem after_append (registry : Registry Handler) (first second : List (Call Handler)) :
    registry.after (first ++ second) = (registry.after first).after second :=
  List.foldl_append

theorem after_concat (registry : Registry Handler) (calls : List (Call Handler))
    (call : Call Handler) :
    registry.after (calls ++ [call]) = (registry.after calls).next call := by
  rw [after_append]
  rfl

/-! ## Registrations -/

/-- The registrations since the last clearing, last one first. -/
def registrations (calls : List (Call Handler)) : List (Int × Handler) :=
  (calls.reverse.takeWhile fun call => !call.isClear).filterMap Call.registration?

/-- The handler that was registered last for a type. -/
def latest? (calls : List (Call Handler)) (type : Int) : Option Handler :=
  (registrations calls).lookup type

/-- The types that a handler was registered for since the last clearing. -/
def types (calls : List (Call Handler)) : Finset Int :=
  ((registrations calls).map Prod.fst).toFinset

theorem registrations_concat (calls : List (Call Handler)) (call : Call Handler) :
    registrations (calls ++ [call]) =
      if call.isClear then [] else call.registration?.toList ++ registrations calls := by
  cases hc : call.isClear with
  | true => simp [registrations, hc]
  | false => cases hr : call.registration? <;> simp [registrations, hc, hr]

/-- A registry has the handlers that were registered last. -/
theorem find?_after (calls : List (Call Handler)) (type : Int) :
    (empty.after calls).find? type = latest? calls type := by
  induction calls using List.reverseRecOn with
  | nil => rfl
  | append_singleton rest call ih =>
    rw [latest?] at ih ⊢
    rw [after_concat, registrations_concat]
    cases call with
    | register value handler =>
      cases hv : value.toInteger with
      | error fault => simpa [next, register, hv, Call.isClear, Call.registration?] using ih
      | ok n =>
        by_cases hn : type = n
        · simp [next, register, hv, Call.isClear, Call.registration?, find?_put, hn]
        · have hb : (type == n) = false := by simpa using hn
          simpa [next, register, hv, Call.isClear, Call.registration?, find?_put, hn,
            List.lookup_cons, hb] using ih
    | dispatch => exact ih
    | clear => rfl

/-- A handler that is called, with the type and the block that it is called with. -/
abbrev Invocation (Handler : Type) := Handler × Int × Bytes

/-- What a call after earlier ones calls: the handler that was registered last for the type of a
block. -/
def invocation? (earlier : List (Call Handler)) (call : Call Handler) :
    Option (Invocation Handler) :=
  match call.block? with
  | none => none
  | some (type, block) => (latest? earlier type).map fun handler => (handler, type, block)

/-- What calls after earlier ones call, one after the other. -/
def trace (earlier : List (Call Handler)) : List (Call Handler) → List (Invocation Handler)
  | [] => []
  | call :: rest => (invocation? earlier call).toList ++ trace (earlier ++ [call]) rest

theorem trace_append (earlier first second : List (Call Handler)) :
    trace earlier (first ++ second) = trace earlier first ++ trace (earlier ++ first) second := by
  induction first generalizing earlier with
  | nil => simp [trace]
  | cons call rest ih => simp [trace, ih]

theorem trace_singleton (earlier : List (Call Handler)) (call : Call Handler) :
    trace earlier [call] = (invocation? earlier call).toList := by
  simp [trace]

/-! ## Blocks -/

theorem toInteger_of_integer? {type : Value} {n : Int} (h : type.integer? = some n) :
    type.toInteger = .ok n := by
  cases type <;> simp_all [Value.integer?, Value.toInteger]

end Registry

/-- The handler that is called, by its name, with the type and the block. -/
def Effect.invocation? : Effect → Option (String × Int × Bytes)
  | .call handler type data => some (handler, type, data)
  | _ => none

namespace Handler

/-! ## Calls that handlers make -/

/-- What a call leads to. -/
def call (registry : Registry Handler) : Registry.Call Handler → Outcome
  | .register type handler => register registry type handler
  | .dispatch type data length => dispatch registry type data length
  | .clear => ⟨.empty, [], .ok ()⟩

/-- The registry after calls, one after the other. -/
def after (registry : Registry Handler) (calls : List (Registry.Call Handler)) :
    Registry Handler :=
  calls.foldl (fun registry next => (call registry next).registry) registry

/-- The effects of calls, one after the other. -/
def effects (registry : Registry Handler) : List (Registry.Call Handler) → List Effect
  | [] => []
  | next :: rest => (call registry next).effects ++ effects (call registry next).registry rest

/-- The calls that a dispatch comes to: its own, and then those that are made by the handler that it
calls. No call comes to be made where too many handlers have called one another. -/
def madeWithin (depth : Nat) (registry : Registry Handler) (type data length : Value) :
    List (Registry.Call Handler) :=
  match depth with
  | 0 => []
  | depth + 1 =>
    .dispatch type data length ::
      match registry.dispatch type data length with
      | .ok (.call handler type data) =>
        match handler.action with
        | .rest | .fail => []
        | .clear => [.clear]
        | .forward target =>
          madeWithin depth registry target (.buffer .fixed (data ++ forwardMark)) .null
        | .replace => [.register (.int type) handler.successor]
      | _ => []

/-- The calls that a call comes to. -/
def made (registry : Registry Handler) : Registry.Call Handler → List (Registry.Call Handler)
  | .dispatch type data length => madeWithin depthLimit registry type data length
  | other => [other]

/-- The calls that calls come to, each as it begins. -/
def allMade (registry : Registry Handler) :
    List (Registry.Call Handler) → List (Registry.Call Handler)
  | [] => []
  | next :: rest => made registry next ++ allMade (call registry next).registry rest

/-- What a dispatch after earlier calls finds: the type cannot be read; no handler is registered for
it; the block cannot be read; or the handler is found that was registered last. -/
inductive Finds (earlier : List (Registry.Call Handler)) (type data length : Value) :
    Except ValueFault (Dispatch Handler) → Prop where
  | unreadable {fault : ValueFault} (ht : type.toInteger = .error fault) :
    Finds earlier type data length (.error fault)
  | unknown {n : Int} (ht : type.toInteger = .ok n) (hl : Registry.latest? earlier n = none) :
    Finds earlier type data length (.ok (.ignored n))
  | unusable {n : Int} {handler : Handler} {fault : ValueFault} (ht : type.toInteger = .ok n)
    (hl : Registry.latest? earlier n = some handler)
    (hb : Registry.blockData data length = .error fault) :
    Finds earlier type data length (.error fault)
  | found {n : Int} {handler : Handler} {block : Bytes} (ht : type.toInteger = .ok n)
    (hl : Registry.latest? earlier n = some handler)
    (hb : Registry.blockData data length = .ok block) :
    Finds earlier type data length (.ok (.call handler n block))

/-- Every dispatch finds one of these. -/
theorem dispatch_finds (earlier : List (Registry.Call Handler)) (type data length : Value) :
    Finds earlier type data length
      ((Registry.empty.after earlier).dispatch type data length) := by
  unfold Registry.dispatch
  cases ht : type.toInteger with
  | error fault => exact .unreadable ht
  | ok n =>
    simp only [Registry.find?_after]
    cases hl : Registry.latest? earlier n with
    | none => exact .unknown ht hl
    | some handler =>
      cases hb : Registry.blockData data length with
      | error fault => exact .unusable ht hl hb
      | ok block => exact .found ht hl hb

/-- Only a handler that is found is called. -/
theorem Finds.invocation?_eq {earlier : List (Registry.Call Handler)} {type data length : Value}
    {found : Except ValueFault (Dispatch Handler)} (h : Finds earlier type data length found) :
    Registry.invocation? earlier (.dispatch type data length) =
      match found with
      | .ok (.call handler n block) => some (handler, n, block)
      | _ => none := by
  cases h with
  | unreadable ht => simp [Registry.invocation?, Registry.Call.block?, ht]
  | unknown ht hl =>
    cases hb : Registry.blockData data length <;>
      simp [Registry.invocation?, Registry.Call.block?, ht, hl, hb]
  | unusable ht hl hb => simp [Registry.invocation?, Registry.Call.block?, ht, hb]
  | found ht hl hb => simp [Registry.invocation?, Registry.Call.block?, ht, hl, hb]

/-! ## Accounts -/

/-- The handler by its name. -/
def named (invocation : Registry.Invocation Handler) : String × Int × Bytes :=
  (invocation.1.name, invocation.2)

/-- A registry and effects are those of the calls that were made after earlier ones: the registry is
what they leave, and the handlers that were called are those of their trace. -/
structure Accounts (earlier made : List (Registry.Call Handler)) (registry : Registry Handler)
    (effects : List Effect) : Prop where
  registry : registry = Registry.empty.after (earlier ++ made)
  calls : effects.filterMap Effect.invocation? = (Registry.trace earlier made).map named

namespace Accounts

variable {earlier first second : List (Registry.Call Handler)} {registry next : Registry Handler}
  {before rest : List Effect}

theorem nil (earlier : List (Registry.Call Handler)) :
    Accounts earlier [] (Registry.empty.after earlier) [] where
  registry := by rw [List.append_nil]
  calls := rfl

theorem append (h : Accounts earlier first registry before)
    (h' : Accounts (earlier ++ first) second next rest) :
    Accounts earlier (first ++ second) next (before ++ rest) where
  registry := by rw [h'.registry, List.append_assoc]
  calls := by
    rw [List.filterMap_append, h.calls, h'.calls, Registry.trace_append, List.map_append]

theorem register (earlier : List (Registry.Call Handler)) (type : Value) (handler : Handler) :
    Accounts earlier [.register type handler]
      (Handler.register (.after .empty earlier) type handler).registry
      (Handler.register (.after .empty earlier) type handler).effects := by
  constructor
  case registry =>
    rw [Registry.after_concat]
    cases hv : type.toInteger <;> simp [Handler.register, Registry.register, Registry.next, hv]
  case calls =>
    cases hv : type.toInteger with
    | error fault => simp [Handler.register, Registry.register, Registry.trace,
        Registry.invocation?, Registry.Call.block?, hv]
    | ok n =>
      simp only [Handler.register, Registry.register, hv]
      split <;> rfl

theorem clear (earlier : List (Registry.Call Handler)) : Accounts earlier [.clear] .empty [] where
  registry := by
    rw [Registry.after_concat]
    rfl
  calls := rfl

/-- A dispatch itself leaves the registry as it is. -/
theorem dispatch {type data length : Value}
    (h : before.filterMap Effect.invocation? =
      ((Registry.invocation? earlier (.dispatch type data length)).toList).map named) :
    Accounts earlier [.dispatch type data length] (.after .empty earlier) before where
  registry := by
    rw [Registry.after_concat]
    rfl
  calls := by rw [h, Registry.trace_singleton]

/-- A dispatch accounts for its own call and for all that are made in its course. The induction is
on how many handlers may call one another: a call that a handler makes is one among those that come
after the dispatch. -/
theorem dispatchWithin (depth : Nat) (earlier : List (Registry.Call Handler))
    (type data length : Value) :
    Accounts earlier (madeWithin depth (.after .empty earlier) type data length)
      (Handler.dispatchWithin depth (.after .empty earlier) type data length).registry
      (Handler.dispatchWithin depth (.after .empty earlier) type data length).effects := by
  induction depth generalizing earlier type data length with
  | zero => exact .nil earlier
  | succ depth ih =>
    have hfinds := dispatch_finds earlier type data length
    have hcalls := hfinds.invocation?_eq
    simp only [madeWithin, Handler.dispatchWithin]
    generalize (Registry.empty.after earlier).dispatch type data length = found at hfinds hcalls ⊢
    cases hfinds with
    | unreadable _ => exact .dispatch (by rw [hcalls]; rfl)
    | unknown _ _ => exact .dispatch (by rw [hcalls]; rfl)
    | unusable _ _ _ => exact .dispatch (by rw [hcalls]; rfl)
    | @found n handler block _ _ _ =>
      dsimp only
      have hown : Accounts earlier [.dispatch type data length] (.after .empty earlier)
          [.call handler.name n block] := .dispatch (by rw [hcalls]; rfl)
      have hsame : Registry.after .empty earlier =
          .after .empty (earlier ++ [.dispatch type data length]) := hown.registry
      -- What the handler does begins after the dispatch.
      refine @append _ [_] _ _ _ _ _ hown ?_
      cases handler.action with
      | rest => exact hsame ▸ .nil _
      | fail => exact hsame ▸ .nil _
      | clear => exact .clear _
      | forward target => exact hsame ▸ ih _ target _ _
      | replace => exact hsame ▸ .register _ (.int n) handler.successor

theorem call (earlier : List (Registry.Call Handler)) (next : Registry.Call Handler) :
    Accounts earlier (made (.after .empty earlier) next)
      (Handler.call (.after .empty earlier) next).registry
      (Handler.call (.after .empty earlier) next).effects := by
  cases next with
  | register type handler => exact .register earlier type handler
  | dispatch type data length => exact .dispatchWithin depthLimit earlier type data length
  | clear => exact .clear earlier

/-- Calls account for all that are made in their course. -/
theorem all (earlier calls : List (Registry.Call Handler)) :
    Accounts earlier (allMade (.after .empty earlier) calls)
      (Handler.after (.after .empty earlier) calls)
      (effects (.after .empty earlier) calls) := by
  induction calls generalizing earlier with
  | nil => exact .nil earlier
  | cons next rest ih =>
    have hnext := Accounts.call earlier next
    have hrest := ih (earlier ++ made (.after .empty earlier) next)
    rw [← hnext.registry] at hrest
    exact hnext.append hrest

end Accounts

/-! ## Results -/

/-- The handler that is registered last is called, with all bytes but the last one, until the
registry is cleared. -/
example :
    Registry.trace []
      [.register (.int 1) "first", .dispatch (.int 2) (.buffer .fixed [7]) .null,
        .register (.bool true) "last", .dispatch (.int 1) (.buffer .fixed [1, 2, 3]) (.int (-1)),
        .clear, .dispatch (.int 1) (.buffer .fixed [1, 2, 3]) .null] =
      [("last", 1, [1, 2])] := by
  decide

end Handler

end Keyring
