import Keyring.Log
import Keyring.Value

/-!
# Registries of block handlers

A registry has at most one handler for each block type, and finds the handler that a block is for.
Handlers are whatever the caller makes of them.
-/

namespace Keyring

/-- A registry: the handler of each type. A type that is registered again keeps its place. -/
structure Registry (Handler : Type) where
  handlers : List (Int × Handler) := []

/-- What a block leads to: nothing, as its type has no handler, or a call. -/
inductive Dispatch (Handler : Type) where
  | ignored (type : Int)
  | call (handler : Handler) (type : Int) (data : Bytes)

namespace Registry

variable {Handler : Type}

/-- A registry without handlers. -/
def empty : Registry Handler := {}

/-- How many types have a handler. -/
def size (registry : Registry Handler) : Nat := registry.handlers.length

/-- The handler of a type. -/
def find? (registry : Registry Handler) (type : Int) : Option Handler :=
  registry.handlers.lookup type

/-- The entries with the handler of a type put in. -/
def putEntry (type : Int) (handler : Handler) : List (Int × Handler) → List (Int × Handler)
  | [] => [(type, handler)]
  | (other, old) :: rest =>
    if other = type then (type, handler) :: rest else (other, old) :: putEntry type handler rest

/-- The registry with a handler for a type, in place of the one that it had. -/
def put (registry : Registry Handler) (type : Int) (handler : Handler) : Registry Handler :=
  ⟨putEntry type handler registry.handlers⟩

theorem lookup_putEntry (type other : Int) (handler : Handler) (entries : List (Int × Handler)) :
    (putEntry type handler entries).lookup other =
      if other = type then some handler else entries.lookup other := by
  induction entries with
  | nil =>
    by_cases h : other = type
    · simp [putEntry, h]
    · have hb : (other == type) = false := by simpa using h
      simp [putEntry, List.lookup_cons, h, hb]
  | cons entry rest ih =>
    obtain ⟨key, old⟩ := entry
    by_cases hk : key = type
    · subst hk
      by_cases h : other = key
      · simp [putEntry, h]
      · have hb : (other == key) = false := by simpa using h
        simp [putEntry, List.lookup_cons, h, hb]
    · by_cases ho : other = key
      · subst ho
        simp [putEntry, hk]
      · have hb : (other == key) = false := by simpa using ho
        simp [putEntry, hk, List.lookup_cons, hb, ih]

theorem find?_put (registry : Registry Handler) (type other : Int) (handler : Handler) :
    (registry.put type handler).find? other =
      if other = type then some handler else registry.find? other :=
  lookup_putEntry type other handler registry.handlers

/-- Registers a handler for the type that a value is converted to. -/
def register (registry : Registry Handler) (type : Value) (handler : Handler) :
    Except ValueFault (Registry Handler × List LogEntry) :=
  match type.toInteger with
  | .error fault => .error fault
  | .ok n =>
    .ok (registry.put n handler, if (registry.find? n).isSome then [.handlerReplaced n] else [])

/-- The bytes of a block, cut to a length unless that is null. -/
def blockData (data length : Value) : Except ValueFault Bytes :=
  match length with
  | .null => data.toBytes
  | length =>
    match Value.cut length data with
    | .error fault => .error fault
    | .ok data => data.toBytes

/-- What a block leads to. Its data is looked at only if its type has a handler. -/
def dispatch (registry : Registry Handler) (type data length : Value) :
    Except ValueFault (Dispatch Handler) :=
  match type.toInteger with
  | .error fault => .error fault
  | .ok n =>
    match registry.find? n with
    | none => .ok (.ignored n)
    | some handler => (blockData data length).map (.call handler n)

/-- Whether a value is equal to a type that has a handler, if it can be looked up at all. -/
def contains (registry : Registry Handler) (value : Value) : Except ValueFault Bool :=
  if value.isHashable then
    match value.equalInteger? with
    | none => .ok false
    | some n => .ok (registry.find? n).isSome
  else .error .wrongType

end Registry

end Keyring
