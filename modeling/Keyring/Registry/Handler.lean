import Keyring.Failure
import Keyring.Registry

/-!
# Handlers that act on their registry

A handler notes each block that it is called with, and may then fail, clear the registry, pass the
block on to another type, or put another handler in its own place.
-/

namespace Keyring

/-- What a handler does after it noted the block. -/
inductive HandlerAction where
  | rest
  | fail
  | clear
  | forward (target : Value)
  | replace

/-- A handler. -/
structure Handler where
  name : String
  action : HandlerAction

namespace Handler

/-- What handlers and the registry come to. -/
structure Outcome where
  registry : Registry Handler
  effects : List Effect
  result : Except Failure Unit

/-- How many handlers may call one another. It stands for a limit on all calls that are under way at
once, which leaves more or fewer for the handlers as the caller has made few or many. No number is
right for every caller, and what is proved of handlers holds for any other but zero. -/
def depthLimit : Nat := 300

/-- The handler that takes the place of one that replaces itself. -/
def successor (handler : Handler) : Handler := ⟨handler.name ++ "'", .rest⟩

/-- What is put at the end of a block that is passed on. -/
def forwardMark : Bytes := Bytes.ofText "+"

/-- Registers a handler. -/
def register (registry : Registry Handler) (type : Value) (handler : Handler) : Outcome :=
  match registry.register type handler with
  | .error fault => ⟨registry, [], .error (.unusable fault)⟩
  | .ok (registry, log) => ⟨registry, log.map .log, .ok ()⟩

/-- Hands a block to the handler of its type, and from there to others; no more than `depth` of them
may call one another. -/
def dispatchWithin (depth : Nat) (registry : Registry Handler) (type data length : Value) :
    Outcome :=
  match depth with
  | 0 => ⟨registry, [], .error .tooDeep⟩
  | depth + 1 =>
    match registry.dispatch type data length with
    | .error fault => ⟨registry, [], .error (.unusable fault)⟩
    | .ok (.ignored type) => ⟨registry, [.log (.noHandler type)], .ok ()⟩
    | .ok (.call handler type data) =>
      let outcome : Outcome :=
        match handler.action with
        | .rest => ⟨registry, [], .ok ()⟩
        | .fail => ⟨registry, [], .error (.handlerFailed handler.name)⟩
        | .clear => ⟨.empty, [], .ok ()⟩
        | .forward target =>
          dispatchWithin depth registry target (.buffer .fixed (data ++ forwardMark)) .null
        | .replace => register registry (.int type) handler.successor
      { outcome with effects := .call handler.name type data :: outcome.effects }

/-- Hands a block to the handler of its type. -/
def dispatch (registry : Registry Handler) (type data length : Value) : Outcome :=
  dispatchWithin depthLimit registry type data length

end Handler

end Keyring
