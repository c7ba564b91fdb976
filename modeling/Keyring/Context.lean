import Keyring.Registry.Handler
import Keyring.Store

/-!
# Contexts

A context is a registry and a store. Any number of them can be made, and at most one is installed at
a time: it is the one that blocks and ciphertexts go to unless another is named.
-/

namespace Keyring

/-- A context. -/
structure Context where
  registry : Registry Handler
  store : Store

/-- A context without handlers and without keys. -/
def Context.empty (settings : Settings) (reporter : Reporter) : Context :=
  ⟨.empty, .empty settings reporter⟩

/-- All contexts in the order in which they were made, the handles of their stores, and the index of
the context that is installed. -/
structure World where
  pool : KeyPool := []
  contexts : List Context := []
  installed : Option Nat := none

namespace World

/-- What an operation leads to. -/
structure Outcome (Result : Type) where
  world : World
  effects : List Effect
  result : Except Failure Result

/-- The world with a context changed. -/
def setContext (world : World) (index : Nat) (context : Context) : World :=
  { world with contexts := world.contexts.set index context }

/-- The context that is installed, with its index. -/
def current (world : World) : Except Failure (Nat × Context) :=
  match world.installed with
  | none => .error .noContext
  | some index =>
    match world.contexts[index]? with
    | none => .error .noContext
    | some context => .ok (index, context)

/-- An operation that leaves the world as it is. -/
def unchanged {Result : Type} (world : World) (result : Except Failure Result) : Outcome Result :=
  ⟨world, [], result⟩

/-! ## One context -/

/-- Keeps a new context without installing it, and gives its index. -/
def create (world : World) (context : Context) : World × Nat :=
  ({ world with contexts := world.contexts ++ [context] }, world.contexts.length)

/-- Takes over what became of a context's store. -/
def afterStore {Result : Type} (world : World) (index : Nat) (context : Context)
    (outcome : Store.Outcome Result) : Outcome Result :=
  ⟨{ world.setContext index { context with store := outcome.store } with pool := outcome.pool },
    outcome.effects, outcome.result⟩

/-- Takes over what became of a context's registry. -/
def afterHandlers (world : World) (index : Nat) (context : Context) (outcome : Handler.Outcome) :
    Outcome Unit :=
  ⟨world.setContext index { context with registry := outcome.registry }, outcome.effects,
    outcome.result⟩

/-- Reloads the store of a context. -/
def reload (reader : KeyReader) (files : FileSystem) (world : World) (index : Nat)
    (context : Context) (sources : Sources) : Outcome Report :=
  world.afterStore index context (context.store.reload reader files world.pool sources)

/-- Clears the registry of a context and tears its store down. -/
def teardown (world : World) (index : Nat) (context : Context) : World × List Effect :=
  let (store, pool, effects) := context.store.teardown world.pool
  ({ world.setContext index ⟨.empty, store⟩ with pool := pool }, effects)

/-! ## The installed context -/

/-- Makes a context and installs it, unless one is installed. Sources that the settings name are
loaded first, and if that fails nothing is installed. -/
def init (reader : KeyReader) (files : FileSystem) (world : World) (settings : Option Settings)
    (reporter : Reporter) : Outcome Nat :=
  match world.installed with
  | some _ => world.unchanged (.error .contextInstalled)
  | none =>
    let context := Context.empty (settings.getD .standard) reporter
    let (created, index) := world.create context
    let install (world : World) (effects : List Effect) : Outcome Nat :=
      ⟨{ world with installed := some index }, effects ++ [.log .contextInitialized], .ok index⟩
    if context.store.settings.keySources.isEmpty then install created []
    else
      let outcome := created.reload reader files index context .configured
      match outcome.result with
      | .error failure => ⟨outcome.world, outcome.effects, .error failure⟩
      | .ok _ => install outcome.world outcome.effects

/-- Tears the installed context down, if there is one, and leaves none installed. -/
def cleanup (world : World) : World × List Effect :=
  match world.current with
  | .error _ => ({ world with installed := none }, [])
  | .ok (index, context) =>
    let (torn, effects) := world.teardown index context
    ({ torn with installed := none }, effects ++ [.log .contextCleanedUp])

/-- Registers a handler with the installed context. -/
def register (world : World) (type : Value) (handler : Handler) : Outcome Unit :=
  match world.current with
  | .error failure => world.unchanged (.error failure)
  | .ok (index, context) =>
    world.afterHandlers index context (Handler.register context.registry type handler)

/-- Hands a block to the installed context. -/
def dispatch (world : World) (type data length : Value) : Outcome Unit :=
  match world.current with
  | .error failure => world.unchanged (.error failure)
  | .ok (index, context) =>
    world.afterHandlers index context (Handler.dispatch context.registry type data length)

/-- Decrypts with a key of the installed context. -/
def decrypt (world : World) (keyId ciphertext expected : Value) : Except Failure Bytes :=
  match world.current with
  | .error failure => .error failure
  | .ok (_, context) => context.store.decrypt world.pool keyId ciphertext expected

end World

end Keyring
