import Keyring.Batch

/-!
# Stores of private keys

A store holds a handle for each key that the last reload loaded, until it is torn down. A reload
builds its keys beside the old ones and puts them in their place as a whole; the old handles are
released then, and not before. The keys themselves are in the pool, which all stores share.
-/

namespace Keyring

/-- Who is told about sources that fail: the log, or a caller who gives a reason if it rejects the
report. -/
inductive Reporter where
  | log
  | caller (rejection : String → Option String)

/-- A store. It has no table of keys once it is torn down. -/
structure Store where
  settings : Settings
  reporter : Reporter
  keys : Option (KeyId.Table Nat)

/-- What comes out when sources are listed: a source, word that the store is torn down meanwhile, or
a failure that ends the listing. -/
inductive Arrival where
  | source (value : Value)
  | teardown
  | failure (failure : Failure)

/-- The sources of a reload: those of the settings, what a value is made of, or what arrives. -/
inductive Sources where
  | configured
  | value (v : Value)
  | stream (arrivals : List Arrival)

namespace Store

/-- What an operation leads to. -/
structure Outcome (Result : Type) where
  store : Store
  pool : KeyPool
  effects : List Effect
  result : Except Failure Result

/-- A store without keys. -/
def empty (settings : Settings) (reporter : Reporter) : Store := ⟨settings, reporter, some []⟩

/-- Whether the store was torn down. -/
def closed (store : Store) : Bool := store.keys.isNone

/-- The table of keys, unless the store was torn down. -/
def current (store : Store) : Except Failure (KeyId.Table Nat) :=
  match store.keys with
  | none => .error .storeClosed
  | some keys => .ok keys

/-! ## Look-ups -/

/-- The identifier that a value spells. -/
def readKeyId (value : Value) : Except Failure KeyId := value.toKeyId.mapError .invalidKeyId

/-- The index of the handle for a key, if the key is loaded. -/
def get (store : Store) (value : Value) : Except Failure (Option Nat) :=
  match store.current with
  | .error failure => .error failure
  | .ok keys => (readKeyId value).map keys.find?

/-- Whether a key is loaded; what is no identifier names none. -/
def contains (store : Store) (value : Value) : Except Failure Bool :=
  match store.current with
  | .error failure => .error failure
  | .ok keys =>
    match readKeyId value with
    | .error _ => .ok false
    | .ok id => .ok (keys.find? id).isSome

/-- The identifiers of the loaded keys. -/
def keyIds (store : Store) : Except Failure (List KeyId) := store.current.map KeyId.Table.keys

/-- How many keys are loaded. -/
def size (store : Store) : Except Failure Nat := store.current.map List.length

/-- The message of a ciphertext for one of the keys. -/
def decrypt (store : Store) (pool : KeyPool) (value ciphertext expected : Value) :
    Except Failure Bytes :=
  match readKeyId value with
  | .error failure => .error failure
  | .ok id =>
    match store.current with
    | .error failure => .error failure
    | .ok keys =>
      match (keys.find? id).bind (pool[·]?) with
      | none => .error (.keyNotFound id)
      | some handle => handle.decrypt ciphertext expected

/-! ## Changes -/

/-- Releases all keys, for good. A store that was torn down before is left alone. -/
def teardown (store : Store) (pool : KeyPool) : Store × KeyPool × List Effect :=
  match store.keys with
  | none => (store, pool, [])
  | some keys =>
    ({ store with keys := none }, pool.releaseAll keys.values,
      [.log (.storeTornDown keys.length)])

/-- Lists what arrives. -/
def list (store : Store) (pool : KeyPool) : List Arrival → Outcome (List Value)
  | [] => ⟨store, pool, [], .ok []⟩
  | .source value :: rest =>
    let listed := list store pool rest
    { listed with result := listed.result.map (value :: ·) }
  | .teardown :: rest =>
    let (store, pool, effects) := store.teardown pool
    let listed := list store pool rest
    { listed with effects := effects ++ listed.effects }
  | .failure failure :: _ => ⟨store, pool, [], .error failure⟩

/-- What arrives when sources are listed; a value that is made of nothing cannot be listed. -/
def arrivals (store : Store) : Sources → Except Failure (List Arrival)
  | .configured | .value .null => .ok (store.settings.keySources.map (fun s => .source (.source s)))
  | .value v =>
    match v.elements? with
    | none => .error (.unusable .wrongType)
    | some values => .ok (values.map .source)
  | .stream arrivals => .ok arrivals

/-- Tells the reporter about sources that failed. -/
def notify (reporter : Reporter) (report : Report) : List Effect × Except Failure Report :=
  if report.failed then
    match reporter with
    | .log => ([.log (.failuresReported report.format)], .ok report)
    | .caller rejection =>
      match rejection report.format with
      | none => ([.report report.format none], .ok report)
      | some reason => ([.report report.format (some reason)], .error (.reportRejected reason))
  else ([], .ok report)

/-- Lists the sources and loads their keys beside those that the store has. -/
def gather (reader : KeyReader) (files : FileSystem) (store : Store) (pool : KeyPool)
    (sources : Sources) : Outcome Batch :=
  match store.arrivals sources with
  | .error failure => ⟨store, pool, [], .error failure⟩
  | .ok arrivals =>
    let listed := store.list pool arrivals
    match listed.result with
    | .error failure => ⟨listed.store, listed.pool, listed.effects, .error failure⟩
    | .ok values =>
      let (batch, fault) := Batch.ofSources reader files store.settings listed.pool values
      { store := listed.store
        pool := batch.pool
        effects := listed.effects ++ batch.log.map .log
        result := match fault with
          | some fault => .error (.unusable fault)
          | none => .ok batch }

/-- Puts the keys of a batch in the place of the old ones, unless the store was torn down meanwhile.
-/
def replace (gathered : Outcome Batch) : Outcome Report :=
  match gathered.result with
  | .error failure => { gathered with result := .error failure }
  | .ok batch =>
    match gathered.store.keys with
    | none =>
      { gathered with
        pool := gathered.pool.releaseAll batch.keys.values
        result := .error .storeClosed }
    | some previous =>
      { store := { gathered.store with keys := some batch.keys }
        pool := gathered.pool.releaseAll previous.values
        effects := gathered.effects ++ [.log (.reloaded batch.report.loaded.toNat
          batch.report.skipped.toNat batch.report.errors.length)]
        result := .ok batch.report }

/-- Tells the reporter about the sources that failed, once the keys are replaced. -/
def tell (replaced : Outcome Report) : Outcome Report :=
  match replaced.result with
  | .error _ => replaced
  | .ok report =>
    let (effects, result) := notify replaced.store.reporter report
    { replaced with effects := replaced.effects ++ effects, result := result }

/-- Loads the sources and puts their keys in the place of the old ones. -/
def reload (reader : KeyReader) (files : FileSystem) (store : Store) (pool : KeyPool)
    (sources : Sources) : Outcome Report :=
  match store.current with
  | .error failure => ⟨store, pool, [], .error failure⟩
  | .ok _ => tell (replace (store.gather reader files pool sources))

end Store

end Keyring
