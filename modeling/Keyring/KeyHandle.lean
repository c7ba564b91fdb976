import Keyring.Failure

/-!
# Key handles

A handle holds a private key until it is released. Handles are kept in a pool, so that all who hold
the same handle see its release.
-/

namespace Keyring

/-- A handle: the identifier of its key, which it keeps for good, and the key unless it is
released. -/
structure KeyHandle where
  id : KeyId
  key : Option Rsa.PrivateKey
  deriving DecidableEq

namespace KeyHandle

/-- The handle without its key. -/
def release (handle : KeyHandle) : KeyHandle := { handle with key := none }

/-- Whether the key is gone. -/
def released (handle : KeyHandle) : Bool := handle.key.isNone

/-- The size of the key in bits; a key that is gone has none. -/
def bits (handle : KeyHandle) : Nat :=
  match handle.key with
  | none => 0
  | some key => key.bits

/-- The handle as it is shown. -/
def quoted (handle : KeyHandle) : String :=
  let state :=
    match handle.key with
    | none => "released"
    | some key => s!"{key.bits} bits"
  s!"<PrivateKeyHandle {handle.id.hex} ({state})>"

/-- Whether a message has the size that is expected; null expects none. -/
def hasExpectedSize (expected : Value) (message : Bytes) : Bool :=
  match expected with
  | .null => true
  | value => value.equalInteger? = some (message.length : Int)

/-- The message of a ciphertext. A value that cannot stand for bytes at all is not the key's to
refuse. -/
def decrypt (handle : KeyHandle) (ciphertext expected : Value) : Except Failure Bytes :=
  match handle.key with
  | none => .error (.decryption handle.id .released)
  | some key =>
    match ciphertext.toBytes with
    | .error fault =>
      if fault.isWrongValue then .error (.decryption handle.id (.unusable fault))
      else .error (.unusable fault)
    | .ok bytes =>
      match key.decrypt bytes with
      | .error refusal => .error (.decryption handle.id (.refused refusal))
      | .ok message =>
        if hasExpectedSize expected message then .ok message
        else
          match expected.toText with
          | .error fault => .error (.unusable fault)
          | .ok text => .error (.decryption handle.id (.wrongSize message.length text))

/-- The handle of the key in a file, and its identifier. -/
def ofFile (reader : KeyReader) (files : FileSystem) (location credential : String)
    (limit : Value) : Except Failure (KeyId × KeyHandle) :=
  match KeyFile.load reader files location credential limit with
  | .error failure => .error (failure.atLocation location)
  | .ok (id, key) => .ok (id, ⟨id, some key⟩)

end KeyHandle

/-- All handles in the order in which they were made; a handle's index is its identity. -/
abbrev KeyPool := List KeyHandle

namespace KeyPool

/-- The index of the next handle. -/
def next (pool : KeyPool) : Nat := pool.length

/-- The pool with one more handle. -/
def add (pool : KeyPool) (id : KeyId) (key : Rsa.PrivateKey) : KeyPool := pool ++ [⟨id, some key⟩]

/-- The pool after a handle is released. -/
def release (pool : KeyPool) (index : Nat) : KeyPool := pool.modify index KeyHandle.release

/-- The pool after handles are released. -/
def releaseAll (pool : KeyPool) (indices : List Nat) : KeyPool := indices.foldl release pool

theorem getElem?_release (pool : KeyPool) (index other : Nat) :
    (pool.release index)[other]? =
      if index = other then pool[other]?.map KeyHandle.release else pool[other]? := by
  simp only [release, List.getElem?_modify]
  split <;> simp

theorem length_release (pool : KeyPool) (index : Nat) :
    (pool.release index).length = pool.length := by
  simp [release]

theorem getElem?_add_of_lt (pool : KeyPool) (id : KeyId) (key : Rsa.PrivateKey) {index : Nat}
    (h : index < pool.length) : (pool.add id key)[index]? = pool[index]? := by
  simp [add, List.getElem?_append_left h]

theorem getElem?_add_next (pool : KeyPool) (id : KeyId) (key : Rsa.PrivateKey) :
    (pool.add id key)[pool.next]? = some ⟨id, some key⟩ := by
  simp [add, next]

end KeyPool

end Keyring
