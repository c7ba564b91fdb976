import Keyring.Bytes

/-!
# Triple DES

Decryption with three keys of eight bytes, as older key containers use it. Bits are counted from
one, from the most significant end, as the tables of the standard count them.
-/

namespace Keyring.Cipher.Des

/-- The bits of `x`, a value of `width` bits, at the places of the table, in the table's order. -/
def permute (width : UInt64) (table : List UInt64) (x : UInt64) : UInt64 :=
  table.foldl (fun y i => (y <<< 1) ||| ((x >>> (width - i)) &&& 1)) 0

def initialOrder : List UInt64 := [
  58, 50, 42, 34, 26, 18, 10, 2, 60, 52, 44, 36, 28, 20, 12, 4,
  62, 54, 46, 38, 30, 22, 14, 6, 64, 56, 48, 40, 32, 24, 16, 8,
  57, 49, 41, 33, 25, 17, 9, 1, 59, 51, 43, 35, 27, 19, 11, 3,
  61, 53, 45, 37, 29, 21, 13, 5, 63, 55, 47, 39, 31, 23, 15, 7]

def finalOrder : List UInt64 := [
  40, 8, 48, 16, 56, 24, 64, 32, 39, 7, 47, 15, 55, 23, 63, 31,
  38, 6, 46, 14, 54, 22, 62, 30, 37, 5, 45, 13, 53, 21, 61, 29,
  36, 4, 44, 12, 52, 20, 60, 28, 35, 3, 43, 11, 51, 19, 59, 27,
  34, 2, 42, 10, 50, 18, 58, 26, 33, 1, 41, 9, 49, 17, 57, 25]

def expansion : List UInt64 := [
  32, 1, 2, 3, 4, 5, 4, 5, 6, 7, 8, 9, 8, 9, 10, 11, 12, 13, 12, 13, 14, 15, 16, 17,
  16, 17, 18, 19, 20, 21, 20, 21, 22, 23, 24, 25, 24, 25, 26, 27, 28, 29, 28, 29, 30, 31, 32, 1]

def roundOrder : List UInt64 := [
  16, 7, 20, 21, 29, 12, 28, 17, 1, 15, 23, 26, 5, 18, 31, 10,
  2, 8, 24, 14, 32, 27, 3, 9, 19, 13, 30, 6, 22, 11, 4, 25]

def keyOrder : List UInt64 := [
  57, 49, 41, 33, 25, 17, 9, 1, 58, 50, 42, 34, 26, 18,
  10, 2, 59, 51, 43, 35, 27, 19, 11, 3, 60, 52, 44, 36,
  63, 55, 47, 39, 31, 23, 15, 7, 62, 54, 46, 38, 30, 22,
  14, 6, 61, 53, 45, 37, 29, 21, 13, 5, 28, 20, 12, 4]

def keySelection : List UInt64 := [
  14, 17, 11, 24, 1, 5, 3, 28, 15, 6, 21, 10, 23, 19, 12, 4, 26, 8, 16, 7, 27, 20, 13, 2,
  41, 52, 31, 37, 47, 55, 30, 40, 51, 45, 33, 48, 44, 49, 39, 56, 34, 53, 46, 42, 50, 36, 29, 32]

/-- How far both halves of the key are turned before each round. -/
def keyTurns : List UInt64 := [1, 1, 2, 2, 2, 2, 2, 2, 1, 2, 2, 2, 2, 2, 2, 1]

/-- The eight substitutions, each of four rows of sixteen. -/
def boxes : List (Array UInt64) := [
  #[14, 4, 13, 1, 2, 15, 11, 8, 3, 10, 6, 12, 5, 9, 0, 7,
    0, 15, 7, 4, 14, 2, 13, 1, 10, 6, 12, 11, 9, 5, 3, 8,
    4, 1, 14, 8, 13, 6, 2, 11, 15, 12, 9, 7, 3, 10, 5, 0,
    15, 12, 8, 2, 4, 9, 1, 7, 5, 11, 3, 14, 10, 0, 6, 13],
  #[15, 1, 8, 14, 6, 11, 3, 4, 9, 7, 2, 13, 12, 0, 5, 10,
    3, 13, 4, 7, 15, 2, 8, 14, 12, 0, 1, 10, 6, 9, 11, 5,
    0, 14, 7, 11, 10, 4, 13, 1, 5, 8, 12, 6, 9, 3, 2, 15,
    13, 8, 10, 1, 3, 15, 4, 2, 11, 6, 7, 12, 0, 5, 14, 9],
  #[10, 0, 9, 14, 6, 3, 15, 5, 1, 13, 12, 7, 11, 4, 2, 8,
    13, 7, 0, 9, 3, 4, 6, 10, 2, 8, 5, 14, 12, 11, 15, 1,
    13, 6, 4, 9, 8, 15, 3, 0, 11, 1, 2, 12, 5, 10, 14, 7,
    1, 10, 13, 0, 6, 9, 8, 7, 4, 15, 14, 3, 11, 5, 2, 12],
  #[7, 13, 14, 3, 0, 6, 9, 10, 1, 2, 8, 5, 11, 12, 4, 15,
    13, 8, 11, 5, 6, 15, 0, 3, 4, 7, 2, 12, 1, 10, 14, 9,
    10, 6, 9, 0, 12, 11, 7, 13, 15, 1, 3, 14, 5, 2, 8, 4,
    3, 15, 0, 6, 10, 1, 13, 8, 9, 4, 5, 11, 12, 7, 2, 14],
  #[2, 12, 4, 1, 7, 10, 11, 6, 8, 5, 3, 15, 13, 0, 14, 9,
    14, 11, 2, 12, 4, 7, 13, 1, 5, 0, 15, 10, 3, 9, 8, 6,
    4, 2, 1, 11, 10, 13, 7, 8, 15, 9, 12, 5, 6, 3, 0, 14,
    11, 8, 12, 7, 1, 14, 2, 13, 6, 15, 0, 9, 10, 4, 5, 3],
  #[12, 1, 10, 15, 9, 2, 6, 8, 0, 13, 3, 4, 14, 7, 5, 11,
    10, 15, 4, 2, 7, 12, 9, 5, 6, 1, 13, 14, 0, 11, 3, 8,
    9, 14, 15, 5, 2, 8, 12, 3, 7, 0, 4, 10, 1, 13, 11, 6,
    4, 3, 2, 12, 9, 5, 15, 10, 11, 14, 1, 7, 6, 0, 8, 13],
  #[4, 11, 2, 14, 15, 0, 8, 13, 3, 12, 9, 7, 5, 10, 6, 1,
    13, 0, 11, 7, 4, 9, 1, 10, 14, 3, 5, 12, 2, 15, 8, 6,
    1, 4, 11, 13, 12, 3, 7, 14, 10, 15, 6, 8, 0, 5, 9, 2,
    6, 11, 13, 8, 1, 4, 10, 7, 9, 5, 0, 15, 14, 2, 3, 12],
  #[13, 2, 8, 4, 6, 15, 11, 1, 10, 9, 3, 14, 5, 0, 12, 7,
    1, 15, 13, 8, 10, 3, 7, 4, 12, 5, 6, 11, 0, 14, 9, 2,
    7, 11, 4, 1, 9, 12, 14, 2, 0, 6, 10, 13, 15, 3, 5, 8,
    2, 1, 14, 7, 4, 10, 8, 13, 15, 12, 9, 0, 3, 5, 6, 11]]

/-- Half a key, 28 bits, turned left. -/
def turnHalf (half n : UInt64) : UInt64 := ((half <<< n) ||| (half >>> (28 - n))) &&& 0xfffffff

/-- The keys of the rounds still to come, from the two halves of the key. -/
def roundKeys : List UInt64 → UInt64 → UInt64 → List UInt64
  | [], _, _ => []
  | n :: rest, left, right =>
    let left := turnHalf left n
    let right := turnHalf right n
    permute 56 keySelection ((left <<< 28) ||| right) :: roundKeys rest left right

/-- The sixteen keys of the rounds of a key of 64 bits. -/
def schedule (key : UInt64) : List UInt64 :=
  let selected := permute 64 keyOrder key
  roundKeys keyTurns (selected >>> 28) (selected &&& 0xfffffff)

/-- Six bits through a substitution: the outer two choose the row, the inner four the column. -/
def lookUp (box : Array UInt64) (six : UInt64) : UInt64 :=
  let row := ((six >>> 4) &&& 2) ||| (six &&& 1)
  let column := (six >>> 1) &&& 15
  box.getD (row.toNat * 16 + column.toNat) 0

/-- The function of a round, on half a block and the key of the round. -/
def feistel (half key : UInt64) : UInt64 :=
  let mixed := permute 32 expansion half ^^^ key
  let joined := boxes.foldl
    (fun (state : UInt64 × UInt64) box =>
      ((state.1 <<< 4) ||| lookUp box ((mixed >>> state.2) &&& 63), state.2 - 6)) (0, 42)
  permute 32 roundOrder joined.1

/-- A block through the rounds with the given keys; the keys in reverse order undo it. -/
def crypt (keys : List UInt64) (block : UInt64) : UInt64 :=
  let start := permute 64 initialOrder block
  let halves := keys.foldl
    (fun (state : UInt64 × UInt64) key => (state.2, state.1 ^^^ feistel state.2 key))
    (start >>> 32, start &&& 0xffffffff)
  permute 64 finalOrder ((halves.2 <<< 32) ||| halves.1)

/-- The plaintext of a block of eight bytes under a key of three times eight bytes. -/
def decryptTriple (key : Bytes) : Bytes → Bytes :=
  let part (i : Nat) : List UInt64 :=
    schedule (UInt64.ofNat (Bytes.toNat ((key.drop (8 * i)).take 8)))
  let first := (part 0).reverse
  let second := part 1
  let third := (part 2).reverse
  fun block =>
    Bytes.ofNat 8
      (crypt first (crypt second (crypt third (UInt64.ofNat (Bytes.toNat block))))).toNat

end Keyring.Cipher.Des
