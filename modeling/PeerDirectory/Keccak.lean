import PeerDirectory.Bytes32

/-!
Keccak-256: the sponge over the 1600-bit permutation with a rate of 136 bytes, where a message is
closed by a byte 1, zeros and a top bit, all within the last block.
-/

namespace PeerDirectory.Keccak

structure Row where
  a : UInt64
  b : UInt64
  c : UInt64
  d : UInt64
  e : UInt64

structure Lanes where
  a : Row
  b : Row
  c : Row
  d : Row
  e : Row

instance : XorOp Row where
  xor p q := ⟨p.a ^^^ q.a, p.b ^^^ q.b, p.c ^^^ q.c, p.d ^^^ q.d, p.e ^^^ q.e⟩

instance : XorOp Lanes where
  xor p q := ⟨p.a ^^^ q.a, p.b ^^^ q.b, p.c ^^^ q.c, p.d ^^^ q.d, p.e ^^^ q.e⟩

def rotate (word : UInt64) (amount : UInt64) : UInt64 :=
  word <<< amount ||| word >>> (64 - amount)

def roundConstants : List UInt64 :=
  [0x0000000000000001, 0x0000000000008082, 0x800000000000808A, 0x8000000080008000,
   0x000000000000808B, 0x0000000080000001, 0x8000000080008081, 0x8000000000008009,
   0x000000000000008A, 0x0000000000000088, 0x0000000080008009, 0x000000008000000A,
   0x000000008000808B, 0x800000000000008B, 0x8000000000008089, 0x8000000000008003,
   0x8000000000008002, 0x8000000000000080, 0x000000000000800A, 0x800000008000000A,
   0x8000000080008081, 0x8000000000008080, 0x0000000080000001, 0x8000000080008008]

def theta (lanes : Lanes) : Lanes :=
  let parity := lanes.a ^^^ lanes.b ^^^ lanes.c ^^^ lanes.d ^^^ lanes.e
  let near : Row :=
    ⟨parity.e ^^^ rotate parity.b 1, parity.a ^^^ rotate parity.c 1,
      parity.b ^^^ rotate parity.d 1, parity.c ^^^ rotate parity.e 1,
      parity.d ^^^ rotate parity.a 1⟩
  ⟨lanes.a ^^^ near, lanes.b ^^^ near, lanes.c ^^^ near, lanes.d ^^^ near, lanes.e ^^^ near⟩

def rhoPi (lanes : Lanes) : Lanes where
  a := ⟨lanes.a.a, rotate lanes.b.b 44, rotate lanes.c.c 43, rotate lanes.d.d 21,
    rotate lanes.e.e 14⟩
  b := ⟨rotate lanes.a.d 28, rotate lanes.b.e 20, rotate lanes.c.a 3, rotate lanes.d.b 45,
    rotate lanes.e.c 61⟩
  c := ⟨rotate lanes.a.b 1, rotate lanes.b.c 6, rotate lanes.c.d 25, rotate lanes.d.e 8,
    rotate lanes.e.a 18⟩
  d := ⟨rotate lanes.a.e 27, rotate lanes.b.a 36, rotate lanes.c.b 10, rotate lanes.d.c 15,
    rotate lanes.e.d 56⟩
  e := ⟨rotate lanes.a.c 62, rotate lanes.b.d 55, rotate lanes.c.e 39, rotate lanes.d.a 41,
    rotate lanes.e.b 2⟩

def Row.chi (row : Row) : Row :=
  ⟨row.a ^^^ (~~~ row.b &&& row.c), row.b ^^^ (~~~ row.c &&& row.d),
    row.c ^^^ (~~~ row.d &&& row.e), row.d ^^^ (~~~ row.e &&& row.a),
    row.e ^^^ (~~~ row.a &&& row.b)⟩

def chi (lanes : Lanes) : Lanes :=
  ⟨lanes.a.chi, lanes.b.chi, lanes.c.chi, lanes.d.chi, lanes.e.chi⟩

def iota (constant : UInt64) (lanes : Lanes) : Lanes :=
  { lanes with a := { lanes.a with a := lanes.a.a ^^^ constant } }

def round (lanes : Lanes) (constant : UInt64) : Lanes :=
  iota constant (chi (rhoPi (theta lanes)))

def permute (lanes : Lanes) : Lanes := roundConstants.foldl round lanes

def rate : Nat := 136

def word (bytes : List UInt8) : UInt64 :=
  bytes.foldr (fun byte high => (high <<< 8) ||| byte.toUInt64) 0

def bytesOf (value : UInt64) : List UInt8 :=
  (List.range 8).map fun i => (value >>> UInt64.ofNat (8 * i)).toUInt8

def Row.ofBlock (block : List UInt8) (start : Nat) : Row :=
  let wordAt (i : Nat) : UInt64 := word ((block.drop (8 * (start + i))).take 8)
  ⟨wordAt 0, wordAt 1, wordAt 2, wordAt 3, wordAt 4⟩

def Lanes.ofBlock (block : List UInt8) : Lanes :=
  ⟨.ofBlock block 0, .ofBlock block 5, .ofBlock block 10, .ofBlock block 15, .ofBlock block 20⟩

def absorbBlock (lanes : Lanes) (block : List UInt8) : Lanes :=
  permute (lanes ^^^ .ofBlock block)

def absorb : Nat → Lanes → List UInt8 → Lanes
  | 0, lanes, _ => lanes
  | blocks + 1, lanes, bytes =>
    absorb blocks (absorbBlock lanes (bytes.take rate)) (bytes.drop rate)

/-- What closes a message of the given length: it fills the last block. -/
def padding (length : Nat) : List UInt8 :=
  let missing := rate - length % rate
  if missing = 1 then [0x81] else 0x01 :: List.replicate (missing - 2) 0 ++ [0x80]

def digest (message : List UInt8) : Bytes32 :=
  let length := message.length
  let lanes := absorb (length / rate + 1) (.ofBlock []) (message ++ padding length)
  ⟨bytesOf lanes.a.a ++ bytesOf lanes.a.b ++ bytesOf lanes.a.c ++ bytesOf lanes.a.d,
    by simp [bytesOf]⟩

end PeerDirectory.Keccak
