namespace SyscallTables.Sha256

/-! The SHA-256 digest (FIPS 180-4) of a byte list, and its lowercase hexadecimal text. The
message is padded to whole 64-byte blocks, each block expanded to 64 schedule words and folded
into the eight-word state by 64 rounds. -/

/-- The round constants. -/
def roundConstants : Array UInt32 := #[
  0x428a2f98, 0x71374491, 0xb5c0fbcf, 0xe9b5dba5, 0x3956c25b, 0x59f111f1, 0x923f82a4, 0xab1c5ed5,
  0xd807aa98, 0x12835b01, 0x243185be, 0x550c7dc3, 0x72be5d74, 0x80deb1fe, 0x9bdc06a7, 0xc19bf174,
  0xe49b69c1, 0xefbe4786, 0x0fc19dc6, 0x240ca1cc, 0x2de92c6f, 0x4a7484aa, 0x5cb0a9dc, 0x76f988da,
  0x983e5152, 0xa831c66d, 0xb00327c8, 0xbf597fc7, 0xc6e00bf3, 0xd5a79147, 0x06ca6351, 0x14292967,
  0x27b70a85, 0x2e1b2138, 0x4d2c6dfc, 0x53380d13, 0x650a7354, 0x766a0abb, 0x81c2c92e, 0x92722c85,
  0xa2bfe8a1, 0xa81a664b, 0xc24b8b70, 0xc76c51a3, 0xd192e819, 0xd6990624, 0xf40e3585, 0x106aa070,
  0x19a4c116, 0x1e376c08, 0x2748774c, 0x34b0bcb5, 0x391c0cb3, 0x4ed8aa4a, 0x5b9cca4f, 0x682e6ff3,
  0x748f82ee, 0x78a5636f, 0x84c87814, 0x8cc70208, 0x90befffa, 0xa4506ceb, 0xbef9a3f7, 0xc67178f2]

/-- The initial state. -/
def initialState : Array UInt32 := #[
  0x6a09e667, 0xbb67ae85, 0x3c6ef372, 0xa54ff53a, 0x510e527f, 0x9b05688c, 0x1f83d9ab, 0x5be0cd19]

/-- Rotation to the right. -/
def rotr (x : UInt32) (n : UInt32) : UInt32 := (x >>> n) ||| (x <<< (32 - n))

/-- The big-endian bytes of a number, `count` of them. -/
def bigEndian (count : Nat) (n : Nat) : List UInt8 :=
  (List.range count).reverse.map fun i => (n / Nat.pow 256 i % 256).toUInt8

/-- The message followed by a one bit, zeros and its bit length, to a multiple of 64 bytes. -/
def pad (message : List UInt8) : List UInt8 :=
  let zeros := (119 - message.length % 64) % 64
  message ++ [0x80] ++ List.replicate zeros 0 ++ bigEndian 8 (message.length * 8)

/-- Splits a byte list into blocks of 64 bytes. -/
def blocks (bytes : List UInt8) : List (List UInt8) :=
  if bytes.length ≤ 64 then (if bytes.isEmpty then [] else [bytes])
  else bytes.take 64 :: blocks (bytes.drop 64)
termination_by bytes.length
decreasing_by simp; omega

/-- The word of four big-endian bytes. -/
def word (b0 b1 b2 b3 : UInt8) : UInt32 :=
  (b0.toUInt32 <<< 24) ||| (b1.toUInt32 <<< 16) ||| (b2.toUInt32 <<< 8) ||| b3.toUInt32

/-- The sixteen words of a block. -/
def blockWords : List UInt8 → List UInt32
  | b0 :: b1 :: b2 :: b3 :: rest => word b0 b1 b2 b3 :: blockWords rest
  | _ => []

/-- The 64 schedule words of a block. -/
def schedule (block : List UInt8) : Array UInt32 :=
  (List.range 48).foldl (fun w t =>
    let i := t + 16
    let w15 := w.getD (i - 15) 0
    let w2 := w.getD (i - 2) 0
    let s0 := rotr w15 7 ^^^ rotr w15 18 ^^^ (w15 >>> 3)
    let s1 := rotr w2 17 ^^^ rotr w2 19 ^^^ (w2 >>> 10)
    w.push (w.getD (i - 16) 0 + s0 + w.getD (i - 7) 0 + s1)) (blockWords block).toArray

/-- One round on the working variables `a` to `h`. -/
def round (v : Array UInt32) (k w : UInt32) : Array UInt32 :=
  let a := v.getD 0 0
  let b := v.getD 1 0
  let c := v.getD 2 0
  let d := v.getD 3 0
  let e := v.getD 4 0
  let f := v.getD 5 0
  let g := v.getD 6 0
  let h := v.getD 7 0
  let s1 := rotr e 6 ^^^ rotr e 11 ^^^ rotr e 25
  let ch := (e &&& f) ^^^ ((~~~e) &&& g)
  let t1 := h + s1 + ch + k + w
  let s0 := rotr a 2 ^^^ rotr a 13 ^^^ rotr a 22
  let maj := (a &&& b) ^^^ (a &&& c) ^^^ (b &&& c)
  let t2 := s0 + maj
  #[t1 + t2, a, b, c, d + t1, e, f, g]

/-- Folds one block into the state. -/
def compress (state : Array UInt32) (block : List UInt8) : Array UInt32 :=
  let w := schedule block
  let v := (List.range 64).foldl
    (fun v t => round v (roundConstants.getD t 0) (w.getD t 0)) state
  (List.range 8).toArray.map fun i => state.getD i 0 + v.getD i 0

/-- The 32 bytes of the digest. -/
def digest (message : List UInt8) : List UInt8 :=
  ((blocks (pad message)).foldl compress initialState).toList.flatMap fun x =>
    bigEndian 4 x.toNat

/-- The two lowercase hexadecimal digits of a byte. -/
def hexByte (b : UInt8) : String :=
  let digit (n : Nat) : Char := if n < 10 then Char.ofNat (48 + n) else Char.ofNat (87 + n)
  String.ofList [digit (b.toNat / 16), digit (b.toNat % 16)]

/-- The digest of a text's UTF-8 bytes, in lowercase hexadecimal. -/
def hexDigest (text : String) : String :=
  String.join ((digest text.toUTF8.toList).map hexByte)

end SyscallTables.Sha256
