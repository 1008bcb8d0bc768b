import RelyingParty.Crypto.Sha256

/-!
# RSASSA-PKCS1-v1_5 with SHA-256

A signature is a number of exactly as many bytes as the modulus. Raised to the public exponent, it
has to give the one number that encodes the digest of the message: a marker, filler bytes up to the
length of the modulus, and the digest with the identifier of its algorithm. Numbers are written
without leading zero bytes, a modulus has 2048 to 8192 bits, and an exponent is odd, greater than
one and of at most 33 bits.
-/

namespace RelyingParty.Crypto

open Text

namespace Rsa

/-- The number that bytes stand for, most significant first. -/
def toNat (bytes : Bytes) : Nat :=
  bytes.foldl (fun n b => n * 256 + b.toNat) 0

/-- The number of bits of a number. -/
def bitLength (n : Nat) : Nat := if n = 0 then 0 else n.log2 + 1

/-- The power of a base modulo `modulus`, by repeated squaring. -/
def powMod (modulus base exponent : Nat) : Nat :=
  if exponent = 0 then 1 % modulus
  else
    let root := powMod modulus (base * base % modulus) (exponent / 2)
    if exponent % 2 = 1 then root * base % modulus else root
termination_by exponent
decreasing_by omega

/-- The identifier of SHA-256 and the header of its digest. -/
def digestInfo : Bytes :=
  [0x30, 0x31, 0x30, 0x0D, 0x06, 0x09, 0x60, 0x86, 0x48, 0x01, 0x65, 0x03, 0x04, 0x02, 0x01, 0x05,
   0x00, 0x04, 0x20]

/-- The encoding of a message in `length` bytes. -/
def encoded (length : Nat) (message : Bytes) : Bytes :=
  let tail := digestInfo ++ sha256 message
  [0x00, 0x01] ++ List.replicate (length - 3 - tail.length) 0xFF ++ [0x00] ++ tail

/-- A public key: a modulus and an exponent, as bytes. -/
structure PublicKey where
  /-- The modulus. -/
  modulus : Bytes
  /-- The public exponent. -/
  exponent : Bytes
deriving DecidableEq, Repr

/-- Whether bytes are a number without leading zero bytes. -/
def isMinimal (bytes : Bytes) : Bool :=
  match bytes with
  | [] => false
  | b :: _ => b != 0

/-- Whether signatures can be checked with a key. -/
def PublicKey.isUsable (key : PublicKey) : Bool :=
  let n := toNat key.modulus
  let e := toNat key.exponent
  isMinimal key.modulus && isMinimal key.exponent &&
    2048 ≤ bitLength n && bitLength n ≤ 8192 && n % 2 == 1 &&
    e % 2 == 1 && 1 < e && bitLength e ≤ 33

/-- Whether a signature of a message is valid under a key. -/
def verify (key : PublicKey) (message signature : Bytes) : Bool :=
  let n := toNat key.modulus
  let s := toNat signature
  key.isUsable && signature.length == key.modulus.length && s < n &&
    powMod n s (toNat key.exponent) == toNat (encoded key.modulus.length message)

end Rsa

end RelyingParty.Crypto
