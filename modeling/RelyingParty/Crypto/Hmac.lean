import RelyingParty.Crypto.Sha256

/-!
# HMAC with SHA-256

The keyed digest of a message: the digest of the key and the digest of the key and the message, with
the key padded to a block and masked differently each time. A key longer than a block is replaced by
its digest.
-/

namespace RelyingParty.Crypto

open Text

/-- The size of a block in bytes. -/
def blockSize : Nat := 64

/-- The key, filled up with zeros to a block. -/
def blockKey (key : Bytes) : Bytes :=
  let short := if blockSize < key.length then sha256 key else key
  short ++ List.replicate (blockSize - short.length) 0

/-- The key in one of its two masks. -/
def maskedKey (key : Bytes) (mask : UInt8) : Bytes :=
  (blockKey key).map (· ^^^ mask)

/-- The keyed digest of a message. -/
def hmacSha256 (key message : Bytes) : Bytes :=
  sha256 (maskedKey key 0x5C ++ sha256 (maskedKey key 0x36 ++ message))

end RelyingParty.Crypto
