import RelyingParty.Token.Decode

/-!
# Signing tokens

A token signed with a client secret, from the texts of its header and its payload.
-/

namespace RelyingParty

open Text

namespace Token

/-- The segment that holds a text. -/
def segment (text : String) : String :=
  Base64Url.encodeText (Utf8.encode text)

/-- The token of a header and a payload, signed with a secret. -/
def sign (secret header payload : String) : String :=
  let signed := segment header ++ "." ++ segment payload
  let digest := Crypto.hmacSha256 (Utf8.encode secret) (Utf8.encode signed)
  signed ++ "." ++ Base64Url.encodeText digest

/-- The header of a token that names nothing but its type and algorithm. -/
def plainHeader : String :=
  "\x7b\"typ\":\"JWT\",\"alg\":\"HS256\"\x7d"

end Token

end RelyingParty
