import RelyingParty.Url.Host

/-!
# URLs

An absolute URL in parts, each of them already encoded, and its text.
-/

namespace RelyingParty

namespace Url

/-- Who is asked for what a URL names. -/
structure Authority where
  /-- The user, encoded. -/
  user : String := ""
  /-- The password, encoded. -/
  password : String := ""
  /-- The host. -/
  host : Host
  /-- The port, unless it is the default. -/
  port : Option Nat := none
deriving DecidableEq, Repr

/-- The path of a URL. -/
inductive Path where
  /-- A path without parts. -/
  | whole (text : String)
  /-- Segments, each behind a slash. -/
  | segments (parts : List String)
deriving DecidableEq, Repr

/-- What follows the path: the query and the fragment. -/
structure Tail where
  /-- The query, encoded. -/
  query : Option String
  /-- The fragment, encoded. -/
  fragment : Option String
deriving DecidableEq, Repr

end Url

/-- An absolute URL. -/
structure Url where
  /-- The scheme, in lower case. -/
  scheme : String
  /-- Who is asked, if that is said. -/
  authority : Option Url.Authority
  /-- The path. -/
  path : Url.Path
  /-- The query and the fragment. -/
  tail : Url.Tail
deriving DecidableEq, Repr

namespace Url

/-- User and password as they stand before the host. -/
def Authority.userText (authority : Authority) : String :=
  if authority.user.isEmpty && authority.password.isEmpty then ""
  else
    authority.user ++ (if authority.password.isEmpty then "" else ":" ++ authority.password) ++ "@"

/-- The authority as it stands behind two slashes. -/
def Authority.text (authority : Authority) : String :=
  authority.userText ++ authority.host.text ++
    (match authority.port with
      | some port => ":" ++ toString port
      | none => "")

/-- The path as it stands in a URL. -/
def Path.text : Path → String
  | whole text => text
  | segments parts => String.join (parts.map ("/" ++ ·))

/-- The query and the fragment as they stand in a URL. -/
def Tail.text (tail : Tail) : String :=
  (tail.query.elim "" ("?" ++ ·)) ++ (tail.fragment.elim "" ("#" ++ ·))

/-- What stands between scheme and path. Without an authority a path that begins with two slashes
would look like one, which a dot prevents. -/
def before (authority : Option Authority) (path : Path) : String :=
  match authority, path with
  | some found, _ => "//" ++ found.text
  | none, .segments ("" :: _ :: _) => "/."
  | none, _ => ""

/-- The URL in its normal form. -/
def text (url : Url) : String :=
  url.scheme ++ ":" ++ before url.authority url.path ++ url.path.text ++ url.tail.text

end Url

end RelyingParty
