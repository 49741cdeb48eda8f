import ShortLink.Url.Host

/-!
# URLs

A URL has a scheme and a path. It may have a host, with credentials before it and a `portNumber`
behind it, and it may have a query and a fragment. The path is a list of segments, or a text that is
taken as it stands.

## Main definitions

- `Url` — a URL
- `Url.text` — the written form of a URL
- `Url.pathText` — the written form of its path
- `Url.defaultPort?` — the default ports of schemes
-/

namespace ShortLink

/-- The path of a URL. -/
inductive Url.Path where
  /-- A list of segments, each with a slash in front. -/
  | segments (list : List String)
  /-- A text without structure. -/
  | verbatim (text : String)
  deriving DecidableEq

/-- A URL in its normal form. -/
structure Url where
  scheme : String
  username : String := ""
  password : String := ""
  host : Option Url.Host := none
  /-- The number behind the host, unless it is the default one of the scheme. -/
  portNumber : Option UInt16 := none
  path : Url.Path
  query : Option String := none
  fragment : Option String := none
  deriving DecidableEq

namespace Url

/-- The default ports of schemes. -/
def defaultPort? (scheme : String) : Option UInt16 :=
  if scheme = "http" ∨ scheme = "ws" then some 80
  else if scheme = "https" ∨ scheme = "wss" then some 443
  else if scheme = "ftp" then some 21
  else none

/-- Special schemes always have a host, and take backslashes for slashes. -/
def isSpecial (scheme : String) : Bool := scheme == "file" || (defaultPort? scheme).isSome

/-- The written form of a path. -/
def Path.text : Path → String
  | segments list => String.join (list.map ("/" ++ ·))
  | verbatim text => text

/-- The path as it is written. -/
def pathText (url : Url) : String := url.path.text

/-- The user name and the password as they are written before the host. -/
def credentialsText (url : Url) : String :=
  if url.username.isEmpty ∧ url.password.isEmpty then ""
  else url.username ++ (if url.password.isEmpty then "" else ":" ++ url.password) ++ "@"

/-- What is written between the scheme and the path. Without a host a path that begins with two
slashes has a dot in front, because the slashes would announce one. -/
def authorityText (url : Url) : String :=
  match url.host with
  | some host =>
    "//" ++ url.credentialsText ++ host.text
      ++ (url.portNumber.map fun n => ":" ++ toString n.toNat).getD ""
  | none =>
    match url.path with
    | .segments ("" :: _ :: _) => "/."
    | _ => ""

/-- The query with its question mark. -/
def queryText (url : Url) : String := (url.query.map ("?" ++ ·)).getD ""

/-- The fragment with its number sign. -/
def fragmentText (url : Url) : String := (url.fragment.map ("#" ++ ·)).getD ""

/-- The written form of a URL. -/
def text (url : Url) : String :=
  url.scheme ++ ":" ++ url.authorityText ++ url.pathText ++ url.queryText ++ url.fragmentText

end Url

end ShortLink
