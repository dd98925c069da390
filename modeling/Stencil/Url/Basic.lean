import Stencil.Url.Host

/-!
# URLs

A URL has a scheme, perhaps an authority (credentials, host and port), a path, and perhaps a query
and a fragment. The path is a row of segments, except where the scheme is followed directly by
something else than a slash; such a URL is no base for others.
-/

namespace Stencil

/-- The path of a URL. -/
inductive UrlPath where
  /-- A path that is not divided. -/
  | whole (text : String)
  /-- The segments after each slash. -/
  | segments (list : List String)
deriving DecidableEq, Repr

/-- A URL. -/
structure Url where
  /-- The scheme, in lower case. -/
  scheme : String
  /-- The user name. -/
  username : String
  /-- The password. -/
  password : String
  /-- The host; a URL without one has no authority. -/
  host : Option String
  /-- The port, unless it is the one of the scheme. -/
  port : Option Nat
  /-- The path. -/
  path : UrlPath
  /-- The query. -/
  query : Option String
  /-- The fragment. -/
  fragment : Option String
deriving DecidableEq, Repr

namespace Url

/-- The port of a special scheme. -/
def defaultPort : String → Option Nat
  | "http" | "ws" => some 80
  | "https" | "wss" => some 443
  | "ftp" => some 21
  | _ => none

/-- Whether URLs of the scheme always have an authority and a divided path. -/
def isSpecial (scheme : String) : Bool :=
  scheme == "file" || (defaultPort scheme).isSome

/-- Whether the URL is no base for others. -/
def cannotBeABase (url : Url) : Bool :=
  match url.path with
  | .whole _ => true
  | .segments _ => false

/-- A path as text. -/
def UrlPath.text : UrlPath → String
  | .whole text => text
  | .segments list => String.join (list.map ("/" ++ ·))

/-- The credentials in front of a host. -/
def credentials (url : Url) : String :=
  if url.username.isEmpty && url.password.isEmpty then ""
  else
    url.username ++ (if url.password.isEmpty then "" else ":" ++ url.password) ++ "@"

/-- The authority with its slashes. Without one, a path that starts with two slashes is kept from
looking like one. -/
def authority (url : Url) : String :=
  match url.host with
  | some host =>
    "//" ++ url.credentials ++ host ++ ((url.port.map fun port => s!":{port}").getD "")
  | none =>
    match url.path with
    | .segments ("" :: _ :: _) => "/."
    | _ => ""

/-- The text of a URL. -/
def text (url : Url) : String :=
  url.scheme ++ ":" ++ url.authority ++ UrlPath.text url.path
    ++ ((url.query.map ("?" ++ ·)).getD "") ++ ((url.fragment.map ("#" ++ ·)).getD "")

end Url

end Stencil
