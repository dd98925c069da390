import Stencil.Url.Path

/-!
# Reading URLs

A URL is read the lenient way: blanks around it and line breaks in it are dropped, and a special
scheme may be followed by any number of slashes of either kind.
-/

namespace Stencil.Url

/-! ## Authorities -/

/-- The text before and after the last at sign. -/
def splitCredentials (text : List Char) : List Char × List Char :=
  if text.contains '@' then
    let host := (text.reverse.takeWhile (· != '@')).reverse
    (text.take (text.length - host.length - 1), host)
  else ([], text)

/-- Splits a host from the port behind it; a colon between brackets belongs to the host. -/
def splitPort (bracketed : Bool) : List Char → List Char × Option (List Char)
  | [] => ([], none)
  | c :: rest =>
    if c = ':' && !bracketed then ([], some rest)
    else
      let inside := if c = '[' then true else if c = ']' then false else bracketed
      let (host, port) := splitPort inside rest
      (c :: host, port)

/-- The number of a port, unless it is the one of the scheme, and what follows it. Only the end or a
backslash may follow the digits. -/
def readPort? (scheme : String) (text : List Char) : Option (Option Nat × List Char) := do
  let digits := text.takeWhile Char.isDigit
  let rest := text.dropWhile Char.isDigit
  let n ← digitsValue? 10 digits
  if 65535 < n || !(rest.isEmpty || rest.head? == some '\\') then none
  some (if digits.isEmpty || defaultPort scheme = some n then none else some n, rest)

/-- The host that a name stands for. -/
def host? (scheme : String) (name : List Char) : Option String :=
  if isSpecial scheme then domainHost? name else plainHost? name

/-- Reads an authority into a URL and gives what is left of it. A host may only be missing where the
scheme is not special and neither credentials nor the colon of a port are written. -/
def readAuthority? (url : Url) (text : List Char) : Option (Url × List Char) := do
  let (credentials, hostPort) := splitCredentials text
  let username := credentials.takeWhile (· != ':')
  let password := (credentials.dropWhile (· != ':')).drop 1
  let (name, port) := splitPort false hostPort
  let unnamed := isSpecial url.scheme || !username.isEmpty || !password.isEmpty || port.isSome
  if name.isEmpty && unnamed then none
  let host ← host? url.scheme name
  let (port, rest) ← readPort? url.scheme (port.getD [])
  some ({ url with
    username := String.ofList (percentEncode inUserSet username)
    password := String.ofList (percentEncode inUserSet password)
    host := some host
    port }, rest)

/-! ## Whole URLs -/

/-- Characters that are dropped around a URL. -/
def isOuterBlank (c : Char) : Bool :=
  c.toNat ≤ 0x20

/-- The text of a URL without what is dropped. -/
def clean (text : List Char) : List Char :=
  let inner := ((text.dropWhile isOuterBlank).reverse.dropWhile isOuterBlank).reverse
  inner.filter fun c => c != '\t' && c != '\n' && c != '\r'

/-- Whether a character may stand in a scheme. -/
def inScheme (c : Char) : Bool :=
  c.isAlphanum || c == '+' || c == '-' || c == '.'

/-- The scheme in front of a text, in lower case, and what follows its colon. -/
def splitScheme? (text : List Char) : Option (String × List Char) :=
  let scheme := text.takeWhile inScheme
  match text.dropWhile inScheme with
  | ':' :: rest =>
    if scheme.head?.any Char.isAlpha then some (String.ofList (scheme.map Char.toLower), rest)
    else none
  | _ => none

/-- The text before and after the first character of a kind. -/
def splitOff (mark : Char) (text : List Char) : List Char × Option (List Char) :=
  match text.dropWhile (· != mark) with
  | [] => (text, none)
  | _ :: rest => (text.takeWhile (· != mark), some rest)

/-- The URL of a scheme that has nothing else. -/
def ofScheme (scheme : String) : Url where
  scheme
  username := ""
  password := ""
  host := none
  port := none
  path := .segments []
  query := none
  fragment := none

/-- Reads the path behind an authority or in its place. -/
def readPath (url : Url) (text : List Char) : Url :=
  { url with path := .segments (readSegments url.scheme text) }

/-- Reads an authority and the path behind it. An at sign that has nothing in front of it must be the
last character of all; `closed` tells that a query or a fragment follows. -/
def readHierarchy? (url : Url) (closed : Bool) (text : List Char) : Option Url := do
  let special := isSpecial url.scheme
  let authority := text.takeWhile (!isSlash special ·)
  let path := text.dropWhile (!isSlash special ·)
  if authority = ['@'] && (closed || !path.isEmpty) then none
  let (url, rest) ← url.readAuthority? authority
  some (url.readPath (rest ++ path))

/-- Whether a path starts with the name of a drive. -/
def isOnDrive (segments : List String) : Bool :=
  segments.head?.any (isDrive ·.toList)

/-- The file URL of a host and a path, read from where the path starts. A drive is a place of the
machine itself, so a path that starts with one has no host. -/
def ofFile (host : String) (text : List Char) : Url :=
  let segments := walk "file" [] text
  { ofScheme "file" with
    host := some (if isOnDrive segments then "" else host)
    path := .segments (settle "file" segments) }

/-- Reads the part of a file URL behind its scheme: a host may stand between two slashes and the
next one, unless it is the name of a drive. The host of the machine itself is not written, and
where there is none the slash behind it is a part of the path. -/
def readFile? (text : List Char) : Option Url :=
  match text with
  | a :: b :: rest =>
    if isSlash true a && isSlash true b then
      let name := rest.takeWhile (!isSlash true ·)
      let path := rest.dropWhile (!isSlash true ·)
      if isDrive name then some (ofFile "" rest)
      else if name.isEmpty then some (ofFile "" path)
      else
        (domainHost? name).map fun host =>
          if host = "localhost" then ofFile "" path else ofFile host (dropSlash true path)
    else some (ofFile "" (dropSlash true text))
  | text => some (ofFile "" (dropSlash true text))

/-- Reads what stands between the scheme and the query; `closed` tells that a query or a fragment
follows. -/
def readBody? (scheme : String) (closed : Bool) (text : List Char) : Option Url :=
  let url := ofScheme scheme
  if scheme = "file" then readFile? text
  else if isSpecial scheme then url.readHierarchy? closed (text.dropWhile (isSlash true))
  else
    match text with
    | '/' :: '/' :: rest => url.readHierarchy? closed rest
    | '/' :: _ => some (url.readPath text)
    | _ => some { url with path := .whole (String.ofList (percentEncode isControl text)) }

/-- Reads a URL that stands for itself. -/
def parse? (text : String) : Option Url := do
  let (front, fragment) := splitOff '#' (clean text.toList)
  let (scheme, rest) ← splitScheme? front
  let (body, query) := splitOff '?' rest
  let url ← readBody? scheme (query.isSome || fragment.isSome) body
  some { url with
    query := query.map fun q => String.ofList (percentEncode (inQuerySet (isSpecial scheme)) q)
    fragment := fragment.map fun f => String.ofList (percentEncode inFragmentSet f) }

end Stencil.Url
