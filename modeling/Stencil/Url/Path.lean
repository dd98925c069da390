import Stencil.Url.Basic

/-!
# Paths

A divided path is read segment by segment. Steps up and in place are taken at once, and a segment
that names a drive is never stepped out of. Paths of files know two more rules: a drive at the top
is written with a colon, and no slash stands in front of the path but the one that starts it.
-/

namespace Stencil.Url

/-- Whether a character is a slash; where `special` holds, a backslash is one too. -/
def isSlash (special : Bool) (c : Char) : Bool :=
  c == '/' || (special && c == '\\')

/-- The parts of a text between slashes. -/
def splitSlashes (special : Bool) (text : List Char) : List (List Char) :=
  Text.splitWhere (isSlash special) text

/-- Whether a segment stands for the segment above. -/
def isDoubleDot (segment : List Char) : Bool :=
  ["..", ".%2e", "%2e.", "%2e%2e"].contains (String.ofList (segment.map Char.toLower))

/-- Whether a segment stands for its own place. -/
def isSingleDot (segment : List Char) : Bool :=
  [".", "%2e"].contains (String.ofList (segment.map Char.toLower))

/-- Whether a segment is the name of a drive, with a colon or a bar. -/
def isDrive : List Char → Bool
  | [c, mark] => c.isAlpha && (mark == ':' || mark == '|')
  | _ => false

/-- Whether a segment is the name of a drive, alone or in front of a backslash. -/
def startsWithDrive : List Char → Bool
  | c :: mark :: rest => isDrive [c, mark] && (rest.isEmpty || rest.head? == some '\\')
  | _ => false

/-- The segments above the last one; a drive has nothing above it. -/
def above (segments : List String) : List String :=
  match segments.getLast? with
  | some last => if startsWithDrive last.toList then segments else segments.dropLast
  | none => []

/-- Adds a segment to a path. `last` tells that no slash follows it. -/
def addSegment (file last : Bool) (segments : List String) (segment : List Char) : List String :=
  if isDoubleDot segment then above segments ++ (if last then [""] else [])
  else if isSingleDot segment then segments ++ (if last then [""] else [])
  else if file && segments.isEmpty && isDrive segment then
    [String.ofList (segment.take 1 ++ [':'])]
  else segments ++ [String.ofList (percentEncode inPathSet segment)]

/-- Adds the segments of a path one after the other. -/
def addSegments (file : Bool) (segments : List String) : List (List Char) → List String
  | [] => segments
  | [segment] => addSegment file true segments segment
  | segment :: rest => addSegments file (addSegment file false segments segment) rest

/-- The segments that a relative path leads to from the given ones. -/
def walk (scheme : String) (segments : List String) (text : List Char) : List String :=
  addSegments (scheme == "file") segments (splitSlashes (isSpecial scheme) text)

/-- The segments without empty ones in front of others. -/
def trimFront : List String → List String
  | "" :: next :: rest => trimFront (next :: rest)
  | segments => segments

/-- The segments as the path of a scheme has them. -/
def settle (scheme : String) (segments : List String) : List String :=
  if scheme == "file" then trimFront segments else segments

/-- A path without the slash that starts it. A backslash starts the path of a special scheme as
well; a path that starts with neither is taken whole. -/
def dropSlash (special : Bool) : List Char → List Char
  | [] => []
  | c :: rest => if isSlash special c then rest else c :: rest

/-- The segments of a path behind an authority or in its place. Only the path of a scheme that is
not special may have none. -/
def readSegments (scheme : String) (text : List Char) : List String :=
  if text.isEmpty && !isSpecial scheme then []
  else walk scheme [] (dropSlash (isSpecial scheme) text)

/-- The segments with a colon behind the name of a drive at the top. -/
def nameDrive : List String → List String
  | [] => []
  | top :: rest =>
    (if isDrive top.toList then String.ofList (top.toList.take 1 ++ [':']) else top) :: rest

/-- The URL with a slash at the end of its path. Where the slash is added, a drive that has come to
the top of a file path is named. -/
def withTrailingSlash (url : Url) : Url :=
  match url.path with
  | .whole text => { url with path := .whole (text ++ "/") }
  | .segments list =>
    if list.getLast? = some "" then url
    else
      let named := if url.scheme == "file" then nameDrive list else list
      { url with path := .segments (named ++ [""]) }

/-- The place that a relative path leads to from a URL: its path without the last segment, then the
segments of the relative path. A URL that is no base leads nowhere. -/
def below? (url : Url) (relative : List Char) : Option Url :=
  match url.path with
  | .whole _ => none
  | .segments list =>
    some { url with
      path := .segments (settle url.scheme (walk url.scheme list.dropLast relative))
      query := none
      fragment := none }

end Stencil.Url
