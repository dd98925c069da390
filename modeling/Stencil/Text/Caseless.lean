/-!
# Names up to ASCII case

A member may be named in another case than it is declared in. The exact name wins; failing that,
the first declared name that differs only in the case of ASCII letters.
-/

namespace Stencil.Text

/-- Whether two names differ at most in the case of ASCII letters. -/
def sameUpToCase (a b : String) : Bool :=
  a.toList.map Char.toLower == b.toList.map Char.toLower

/-- What a list of named entries holds under exactly the given name. -/
def findExact (name : String) (entries : List (String × α)) : Option α :=
  (entries.find? (·.1 == name)).map (·.2)

/-- What a list of named entries holds first under the given name in any case. -/
def findCaseless (name : String) (entries : List (String × α)) : Option α :=
  (entries.find? (sameUpToCase ·.1 name)).map (·.2)

/-- What a list of named entries holds under the given name, in its own case if possible. -/
def findNamed (name : String) (entries : List (String × α)) : Option α :=
  (findExact name entries).or (findCaseless name entries)

end Stencil.Text
