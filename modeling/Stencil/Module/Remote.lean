import Stencil.Config
import Stencil.Module.Queue

/-!
# Modules of a server

Modules that are not at hand may be fetched from a server. The place of a module is below the base
URL, under the name of the module in form encoding.
-/

namespace Stencil

/-- A server of modules. -/
structure Remote where
  /-- The base URL, with a slash at the end of its path. -/
  base : Url
deriving DecidableEq, Repr

namespace Remote

/-- Whether a client may name itself so: without control characters, the tab apart. -/
def isAgentName (name : String) : Bool :=
  name.toList.all fun c => c == '\t' || (32 ≤ c.toNat && c.toNat != 127)

/-- The server at a base URL. A client that cannot name itself is refused. -/
def new (base : Url) (config : Config) : Except Error Remote :=
  if isAgentName config.userAgent then .ok { base := base.withTrailingSlash }
  else .error (.config "Failed to create HTTP client")

/-- The place of a module below the base URL, as it is joined to it. -/
def relativePath (module : String) : List Char :=
  "_framework/_bin/".toList ++ Url.formEncode module.toList

/-- The URL of a module. -/
def moduleUrl (remote : Remote) (module : String) : Except FetchError Url :=
  match remote.base.below? (relativePath module) with
  | some url => .ok url
  | none =>
    .error (.invalidRequest
      s!"module '{module}': relative URL with a cannot-be-a-base base")

end Remote

/-- Where an engine finds modules: at hand, and perhaps on a server. -/
structure Sources where
  /-- The modules at hand. -/
  catalog : Catalog
  /-- The server. -/
  remote : Option Remote

namespace Sources

/-- The sources that settings ask for. -/
def ofConfig (catalog : Catalog) (config : Config) : Except Error Sources :=
  match config.baseUrl with
  | none => .ok { catalog, remote := none }
  | some base => (Remote.new base config).map fun remote => { catalog, remote := some remote }

/-- Fetches a module that is at hand at once and asks the server for the others. `web` tells how
the server replies. -/
def fetcher (sources : Sources) (web : Url → Reply) : Fetcher := fun module =>
  match sources.catalog.fetch module, sources.remote with
  | .error (.notFound _), some remote =>
    match remote.moduleUrl module with
    | .ok url => web url
    | .error e => ⟨0, some (.error e)⟩
  | result, _ => ⟨0, some result⟩

end Sources

end Stencil
