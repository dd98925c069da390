import Stencil.Error
import Stencil.Toml.Reader
import Stencil.Url.Parser

/-!
# Settings of an engine

An engine has six settings. They come from a TOML text, in which every setting has a default and
nothing else may stand, and they are checked before an engine is made of them.
-/

namespace Stencil

/-- The settings of an engine. -/
structure Config where
  /-- The URL below which modules are fetched that are not at hand. -/
  baseUrl : Option Url
  /-- How long a fetch may take, in seconds. -/
  fetchTimeout : Nat
  /-- How the engine names itself to a server. -/
  userAgent : String
  /-- Whether compiled renderers are kept. -/
  cacheCompiled : Bool
  /-- Whether sources are compiled one at a time. -/
  serializeBackend : Bool
  /-- Whether templates are read from files; no engine does that. -/
  externalTemplates : Bool
deriving DecidableEq, Repr

namespace Config

/-- The settings of an engine that nothing is said about. -/
def default : Config where
  baseUrl := none
  fetchTimeout := 30
  userAgent := "quill/0.1.0"
  cacheCompiled := false
  serializeBackend := false
  externalTemplates := false

/-- Sets one setting; there is no setting of another name or with a value of another kind. -/
def set? (config : Config) (key : String) (value : Toml.Scalar) : Option Config :=
  match key, value with
  | "base_url", .text text => (Url.parse? text).map fun url => { config with baseUrl := some url }
  | "fetch_timeout_secs", .whole seconds =>
    if 0 ≤ seconds then some { config with fetchTimeout := seconds.toNat } else none
  | "user_agent", .text text => some { config with userAgent := text }
  | "cache_compiled", .bool b => some { config with cacheCompiled := b }
  | "serialize_backend", .bool b => some { config with serializeBackend := b }
  | "external_templates", .bool b => some { config with externalTemplates := b }
  | _, _ => none

/-- Checks the settings. -/
def validate (config : Config) : Except Error Unit :=
  if config.externalTemplates then
    .error (.config
      "external template files are not supported; templates are always compiled from text")
  else if config.fetchTimeout = 0 then
    .error (.config "fetch_timeout_secs must be greater than zero")
  else
    match config.baseUrl with
    | some url =>
      if url.cannotBeABase then
        let shown := url.text
        .error (.config s!"base_url '{shown}' cannot be used as a base URL")
      else .ok ()
    | none => .ok ()

/-- Reads settings from a text and checks them. -/
def ofToml (text : String) : Except Error Config :=
  let config? : Option Config := do
    let settings ← Toml.read text.toList
    settings.foldlM (fun (config : Config) setting => config.set? setting.1 setting.2) default
  match config? with
  | none => .error (.config "Failed to parse configuration")
  | some config => config.validate.map fun _ => config

/-- Reads settings from the content of a file, if there is a file. -/
def ofFile (content : Option ByteArray) : Except Error Config :=
  match content.bind String.fromUTF8? with
  | none => .error .file
  | some text => ofToml text

end Config

end Stencil
