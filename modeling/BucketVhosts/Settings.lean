import BucketVhosts.Files.Tree
import BucketVhosts.Site.Reading
import BucketVhosts.Vhost.Renderer

/-!
# Settings

What a command works with when its options say nothing else. Settings come from given values, and
from the environment where none is given.
-/
namespace BucketVhosts
open Data

/-- The environment's variables. -/
abbrev Environment := List (String × String)

/-- Settings. -/
structure Settings where
  config : Path
  output : Path
  backend : String
  variant : Variant
  padWidth : Int
  nginx : String
  positive : 0 < padWidth

namespace Settings

/-- The sites document to use if none is named. -/
def defaultConfig : Path := ⟨.here, ["nvhosts.yaml"]⟩

/-- The sites document to use if only this one exists. -/
def fallbackConfig : Path := ⟨.here, ["nvhosts.toml"]⟩

/-- The directory of the vhosts if none is named. -/
def defaultOutput : Path := ⟨.here, ["sites-available"]⟩

/-- The program to run if none is named. -/
def defaultNginx : String := "nginx"

/-- A path from the environment. An empty variable counts for nothing. -/
def pathFrom (environment : Environment) (name : String) (default : Path) : Path :=
  match environment.lookup name with
  | some s => if s = "" then default else .ofText s
  | none => default

/-- Whether a path leads to something. -/
def isPresent (tree : FileTree) (here : Place) (path : Path) : Bool :=
  match tree.contains here path with
  | .ok present => present
  | .error _ => false

/-- The sites document of a directory. -/
def configIn (tree : FileTree) (here : Place) : Path :=
  if !isPresent tree here defaultConfig && isPresent tree here fallbackConfig then
    fallbackConfig
  else defaultConfig

/-- The variant from the environment. -/
def variantFrom (environment : Environment) : Except String Variant :=
  let name := (environment.lookup "NVHOSTS_VARIANT").getD Variant.simple.name
  match Variant.ofName? name with
  | some variant => .ok variant
  | none => .error name

/-- The settings of an environment; the name of its variant if there is no such one. -/
def ofEnvironment (tree : FileTree) (here : Place) (environment : Environment) :
    Except String Settings :=
  match variantFrom environment with
  | .error name => .error name
  | .ok variant =>
    .ok {
      config := pathFrom environment "NVHOSTS_CONFIG" (configIn tree here)
      output := pathFrom environment "NVHOSTS_OUTPUT_DIR" defaultOutput
      backend := (environment.lookup "NVHOSTS_BACKEND_URL").getD Context.defaultBackend
      variant
      padWidth := Filter.defaultWidth
      nginx := (environment.lookup "NVHOSTS_NGINX_BIN").getD defaultNginx
      positive := by decide }

/-- Resolves settings from the environment alone. -/
def resolve (tree : FileTree) (here : Place) (environment : Environment) :
    Except Refusal Settings :=
  match ofEnvironment tree here environment with
  | .ok settings => .ok settings
  | .error name => .error (.general (.unknownVariantSetting name) 2)

/-- Reads a path. -/
def checkPath : Value → Checked Path
  | .text s => .ok (.ofText s)
  | _ => .fail .notPath

/-- Reads a width, which must be positive. -/
def checkWidth (v : Value) : Checked { n : Int // 0 < n } :=
  match v.checkInteger with
  | .error problems => .error problems
  | .ok n => if h : 0 < n then .ok ⟨n, h⟩ else .fail (.notGreater 0)

/-- Reads settings from given values. The environment fills in what they leave out, and its
variant must exist if it is needed. -/
def check (tree : FileTree) (here : Place) (environment : Environment)
    (given : List (Value × Value)) : Except Failure Settings :=
  match variantFrom environment, (Value.field? "variant" given).isSome with
  | .error name, false => .error (.fault (.value (.unknownVariant (Text.quote name))))
  | found, _ =>
    let variant := found.toOption.getD .simple
    let backend := (environment.lookup "NVHOSTS_BACKEND_URL").getD Context.defaultBackend
    let nginx := (environment.lookup "NVHOSTS_NGINX_BIN").getD defaultNginx
    let config := pathFrom environment "NVHOSTS_CONFIG" (configIn tree here)
    let output := pathFrom environment "NVHOSTS_OUTPUT_DIR" defaultOutput
    let checked :=
      (withDefault "config_path" config checkPath given).both
        ((withDefault "output_dir" output checkPath given).both
          ((withDefault "backend_url" backend Value.checkText given).both
            ((withDefault "variant" variant Variant.check given).both
              ((withDefault "pad_width" ⟨Filter.defaultWidth, by decide⟩ checkWidth given).both
                (withDefault "nginx_bin" nginx Value.checkText given)))))
    match checked with
    | .error problems => .error (.fault (.shape problems))
    | .ok (config, output, backend, variant, width, nginx) =>
      .ok { config, output, backend, variant, padWidth := width.1, nginx, positive := width.2 }

end Settings
end BucketVhosts
