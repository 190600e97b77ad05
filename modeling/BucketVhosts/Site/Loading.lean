import BucketVhosts.Files.Tree
import BucketVhosts.Log
import BucketVhosts.Site.Reading
import BucketVhosts.Text.Lowercase
import BucketVhosts.Text.Pieces
import BucketVhosts.Toml.Document
import BucketVhosts.Yaml.Document

/-!
# Loading sites documents

A sites document is a file in YAML or TOML; the ending of its name says which. The file is read
first, then its ending is looked at, then its text is read, and last the value is checked against
the rules for sites.
-/
namespace BucketVhosts
open Data

/-- The languages of sites documents. -/
inductive Language where
  | yaml
  | toml
  deriving DecidableEq, Repr

namespace Language

/-- The language that the ending of a file name stands for. Its case does not count. -/
def ofSuffix? (suffix : String) : Option Language :=
  match Text.lower suffix with
  | ".yaml" | ".yml" => some .yaml
  | ".toml" => some .toml
  | _ => none

/-- The value that a text whose lines end with line feeds is in a language. -/
def read [Limits] : Language → List Char → Except Stop Value
  | .yaml => Yaml.read
  | .toml => Toml.read

/-- What is wrong with a text that is none of the language. -/
def invalid : Language → LoadFault
  | .yaml => .invalidYaml
  | .toml => .invalidToml

end Language

namespace Document

/-- The failure of a document for a reason to stop reading it. -/
def stopped (path : Path) (language : Language) : Stop → Failure
  | .invalid => .refusal (.load path.text language.invalid)
  | .fault fault => .fault fault

/-- The failure of a document whose file cannot be read. -/
def unreadable (path : Path) : FileFault → Failure
  | .missing => .refusal (.load path.text .notFound)
  | .notDirectory => .refusal (.load path.text (.notDirectory path))
  | .isDirectory => .refusal (.load path.text (.isDirectory path))
  | .nameTooLong => .refusal (.load path.text (.nameTooLong path))
  | .alreadyExists => .fault .fileExists
  | .nul => .fault (.value .nulInPath)

/-- The characters of a file, all of its lines ended with line feeds. -/
def characters (tree : FileTree) (here : Place) (path : Path) : Except Failure (List Char) :=
  match tree.read here path with
  | .error fault => .error (unreadable path fault)
  | .ok (.binary _) => .error (.fault .undecodable)
  | .ok (.text s) => .ok (Text.unifyLineEnds s.toList)

/-- The value of a text in the language that the path's ending stands for. -/
def parse [Limits] (path : Path) (text : List Char) : Except Failure Value :=
  match Language.ofSuffix? path.suffix with
  | none => .error (.refusal (.load path.text (.unsupportedType path.suffix)))
  | some language =>
    match language.read text with
    | .ok v => .ok v
    | .error stop => .error (stopped path language stop)

/-- The entries at the top level of a document. A document that is null has none. -/
def entries? : Value → Option (List (Value × Value))
  | .null => some []
  | .mapping entries => some entries
  | _ => none

/-- The document that a value describes. -/
def ofValue (path : Path) (v : Value) : Except Failure Document :=
  match entries? v with
  | none => .error (.refusal (.load path.text .notMapping))
  | some entries =>
    match check (.mapping entries) with
    | .ok document => .ok document
    | .error problems => .error (.refusal (.load path.text (.shape problems)))

/-- The document of a file. -/
def fromFile [Limits] (tree : FileTree) (here : Place) (path : Path) : Except Failure Document :=
  match characters tree here path with
  | .error failure => .error failure
  | .ok text =>
    match parse path text with
    | .error failure => .error failure
    | .ok v => ofValue path v

/-- Loads the document of a file, and reports how many sites it has. -/
def load [Limits] (tree : FileTree) (here : Place) (path : Path) : Logged Document :=
  (Logged.ofExcept (fromFile tree here path)).bind fun document =>
    (Logged.report (.loaded document.sites.length path)).bind fun () => Logged.pure document

end Document
end BucketVhosts
