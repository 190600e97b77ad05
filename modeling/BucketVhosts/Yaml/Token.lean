import BucketVhosts.Text.Half
import BucketVhosts.Yaml.Cursor

/-!
# YAML tokens

The words of a YAML text. The block structure that indentation expresses has tokens of its own:
where a block starts, where it ends, and where its keys are.
-/
namespace BucketVhosts.Yaml
open Data (Stop)

/-- A tag as it is written: a handle, if there is one, and what follows it. -/
structure TagName where
  handle : Option String
  suffix : String
  deriving DecidableEq, Repr

/-- A directive. -/
inductive Directive where
  | version (major : Nat)
  | tag (handle start : String)
  | other
  deriving DecidableEq, Repr

/-- A word of a YAML text. -/
inductive Token where
  | directive (directive : Directive)
  | documentStart
  | documentEnd
  | streamEnd
  | blockSequenceStart
  | blockMappingStart
  | blockEnd
  | flowSequenceStart
  | flowSequenceEnd
  | flowMappingStart
  | flowMappingEnd
  | blockEntry
  | flowEntry
  | key
  | value
  | alias (name : String)
  | anchor (name : String)
  | tag (name : TagName)
  | scalar (text : String) (isPlain : Bool)
  /-- Reading stops here. -/
  | stop (reason : Stop)
  deriving DecidableEq, Repr

end BucketVhosts.Yaml
