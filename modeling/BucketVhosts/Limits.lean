/-!
# Limits

How deep things may be nested before a run gives up, and how long a text may be, depends on the
machine that the run is on. Whatever can give up for one of these reasons takes the limits as a
parameter, so that what is said of it holds on every machine.
-/
namespace BucketVhosts

/-- What a machine allows. -/
class Limits where
  /-- How deep templates may include one another. -/
  inclusions : Nat
  /-- The room for the open blocks and brackets of a template that is read. -/
  templateNesting : Nat
  /-- How deep brackets may be nested for compiling a template to come to an end. -/
  compiledBrackets : Nat
  /-- How many YAML collections may be read at one time. -/
  yamlCollections : Nat
  /-- How many mappings a YAML scalar may be wrapped in. -/
  yamlWrapping : Nat
  /-- The room for the open arrays and inline tables of a TOML value. -/
  tomlNesting : Nat
  /-- The most characters that a text may have that a filter makes, if not any number. -/
  room : Option Nat

/-- The limits where no others are set. -/
instance Limits.usual : Limits where
  inclusions := 950
  templateNesting := 968
  compiledBrackets := 320
  yamlCollections := 488
  yamlWrapping := 980
  tomlNesting := 982
  room := some 1099511627776

end BucketVhosts
