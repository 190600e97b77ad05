import BucketVhosts.Command.Arguments
import BucketVhosts.Files.Path
import BucketVhosts.Site.Basic

/-!
# Requests

What the arguments of the program ask for: a command with its options, or one of the answers that
need no command. Asking for help or for the version comes before everything but arguments that
cannot be read.
-/
namespace BucketVhosts

/-- The options of the command that generates vhosts. -/
structure GenerateOptions where
  config : Option Path := none
  output : Option Path := none
  variant : Option Variant := none
  backend : Option String := none
  pruning : Bool := false
  checking : Bool := false
  reloading : Bool := false
  dryRun : Bool := false
  deriving DecidableEq, Repr

/-- The commands of the program. -/
inductive Command where
  | generate (options : GenerateOptions)
  /-- Shows the vhost of one domain. -/
  | display (domain : String) (config : Option Path) (variant : Option Variant)
  /-- Lists the sites of a document. -/
  | overview (config : Option Path)
  /-- Prints the example document. -/
  | sample
  deriving DecidableEq, Repr

/-- What the program is asked for. -/
inductive Request where
  /-- Arguments that the program does not understand. -/
  | misuse
  | help
  | version
  | run (verbose : Bool) (command : Command)
  deriving DecidableEq, Repr

namespace Request

/-- The option that asks for help. -/
def helpRule : OptionRule := { long := "--help" }

/-- The option that names a sites document. -/
def configRule : OptionRule := { long := "--config", short := some 'c', takesValue := true }

/-- The option that names a variant. -/
def variantRule : OptionRule := { long := "--variant", takesValue := true }

/-- The options that stand before the command. -/
def programRules : List OptionRule :=
  [{ long := "--verbose", short := some 'v' }, { long := "--version", short := some 'V' }, helpRule]

/-- The options of the command that generates vhosts. -/
def generateRules : List OptionRule :=
  [configRule, { long := "--output", short := some 'o', takesValue := true }, variantRule,
    { long := "--backend", takesValue := true }, { long := "--prune" }, { long := "--check" },
    { long := "--reload" }, { long := "--dry-run" }, helpRule]

/-- The path that an option gives, if any. Nothing is given if a NUL stands in it, which no path
can have. -/
def readPath (name : String) (arguments : Arguments) : Option (Option Path) :=
  match arguments.value? name with
  | none => some none
  | some text => if text.contains '\x00' then none else some (some (.ofText text))

/-- The variant that arguments give, if any. Nothing is given if there is no such variant. -/
def readVariant (arguments : Arguments) : Option (Option Variant) :=
  match arguments.value? "--variant" with
  | none => some none
  | some name => (Variant.ofName? name).map some

/-- Reads the arguments of the command that generates vhosts. -/
def readGenerate (arguments : Arguments) : Option Command :=
  match readPath "--config" arguments, readPath "--output" arguments, readVariant arguments,
      arguments.words with
  | some config, some output, some variant, [] =>
    some (.generate {
      config
      output
      variant
      backend := arguments.value? "--backend"
      pruning := arguments.has "--prune"
      checking := arguments.has "--check"
      reloading := arguments.has "--reload"
      dryRun := arguments.has "--dry-run" })
  | _, _, _, _ => none

/-- Reads the arguments of the command that shows a vhost. -/
def readDisplay (arguments : Arguments) : Option Command :=
  match readPath "--config" arguments, readVariant arguments, arguments.words with
  | some config, some variant, [domain] => some (.display domain config variant)
  | _, _, _ => none

/-- Reads the arguments of the command that lists sites. -/
def readOverview (arguments : Arguments) : Option Command :=
  if arguments.words.isEmpty then (readPath "--config" arguments).map .overview else none

/-- Reads the arguments of the command that prints the example. -/
def readSample (arguments : Arguments) : Option Command :=
  if arguments.words.isEmpty then some .sample else none

/-- The options of the command of a name, and how its arguments are read. -/
def commandOf? : String → Option (List OptionRule × (Arguments → Option Command))
  | "generate" => some (generateRules, readGenerate)
  | "show" => some ([configRule, variantRule, helpRule], readDisplay)
  | "list" => some ([configRule, helpRule], readOverview)
  | "example" => some ([helpRule], readSample)
  | _ => none

/-- The first of the options that are answered without a command. -/
def answered? (arguments : Arguments) : Option Request :=
  arguments.options.findSome? fun o =>
    if o.1 = "--help" then some .help else if o.1 = "--version" then some .version else none

/-- Reads words of which the first names no command. Behind `--` they may still be options that are
answered without one. -/
def readStray (words : List String) : Request :=
  match Arguments.read programRules false words with
  | none => .misuse
  | some arguments => (answered? arguments).getD .misuse

/-- Reads a command with its arguments. -/
def readCommand (verbose : Bool) (name : String) (rest : List String) : Request :=
  match commandOf? name with
  | none => readStray (name :: rest)
  | some (rules, command) =>
    match Arguments.read rules true rest with
    | none => .misuse
    | some arguments =>
      if arguments.has "--help" then .help
      else
        match command arguments with
        | none => .misuse
        | some command => .run verbose command

/-- Reads the arguments of the program. -/
def read (arguments : List String) : Request :=
  match Arguments.read programRules false arguments with
  | none => .misuse
  | some arguments =>
    match answered? arguments, arguments.words with
    | some request, _ => request
    | none, [] => .misuse
    | none, name :: rest => readCommand (arguments.has "--verbose") name rest

end Request
end BucketVhosts
