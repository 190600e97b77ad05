import BucketVhosts.Data.Check
import BucketVhosts.Files.Path
import BucketVhosts.Filter.Fault
import BucketVhosts.Template.Fault

/-!
# Failures

Every way in which an operation can fail. A refusal is reported to the user by its message and has
an exit code of its own; a fault is anything else that stops an operation. The wording of each
lies in one `message` function, and where a message is built from causes they are kept.
-/
namespace BucketVhosts

/-! ## Causes -/

/-- Why a site cannot be compiled on its own. -/
inductive SiteFault where
  | emptyDomain
  | stated (message : String)
  deriving DecidableEq, Repr

/-- The wording of a cause. -/
def SiteFault.message : SiteFault → String
  | .emptyDomain => "domain must not be empty"
  | .stated message => message

/-- Why a sites document cannot be loaded. -/
inductive LoadFault where
  | notFound
  | isDirectory (path : Path)
  | notDirectory (path : Path)
  | nameTooLong (path : Path)
  | invalidYaml
  | invalidToml
  | unsupportedType (suffix : String)
  | notMapping
  /-- The document holds values of the wrong shape. -/
  | shape (problems : List Data.Problem)
  | stated (message : String)
  deriving DecidableEq, Repr

/-- The wording of a cause. -/
def LoadFault.message : LoadFault → String
  | .notFound => "file not found"
  | .isDirectory path => "[Errno 21] Is a directory: " ++ Text.quote path.text
  | .notDirectory path => "[Errno 20] Not a directory: " ++ Text.quote path.text
  | .nameTooLong path => "[Errno 36] File name too long: " ++ Text.quote path.text
  | .invalidYaml => "invalid YAML"
  | .invalidToml => "invalid TOML"
  | .unsupportedType suffix =>
    "unsupported file type " ++ Text.quote (if suffix = "" then "(none)" else suffix) ++
      "; use .yaml, .yml or .toml"
  | .notMapping => "expected a mapping with a 'sites' list at the top level"
  | .shape problems =>
    Integer.ofNat problems.length ++ " validation error" ++
      (if problems.length = 1 then "" else "s") ++ " for SitesDocument"
  | .stated message => message

/-- Why NGINX did not do what it was asked for. -/
inductive NginxFault where
  | binaryNotFound (name : String)
  | testFailed (output : String)
  | reloadFailed (output : String)
  | stated (message : String)
  deriving DecidableEq, Repr

/-- The wording of a cause. -/
def NginxFault.message : NginxFault → String
  | .binaryNotFound name => "NGINX binary not found: " ++ name
  | .testFailed output => "NGINX config test failed:\n" ++ output
  | .reloadFailed output => "NGINX reload failed:\n" ++ output
  | .stated message => message

/-- A general cause. -/
inductive GeneralFault where
  /-- The variant named by the environment does not exist. -/
  | unknownVariantSetting (name : String)
  | stated (message : String)
  deriving DecidableEq, Repr

/-! ## Refusals -/

/-- A failure that is reported to the user. -/
inductive Refusal where
  | general (fault : GeneralFault) (exitCode : Int)
  | invalidSite (fault : SiteFault) (domain : Option String) (position : Option Int)
  | duplicateSite (domain : String) (positions : List Int)
  | identifierCollision (identifier : String) (domains : List String)
  | filter (name : String) (fault : FilterFault)
  | template (name : String) (fault : TemplateFault)
  | load (path : String) (fault : LoadFault)
  | invalidSettings (problems : List String)
  | nginx (fault : NginxFault) (exitCode : Int)
  deriving DecidableEq, Repr

/-- The message that names a variant which does not exist; `shown` is its name as messages show
it. -/
def unknownVariantMessage (shown : String) : String :=
  shown ++ " is not a valid TemplateVariant"

/-- The wording of a cause. -/
def GeneralFault.message : GeneralFault → String
  | .unknownVariantSetting name =>
    "invalid NVHOSTS_* setting: " ++ unknownVariantMessage (Text.quote name)
  | .stated message => message

namespace Refusal

/-- The wording of a refusal. A site is named by its domain or, failing that, by its position. -/
def message : Refusal → String
  | .general fault _ => fault.message
  | .invalidSite fault domain position =>
    match domain.filter (· ≠ ""), position with
    | some d, _ => "site " ++ Text.quote d ++ ": " ++ fault.message
    | none, some n => "site #" ++ Integer.text n ++ ": " ++ fault.message
    | none, none => fault.message
  | .duplicateSite domain positions =>
    "duplicate site " ++ Text.quote domain ++ " at positions " ++
      ", ".intercalate (positions.map Integer.text)
  | .identifierCollision identifier domains =>
    "identifier " ++ Text.quote identifier ++ " is derived from both " ++
      " and ".intercalate (domains.map Text.quote)
  | .filter name fault => "filter " ++ Text.quote name ++ ": " ++ fault.message
  | .template name fault => "template " ++ Text.quote name ++ ": " ++ fault.message
  | .load path fault => "failed to load " ++ path ++ ": " ++ fault.message
  | .invalidSettings problems =>
    Integer.ofNat problems.length ++ " invalid site setting(s):\n" ++
      "\n".intercalate (problems.map ("  - " ++ ·))
  | .nginx fault _ => fault.message

/-- The exit code of a command that ends with the refusal. -/
def exitCode : Refusal → Int
  | .general _ code | .nginx _ code => code
  | .invalidSite .. | .duplicateSite .. | .identifierCollision .. | .load .. => 1
  | .filter .. | .template .. => 3
  | .invalidSettings _ => 2

/-- The name of the kind of a refusal. -/
def kind : Refusal → String
  | .general .. => "NvhostsError"
  | .invalidSite .. => "InvalidSiteError"
  | .duplicateSite .. => "DuplicateSiteError"
  | .identifierCollision .. => "IdentifierCollisionError"
  | .filter .. => "FilterError"
  | .template .. => "TemplateError"
  | .load .. => "ConfigLoadError"
  | .invalidSettings _ => "SiteValidationError"
  | .nginx .. => "NginxConfigError"

end Refusal

/-! ## Faults -/

/-- Why a value cannot be made from its text or parts. -/
inductive ValueFault where
  /-- No variant has the name, given as messages show it. -/
  | unknownVariant (shown : String)
  | moment (fault : Data.MomentFault)
  | notInteger (base : Nat) (literal : String)
  | notReal (literal : String)
  /-- More decimal digits than an integer may be written with. -/
  | tooManyDigits (count : Nat)
  | notCodePoint
  | nulInPath
  deriving DecidableEq, Repr

/-- The most characters of a quoted literal that a message shows. -/
def maxShownLiteral : Nat := 200

/-- The wording of a fault. -/
def ValueFault.message : ValueFault → String
  | .unknownVariant shown => unknownVariantMessage shown
  | .moment fault => fault.message
  | .notInteger base literal =>
    "invalid literal for int() with base " ++ Integer.ofNat base ++ ": " ++
      .ofList ((Text.quote literal).toList.take maxShownLiteral)
  | .notReal literal => "could not convert string to float: " ++ Text.quote literal
  | .tooManyDigits count =>
    "Exceeds the limit (4300 digits) for integer string conversion: value has " ++
      Integer.ofNat count ++ " digits; use sys.set_int_max_str_digits() to increase the limit"
  | .notCodePoint => "chr() arg not in range(0x110000)"
  | .nulInPath => "embedded null byte"

/-- A failure that is not a refusal. -/
inductive Fault where
  | value (fault : ValueFault)
  /-- Values of the wrong shape. -/
  | shape (problems : List Data.Problem)
  /-- A number too large for its use. -/
  | overflow
  /-- A file that is not text in UTF-8. -/
  | undecodable
  /-- A text that has no form in UTF-8. -/
  | unencodable
  | permissionDenied
  | fileExists
  | fileMissing
  | isDirectory
  | notDirectory
  | nameTooLong
  /-- A text without the character that is asked for. -/
  | noSuchPosition
  /-- A truth value that is neither spelling. -/
  | noSuchKey
  /-- A collection in the place of a text. -/
  | wrongType
  /-- A timestamp that has no date. -/
  | noSuchPart
  | tooDeep
  /-- Blocks of a template that are nested too deep. -/
  | tooManyBlocks
  /-- Brackets of an expression that are nested too deep. -/
  | tooManyBrackets
  /-- A call that gives two operands one name. -/
  | repeatedName
  /-- A real number with a digit that is not ASCII. -/
  | foreignDigit
  /-- A text that no memory can hold. -/
  | outOfMemory
  /-- A line for the screen that ends a style which it did not start. -/
  | badMarkup
  deriving DecidableEq, Repr

/-- A failed operation. -/
inductive Failure where
  | refusal (refusal : Refusal)
  | fault (fault : Fault)
  deriving DecidableEq, Repr

end BucketVhosts
