import BucketVhosts.Data.Table
import BucketVhosts.Failure

/-!
# Identifiers

The identifier of a domain is made of ASCII letters, digits and underscores and does not start
with a digit, so that it can be part of the name of an NGINX variable. Different domains can have
the same identifier; a registry of owners finds that out.
-/
namespace BucketVhosts

namespace Host

/-- Whether a character may stand in an identifier. -/
def isIdentifierChar (c : Char) : Bool :=
  c.isAlphanum || c = '_'

/-- The identifier made of these characters. -/
def identifierOf (cs : List Char) : List Char :=
  match cs.map fun c => if isIdentifierChar c then c else '_' with
  | [] => []
  | c :: rest => if c.isDigit then '_' :: c :: rest else c :: rest

/-- The identifier of a domain: other characters become underscores, and an underscore is put in
front of a digit. -/
def identifier (domain : String) : String :=
  .ofList (identifierOf domain.toList)

end Host

/-- The owners of identifiers. -/
abbrev IdentifierRegistry := Table String String

namespace IdentifierRegistry

/-- Claims an identifier for a domain. -/
def claim (identifier domain : String) (registry : IdentifierRegistry) :
    Except Refusal IdentifierRegistry :=
  match Table.claim identifier domain registry with
  | .ok registry => .ok registry
  | .error owner => .error (.identifierCollision identifier [owner, domain])

/-- The domain that owns an identifier. -/
def owner? (identifier : String) (registry : IdentifierRegistry) : Option String :=
  Table.get? identifier registry

end IdentifierRegistry
end BucketVhosts
