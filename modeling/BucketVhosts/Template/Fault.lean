import BucketVhosts.Number.Integer
import BucketVhosts.Text.Quoted

/-!
# Failed templates

Why a template cannot be read or rendered, and the wording of each reason.
-/
namespace BucketVhosts

/-- A block that is open where a tag stands: its name and the tags that may end it or its
current part. -/
structure OpenBlock where
  name : String
  seeking : List String
  deriving DecidableEq, Repr

/-- Why the text of a template is not one. Open blocks are listed from the innermost. -/
inductive SyntaxFault where
  | unknownFilter (name : String)
  | unknownTag (name : String) (blocks : List OpenBlock)
  /-- The text ends inside a block. -/
  | unclosed (blocks : List OpenBlock)
  /-- The text ends inside a tag. -/
  | unexpectedEnd (expected : String)
  | expectedToken (expected found : String)
  | unexpectedToken (found : String)
  | noExpression (found : String)
  | noPartName
  | unexpectedChar (c : Char) (offset : Nat)
  /-- A closing bracket without an opening one. -/
  | unexpectedBracket (bracket : Char)
  /-- A closing bracket of another kind than the open one. -/
  | wrongBracket (bracket expected : Char)
  | missingTagName
  | openComment
  /-- An escape in a text whose digits end too early. -/
  | shortEscape (form : String)
  /-- An escape by name that names nothing between braces. -/
  | malformedName
  | unknownName
  /-- An escape by a code point that no character has. -/
  | illegalCode
  | badName
  /-- An operand by position after one by name. -/
  | badCall
  deriving DecidableEq, Repr

/-- What a message says about the open blocks, `name` being the tag that fits none. -/
def OpenBlock.hints (name : Option String) : List OpenBlock → List String
  | [] => []
  | blocks@(innermost :: _) =>
    let looking := " or ".intercalate (innermost.seeking.map Text.quote)
    let known := name.any fun n => blocks.any fun block => block.seeking.contains n
    [if known then
      "You probably made a nesting mistake. Jinja is expecting this tag, but currently looking for "
        ++ looking ++ "."
    else "Jinja was looking for the following tags: " ++ looking ++ ".",
    "The innermost block that needs to be closed is " ++ Text.quote innermost.name ++ "."]

/-- The wording of a reason. -/
def SyntaxFault.message : SyntaxFault → String
  | .unknownFilter name => "No filter named " ++ Text.quote name ++ "."
  | .unknownTag name blocks =>
    " ".intercalate
      (("Encountered unknown tag " ++ Text.quote name ++ ".") :: OpenBlock.hints name blocks)
  | .unclosed blocks =>
    " ".intercalate ("Unexpected end of template." :: OpenBlock.hints none blocks)
  | .unexpectedEnd expected =>
    "unexpected end of template, expected " ++ Text.quote expected ++ "."
  | .expectedToken expected found =>
    "expected token " ++ Text.quote expected ++ ", got " ++ Text.quote found
  | .unexpectedToken found => "unexpected " ++ Text.quote found
  | .noExpression found => "Expected an expression, got " ++ Text.quote found
  | .noPartName => "expected name or number"
  | .unexpectedChar c offset =>
    "unexpected char " ++ Text.quote (String.singleton c) ++ " at " ++ Integer.ofNat offset
  | .unexpectedBracket bracket => "unexpected " ++ Text.quote (String.singleton bracket)
  | .wrongBracket bracket expected =>
    "unexpected " ++ Text.quote (String.singleton bracket) ++ ", expected " ++
      Text.quote (String.singleton expected)
  | .missingTagName => "tag name expected"
  | .openComment => "Missing end of comment tag"
  | .shortEscape form => "truncated \\" ++ form ++ " escape"
  | .malformedName => "malformed \\N character escape"
  | .unknownName => "unknown Unicode character name"
  | .illegalCode => "illegal Unicode character"
  | .badName => "Invalid character in identifier"
  | .badCall => "invalid syntax for function call expression"

/-- Why a template cannot be rendered. -/
inductive TemplateFault where
  | unknownVariant
  | notFound (name : String)
  | badSyntax (line : Nat) (fault : SyntaxFault)
  | undefinedName (name : String)
  /-- A value of the described kind without the named part. -/
  | noAttribute (owner name : String)
  | noElement (owner element : String)
  /-- A filter that does not exist, found out when the call is reached. -/
  | unknownFilter (name : String)
  | stated (message : String)
  deriving DecidableEq, Repr

/-- The wording of a reason. -/
def TemplateFault.message : TemplateFault → String
  | .unknownVariant => "unknown template variant"
  | .notFound name => "template not found: " ++ name
  | .badSyntax line fault => "line " ++ Integer.ofNat line ++ ": " ++ fault.message
  | .undefinedName name => Text.quote name ++ " is undefined"
  | .noAttribute owner name =>
    Text.quote owner ++ " has no attribute " ++ Text.quote name
  | .noElement owner element => owner ++ " has no element " ++ element
  | .unknownFilter name => "No filter named " ++ Text.quote name ++ " found."
  | .stated message => message

end BucketVhosts
