import BucketVhosts.Number.Integer
import BucketVhosts.Text.Quoted

/-!
# Failed filter calls

Why a filter refuses a call, and the wording of each reason.
-/
namespace BucketVhosts

/-- Why a filter refuses a call. -/
inductive FilterFault where
  | tooManyArguments
  | missingArgument (parameter : String)
  | repeatedArgument (parameter : String)
  | unknownArgument (name : String)
  /-- An operand of another kind than the declared one. -/
  | wrongKind (parameter expected actual : String)
  /-- A domain from which so many labels cannot be taken. -/
  | noParentDomain (domain : String) (labels : Int)
  /-- An empty text to be replaced. -/
  | nothingToReplace
  | stated (message : String)
  deriving DecidableEq, Repr

/-- The wording of a reason. -/
def FilterFault.message : FilterFault → String
  | .tooManyArguments => "too many positional arguments"
  | .missingArgument p => "missing a required argument: " ++ Text.quote p
  | .repeatedArgument p => "multiple values for argument " ++ Text.quote p
  | .unknownArgument name => "got an unexpected keyword argument " ++ Text.quote name
  | .wrongKind p expected actual => p ++ " must be " ++ expected ++ ", got " ++ actual
  | .noParentDomain domain labels =>
    Text.quote domain ++ " has no parent domain " ++ Integer.text labels ++ " label(s) up"
  | .nothingToReplace => "cannot replace an empty string"
  | .stated message => message

end BucketVhosts
