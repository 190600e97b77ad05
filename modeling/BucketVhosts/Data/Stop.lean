import BucketVhosts.Failure

/-!
# Reading that stops

Reading the text of a document stops where the text is none, or where a scalar has the form of a
value but is none.
-/
namespace BucketVhosts.Data

/-- Why reading stops. -/
inductive Stop where
  /-- The text is not a document of its language, or not one with a value. -/
  | invalid
  /-- A scalar that has the form of a value but is none. -/
  | fault (fault : Fault)
  deriving DecidableEq, Repr

end BucketVhosts.Data
