import BucketVhosts.Data.Moment
import BucketVhosts.Number.Shortest
import BucketVhosts.Text.Quoted

/-!
# Document values

What a configuration document holds before it is checked against the rules for sites: scalars,
sequences and mappings whose keys are any scalars. A mapping keeps its entries in order with
distinct keys, and two numbers or truth values that are equal as numbers are the same key.
-/
namespace BucketVhosts.Data

/-- A value read from a document. -/
inductive Value where
  | null
  | bool (b : Bool)
  | int (n : Int)
  | real (x : Binary64)
  | text (s : String)
  | bytes (content : List UInt8)
  | date (d : Date)
  | dateTime (t : DateTime)
  | time (t : TimeOfDay)
  | list (items : List Value)
  | tuple (items : List Value)
  | set (items : List Value)
  | mapping (entries : List (Value × Value))
  deriving Repr

namespace Value

instance : Inhabited Value := ⟨.null⟩

/-- The integer that a key is equal to, if any: truth values count as 1 and 0. -/
def keyInt? : Value → Option Int
  | .bool b => some (if b then 1 else 0)
  | .int n => some n
  | .real x => x.toInt?
  | _ => none

/-- Whether two scalars are the same key of a mapping. -/
def sameKey (a b : Value) : Bool :=
  match a.keyInt?, b.keyInt? with
  | some m, some n => m = n
  | some _, none | none, some _ => false
  | none, none =>
    match a, b with
    | .null, .null => true
    | .real x, .real y => x = y
    | .text s, .text t => s = t
    | .bytes s, .bytes t => s = t
    | .date s, .date t => s = t
    | .dateTime s, .dateTime t => s.same t
    | .time s, .time t => s = t
    | _, _ => false

/-- Sets the value of a key. A key that is present keeps its place and its spelling. -/
def put (key value : Value) : List (Value × Value) → List (Value × Value)
  | [] => [(key, value)]
  | (k, v) :: rest =>
    if sameKey k key then (k, value) :: rest else (k, v) :: put key value rest

/-- The mapping of a list of entries, later ones replacing earlier ones of the same key. -/
def ofEntries (entries : List (Value × Value)) : Value :=
  .mapping (entries.foldl (fun acc e => put e.1 e.2 acc) [])

/-- Whether a key is the given text. -/
def isText (name : String) : Value → Bool
  | .text s => s = name
  | _ => false

/-- The value of the key that is the given text. -/
def field? (name : String) : List (Value × Value) → Option Value
  | [] => none
  | (k, v) :: rest => if k.isText name then some v else field? name rest

/-- A scalar as messages show it. -/
def shown : Value → String
  | .null => "None"
  | .bool b => if b then "True" else "False"
  | .int n => Integer.text n
  | .real x => x.text
  | .text s => Text.quote s
  | .bytes content => Text.quoteBytes content
  | .date d => d.text
  | .dateTime t => t.text
  | .time _ | .list _ | .tuple _ | .set _ | .mapping _ => "..."

end Value
end BucketVhosts.Data
