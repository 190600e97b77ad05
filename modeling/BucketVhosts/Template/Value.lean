import BucketVhosts.Filter.Basic
import BucketVhosts.Number.Shortest
import BucketVhosts.Vhost.Context

/-!
# Template values

The values that expressions of a template can have, their parts, and how they are shown. A part
that a value does not have is undefined: it can be handed on, but not used.
-/
namespace BucketVhosts.Template

/-- A value of an expression. -/
inductive Value where
  | none
  | bool (b : Bool)
  | int (n : Int)
  | real (x : Binary64)
  | text (s : String)
  | tuple (items : List Value)
  | fields (fields : HeaderFields)
  | headerRule (rule : HeaderRule)
  | redirectRule (rule : RedirectRule)
  | cacheRule (rule : CacheRule)
  | context (context : Context)
  /-- Something that every template sees, with its text and the name of its kind behind that of the
  place where the kind is at home. -/
  | builtin (shown home kind : String)
  | undefined (fault : TemplateFault)

namespace Value

/-- The kind of a value as messages about filters name it. -/
def kind : Value → String
  | .none => "NoneType"
  | .bool _ => "bool"
  | .int _ => "int"
  | .real _ => "float"
  | .text _ => "str"
  | .tuple _ => "tuple"
  | .fields _ => "dict"
  | .headerRule _ => "HeaderRule"
  | .redirectRule _ => "RedirectRule"
  | .cacheRule _ => "CacheRule"
  | .context _ => "SiteContext"
  | .builtin _ _ kind => kind
  | .undefined _ => "StrictUndefined"

/-- A value as messages about missing parts describe it. -/
def owner : Value → String
  | .none => "None"
  | .headerRule _ => "nvhosts_common.models.site.HeaderRule object"
  | .redirectRule _ => "nvhosts_common.models.site.RedirectRule object"
  | .cacheRule _ => "nvhosts_common.models.site.CacheRule object"
  | .context _ => "nvhosts_common.models.rendered.SiteContext object"
  | .builtin _ home kind => home ++ kind ++ " object"
  | v => v.kind ++ " object"

/-- A value as the operand of a filter. -/
def operand : Value → Operand
  | .text s => .text s
  | .int n => .int n
  | .undefined fault => .undefined fault
  | v => .other v.kind

/-- The names of the methods of texts. -/
def textMethods : List String :=
  ["capitalize", "casefold", "center", "count", "encode", "endswith", "expandtabs", "find",
    "format", "format_map", "index", "isalnum", "isalpha", "isascii", "isdecimal", "isdigit",
    "isidentifier", "islower", "isnumeric", "isprintable", "isspace", "istitle", "isupper", "join",
    "ljust", "lower", "lstrip", "maketrans", "partition", "removeprefix", "removesuffix", "replace",
    "rfind", "rindex", "rjust", "rpartition", "rsplit", "rstrip", "split", "splitlines",
    "startswith", "strip", "swapcase", "title", "translate", "upper", "zfill"]

/-- The names of the methods of tuples. -/
def tupleMethods : List String :=
  ["count", "index"]

/-- The names of the methods of header fields. -/
def fieldsMethods : List String :=
  ["clear", "copy", "fromkeys", "get", "items", "keys", "pop", "popitem", "setdefault", "update",
    "values"]

/-- The names of the methods of integers. -/
def intMethods : List String :=
  ["as_integer_ratio", "bit_count", "bit_length", "conjugate", "from_bytes", "to_bytes"]

/-- The names of the methods of real numbers. -/
def realMethods : List String :=
  ["as_integer_ratio", "conjugate", "fromhex", "hex", "is_integer"]

/-- A method, of which only the kind matters: it is not called and its text is not shown. -/
def method : Value := .builtin "<built-in method>" "" "builtin_function_or_method"

/-- The named part of an integer. -/
def intPart? (name : String) (n : Int) : Option Value :=
  if name = "real" || name = "numerator" then some (.int n)
  else if name = "imag" then some (.int 0)
  else if name = "denominator" then some (.int 1)
  else if intMethods.contains name then some method
  else Option.none

/-- The named part of a value, if it has one. -/
def part? (name : String) : Value → Option Value
  | .context c =>
    match name with
    | "domain" => some (.text c.domain)
    | "identifier" => some (.text c.identifier)
    | "upstream" => some (.text c.upstream)
    | "headers" => some (.tuple (c.headers.map .headerRule))
    | "redirects" => some (.tuple (c.redirects.map .redirectRule))
    | "cache_control" => some (.tuple (c.cacheRules.map .cacheRule))
    | "extra" => some (.text c.extra)
    | _ => Option.none
  | .headerRule r =>
    match name with
    | "pattern" => some (.text r.pattern)
    | "values" => some (.fields r.fields)
    | _ => Option.none
  | .redirectRule r =>
    match name with
    | "source" => some (.text r.source)
    | "to" => some (.text r.target)
    | "status_code" => some (.int r.status.code)
    | _ => Option.none
  | .cacheRule r =>
    match name with
    | "mime" => some (.text r.mime)
    | "value" => some (.text r.value)
    | _ => Option.none
  | .fields f => if fieldsMethods.contains name then some method else (f.get? name).map .text
  | .text _ => if textMethods.contains name then some method else Option.none
  | .tuple _ => if tupleMethods.contains name then some method else Option.none
  | .int n => intPart? name n
  | .bool b => intPart? name b.toNat
  | .real x =>
    if name = "real" then some (.real x)
    else if name = "imag" then some (.real (.zero false))
    else if realMethods.contains name then some method
    else Option.none
  | _ => Option.none

/-- The named part of a value. A part of what is undefined cannot be asked for. -/
def part (name : String) (v : Value) : Except TemplateFault Value :=
  match v with
  | .undefined fault => .error fault
  | v => .ok ((v.part? name).getD (.undefined (.noAttribute v.owner name)))

/-- The item of a value at a position from zero on, if it has one. -/
def item? (position : Int) : Value → Option Value
  | .text s => (s.toList[position.toNat]?).map fun c => .text (String.singleton c)
  | .tuple items => items[position.toNat]?
  | _ => Option.none

/-- The item of a value at a position. An item of what is undefined cannot be asked for. -/
def item (position : Int) (v : Value) : Except TemplateFault Value :=
  match v with
  | .undefined fault => .error fault
  | v =>
    .ok ((v.item? position).getD (.undefined (.noElement v.owner (Integer.text position))))

/-- Whether a value counts as true. -/
def truth : Value → Except TemplateFault Bool
  | .none => .ok false
  | .bool b => .ok b
  | .int n => .ok (n ≠ 0)
  | .real x => .ok (x ≠ .zero false && x ≠ .zero true)
  | .text s => .ok (s ≠ "")
  | .tuple items => .ok !items.isEmpty
  | .fields f => .ok !f.entries.isEmpty
  | .undefined fault => .error fault
  | _ => .ok true

/-! ## Showing values -/

/-- Named parts between brackets. -/
def record (label : String) (parts : List (String × String)) : String :=
  label ++ "(" ++ ", ".intercalate (parts.map fun p => p.1 ++ "=" ++ p.2) ++ ")"

/-- Header fields between braces. -/
def shownFields (fields : HeaderFields) : String :=
  "\x7b" ++ ", ".intercalate
    (fields.entries.map fun e => Text.quote e.1 ++ ": " ++ Text.quote e.2) ++ "\x7d"

/-- Items between round brackets, a single one with a comma after it. -/
def shownTuple : List String → String
  | [s] => "(" ++ s ++ ",)"
  | items => "(" ++ ", ".intercalate items ++ ")"

/-- The parts of a header rule. -/
def headerParts (rule : HeaderRule) : List (String × String) :=
  [("pattern", Text.quote rule.pattern), ("values", shownFields rule.fields)]

/-- The parts of a redirect rule. -/
def redirectParts (rule : RedirectRule) : List (String × String) :=
  [("source", Text.quote rule.source), ("to", Text.quote rule.target),
    ("status_code", Integer.text rule.status.code)]

/-- The parts of a cache rule. -/
def cacheParts (rule : CacheRule) : List (String × String) :=
  [("mime", Text.quote rule.mime), ("value", Text.quote rule.value)]

/-- The parts of a context. -/
def contextParts (c : Context) : List (String × String) :=
  [("domain", Text.quote c.domain), ("identifier", Text.quote c.identifier),
    ("upstream", Text.quote c.upstream),
    ("headers", shownTuple (c.headers.map fun r => record "HeaderRule" (headerParts r))),
    ("redirects", shownTuple (c.redirects.map fun r => record "RedirectRule" (redirectParts r))),
    ("cache_control", shownTuple (c.cacheRules.map fun r => record "CacheRule" (cacheParts r))),
    ("extra", Text.quote c.extra)]

/-- Named parts with spaces between them. -/
def spaced (parts : List (String × String)) : String :=
  " ".intercalate (parts.map fun p => p.1 ++ "=" ++ p.2)

mutual

/-- A value as it is shown inside another one. -/
def shownInside : Value → String
  | .none => "None"
  | .bool b => if b then "True" else "False"
  | .int n => Integer.text n
  | .real x => x.text
  | .text s => Text.quote s
  | .tuple items => shownTuple (shownItems items)
  | .fields f => shownFields f
  | .headerRule r => record "HeaderRule" (headerParts r)
  | .redirectRule r => record "RedirectRule" (redirectParts r)
  | .cacheRule r => record "CacheRule" (cacheParts r)
  | .context c => record "SiteContext" (contextParts c)
  | .builtin shown _ _ => shown
  | .undefined _ => "Undefined"

/-- The items of a tuple as they are shown. -/
def shownItems : List Value → List String
  | [] => []
  | v :: rest => shownInside v :: shownItems rest

end

/-- A value as a template prints it. -/
def shown : Value → Except TemplateFault String
  | .undefined fault => .error fault
  | .text s => .ok s
  | .headerRule r => .ok (spaced (headerParts r))
  | .redirectRule r => .ok (spaced (redirectParts r))
  | .cacheRule r => .ok (spaced (cacheParts r))
  | .context c => .ok (spaced (contextParts c))
  | v => .ok v.shownInside

end Value
end BucketVhosts.Template
