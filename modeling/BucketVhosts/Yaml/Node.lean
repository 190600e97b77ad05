import BucketVhosts.Limits
import BucketVhosts.Yaml.Kind
import BucketVhosts.Yaml.Layout

/-!
# YAML nodes

The graph that the tokens of a document spell. A node may have a name by which other places of the
document refer to it, so that a node can be a part of several others, or of itself.
-/
namespace BucketVhosts.Yaml
open Data (Stop)

/-- The place of a node in a document. -/
abbrev NodeId := Nat

/-- What a node holds. -/
inductive NodeBody where
  | scalar (text : String)
  | sequence (items : List NodeId)
  | mapping (entries : List (NodeId × NodeId))
  deriving DecidableEq, Repr

/-- A part of a document. -/
structure Node where
  kind : Kind
  body : NodeBody
  deriving DecidableEq, Repr

/-- The node where there is nothing. -/
def Node.empty : Node :=
  ⟨.null, .scalar ""⟩

/-- A document: its nodes, each at its place. -/
structure Graph where
  nodes : Array Node := #[]
  deriving Repr

/-- The node at a place. -/
def Graph.node (graph : Graph) (id : NodeId) : Node :=
  graph.nodes.getD id .empty

/-- The graph with another node at a place. -/
def Graph.set (graph : Graph) (id : NodeId) (node : Node) : Graph :=
  ⟨graph.nodes.setIfInBounds id node⟩

/-- The tokens that remain, the meaning of the handles, the nodes read so far and the names that
some of them have, and how many collections are being read. -/
structure Reading where
  tokens : List Token
  handles : List (String × String) := []
  graph : Graph := {}
  names : List (String × NodeId) := []
  depth : Nat := 0

/-- A step of reading nodes. -/
abbrev NodeReader (α : Type) := StateT Reading (Except Stop) α

namespace NodeReader

/-- Stops because the tokens fit no rule. -/
def refuse {α : Type} : NodeReader α :=
  throw .invalid

/-- The current token. -/
def current : NodeReader Token := do
  match (← get).tokens with
  | [] => refuse
  | .stop reason :: _ => throw reason
  | token :: _ => return token

/-- Goes on to the next token. -/
def skip : NodeReader Unit :=
  modify fun s => { s with tokens := s.tokens.drop 1 }

/-- Whether the current token is this one, which is then taken. -/
def skipIf (token : Token) : NodeReader Bool := do
  if (← current) = token then skip; return true
  else return false

/-- Takes one particular token. -/
def expect (token : Token) : NodeReader Unit := do
  if !(← skipIf token) then refuse

/-- Whether the current token is one of these. -/
def isAt (tokens : List Token) : NodeReader Bool := do
  return tokens.contains (← current)

/-- Makes a place for a node, which may get a name. No name may be given twice. -/
def place (name : Option String) : NodeReader NodeId := do
  let s ← get
  let id := s.graph.nodes.size
  let graph : Graph := ⟨s.graph.nodes.push .empty⟩
  match name with
  | none => set { s with graph }
  | some name =>
    if (s.names.lookup name).isSome then refuse
    else set { s with graph, names := (name, id) :: s.names }
  return id

/-- Puts a node in its place. -/
def put (id : NodeId) (node : Node) : NodeReader Unit :=
  modify fun s => { s with graph := s.graph.set id node }

/-- Starts to read a collection. -/
def enter [Limits] : NodeReader Unit := do
  let s ← get
  if Limits.yamlCollections ≤ s.depth then throw (.fault .tooDeep)
  else set { s with depth := s.depth + 1 }

/-- Ends a collection. -/
def leave : NodeReader Unit :=
  modify fun s => { s with depth := s.depth - 1 }

/-- Puts a scalar in a place of its own. -/
def putScalar (name : Option String) (tag : NodeTag) (text : String) (isPlain : Bool) :
    NodeReader NodeId := do
  let id ← place name
  put id ⟨.ofScalar tag text isPlain, .scalar text⟩
  return id

/-- The empty node in a place of its own. -/
def putEmpty : NodeReader NodeId :=
  putScalar none .unspecified "" true

end NodeReader

open NodeReader

/-- The handles that need no directive. -/
def standardHandles : List (String × String) :=
  [("!", "!"), ("!!", "tag:yaml.org,2002:")]

/-- The full tag of a written one. -/
def resolveTag (name : TagName) : NodeReader NodeTag := do
  match name.handle with
  | none => return .named name.suffix
  | some handle =>
    match (← get).handles.lookup handle with
    | some start => return .named (start ++ name.suffix)
    | none => refuse

/-- The name that a node is given, if any. -/
def readAnchorToken : NodeReader (Option String) := do
  match ← current with
  | .anchor name => skip; return some name
  | _ => return none

/-- The tag that a node is given, if any. -/
def readTagToken : NodeReader (Option TagName) := do
  match ← current with
  | .tag name => skip; return some name
  | _ => return none

/-- The name and tag of a node, in either order. -/
def readProperties : NodeReader (Option String × Option TagName) := do
  match ← readAnchorToken with
  | some name => return (some name, ← readTagToken)
  | none =>
    match ← readTagToken with
    | some tag => return (← readAnchorToken, some tag)
    | none => return (none, none)

/-- Where nodes may stand: block collections may start there, and block entries without further
indentation. -/
structure Position where
  inBlock : Bool
  indentless : Bool

/-- Inside a flow collection. -/
def Position.flow : Position := ⟨false, false⟩

/-- As an entry of a block sequence or a document. -/
def Position.block : Position := ⟨true, false⟩

/-- As a key or value of a block mapping. -/
def Position.blockMapping : Position := ⟨true, true⟩

/-- Reads a collection into a place of its own. -/
def readCollection [Limits] (name : Option String) (tag : NodeTag) (form : Kind)
    (body : NodeReader NodeBody) : NodeReader NodeId := do
  let id ← place name
  enter
  let body ← body
  leave
  put id ⟨.ofCollection tag form, body⟩
  return id

/-- The empty node with a name or tag. -/
def readEmpty (name : Option String) (tag : NodeTag) (isBare : Bool) : NodeReader NodeId :=
  if isBare then refuse else putScalar name tag "" true

section
variable [Limits]

mutual

/-- The node here. -/
def readNode : (fuel : Nat) → Position → NodeReader NodeId
  | 0, _ => refuse
  | fuel + 1, position => do
    match ← current with
    | .alias name => do
      skip
      match (← get).names.lookup name with
      | some id => return id
      | none => refuse
    | _ => do
      let (name, tagName) ← readProperties
      let tag ← match tagName with
        | none => pure NodeTag.unspecified
        | some t => resolveTag t
      let isBare := name.isNone && tagName.isNone
      readContent fuel position name tag isBare

/-- The node here after its name and tag. Without either it must not be empty. -/
def readContent :
    (fuel : Nat) → Position → Option String → NodeTag → Bool → NodeReader NodeId
  | 0, _, _, _, _ => refuse
  | fuel + 1, position, name, tag, isBare => do
    match ← current with
    | .blockEntry =>
      if position.indentless then
        readCollection name tag .list (.sequence <$> readIndentlessEntries fuel)
      else readEmpty name tag isBare
    | .scalar text isPlain => do
      skip
      putScalar name tag text isPlain
    | .flowSequenceStart => do
      skip
      readCollection name tag .list (.sequence <$> readFlowItems fuel true)
    | .flowMappingStart => do
      skip
      readCollection name tag .map (.mapping <$> readFlowEntries fuel true)
    | .blockSequenceStart =>
      if position.inBlock then
        skip
        readCollection name tag .list (.sequence <$> readBlockItems fuel)
      else readEmpty name tag isBare
    | .blockMappingStart =>
      if position.inBlock then
        skip
        readCollection name tag .map (.mapping <$> readBlockEntries fuel)
      else readEmpty name tag isBare
    | _ => readEmpty name tag isBare

/-- The node here, or the empty node before one of the tokens given. -/
def readNodeBefore : (fuel : Nat) → Position → List Token → NodeReader NodeId
  | 0, _, _ => refuse
  | fuel + 1, position, ends => do
    if ← isAt ends then putEmpty else readNode fuel position

/-- The items of a block sequence. -/
def readBlockItems : (fuel : Nat) → NodeReader (List NodeId)
  | 0 => refuse
  | fuel + 1 => do
    if ← skipIf .blockEntry then
      let item ← readNodeBefore fuel .block [.blockEntry, .blockEnd]
      return item :: (← readBlockItems fuel)
    else
      expect .blockEnd
      return []

/-- The items of a block sequence in the column of the mapping around it. -/
def readIndentlessEntries : (fuel : Nat) → NodeReader (List NodeId)
  | 0 => refuse
  | fuel + 1 => do
    if ← skipIf .blockEntry then
      let item ← readNodeBefore fuel .block [.blockEntry, .key, .value, .blockEnd]
      return item :: (← readIndentlessEntries fuel)
    else return []

/-- The entries of a block mapping. -/
def readBlockEntries : (fuel : Nat) → NodeReader (List (NodeId × NodeId))
  | 0 => refuse
  | fuel + 1 => do
    if ← skipIf .key then
      let ends : List Token := [.key, .value, .blockEnd]
      let key ← readNodeBefore fuel .blockMapping ends
      let value ← if ← skipIf .value then readNodeBefore fuel .blockMapping ends else putEmpty
      return (key, value) :: (← readBlockEntries fuel)
    else
      expect .blockEnd
      return []

/-- The items of a flow sequence. An item that is a key with its value is a mapping of its own. -/
def readFlowItems : (fuel : Nat) → (isFirst : Bool) → NodeReader (List NodeId)
  | 0, _ => refuse
  | fuel + 1, isFirst => do
    if ← skipIf .flowSequenceEnd then return []
    if !isFirst then expect .flowEntry
    if ← skipIf .flowSequenceEnd then return []
    let item ←
      if ← skipIf .key then readCollection none .unspecified .map (readFlowPair fuel)
      else readNode fuel .flow
    return item :: (← readFlowItems fuel false)

/-- The only entry of a mapping that is an item of a flow sequence. -/
def readFlowPair : (fuel : Nat) → NodeReader NodeBody
  | 0 => refuse
  | fuel + 1 => do
    let key ← readNodeBefore fuel .flow [.value, .flowEntry, .flowSequenceEnd]
    let value ←
      if ← skipIf .value then readNodeBefore fuel .flow [.flowEntry, .flowSequenceEnd]
      else putEmpty
    return .mapping [(key, value)]

/-- The entries of a flow mapping. A key may stand without a value. -/
def readFlowEntries :
    (fuel : Nat) → (isFirst : Bool) → NodeReader (List (NodeId × NodeId))
  | 0, _ => refuse
  | fuel + 1, isFirst => do
    if ← skipIf .flowMappingEnd then return []
    if !isFirst then expect .flowEntry
    if ← skipIf .flowMappingEnd then return []
    if ← skipIf .key then
      let key ← readNodeBefore fuel .flow [.value, .flowEntry, .flowMappingEnd]
      let value ←
        if ← skipIf .value then readNodeBefore fuel .flow [.flowEntry, .flowMappingEnd]
        else putEmpty
      return (key, value) :: (← readFlowEntries fuel false)
    else
      let key ← readNode fuel .flow
      let value ← putEmpty
      return (key, value) :: (← readFlowEntries fuel false)

end

end

/-- Reads the directives before a document. There may be one version, whose major number must be
1, and no handle may be given twice. -/
def readDirectives : (fuel : Nat) → (hasVersion : Bool) → NodeReader Unit
  | 0, _ => refuse
  | fuel + 1, hasVersion => do
    match ← current with
    | .directive directive => do
      skip
      match directive with
      | .version major =>
        if hasVersion || major ≠ 1 then refuse else readDirectives fuel true
      | .tag handle start => do
        let s ← get
        if (s.handles.lookup handle).isSome then refuse
        else
          set { s with handles := (handle, start) :: s.handles }
          readDirectives fuel hasVersion
      | .other => readDirectives fuel hasVersion
    | _ => return ()

/-- Goes over marks that end documents. -/
def skipDocumentEnds : (fuel : Nat) → NodeReader Unit
  | 0 => refuse
  | fuel + 1 => do
    if ← skipIf .documentEnd then skipDocumentEnds fuel else return ()

/-- Whether the current token is a directive. -/
def atDirective : NodeReader Bool := do
  match ← current with
  | .directive _ => return true
  | _ => return false

/-- A document that starts with directives or its mark. -/
def readExplicit [Limits] (fuel : Nat) : NodeReader NodeId := do
  readDirectives fuel false
  expect .documentStart
  modify fun s => { s with handles := s.handles ++ standardHandles }
  if (← atDirective) || (← isAt [.documentStart, .documentEnd, .streamEnd]) then putEmpty
  else readNode fuel .block

/-- The only document of a text, if it has one. -/
def readDocument [Limits] (fuel : Nat) : NodeReader (Option NodeId) := do
  if ← skipIf .streamEnd then return none
  let root ←
    if (← atDirective) || (← isAt [.documentStart]) then readExplicit fuel
    else do
      modify fun s => { s with handles := standardHandles }
      readNode fuel .block
  skipDocumentEnds fuel
  expect .streamEnd
  return some root

/-- The document that tokens spell and the place of its root, nothing if there is none. -/
def Graph.ofTokens [Limits] (tokens : List Token) : Except Stop (Option (Graph × NodeId)) :=
  match (readDocument (4 * tokens.length + 8)).run { tokens } with
  | .error reason => .error reason
  | .ok (root, s) => .ok (root.map fun root => (s.graph, root))

end BucketVhosts.Yaml
