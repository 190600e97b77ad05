import BucketVhosts.Template.Basic
import BucketVhosts.Template.Nesting

/-!
# Reading templates

A template from its words. Expressions are names, literals and tuples, their parts and items after
a point, calls, filters after a bar, joined texts, signs and negations; blocks are conditions,
loops, assignments and insertions. The first word that fits no rule is reported with its line.
-/
namespace BucketVhosts.Template

/-- Why a template cannot be read. -/
inductive Defect where
  /-- A fault of its text on a line. -/
  | fault (line : Nat) (fault : SyntaxFault)
  /-- A number that cannot be read, or words that are nested too deep. -/
  | failed (fault : Fault)
  deriving DecidableEq, Repr

/-- A step of reading: what it finds and the words that remain. -/
abbrev Reader (α : Type) := StateT (List Token) (Except Defect) α

namespace Reader

/-- Stops with a fault on a line. -/
def failAt {α : Type} (line : Nat) (fault : SyntaxFault) : Reader α :=
  fun _ => .error (.fault line fault)

/-- The current word. -/
def current : Reader Token := do
  match ← get with
  | [] => return ⟨1, .finish⟩
  | token :: _ =>
    match token.word with
    | .bad fault => failAt token.line fault
    | .failed fault => fun _ => .error (.failed fault)
    | _ => return token

/-- Goes on to the next word, which must be readable, and gives the current one. The end is never
passed. -/
def next : Reader Token := do
  let token ← current
  if token.word ≠ .finish then
    modify (List.drop 1)
    discard current
  return token

/-- Stops because another word is expected. -/
def failExpecting {α : Type} (expected : String) (token : Token) : Reader α :=
  if token.word = .finish then failAt token.line (.unexpectedEnd expected)
  else failAt token.line (.expectedToken expected token.word.described)

/-- Takes one particular word. -/
def expect (word : Word) : Reader Unit := do
  let token ← current
  if token.word = word then discard next else failExpecting word.described token

/-- Takes a name. -/
def expectName : Reader (String × Nat) := do
  let token ← current
  match token.word with
  | .name s => discard next; return (s, token.line)
  | _ => failExpecting "name" token

/-- Whether the current word is this one, which is then taken. -/
def skipIf (word : Word) : Reader Bool := do
  let token ← current
  if token.word = word then discard next; return true
  else return false

/-- Whether the next two words are these names, which are then taken. -/
def skipNames (first second : String) : Reader Bool := do
  match ← get with
  | ⟨_, .name s⟩ :: rest =>
    if s ≠ first then return false
    else
      let words ← get
      set rest
      let token ← current
      if token.word = .name second then discard next; return true
      else set words; return false
  | _ => return false

end Reader

open Reader

/-- What the name of a filter called on a line stands for. -/
def FilterName.ofName (name : String) (line : Nat) : FilterName :=
  if name = "dictsort" then .sortedFields
  else
    match Filter.ofName? name with
    | some filter => .own filter
    | none => .unknown name line

/-- The literal or name that a word of an expression is. -/
def nameExpr (s : String) : Expr :=
  if s = "true" || s = "True" then .bool true
  else if s = "false" || s = "False" then .bool false
  else if s = "none" || s = "None" then .none
  else .name s

/-- The further names of a dotted name. -/
def readDotted : (fuel : Nat) → String → Reader String
  | 0, name => return name
  | fuel + 1, name => do
    if ← skipIf (.operator ".") then
      let (further, _) ← expectName
      readDotted fuel (name ++ "." ++ further)
    else return name

/-- The name of the operand that follows, if it has one. -/
def readOperandName : Reader (Option String) := do
  match ← get with
  | ⟨_, .name s⟩ :: ⟨_, .operator "="⟩ :: rest => do
    set rest
    discard current
    return some s
  | _ => return none

/-- Texts written next to one another. -/
def readTexts (s : String) : (fuel : Nat) → Reader String
  | 0 => return s
  | fuel + 1 => do
    match (← current).word with
    | .text t => discard next; readTexts (s ++ t) fuel
    | _ => return s

mutual

/-- An expression. -/
def readExpr : (fuel : Nat) → Reader Expr
  | 0 => failAt 1 (.noExpression "")
  | fuel + 1 => do
    if ← skipIf (.name "not") then return .not (← readExpr fuel)
    let first ← readSigned fuel true
    readConcat fuel first

/-- The texts joined to a first one. -/
def readConcat : (fuel : Nat) → Expr → Reader Expr
  | 0, e => return e
  | fuel + 1, e => do
    if ← skipIf (.operator "~") then
      let f ← readSigned fuel true
      readConcat fuel (.concat e f)
    else return e

/-- An expression behind its signs, with its parts and, unless it stands behind a sign itself, its
filters. -/
def readSigned : (fuel : Nat) → (filtered : Bool) → Reader Expr
  | 0, _ => failAt 1 (.noExpression "")
  | fuel + 1, filtered => do
    let e ←
      if ← skipIf (.operator "-") then .signed true <$> readSigned fuel false
      else if ← skipIf (.operator "+") then .signed false <$> readSigned fuel false
      else readOperand fuel
    let e ← readParts fuel e
    if filtered then readFilters fuel e else return e

/-- A literal, a name or an expression in brackets. -/
def readOperand : (fuel : Nat) → Reader Expr
  | 0 => failAt 1 (.noExpression "")
  | fuel + 1 => do
    let token ← current
    match token.word with
    | .name s => discard next; return nameExpr s
    | .int n => discard next; return .int n
    | .real x => discard next; return .real x
    | .text s => do
      discard next
      return .text (← readTexts s fuel)
    | .operator "(" => do
      discard next
      let e ← readTuple fuel true
      expect (.operator ")")
      return e
    | word => failAt token.line (.unexpectedToken word.described)

/-- The parts, items and calls that follow an expression. -/
def readParts : (fuel : Nat) → Expr → Reader Expr
  | 0, e => return e
  | fuel + 1, e => do
    if ← skipIf (.operator ".") then
      let token ← next
      match token.word with
      | .name "endswith" =>
        if ← skipIf (.operator "(") then
          let ending ← readExpr fuel
          expect (.operator ")")
          readParts fuel (.endsWith e ending)
        else readParts fuel (.part e "endswith")
      | .name s => readParts fuel (.part e s)
      | .int n => readParts fuel (.item e n)
      | _ => failAt token.line .noPartName
    else if (← current).word = .operator "(" then
      let token ← next
      let (args, named) ← readArgs fuel token.line false
      readParts fuel (.call e args named)
    else return e

/-- The filters and calls that follow an expression. -/
def readFilters : (fuel : Nat) → Expr → Reader Expr
  | 0, e => return e
  | fuel + 1, e => do
    let token ← current
    match token.word with
    | .operator "|" => do
      discard next
      let (name, line) ← expectName
      let name ← readDotted fuel name
      let bracket ← current
      let (args, named) ←
        if ← skipIf (.operator "(") then readArgs fuel bracket.line false else pure ([], [])
      readFilters fuel (.filter (.ofName name line) e args named)
    | .operator "(" => do
      discard next
      let (args, named) ← readArgs fuel token.line false
      readFilters fuel (.call e args named)
    | _ => return e

/-- The operands of a call up to the closing bracket, `line` being the line of the opening one.
Behind an operand by name there is none by position. -/
def readArgs : (fuel : Nat) → (line : Nat) → (behindName : Bool) →
    Reader (List Expr × List (String × Expr))
  | 0, _, _ => return ([], [])
  | fuel + 1, line, behindName => do
    if ← skipIf (.operator ")") then return ([], [])
    let name? ← readOperandName
    if name?.isNone && behindName then failAt line .badCall
    let e ← readExpr fuel
    let token ← current
    if token.word ≠ .operator ")" then expect (.operator ",")
    let (args, named) ← readArgs fuel line name?.isSome
    match name? with
    | some name => return (args, (name, e) :: named)
    | none => return (e :: args, named)

/-- Expressions with commas between them, which are a tuple, or one expression alone. Nothing at
all is a tuple only between brackets. -/
def readTuple : (fuel : Nat) → (bracketed : Bool) → Reader Expr
  | 0, _ => failAt 1 (.noExpression "")
  | fuel + 1, bracketed => do
    let token ← current
    let (items, isTuple) ← readItems fuel
    match items with
    | [] =>
      if bracketed then return .tuple []
      else failAt token.line (.noExpression token.word.described)
    | [e] => return if isTuple then .tuple [e] else e
    | items => return .tuple items

/-- Expressions with commas between them, and whether there is a comma. -/
def readItems : (fuel : Nat) → Reader (List Expr × Bool)
  | 0 => return ([], false)
  | fuel + 1 => do
    match (← current).word with
    | .printEnd | .blockEnd | .operator ")" => return ([], false)
    | _ => do
      let e ← readExpr fuel
      if ← skipIf (.operator ",") then
        let (items, _) ← readItems fuel
        return (e :: items, true)
      else return ([e], false)

end

/-- The names to which a loop or an assignment gives values. -/
def readTargets : (fuel : Nat) → Reader (List String)
  | 0 => return []
  | fuel + 1 => do
    let (name, _) ← expectName
    if ← skipIf (.operator ",") then return name :: (← readTargets fuel) else return [name]

mutual

/-- The pieces up to a tag that ends the innermost block, or up to the end of the template.
`blocks` are the open blocks, innermost first. -/
def readPieces : (fuel : Nat) → List OpenBlock → Reader (List Piece)
  | 0, _ => return []
  | fuel + 1, blocks => do
    let token ← current
    match token.word with
    | .finish =>
      if blocks.isEmpty then return [] else failAt token.line (.unclosed blocks)
    | .data s => do
      discard next
      return .text s :: (← readPieces fuel blocks)
    | .printBegin => do
      discard next
      let e ← readTuple fuel false
      expect .printEnd
      return .print e :: (← readPieces fuel blocks)
    | .blockBegin => do
      discard next
      let tag ← current
      match tag.word with
      | .name name =>
        if (blocks.head?.any fun block => block.seeking.contains name) then return []
        let piece ← readBlock fuel blocks name tag.line
        expect .blockEnd
        return piece :: (← readPieces fuel blocks)
      | _ => failAt tag.line .missingTagName
    | word => failAt token.line (.unexpectedToken word.described)

/-- The pieces of a part of a block, whose tag may end with a colon. -/
def readBody : (fuel : Nat) → OpenBlock → List OpenBlock → Reader (List Piece)
  | 0, _, _ => return []
  | fuel + 1, block, blocks => do
    discard (skipIf (.operator ":"))
    expect .blockEnd
    readPieces fuel (block :: blocks)

/-- The block whose tag is current. -/
def readBlock : (fuel : Nat) → List OpenBlock → String → Nat → Reader Piece
  | 0, _, _, _ => return .text ""
  | fuel + 1, blocks, name, line => do
    match name with
    | "if" => discard next; readChoice fuel blocks
    | "for" => do
      discard next
      let targets ← readTargets fuel
      expect (.name "in")
      let e ← readTuple fuel false
      let body ← readBody fuel ⟨"for", ["endfor", "else"]⟩ blocks
      expect (.name "endfor")
      return .each targets e body
    | "set" => do
      discard next
      let (target, _) ← expectName
      expect (.operator "=")
      return .assign target (← readTuple fuel false)
    | "include" => do
      discard next
      let e ← readExpr fuel
      let mayLack ← skipNames "ignore" "missing"
      if ← skipNames "with" "context" then return .insert e mayLack true
      return .insert e mayLack !(← skipNames "without" "context")
    | _ => failAt line (.unknownTag name blocks)

/-- A condition after its `if` or `elif`, up to its `endif`, which is taken. -/
def readChoice : (fuel : Nat) → List OpenBlock → Reader Piece
  | 0, _ => return .text ""
  | fuel + 1, blocks => do
    let e ← readTuple fuel false
    let body ← readBody fuel ⟨"if", ["elif", "else", "endif"]⟩ blocks
    if ← skipIf (.name "elif") then
      let otherwise ← readChoice fuel blocks
      return .choose e body [otherwise]
    else if ← skipIf (.name "else") then
      let otherwise ← readBody fuel ⟨"if", ["endif"]⟩ blocks
      expect (.name "endif")
      return .choose e body otherwise
    else
      expect (.name "endif")
      return .choose e body []

end

/-- The template that a text is. Filters that do not exist are reported after the rest has been
read. -/
def read [Limits] (content : String) : Except Defect Template :=
  let words := tokens content
  if isTooDeep words then .error (.failed .tooDeep)
  else
    match (readPieces (32 * (words.length + 2)) []).run words with
    | .error defect => .error defect
    | .ok (template, _) =>
      match unknownFilters false template with
      | [] => if hasTooManyBlocks words then .error (.failed .tooManyBlocks) else .ok template
      | (line, name) :: _ => .error (.fault line (.unknownFilter name))

end BucketVhosts.Template
