import BucketVhosts.Limits
import BucketVhosts.Template.Token

/-!
# Nesting in templates

How deep blocks and brackets may be nested so that a template can be read and compiled.
-/
namespace BucketVhosts.Template

/-- How many blocks and round brackets are open at a place. -/
structure Nesting where
  blocks : Nat := 0
  brackets : Nat := 0

/-- How much of the room for reading a template the open blocks and brackets take. -/
def Nesting.room (nesting : Nesting) : Nat :=
  4 * nesting.blocks + 14 * nesting.brackets

/-- The most blocks that may be open at once. -/
def maxBlocks : Nat := 98

/-- What is open after each word of a template. -/
def nestings (around : Nesting) : List Token → List Nesting
  | [] => []
  | ⟨_, .blockBegin⟩ :: ⟨line, .name name⟩ :: rest =>
    let inner : Nesting :=
      if name = "if" || name = "for" then ⟨around.blocks + 1, 0⟩
      else if name = "endif" || name = "endfor" then ⟨around.blocks - 1, 0⟩
      else ⟨around.blocks, 0⟩
    inner :: nestings inner (⟨line, .name name⟩ :: rest)
  | ⟨_, .operator "("⟩ :: rest =>
    let inner : Nesting := ⟨around.blocks, around.brackets + 1⟩
    inner :: nestings inner rest
  | ⟨_, .operator ")"⟩ :: rest =>
    let inner : Nesting := ⟨around.blocks, around.brackets - 1⟩
    inner :: nestings inner rest
  | _ :: rest => nestings around rest

/-- Whether the words of a template are nested too deep to be read. -/
def isTooDeep [Limits] (words : List Token) : Bool :=
  (nestings {} words).any fun nesting => Limits.templateNesting < nesting.room

/-- Whether blocks are nested too deep to be compiled. -/
def hasTooManyBlocks (words : List Token) : Bool :=
  (nestings {} words).any fun nesting => maxBlocks < nesting.blocks

end BucketVhosts.Template
