/-!
# Arguments

A command's arguments are options and other words. An option is written long, with two dashes, or
short, with one dash and a letter. The value of a long option is the next argument or follows an
equals sign; short options can be joined, and the value of the last one can be joined to it.
Everything after `--` is a word.
-/
namespace BucketVhosts

/-- An option that a command knows. -/
structure OptionRule where
  long : String
  short : Option Char := none
  takesValue : Bool := false
  deriving DecidableEq, Repr

/-- What a command is given. -/
structure Arguments where
  /-- The options by their long names, in order, each with its value if it has one. -/
  options : List (String × String) := []
  words : List String := []
  deriving DecidableEq, Repr

/-- The options that an argument gives, and the one whose value is the next argument. -/
structure OptionWord where
  options : List (String × String) := []
  waiting : Option String := none

namespace Arguments

/-- Whether an option is given. -/
def has (name : String) (arguments : Arguments) : Bool :=
  arguments.options.any fun o => o.1 = name

/-- The value of an option. Of several values the last one counts. -/
def value? (name : String) (arguments : Arguments) : Option String :=
  (arguments.options.reverse.find? fun o => o.1 = name).map Prod.snd

/-- Whether an argument is written like an option. A dash alone is a word. -/
def isOption : List Char → Bool
  | '-' :: _ :: _ => true
  | _ => false

/-- Reads joined short options. -/
def readShort (rules : List OptionRule) : List Char → Option OptionWord
  | [] => some {}
  | c :: rest =>
    match rules.find? fun rule => rule.short = some c with
    | none => none
    | some rule =>
      if rule.takesValue then
        if rest.isEmpty then some { waiting := some rule.long }
        else some { options := [(rule.long, .ofList rest)] }
      else
        (readShort rules rest).map fun word =>
          { word with options := (rule.long, "") :: word.options }

/-- Reads an option, long or short. Nothing is given if there is no such option, or if it has a
value and takes none. -/
def readOption (rules : List OptionRule) (cs : List Char) : Option OptionWord :=
  let name := String.ofList (cs.takeWhile (· ≠ '='))
  match rules.find? fun rule => rule.long = name, cs.dropWhile (· ≠ '=') with
  | some rule, _ :: value =>
    if rule.takesValue then some { options := [(rule.long, .ofList value)] } else none
  | some rule, [] =>
    if rule.takesValue then some { waiting := some rule.long }
    else some { options := [(rule.long, "")] }
  | none, _ => if ['-', '-'].isPrefixOf cs then none else readShort rules (cs.drop 1)

/-- Arguments with options in front. -/
def withOptions (options : List (String × String)) (arguments : Arguments) : Arguments :=
  { arguments with options := options ++ arguments.options }

/-- Arguments with a word in front. -/
def withWord (word : String) (arguments : Arguments) : Arguments :=
  { arguments with words := word :: arguments.words }

/-- Reads arguments by the rules of a command. Unless options and words are `mixed`, the first word
ends the options. Nothing is given if an option cannot be read or lacks its value. -/
def read (rules : List OptionRule) (mixed : Bool) : List String → Option Arguments
  | [] => some {}
  | argument :: rest =>
    if argument = "--" then some { words := rest }
    else if isOption argument.toList then
      match readOption rules argument.toList, rest with
      | none, _ => none
      | some ⟨options, none⟩, rest => (read rules mixed rest).map (withOptions options)
      | some ⟨_, some _⟩, [] => none
      | some ⟨options, some name⟩, value :: rest =>
        (read rules mixed rest).map (withOptions (options ++ [(name, value)]))
    else if mixed then (read rules mixed rest).map (withWord argument)
    else some { words := argument :: rest }

end Arguments
end BucketVhosts
