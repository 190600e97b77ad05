import BucketVhosts.Host.Name
import BucketVhosts.Data.Table

/-!
# Domains declared more than once

The positions of every host in a list of domains, and those hosts that have several.
-/
namespace BucketVhosts.Host

/-- Adds a position to those of a key. -/
def addPosition (key : String) (position : Nat) (table : Table String (List Nat)) :
    Table String (List Nat) :=
  table.put key ((table.get? key).getD [] ++ [position])

/-- Adds the positions of the domains to a table of positions by key, counting from `position`.
Domains without a key are passed over. -/
def collectPositions (table : Table String (List Nat)) (position : Nat) :
    List String → Table String (List Nat)
  | [] => table
  | domain :: rest =>
    let table := if key domain = "" then table else addPosition (key domain) position table
    collectPositions table (position + 1) rest

/-- The hosts declared more than once, in the order in which they first appear, with all their
positions. -/
def duplicates (domains : List String) : List (String × List Nat) :=
  (collectPositions .empty 0 domains).entries.filter fun e => 1 < e.2.length

end BucketVhosts.Host
