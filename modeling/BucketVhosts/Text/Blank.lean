/-!
# Blank characters

The white space of Unicode together with the four ASCII separators U+001C to U+001F, and trimming.
`trim` is what makes a domain's surrounding white space irrelevant.
-/
namespace BucketVhosts.Text

/-- White space: the Unicode property, and the ASCII information separators. -/
def isBlank (c : Char) : Bool :=
  let n := c.toNat
  (0x09 ≤ n && n ≤ 0x0D) || (0x1C ≤ n && n ≤ 0x20) || n == 0x85 || n == 0xA0 || n == 0x1680 ||
    (0x2000 ≤ n && n ≤ 0x200A) || n == 0x2028 || n == 0x2029 || n == 0x202F || n == 0x205F ||
    n == 0x3000

/-- White space: the Unicode property alone. Around numbers no other white space is allowed. -/
def isPlainBlank (c : Char) : Bool :=
  isBlank c && !(0x1C ≤ c.toNat && c.toNat ≤ 0x1F)

/-! ## Trimming -/

/-- Drops the longest suffix whose elements satisfy `p`. -/
def dropEndWhile {α : Type} (p : α → Bool) (l : List α) : List α :=
  (l.reverse.dropWhile p).reverse

/-- The characters without those satisfying `p` at either end. -/
def trimWhile (p : Char → Bool) (cs : List Char) : List Char :=
  dropEndWhile p (cs.dropWhile p)

/-- The text without the white space around it. -/
def trim (s : String) : String :=
  .ofList (trimWhile isBlank s.toList)

/-- What is kept begins the list. -/
theorem dropEndWhile_begins {α : Type} (p : α → Bool) (l : List α) : dropEndWhile p l <+: l := by
  have suffix : l.reverse.dropWhile p <:+ l.reverse := List.dropWhile_suffix p
  simpa [dropEndWhile] using List.reverse_prefix.2 suffix

@[simp] theorem toList_trim (s : String) : (trim s).toList = trimWhile isBlank s.toList := by
  simp [trim]

end BucketVhosts.Text
