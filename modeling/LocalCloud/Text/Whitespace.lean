/-!
# White space and trimming

The code points of the Unicode property White_Space, and the removal of such
characters, or of any class of characters, at the ends of a text.
-/

namespace LocalCloud.Text

/-- The Unicode property White_Space. -/
def isBlank (c : Char) : Bool :=
  let n := c.toNat
  (0x09 ≤ n && n ≤ 0x0D) || n == 0x20 || n == 0x85 || n == 0xA0 || n == 0x1680
    || (0x2000 ≤ n && n ≤ 0x200A) || n == 0x2028 || n == 0x2029 || n == 0x202F
    || n == 0x205F || n == 0x3000

/-- Removes the longest run of characters satisfying `p` at the end. -/
def dropTrailing (p : Char → Bool) (chars : List Char) : List Char :=
  (chars.reverse.dropWhile p).reverse

/-- Removes the longest runs of characters satisfying `p` at both ends. -/
def stripChars (p : Char → Bool) (chars : List Char) : List Char :=
  dropTrailing p (chars.dropWhile p)

/-- Removes white space at both ends. -/
def trim (s : String) : String :=
  String.ofList (stripChars isBlank s.toList)

/-- Removes every `c` at the front. -/
def dropLeading (c : Char) (s : String) : String :=
  String.ofList (s.toList.dropWhile (· == c))

/-- Whether the text holds nothing but white space. -/
def isAllBlank (s : String) : Bool :=
  s.toList.all isBlank

/-- Some character of the text is not white space. -/
def HasContent (s : String) : Prop :=
  ∃ c ∈ s.toList, isBlank c = false

theorem isAllBlank_eq_false_iff {s : String} : isAllBlank s = false ↔ HasContent s := by
  simp [isAllBlank, HasContent]

end LocalCloud.Text
