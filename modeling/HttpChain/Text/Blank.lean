/-!
# HttpChain.Text.Blank

White space in user text is the Unicode property `White_Space`, not the ASCII
blanks alone: names, operators, status keys and header fields are all trimmed
by it.  `trim` cuts such characters from both ends and is the only trimming
this library does.
-/

namespace HttpChain.Text

/-- Characters with the Unicode property `White_Space`. -/
def isBlank (c : Char) : Bool :=
  let n := c.toNat
  (9 ≤ n && n ≤ 13) || n == 0x20 || n == 0x85 || n == 0xA0 || n == 0x1680 ||
    (0x2000 ≤ n && n ≤ 0x200A) || n == 0x2028 || n == 0x2029 || n == 0x202F ||
    n == 0x205F || n == 0x3000

/-- Cut blanks from the front. -/
def trimStart (cs : List Char) : List Char := cs.dropWhile isBlank

/-- Cut blanks from the back. -/
def trimEnd (cs : List Char) : List Char := (cs.reverse.dropWhile isBlank).reverse

/-- Cut blanks from both ends. -/
def trim (cs : List Char) : List Char := trimEnd (trimStart cs)

/-- `trim` on strings. -/
def strip (s : String) : String := String.ofList (trim s.toList)

end HttpChain.Text
