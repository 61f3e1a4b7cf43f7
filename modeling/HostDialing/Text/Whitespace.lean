/-!
# White space

The characters with the white space property of the Unicode standard, and text without them at its
ends.
-/

namespace HostDialing

/-- One of the twenty-five white space characters. -/
def isWhiteSpace (c : Char) : Bool :=
  let n := c.toNat
  (0x9 ≤ n && n ≤ 0xd) || n == 0x20 || n == 0x85 || n == 0xa0 || n == 0x1680
    || (0x2000 ≤ n && n ≤ 0x200a) || n == 0x2028 || n == 0x2029 || n == 0x202f || n == 0x205f
    || n == 0x3000

def trimStart (cs : List Char) : List Char := cs.dropWhile isWhiteSpace

def trimEnd (cs : List Char) : List Char := (cs.reverse.dropWhile isWhiteSpace).reverse

/-- The text between the white space at its ends. -/
def trim (cs : List Char) : List Char := trimEnd (trimStart cs)

end HostDialing
