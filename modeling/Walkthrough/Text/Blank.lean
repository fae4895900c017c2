/-!
# White space

The white space characters, and the operations that take it off the ends of a text or cut a text
at it.
-/

namespace Walkthrough.Text

/-- White space: the Unicode white space characters and the four information separators. -/
def isBlank (c : Char) : Bool :=
  let code := c.toNat
  (0x09 ≤ code && code ≤ 0x0d) || (0x1c ≤ code && code ≤ 0x20) || code == 0x85 || code == 0xa0 ||
    code == 0x1680 || (0x2000 ≤ code && code ≤ 0x200a) || code == 0x2028 || code == 0x2029 ||
    code == 0x202f || code == 0x205f || code == 0x3000

/-- The characters without those at the end that satisfy `p`. -/
def dropEndWhile (p : Char → Bool) (cs : List Char) : List Char :=
  cs.foldr (fun c rest => if rest.isEmpty && p c then [] else c :: rest) []

/-- The characters without those at either end that satisfy `p`. -/
def dropBothWhile (p : Char → Bool) (cs : List Char) : List Char :=
  dropEndWhile p (cs.dropWhile p)

def stripLeft (s : String) : String :=
  String.ofList (s.toList.dropWhile isBlank)

/-- A text without the white space at its ends. -/
def strip (s : String) : String :=
  String.ofList (dropBothWhile isBlank s.toList)

/-- The text up to its first white space, once that at the beginning is gone. -/
def firstWord (s : String) : String :=
  String.ofList ((s.toList.dropWhile isBlank).takeWhile (!isBlank ·))

end Walkthrough.Text
