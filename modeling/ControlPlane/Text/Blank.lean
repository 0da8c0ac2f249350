/-
Blank characters, and texts without the blanks at their ends.

A blank is a character with the Unicode property of white space, not only an ASCII one.
-/

namespace ControlPlane
namespace Text

/-- The characters with the property of white space. -/
def isBlank (c : Char) : Bool :=
  let n := c.toNat
  (9 ≤ n && n ≤ 13) || n == 0x20 || n == 0x85 || n == 0xa0 || n == 0x1680 ||
    (0x2000 ≤ n && n ≤ 0x200a) || n == 0x2028 || n == 0x2029 || n == 0x202f || n == 0x205f ||
    n == 0x3000

def dropBlanks (cs : List Char) : List Char := cs.dropWhile isBlank

/-- Without blanks at either end. -/
def trimBlanks (cs : List Char) : List Char := (dropBlanks (dropBlanks cs).reverse).reverse

/-- Without blanks at either end. -/
def strip (s : String) : String := String.ofList (trimBlanks s.toList)

end Text
end ControlPlane
