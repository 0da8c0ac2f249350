/-
The ends of the ranges of integers in words of a given width.
-/

namespace ControlPlane
namespace Word

/-- How many values a word of that many bits has. -/
def size (bits : Nat) : Nat := Nat.pow 2 bits

/-- Whether a signed word of that many bits holds an integer. -/
def holdsSigned (bits : Nat) (n : Int) : Bool := -(size (bits - 1) : Int) ≤ n && n < size (bits - 1)

/-- Whether an unsigned word of that many bits holds an integer. -/
def holdsUnsigned (bits : Nat) (n : Int) : Bool := 0 ≤ n && n < size bits

/-- Whether a word of 64 bits holds an integer, signed or unsigned. -/
def holds (n : Int) : Bool := holdsSigned 64 n || holdsUnsigned 64 n

end Word
end ControlPlane
