/-!
# Powers

Widths of numbers are counted in bits and places of decimals in digits, so powers of two and of ten
turn up all over the library.
-/

namespace Downlink

/-- The number of values that `n` bits have. -/
abbrev twoTo (n : Nat) : Nat := Nat.pow 2 n

/-- The number of values that `n` decimal digits have. -/
abbrev tenTo (n : Nat) : Nat := Nat.pow 10 n

end Downlink
