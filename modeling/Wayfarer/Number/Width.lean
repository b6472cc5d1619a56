/-!
The ranges of integers of thirty-two and sixty-four bits.

* `Width.count32`, `Width.count64`: how many values there are;
* `Width.least32`, `Width.most32`, `Width.least64`, `Width.most64`: the ends of the ranges with a
  sign.
-/

namespace Wayfarer.Width

/-- How many values thirty-two bits have. -/
abbrev count32 : Nat := 4294967296

/-- How many values sixty-four bits have. -/
abbrev count64 : Nat := 18446744073709551616

/-- The least integer of thirty-two bits with a sign. -/
abbrev least32 : Int := -2147483648

/-- The greatest integer of thirty-two bits with a sign. -/
abbrev most32 : Int := 2147483647

/-- The least integer of sixty-four bits with a sign. -/
abbrev least64 : Int := -9223372036854775808

/-- The greatest integer of sixty-four bits with a sign. -/
abbrev most64 : Int := 9223372036854775807

end Wayfarer.Width
