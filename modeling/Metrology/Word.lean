/-!
# Machine words

The ranges of signed integers of 32 and of 64 bits. Exponents live in the first, the parts of
ratios in the second.
-/

namespace Metrology

/-- Whether a signed word of 32 bits holds an integer. -/
abbrev Fits32 (n : Int) : Prop :=
  -2147483648 ≤ n ∧ n < 2147483648

/-- Whether a signed word of 64 bits holds an integer. -/
abbrev Fits64 (n : Int) : Prop :=
  -9223372036854775808 ≤ n ∧ n < 9223372036854775808

end Metrology
