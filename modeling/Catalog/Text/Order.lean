/-!
The order of texts: by code point, which is also the order of their UTF-8 bytes.
-/
namespace Catalog.Text

/-- One text stands before another. -/
def Before (a b : String) : Prop := String.instLT.lt a b

instance : DecidableRel Before := fun a b => inferInstanceAs (Decidable (String.instLT.lt a b))

variable {a b c : String}

theorem not_before_self (a : String) : ¬ Before a a := String.lt_irrefl a

theorem Before.trans (first : Before a b) (second : Before b c) : Before a c :=
  String.lt_trans first second

theorem before_of_not_before (after : ¬ Before b a) (differ : a ≠ b) : Before a b :=
  Std.lt_of_le_of_ne (String.not_lt.mp after) differ

end Catalog.Text
