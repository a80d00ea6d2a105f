/-!
# ResidualForm.Text.Ranges

Sets of characters written as inclusive ranges of code points.
-/

namespace ResidualForm
namespace Text

abbrev Ranges := List (Nat × Nat)

/-- Whether some range holds the code point of `c`. -/
def Ranges.has (ranges : Ranges) (c : Char) : Bool :=
  ranges.any fun range => range.1 ≤ c.toNat && c.toNat ≤ range.2

end Text
end ResidualForm
