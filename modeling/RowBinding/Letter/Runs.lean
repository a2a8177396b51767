/-!
# Tables of code points

A run is a first code point, a last one and a step; it holds the code points reached from the
first by steps up to the last. A class of characters is a list of runs.

A shift is a run with a distance by which each of its code points is moved.
-/
namespace RowBinding.Letter

/-- Whether some run of the table holds the code point `n`. -/
def inRuns (table : List (Nat × Nat × Nat)) (n : Nat) : Bool :=
  table.any fun (first, last, step) => first ≤ n && n ≤ last && (n - first) % step == 0

/-- The code point to which the first fitting shift of the table moves `n`. -/
def shifted? (table : List (Nat × Nat × Nat × Int)) (n : Nat) : Option Nat :=
  (table.find? fun (first, last, step, _) =>
    first ≤ n && n ≤ last && (n - first) % step == 0).map fun (_, _, _, shift) =>
      (n + shift).toNat

end RowBinding.Letter
