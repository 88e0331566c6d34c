import Mathlib.Algebra.BigOperators.Group.List.Basic
import Mathlib.Algebra.Ring.Nat
import MediaClock.Counter

/-!
# Sums of a tally

The sum of a tally for a counter is that of the amounts added to it.  So the sums of a run are
made up of those of its parts, and they do not depend on the order of the increments.
-/

namespace MediaClock.Tally

theorem total_eq_sum (increments : List Increment) (counter : Counter) :
  total ⟨increments⟩ counter
    = ((increments.filter (·.counter = counter)).map Increment.amount).sum
  := by
  rw [total, List.sum_eq_foldl, List.foldl_map]

@[simp]
theorem total_nil (counter : Counter) :
  total ⟨[]⟩ counter = 0
  := rfl

@[simp]
theorem total_append (earlier later : List Increment) (counter : Counter) :
  total ⟨earlier ++ later⟩ counter = total ⟨earlier⟩ counter + total ⟨later⟩ counter
  := by
  simp only [total_eq_sum, List.filter_append, List.map_append, List.sum_append]

/-- The sums of a tally do not depend on the order of its increments. -/
theorem total_of_perm {increments others : List Increment} (perm : increments.Perm others)
    (counter : Counter) :
  total ⟨increments⟩ counter = total ⟨others⟩ counter
  := by
  rw [total_eq_sum, total_eq_sum]
  apply List.Perm.sum_eq
  apply (perm.filter _).map

end MediaClock.Tally
