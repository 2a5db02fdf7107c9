import TrackerTraffic.Proofs.TargetWalk

/-!
# Values of segments in a row

Segments one behind the other lead from each value on its own: what they find from several values
is what they find from each of them, in order.
-/

namespace TrackerTraffic.Path

theorem selectAll_append (front back : List Segment) (values : List Json) :
    selectAll (front ++ back) values = selectAll back (selectAll front values) :=
  List.foldl_append

/-- Going level by level finds the same values in the same order as going value by value. -/
theorem selectAll_eq_flatMap (segments : List Segment) (values : List Json) :
    selectAll segments values = values.flatMap fun v => selectAll segments [v] := by
  induction segments generalizing values with
  | nil => exact (List.flatMap_singleton' values).symm
  | cons segment rest ih =>
    calc selectAll (segment :: rest) values
        = selectAll rest (values.flatMap segment.select) := rfl
      _ = values.flatMap fun v => (segment.select v).flatMap fun w => selectAll rest [w] := by
          rw [ih, List.flatMap_assoc]
      _ = values.flatMap fun v => selectAll (segment :: rest) [v] := by
          refine List.flatMap_congr fun v _ => ?_
          rw [Target.selectAll_cons, ← ih]

end TrackerTraffic.Path
