import PolicyReconciler.Platform.Basic

namespace PolicyReconciler.Platform

/-!
# Summing up notes

Counters and histograms are summed up per series.  Series are ordered by name
and then by their labels.
-/

/-- The value of a series. -/
inductive Total where
  | count (value : Nat)
  | durations (buckets : List Nat) (count : Nat) (sum : Float)
  deriving Repr

/-- Whether a series comes before another, or is the same. -/
def notAfter (left right : Series) : Bool :=
  if left.name = right.name then
    !decide (right.labels.map Prod.snd < left.labels.map Prod.snd)
  else
    decide (left.name < right.name)

/-- The counters among the notes, one for each time one was counted. -/
def counters (notes : List Note) : List Counter :=
  notes.filterMap fun
    | .counted counter => some counter
    | _ => none

/-- The observed durations among the notes. -/
def durations (notes : List Note) : List (Histogram × Float) :=
  notes.filterMap fun
    | .timed histogram duration => some (histogram, duration)
    | _ => none

/--
The total of a histogram's durations; one that is no number falls under no bound.
-/
def totalDurations (bounds durations : List Float) : Total :=
  let count := durations.countP fun duration => !duration.isNaN
  .durations
    (bounds.map (fun bound => durations.countP (· ≤ bound)) ++ [count])
    count
    (durations.foldl (· + ·) 0)

/-- How often each counter was counted. -/
def counterTotals (notes : List Note) : List (Series × Total) :=
  let all := counters notes
  all.eraseDups.map fun counter => (counter.series, .count (all.count counter))

/-- The totals of each distribution. -/
def histogramTotals (notes : List Note) : List (Series × Total) :=
  let all := durations notes
  (all.map (·.1)).eraseDups.map fun histogram =>
    (histogram.series,
      totalDurations histogram.bounds
        (all.filterMap fun entry =>
          if entry.1 = histogram then some entry.2 else none))

/-- The totals of all series among notes, in order. -/
def totals (notes : List Note) : List (Series × Total) :=
  (counterTotals notes ++ histogramTotals notes).mergeSort fun left right =>
    notAfter left.1 right.1

end PolicyReconciler.Platform
