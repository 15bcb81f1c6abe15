/-!
# Aggregates

The fields to add up, to average and to find the least and the greatest value of.
-/

namespace TableQuery

inductive AggregateFunction where
  | sum
  | avg
  | min
  | max
deriving DecidableEq, Repr

namespace AggregateFunction

def sql : AggregateFunction → String
  | sum => "SUM"
  | avg => "AVG"
  | min => "MIN"
  | max => "MAX"

def word : AggregateFunction → String
  | sum => "sum"
  | avg => "avg"
  | min => "min"
  | max => "max"

def resultName (function : AggregateFunction) (field : String) : String :=
  function.word ++ "_" ++ field

end AggregateFunction

structure Aggregates where
  sum : List String := []
  avg : List String := []
  min : List String := []
  max : List String := []
deriving DecidableEq, Repr, Inhabited

namespace Aggregates

/-- All pairs of a function and a field: sums, then averages, least and greatest values. -/
def pairs (aggregates : Aggregates) : List (AggregateFunction × String) :=
  aggregates.sum.map (.sum, ·) ++ aggregates.avg.map (.avg, ·) ++
    aggregates.min.map (.min, ·) ++ aggregates.max.map (.max, ·)

def isEmpty (aggregates : Aggregates) : Bool :=
  aggregates.sum.isEmpty && aggregates.avg.isEmpty && aggregates.min.isEmpty &&
    aggregates.max.isEmpty

end Aggregates

end TableQuery
