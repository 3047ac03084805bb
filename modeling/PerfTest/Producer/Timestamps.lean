import PerfTest.Java.Primitives

namespace PerfTestModel

structure TimestampProvider where
  useMillis : Bool
  isTimestampInHeader : Bool
  deriving DecidableEq, Repr

namespace TimestampProvider

def incorrectValue : ℤ := Java.longMaxValue

/-- Both arguments are longs; `Math.abs` of the smallest long is that long. -/
def getDifference (ts1 ts2 : ℤ) : ℤ :=
  if ts2 = incorrectValue then -1 else Java.long (Java.long (ts1 - ts2)).natAbs

end TimestampProvider

end PerfTestModel
