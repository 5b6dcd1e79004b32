import Polyphony.Comparison
import Polyphony.Fault

/-!
# Order of data

Numbers are ordered by value, texts by their characters, bytes one by one, moments of one kind by
the instant, lists by their first differing items. Data of other types, or of different ones, have
no order, and comparing them is a fault.
-/

namespace Polyphony.Datum

/-- Compares moments by a test. -/
def compareMoments (test : Comparison) (m n : Moment) : Except Fault Bool :=
  if m.isLike n then pure (test.holds (some (compare m.instant n.instant)))
  else if m.clock.isSome && n.clock.isSome then throw .clocksApart
  else throw .dayAgainstTime

mutual

/-- Compares data by a test. -/
def compareBy (test : Comparison) : Datum → Datum → Except Fault Bool
  | text s, text t => pure (test.holds (some (compare s t)))
  | scalar (.moment m), scalar (.moment n) => compareMoments test m n
  | scalar (.bytes data), scalar (.bytes data') =>
    pure (test.holds (some (compare (data.map UInt8.toNat) (data'.map UInt8.toNat))))
  | list as, list bs => compareItems test as bs
  | a, b =>
    match a.number?, b.number? with
    | some x, some y => pure (test.holds (x.order y))
    | _, _ => throw (.unordered test.sign a.typeName b.typeName)

/-- Compares lists by a test: their first items that differ, or else their lengths. -/
def compareItems (test : Comparison) : List Datum → List Datum → Except Fault Bool
  | a :: as, b :: bs => if a.eq b then compareItems test as bs else a.compareBy test b
  | as, bs => pure (test.holds (some (compare as.length bs.length)))

end

end Polyphony.Datum
