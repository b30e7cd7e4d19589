import Mathlib.Data.Int.Defs
import Mathlib.Tactic.Ring

/-!
# Stackdriver time series, as `coalesce` and `Record` see them

`src/adapter/stackdriver/delta.go` rewrites a batch of `monitoring.TimeSeries` before the
adapter pushes it, and `stackdriver.go` builds the batch in `sd.Record`. This file models the
data both touch: protobuf timestamps with Go's fixed-width integers, the pointers `coalesce`
groups by, typed values, and one-point series; and the two comparisons of `delta.go`,
`compareUSec` and `byStartTimeUSec.Less`.

Mirroring notes:
- Go's `int64` and `int32` are `Int`; where the code's arithmetic can overflow, `wrap64` and
  `wrap32` reduce it as the machine does.
- A Go pointer is a `Ptr`: an address and the value it points to. `coalesce` compares the
  `Metric` and `MonitoredResource` pointers of its key by address only.
- A series is a value: the series `Record` builds share no object, so the aliasing a
  hand-built batch could set up is not modelled.
- `StartTime` and `EndTime` are `*timestamp.Timestamp`, nil (`none`) where `Record`'s
  `ptypes.TimestampProto` refused the time. `coalesce` dereferences both for every DELTA
  series before it groups it, so its groups hold `Stamped` series, whose two timestamps
  are set; `Stamped.toSeries` and `TimeSeries.stamped?` go between the two views.
- `Record` builds exactly one point per series (`CreateTimeSeries` takes only one), and
  `delta.go` reads and writes `Points[0]` only, so a series carries its one point.
- The `float64` of a Double value and a Distribution are type parameters `F` and `D`:
  `coalesce` only adds doubles and never looks inside a distribution.
- `TimeSeries.ValueType` is written by `Record` and read by nothing modelled; it is left out.
-/

namespace Mixer.Stackdriver

/-! ## Fixed-width integers -/

/-- Go's `int64` arithmetic: the mathematical result reduced into `[-2^63, 2^63)`. -/
def wrap64 (x : Int) : Int := (x + 2 ^ 63) % 2 ^ 64 - 2 ^ 63

/-- Go's `int32` arithmetic. -/
def wrap32 (x : Int) : Int := (x + 2 ^ 31) % 2 ^ 32 - 2 ^ 31

/-! ## Timestamps -/

/-- `timestamp.Timestamp`: `Seconds` is an `int64`, `Nanos` an `int32`. -/
structure Timestamp where
  seconds : Int
  nanos : Int
  deriving DecidableEq, Repr

/-- A well-formed protobuf timestamp: `0 ≤ Nanos < 10^9`. -/
def Timestamp.Normalized (t : Timestamp) : Prop := 0 ≤ t.nanos ∧ t.nanos < 1000000000

instance (t : Timestamp) : Decidable t.Normalized := inferInstanceAs (Decidable (_ ∧ _))

/-- The instant `t` names, in whole microseconds: `Seconds·10^6 + ⌊Nanos/1000⌋`. -/
def Timestamp.us (t : Timestamp) : Int := t.seconds * 1000000 + t.nanos / 1000

/-- `usec`: one microsecond, in nanoseconds. -/
def usec : Int := 1000

/-- `toUSec`: Go's `int32` division truncates toward zero. -/
def toUSec (nanos : Int) : Int := nanos.tdiv 1000

/-- `compareUSec`: negative, zero or positive as `a` is before, in the same microsecond as,
or after `b`. The nanosecond difference is an `int32` subtraction, the seconds difference an
`int64` one. -/
def compareUSec (a b : Timestamp) : Int :=
  if a.seconds = b.seconds then wrap32 (toUSec a.nanos - toUSec b.nanos)
  else wrap64 (a.seconds - b.seconds)

/-! ## Series -/

/-- A Go pointer: the address it holds and the value stored there. -/
structure Ptr (α : Type) where
  addr : Nat
  val : α
  deriving DecidableEq, Repr

/-- `metricpb.Metric`. -/
structure Metric where
  type : String
  labels : List (String × String)
  deriving DecidableEq, Repr

/-- `monitoredres.MonitoredResource`. -/
structure MonitoredResource where
  type : String
  labels : List (String × String)
  deriving DecidableEq, Repr

/-- `metricpb.MetricDescriptor_MetricKind`. -/
inductive MetricKind where
  | metricKindUnspecified | gauge | delta | cumulative
  deriving DecidableEq, Repr

/-- `monitoring.TypedValue`'s one-of. -/
inductive TypedValue (F D : Type) where
  | boolValue (b : Bool)
  | int64Value (v : Int)
  | doubleValue (v : F)
  | stringValue (s : String)
  | distributionValue (d : D)
  deriving DecidableEq, Repr

/-- `monitoring.TimeInterval`: two `*timestamp.Timestamp`, `none` where nil. -/
structure TimeInterval where
  endTime : Option Timestamp
  startTime : Option Timestamp
  deriving DecidableEq, Repr

/-- `monitoring.Point`. -/
structure Point (F D : Type) where
  interval : TimeInterval
  value : TypedValue F D
  deriving DecidableEq, Repr

/-- `monitoring.TimeSeries` with its one point. -/
structure TimeSeries (F D : Type) where
  metric : Ptr Metric
  resource : Ptr MonitoredResource
  metricKind : MetricKind
  point : Point F D
  deriving DecidableEq, Repr

variable {F D : Type}

namespace TypedValue

/-- The `int64` a value holds, if it is an Int64 value. -/
def int64? : TypedValue F D → Option Int
  | int64Value v => some v
  | _ => none

/-- The `float64` a value holds, if it is a Double value. -/
def double? : TypedValue F D → Option F
  | doubleValue v => some v
  | _ => none

/-- The kinds `merge` can combine: two Int64 values, two Double values or two
Distributions. -/
def sameKind : TypedValue F D → TypedValue F D → Bool
  | int64Value _, int64Value _ => true
  | doubleValue _, doubleValue _ => true
  | distributionValue _, distributionValue _ => true
  | _, _ => false

end TypedValue

namespace TimeSeries

/-- `Points[0].Interval.StartTime`, the pointer. -/
def startTime (ts : TimeSeries F D) : Option Timestamp := ts.point.interval.startTime

/-- `Points[0].Interval.EndTime`, the pointer. -/
def endTime (ts : TimeSeries F D) : Option Timestamp := ts.point.interval.endTime

/-- `Points[0].Value`. -/
def value (ts : TimeSeries F D) : TypedValue F D := ts.point.value

/-- The pair of pointers `coalesce` groups by: `key{ts.Metric, ts.Resource}`. -/
def key (ts : TimeSeries F D) : Nat × Nat := (ts.metric.addr, ts.resource.addr)

/-- Same stream in Stackdriver's sense: equal `Metric` and `MonitoredResource` contents,
wherever they are stored. -/
def SameStream (a b : TimeSeries F D) : Prop :=
  a.metric.val = b.metric.val ∧ a.resource.val = b.resource.val

instance (a b : TimeSeries F D) : Decidable (a.SameStream b) :=
  inferInstanceAs (Decidable (_ ∧ _))

end TimeSeries

/-! ## Series with both timestamps set -/

/-- A series whose `StartTime` and `EndTime` are both set, read through the pointers. -/
structure Stamped (F D : Type) where
  metric : Ptr Metric
  resource : Ptr MonitoredResource
  metricKind : MetricKind
  startTime : Timestamp
  endTime : Timestamp
  value : TypedValue F D
  deriving DecidableEq, Repr

namespace Stamped

/-- The series, with both pointers set. -/
def toSeries (s : Stamped F D) : TimeSeries F D where
  metric := s.metric
  resource := s.resource
  metricKind := s.metricKind
  point := { interval := { endTime := some s.endTime, startTime := some s.startTime },
             value := s.value }

/-- `key{ts.Metric, ts.Resource}`. -/
def key (s : Stamped F D) : Nat × Nat := (s.metric.addr, s.resource.addr)

/-- `Points[0].Interval.EndTime = e`. -/
def setEnd (s : Stamped F D) (e : Timestamp) : Stamped F D := { s with endTime := e }

/-- `Points[0].Value = v`. -/
def setValue (s : Stamped F D) (v : TypedValue F D) : Stamped F D := { s with value := v }

variable (s : Stamped F D) (e : Timestamp) (v : TypedValue F D)

@[simp] theorem toSeries_key : s.toSeries.key = s.key := rfl
@[simp] theorem toSeries_metricKind : s.toSeries.metricKind = s.metricKind := rfl
@[simp] theorem toSeries_startTime : s.toSeries.startTime = some s.startTime := rfl
@[simp] theorem toSeries_endTime : s.toSeries.endTime = some s.endTime := rfl
@[simp] theorem toSeries_value : s.toSeries.value = s.value := rfl
@[simp] theorem setEnd_endTime : (s.setEnd e).endTime = e := rfl
@[simp] theorem setEnd_startTime : (s.setEnd e).startTime = s.startTime := rfl
@[simp] theorem setEnd_value : (s.setEnd e).value = s.value := rfl
@[simp] theorem setEnd_key : (s.setEnd e).key = s.key := rfl
@[simp] theorem setEnd_metricKind : (s.setEnd e).metricKind = s.metricKind := rfl
@[simp] theorem setValue_endTime : (s.setValue v).endTime = s.endTime := rfl
@[simp] theorem setValue_startTime : (s.setValue v).startTime = s.startTime := rfl
@[simp] theorem setValue_value : (s.setValue v).value = v := rfl
@[simp] theorem setValue_key : (s.setValue v).key = s.key := rfl
@[simp] theorem setValue_metricKind : (s.setValue v).metricKind = s.metricKind := rfl
@[simp] theorem setEnd_setEnd (e' : Timestamp) : (s.setEnd e).setEnd e' = s.setEnd e' := rfl
@[simp] theorem setValue_setValue (v' : TypedValue F D) :
    (s.setValue v).setValue v' = s.setValue v' := rfl
@[simp] theorem setEnd_setValue : (s.setEnd e).setValue v = (s.setValue v).setEnd e := rfl
@[simp] theorem setEnd_self : s.setEnd s.endTime = s := rfl
@[simp] theorem setValue_self : s.setValue s.value = s := rfl

end Stamped

/-- The series with its two timestamps read: `none` where a pointer is nil, as a
dereference panics. -/
def TimeSeries.stamped? (ts : TimeSeries F D) : Option (Stamped F D) := do
  let startTime ← ts.startTime
  let endTime ← ts.endTime
  pure ⟨ts.metric, ts.resource, ts.metricKind, startTime, endTime, ts.value⟩

/-- Reading a series' timestamps gives `s` exactly when the series is `s` with both set. -/
theorem TimeSeries.stamped?_eq_some_iff {ts : TimeSeries F D} {s : Stamped F D} :
    ts.stamped? = some s ↔ s.toSeries = ts := by
  obtain ⟨metric, resource, kind, ⟨⟨_ | e, _ | st⟩, v⟩⟩ := ts <;> cases s <;>
    simp [stamped?, startTime, endTime, value, Stamped.toSeries, eq_comm, and_assoc,
      and_left_comm]

/-- Reading a series' timestamps fails exactly when one of the two pointers is nil. -/
theorem TimeSeries.stamped?_eq_none_iff {ts : TimeSeries F D} :
    ts.stamped? = none ↔ ts.startTime = none ∨ ts.endTime = none := by
  obtain ⟨_, _, _, ⟨⟨_ | e, _ | st⟩, _⟩⟩ := ts <;> simp [stamped?, startTime, endTime]

/-- `byStartTimeUSec.Less`: earlier start, compared to the microsecond. -/
def startLess (a b : Stamped F D) : Bool :=
  let t1 := a.startTime
  let t2 := b.startTime
  if t1.seconds = t2.seconds then toUSec t1.nanos < toUSec t2.nanos else t1.seconds < t2.seconds

end Mixer.Stackdriver
