import Mixer.Stackdriver.Delta

/-!
# `sd.Record`: adapter values to time series

`src/adapter/stackdriver/stackdriver.go`. `Record` turns each `adapter.Value` whose metric was
configured with Stackdriver info into one time series, with a fresh `Metric` and a fresh
`MonitoredResource`, and appends them to `toSend` under the mutex. The value itself goes
through `toTypedVal`, which picks a branch by `labelMap` of the metric's label type and then
asserts the value's dynamic Go type.

This file models the part of `Record` a single call runs: `buildSeries` is its loop, a
`none` result a panic; `record` adds the append. `Push.lean` interleaves the append with
`pushData`.

Mirroring notes:
- `interface{}` values are `GoValue`, one constructor per dynamic type the code asserts,
  and `other` for any value it only formats. `fmt.Sprintf("%v", ·)` is the parameter
  `sprint`.
- The heap is an allocation counter: each series takes the next two addresses, its
  `Metric`'s and its `MonitoredResource`'s. Freshness is all `coalesce` can observe of them.
- `ptypes.TimestampProto` (package `github.com/golang/protobuf/ptypes`, not in the
  repository's files) returns nil and an error for a time before 0001-01-01 or from
  10000-01-01 on, UTC. `Record` drops the error (`start, _ :=`) and stores the nil pointer.
- `adapter.Value` and `adapter.MetricDefinition` are not in the repository's files; they
  carry the fields `Record` reads. `sdinfo.value` (the series' `ValueType`) is written and
  read by nothing modelled, and is left out, as is the logger.
-/

namespace Mixer.Stackdriver

/-- `adapter.LabelType`. -/
inductive LabelType where
  | string | int64 | float64 | bool | time | duration | ipAddress | emailAddress | uri | dnsName
  | stringMap
  deriving DecidableEq, Repr

/-- `labelpb.LabelDescriptor_ValueType`. -/
inductive LabelValueType where
  | string | bool | int64
  deriving DecidableEq, Repr

/-- `labelMap`: Float64, Time and Duration are published as INT64. -/
def labelMap : LabelType → LabelValueType
  | .string => .string
  | .int64 => .int64
  | .float64 => .int64
  | .time => .int64
  | .duration => .int64
  | .bool => .bool
  | .ipAddress => .string
  | .emailAddress => .string
  | .uri => .string
  | .dnsName => .string
  | .stringMap => .string

/-- `time.Time`: Unix seconds and the nanosecond within the second. -/
structure Time where
  unix : Int
  nanosecond : Nat
  nanosecond_lt : nanosecond < 1000000000
  deriving DecidableEq, Repr

/-- A value held in an `interface{}`, by its dynamic Go type: `int64`, `int`, `float64`,
`bool`, `string`, `time.Time`, `time.Duration` (nanoseconds), or any other. -/
inductive GoValue (F : Type) where
  | int64 (v : Int)
  | int (v : Int)
  | float64 (v : F)
  | bool (b : Bool)
  | string (s : String)
  | time (t : Time)
  | duration (d : Int)
  | other (repr : String)
  deriving DecidableEq, Repr

variable {F D : Type}

/-- `toTypedVal`, `none` where a type assertion panics. On the INT64 branch a `time.Time`
becomes the `int` `t.Nanosecond() / 1000` and a `time.Duration` the `int64`
`d.Nanoseconds() / 1000`; then `val.(int64)` is asserted. -/
def toTypedVal (sprint : GoValue F → String) (val : GoValue F) (t : LabelType) :
    Option (TypedValue F D) :=
  match labelMap t with
  | .bool =>
    match val with
    | .bool b => some (.boolValue b)
    | _ => none
  | .int64 =>
    let val := match val with
      | .time t => GoValue.int (t.nanosecond / 1000 : Nat)
      | .duration d => GoValue.int64 (d.tdiv 1000)
      | v => v
    match val with
    | .int64 v => some (.int64Value v)
    | _ => none
  | .string => some (.stringValue (sprint val))

/-- `adapter.MetricDefinition`, the fields `Record` reads. -/
structure MetricDefinition where
  name : String
  value : LabelType
  deriving DecidableEq, Repr

/-- `adapter.Value`. -/
structure Value (F : Type) where
  definition : MetricDefinition
  labels : List (String × GoValue F)
  metricValue : GoValue F
  startTime : Time
  endTime : Time
  deriving DecidableEq, Repr

/-- `sdinfo`: the metric's Stackdriver type and kind. -/
structure SdInfo where
  ttype : String
  kind : MetricKind
  deriving DecidableEq, Repr

/-- What `Record` reads of the `sd` instance. -/
structure SdConfig where
  projectId : String
  metricInfo : List (String × SdInfo)
  deriving DecidableEq, Repr

/-- `minValidSeconds`: 0001-01-01 UTC, in Unix seconds. -/
def minValidSeconds : Int := -62135596800

/-- `maxValidSeconds`: 10000-01-01 UTC, in Unix seconds. -/
def maxValidSeconds : Int := 253402300800

/-- `ptypes.TimestampProto`: the time's Unix seconds and nanoseconds, or nil where
`validateTimestamp` refuses them. -/
def timestampProto (t : Time) : Option Timestamp :=
  if minValidSeconds ≤ t.unix ∧ t.unix < maxValidSeconds then some ⟨t.unix, t.nanosecond⟩
  else none

/-- `toStringMap`. -/
def toStringMap (sprint : GoValue F → String) (labels : List (String × GoValue F)) :
    List (String × String) :=
  labels.map fun l => (l.1, sprint l.2)

/-- The series `Record` builds for `val`, its `Metric` at address `next` and its
`MonitoredResource` at `next + 1`. -/
def newSeries (sprint : GoValue F → String) (cfg : SdConfig) (info : SdInfo) (val : Value F)
    (tv : TypedValue F D) (next : Nat) : TimeSeries F D where
  metric := ⟨next, { type := info.ttype, labels := toStringMap sprint val.labels }⟩
  resource := ⟨next + 1, { type := "global", labels := [("project_id", cfg.projectId)] }⟩
  metricKind := info.kind
  point := { interval := { endTime := timestampProto val.endTime,
                           startTime := timestampProto val.startTime },
             value := tv }

section
variable (sprint : GoValue F → String) (cfg : SdConfig) (info : SdInfo) (val : Value F)
  (tv : TypedValue F D) (next : Nat)

@[simp] theorem newSeries_startTime :
    (newSeries sprint cfg info val tv next).startTime = timestampProto val.startTime := rfl
@[simp] theorem newSeries_endTime :
    (newSeries sprint cfg info val tv next).endTime = timestampProto val.endTime := rfl
@[simp] theorem newSeries_metricKind :
    (newSeries sprint cfg info val tv next).metricKind = info.kind := rfl
@[simp] theorem newSeries_key :
    (newSeries sprint cfg info val tv next).key = (next, next + 1) := rfl

end

/-- `Record`'s loop from heap address `next`: the series built and the next free address,
or `none` if `toTypedVal` panics. Values of unconfigured metrics are skipped. -/
def buildSeries (sprint : GoValue F → String) (cfg : SdConfig) :
    List (Value F) → Nat → Option (List (TimeSeries F D) × Nat)
  | [], next => some ([], next)
  | val :: vals, next =>
    match cfg.metricInfo.lookup val.definition.name with
    | none => buildSeries sprint cfg vals next
    | some info => do
      let tv ← toTypedVal sprint val.metricValue val.definition.value
      let (rest, next') ← buildSeries sprint cfg vals (next + 2)
      pure (newSeries sprint cfg info val tv next :: rest, next')

/-- `Record` run alone: build, then append to `toSend`. -/
def record (sprint : GoValue F → String) (cfg : SdConfig) (toSend : List (TimeSeries F D))
    (next : Nat) (vals : List (Value F)) : Option (List (TimeSeries F D) × Nat) := do
  let (data, next') ← buildSeries sprint cfg vals next
  pure (toSend ++ data, next')

/-! ## When `Record` panics -/

/-- `val` has the Go type its label type prescribes: `int64` for Int64, `float64` for
Float64, `bool` for Bool, `time.Time` for Time, `time.Duration` for Duration, and anything
for the types published as strings. -/
def wellTyped : GoValue F → LabelType → Bool
  | .int64 _, .int64 | .float64 _, .float64 | .bool _, .bool | .time _, .time
  | .duration _, .duration => true
  | _, t => labelMap t = .string

/-- On a well-typed value `toTypedVal` returns exactly when the label type is neither Float64
nor Time: those two reach `val.(int64)` holding a `float64` or an `int`. -/
theorem toTypedVal_isSome {sprint : GoValue F → String} {v : GoValue F} {t : LabelType}
    (hw : wellTyped v t) :
    (toTypedVal (D := D) sprint v t).isSome ↔ t ≠ .float64 ∧ t ≠ .time := by
  cases t <;> simp only [toTypedVal, labelMap, Option.isSome_some, ne_eq, reduceCtorEq,
    not_false_eq_true, and_self, iff_true, and_true, not_true_eq_false, and_false, iff_false] <;>
    cases v <;> simp_all [wellTyped, labelMap]

/-- `val`'s metric was configured with Stackdriver info. -/
def SdConfig.configured (cfg : SdConfig) (val : Value F) : Bool :=
  (cfg.metricInfo.lookup val.definition.name).isSome

variable {sprint : GoValue F → String} {cfg : SdConfig}

/-- `Record`'s loop returns exactly when `toTypedVal` returns on every configured value. -/
theorem buildSeries_isSome (vals : List (Value F)) (next : Nat) :
    (buildSeries (D := D) sprint cfg vals next).isSome ↔ ∀ val ∈ vals, cfg.configured val →
      (toTypedVal (D := D) sprint val.metricValue val.definition.value).isSome := by
  induction vals generalizing next with
  | nil => simp [buildSeries]
  | cons val vals ih =>
    rw [List.forall_mem_cons]
    cases hl : cfg.metricInfo.lookup val.definition.name with
    | none =>
      have hc : cfg.configured val = false := by simp [SdConfig.configured, hl]
      simp [buildSeries, hl, ih, hc]
    | some info =>
      have hc : cfg.configured val = true := by simp [SdConfig.configured, hl]
      rw [← ih (next + 2)]
      cases htv : toTypedVal (D := D) sprint val.metricValue val.definition.value <;>
        cases hb : buildSeries (D := D) sprint cfg vals (next + 2) <;>
        simp [buildSeries, hl, hc, htv, hb]

/-! ## What `Record` builds -/

/-- The series' `Metric`s lie at distinct addresses in `[lo, hi)`. -/
def Fresh (lo hi : Nat) (data : List (TimeSeries F D)) : Prop :=
  (data.map (·.metric.addr)).Nodup ∧ ∀ ts ∈ data, lo ≤ ts.metric.addr ∧ ts.metric.addr < hi

/-- `ts` is the series `Record` builds for `val`. -/
def Built (sprint : GoValue F → String) (cfg : SdConfig) (val : Value F) (ts : TimeSeries F D) :
    Prop :=
  ∃ info tv, cfg.metricInfo.lookup val.definition.name = some info ∧
    toTypedVal sprint val.metricValue val.definition.value = some tv ∧
    ts = newSeries sprint cfg info val tv ts.metric.addr

/-- What `Record`'s loop builds: one series per configured value, in input order, each
`newSeries` of the value's info and `toTypedVal`'s result, with fresh `Metric`s from the
free addresses it takes. -/
theorem buildSeries_some {vals : List (Value F)} {next next' : Nat}
    {data : List (TimeSeries F D)} (h : buildSeries sprint cfg vals next = some (data, next')) :
    List.Forall₂ (Built sprint cfg) (vals.filter cfg.configured) data ∧
      next ≤ next' ∧ Fresh next next' data := by
  induction vals generalizing next data with
  | nil =>
    obtain ⟨rfl, rfl⟩ := Prod.mk.inj (Option.some.inj h).symm
    exact ⟨.nil, le_rfl, by simp [Fresh]⟩
  | cons val vals ih =>
    cases hl : cfg.metricInfo.lookup val.definition.name with
    | none =>
      have hc : cfg.configured val = false := by simp [SdConfig.configured, hl]
      simp only [buildSeries, hl] at h
      simpa [hc] using ih h
    | some info =>
      have hc : cfg.configured val = true := by simp [SdConfig.configured, hl]
      cases htv : toTypedVal (D := D) sprint val.metricValue val.definition.value with
      | none => simp [buildSeries, hl, htv] at h
      | some tv =>
        cases hb : buildSeries (D := D) sprint cfg vals (next + 2) with
        | none => simp [buildSeries, hl, htv, hb] at h
        | some r =>
          obtain ⟨rest, n⟩ := r
          simp only [buildSeries, hl, htv, hb, Option.bind_eq_bind, Option.some_bind,
            Option.pure_def, Option.some.injEq, Prod.mk.injEq] at h
          obtain ⟨rfl, rfl⟩ := h
          obtain ⟨hf, hle, hnd, hr⟩ := ih hb
          refine ⟨by rw [List.filter_cons_of_pos hc]; exact .cons ⟨info, tv, hl, htv, rfl⟩ hf,
            by omega, ?_, ?_⟩
          · refine List.nodup_cons.mpr ⟨fun hm => ?_, hnd⟩
            obtain ⟨ts, hts, he⟩ := List.mem_map.mp hm
            have := (hr ts hts).1
            simp [newSeries] at he
            omega
          · simp only [List.mem_cons, forall_eq_or_imp]
            exact ⟨⟨le_rfl, by simp [newSeries]; omega⟩,
              fun ts hts => ⟨by have := (hr ts hts).1; omega, (hr ts hts).2⟩⟩

/-- `Record` on values of the Go types their label types prescribe: it returns, instead of
panicking, exactly when no value of a configured metric has label type Float64 or Time; and
when it returns, it has appended to `toSend` one series per configured value, in input
order, each built by `newSeries` from `toTypedVal`'s result. -/
theorem record_wellTyped (toSend : List (TimeSeries F D)) (next : Nat) (vals : List (Value F))
    (hw : ∀ val ∈ vals, wellTyped val.metricValue val.definition.value) :
    ((record sprint cfg toSend next vals).isSome ↔ ∀ val ∈ vals, cfg.configured val →
        val.definition.value ≠ .float64 ∧ val.definition.value ≠ .time) ∧
    ∀ toSend' next', record sprint cfg toSend next vals = some (toSend', next') →
      ∃ data, toSend' = toSend ++ data ∧
        List.Forall₂ (Built sprint cfg) (vals.filter cfg.configured) data := by
  refine ⟨?_, fun toSend' next' h => ?_⟩
  · have hr : (record sprint cfg toSend next vals).isSome =
        (buildSeries (D := D) sprint cfg vals next).isSome := by
      cases hb : buildSeries (D := D) sprint cfg vals next <;> simp [record, hb]
    rw [hr, buildSeries_isSome]
    exact forall₂_congr fun val hv => imp_congr_right fun _ => toTypedVal_isSome (hw val hv)
  · cases hb : buildSeries (D := D) sprint cfg vals next with
    | none => simp [record, hb] at h
    | some r =>
      simp only [record, hb, Option.bind_eq_bind, Option.some_bind, Option.pure_def,
        Option.some.injEq, Prod.mk.injEq] at h
      exact ⟨r.1, h.1.symm, (buildSeries_some hb).1⟩

/-- A configuration with one Int64 metric, `request_count`, of kind DELTA. -/
def countCfg : SdConfig :=
  { projectId := "demo",
    metricInfo := [("request_count", ⟨"custom.googleapis.com/request_count", .delta⟩)] }

/-- A `request_count` value of 1 with label `source`, over `[start, stop]` seconds. -/
def countValue (start stop : Nat) : Value Float :=
  { definition := ⟨"request_count", .int64⟩, labels := [("source", .string "a")],
    metricValue := .int64 1, startTime := ⟨start, 0, by decide⟩,
    endTime := ⟨stop, 0, by decide⟩ }

theorem record_wellTyped_count :
    (∀ val ∈ [countValue 0 10], wellTyped val.metricValue val.definition.value) ∧
    (((record (D := Unit) (fun _ => "a") countCfg [] 0 [countValue 0 10]).isSome ↔
      ∀ val ∈ [countValue 0 10], countCfg.configured val →
        val.definition.value ≠ .float64 ∧ val.definition.value ≠ .time) ∧
    ∀ toSend' next', record (D := Unit) (fun _ => "a") countCfg [] 0 [countValue 0 10] =
      some (toSend', next') → ∃ data, toSend' = [] ++ data ∧
        List.Forall₂ (Built (fun _ => "a") countCfg) ([countValue 0 10].filter countCfg.configured)
          data) :=
  ⟨by decide, record_wellTyped [] 0 [countValue 0 10] (by decide)⟩

/-! ## Values `Record` cannot publish -/

/-- A configuration with a Float64 metric `latency` and a Time metric `request_time`. -/
def typedCfg : SdConfig :=
  { projectId := "demo",
    metricInfo := [("latency", ⟨"custom.googleapis.com/latency", .gauge⟩),
      ("request_time", ⟨"custom.googleapis.com/request_time", .gauge⟩)] }

/-- A `float64` value for the Float64 metric `latency`. -/
def latencyValue : Value Float :=
  { definition := ⟨"latency", .float64⟩, labels := [], metricValue := .float64 1.5,
    startTime := ⟨0, 0, by decide⟩, endTime := ⟨1, 0, by decide⟩ }

/-- A `time.Time` value for the Time metric `request_time`. -/
def requestTimeValue : Value Float :=
  { definition := ⟨"request_time", .time⟩, labels := [],
    metricValue := .time ⟨1500000000, 250000, by decide⟩,
    startTime := ⟨0, 0, by decide⟩, endTime := ⟨1, 0, by decide⟩ }

/-- Both values have the Go types their label types prescribe, and `Record` panics on each. -/
theorem record_panics_on_float64_and_time (sprint : GoValue Float → String) :
    wellTyped latencyValue.metricValue latencyValue.definition.value ∧
    record (D := Unit) sprint typedCfg [] 0 [latencyValue] = none ∧
    wellTyped requestTimeValue.metricValue requestTimeValue.definition.value ∧
    record (D := Unit) sprint typedCfg [] 0 [requestTimeValue] = none :=
  ⟨rfl, rfl, rfl, rfl⟩

/-! ## Series of different `Record` calls -/

/-- Two `Record` calls report one stream over [0 s, 10 s] and [5 s, 15 s]. Each call
allocates its own `Metric` and `MonitoredResource`, so `coalesce`, which keys by pointer,
leaves the two apart: it returns both, as overlapping CUMULATIVE points of the same stream. -/
theorem coalesce_keeps_overlap_across_records (sprint : GoValue Float → String)
    (sched : Sched Float Unit) :
    ∃ batch, ((record sprint countCfg [] 0 [countValue 0 10]).bind fun r =>
        record sprint countCfg r.1 r.2 [countValue 5 15]) = some (batch, 4) ∧
      ∃ (out : List (TimeSeries Float Unit)) (a b : Stamped Float Unit),
        coalesce sched batch = some out ∧ out.Perm [a.toSeries, b.toSeries] ∧
        a.toSeries.SameStream b.toSeries ∧ a.metricKind = .cumulative ∧
        b.metricKind = .cumulative ∧ a.startTime.us ≤ b.startTime.us ∧
        b.startTime.us ≤ a.endTime.us := by
  refine ⟨[(⟨⟨0, _⟩, ⟨1, _⟩, .delta, ⟨0, 0⟩, ⟨10, 0⟩, .int64Value 1⟩ : Stamped Float Unit).toSeries,
    (⟨⟨2, _⟩, ⟨3, _⟩, .delta, ⟨5, 0⟩, ⟨15, 0⟩, .int64Value 1⟩ : Stamped Float Unit).toSeries],
    rfl, _, _, _, @coalesce_of_stamped _ _ _ sched [_, _] (by simp),
    (coalesceDeltas_distinct_keys sched _ (by simp [Stamped.key])).map _, ⟨rfl, rfl⟩, rfl, rfl,
    ?_, ?_⟩
  · rw [prepare_startTime, prepare_startTime]; dsimp only; decide
  · rw [prepare_startTime, prepare_endTime_of_ne (by dsimp only; decide)]; dsimp only; decide

end Mixer.Stackdriver
