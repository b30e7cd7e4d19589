import Mathlib.Data.List.Perm.Basic
import Mathlib.Data.List.Sort
import Mixer.Stackdriver.Series

/-!
# `coalesce`: DELTA series made into non-overlapping CUMULATIVE ones

`src/adapter/stackdriver/delta.go`. Stackdriver refuses custom DELTA metrics, so before each
push `coalesce` re-kinds every DELTA series as CUMULATIVE, groups them by
`key{Metric, Resource}`, sorts each group by start time and walks it, merging (`merge`) each
series whose start is not after the end of the run built so far.

The model follows the two loops. The first is `group`, a left fold of `groupStep` that
sends each series to `out` or to its group. On the way to its group a DELTA series has its
two timestamps read by `compareUSec`, which panics on a nil one (`coalesce` is then `none`),
and is adjusted by `prepare`. The Go map `byMetric` is an association list in order of first
insertion. The second loop walks the groups with `scan`. What the Go runtime decides is a
parameter, `Sched`: the order in which `range` visits the map, and the permutation
`sort.Sort` picks (any permutation sorted by `byStartTimeUSec.Less`: `sort.Sort` is not
stable). Every general theorem here holds for every `Sched`; `goSched`, one behaviour the
runtime may show, fixes the concrete runs.

`coalesce_eq` takes the first loop apart: `coalesce` panics exactly when a DELTA series has
a nil timestamp, and otherwise returns the non-DELTA series, unchanged and in order, then the
second loop's output over the DELTA series (`coalesceDeltas`). `coalesceDeltas_runs` says
what that output is without its loops: the prepared DELTA series are partitioned into runs
of one key each, and each run yields one series, `combine`d from the run: its first series,
with the Int64 or Double values of the later series of the same kind added in (a
Distribution stays the first's), ending where the last of them ends. A series whose value
kind differs from its run's first is dropped.

Three consequences concern the intervals. A batch whose DELTA series have pairwise distinct
keys is not merged at all (`coalesceDeltas_distinct_keys`). A merge takes the later series'
end even when it lies inside the run (`coalesce_nested_interval`). And `prepare`'s one
microsecond added to an end equal to its start goes into `Nanos` with no carry into
`Seconds` (`coalesce_end_unnormalized`).

`merge`'s error is returned as the code returns it; `coalesce` only logs it, and the logger
is not modelled.
-/

namespace Mixer.Stackdriver

variable {F D : Type}

/-! ## The first loop -/

/-- The first loop's rewrite of a DELTA series whose timestamps it has read: kind
CUMULATIVE, and an end in the same microsecond as the start moved on by `usec` (an `int32`
addition to `Nanos`). -/
def prepare (ts : Stamped F D) : Stamped F D :=
  let ts := { ts with metricKind := .cumulative }
  if compareUSec ts.startTime ts.endTime = 0 then
    ts.setEnd { ts.endTime with nanos := wrap32 (ts.endTime.nanos + usec) }
  else ts

/-- The map `byMetric` from a key to its group. -/
abbrev Groups (F D : Type) := List ((Nat × Nat) × List (Stamped F D))

/-- `byMetric[k] = append(byMetric[k], ts)`. -/
def appendAt (k : Nat × Nat) (ts : Stamped F D) : Groups F D → Groups F D
  | [] => [(k, [ts])]
  | (k', g) :: m => if k' = k then (k', g ++ [ts]) :: m else (k', g) :: appendAt k ts m

/-- One iteration of the first loop, on `(out, byMetric)`. A DELTA series' two timestamps
are dereferenced by `compareUSec`; a nil one panics (`none`). -/
def groupStep (acc : List (TimeSeries F D) × Groups F D) (ts : TimeSeries F D) :
    Option (List (TimeSeries F D) × Groups F D) :=
  if ts.metricKind = .delta then
    ts.stamped?.map fun s => (acc.1, appendAt s.key (prepare s) acc.2)
  else some (acc.1 ++ [ts], acc.2)

/-- The first loop. -/
def group (series : List (TimeSeries F D)) : Option (List (TimeSeries F D) × Groups F D) :=
  series.foldlM groupStep ([], [])

/-- Groups each holding only series of its own key. -/
def Keyed (m : Groups F D) : Prop := ∀ p ∈ m, ∀ x ∈ p.2, x.key = p.1

@[simp] theorem prepare_key (ts : Stamped F D) : (prepare ts).key = ts.key := by
  simp only [prepare]; split_ifs <;> rfl

@[simp] theorem prepare_metricKind (ts : Stamped F D) :
    (prepare ts).metricKind = .cumulative := by
  simp only [prepare]; split_ifs <;> rfl

@[simp] theorem prepare_startTime (ts : Stamped F D) :
    (prepare ts).startTime = ts.startTime := by
  simp only [prepare]; split_ifs <;> rfl

theorem prepare_endTime_of_ne {ts : Stamped F D} (h : compareUSec ts.startTime ts.endTime ≠ 0) :
    (prepare ts).endTime = ts.endTime := by
  simp only [prepare]
  split_ifs with h'
  · exact absurd h' h
  · rfl

theorem appendAt_flatMap (k : Nat × Nat) (t : Stamped F D) (m : Groups F D) :
    ((appendAt k t m).flatMap (·.2)).Perm (m.flatMap (·.2) ++ [t]) := by
  induction m with
  | nil => simp [appendAt]
  | cons g m ih =>
    unfold appendAt
    split_ifs
    · simpa using (List.perm_append_singleton t _).symm.append_left g.2
    · simpa using ih.append_left g.2

theorem appendAt_keyed {k : Nat × Nat} {t : Stamped F D} {m : Groups F D} (hm : Keyed m)
    (ht : t.key = k) : Keyed (appendAt k t m) := by
  induction m with
  | nil => simpa [Keyed, appendAt] using ht
  | cons g m ih =>
    have hg := hm g (.head _)
    have ih := ih fun p hp => hm p (.tail _ hp)
    unfold appendAt
    split_ifs with hk
    · intro p hp x hx
      rcases List.mem_cons.mp hp with rfl | hp
      · rcases List.mem_append.mp hx with hx | hx
        · exact hg x hx
        · rw [List.mem_singleton.mp hx, ht, hk]
      · exact hm p (.tail _ hp) x hx
    · intro p hp
      rcases List.mem_cons.mp hp with rfl | hp
      · exact hg
      · exact ih p hp

theorem appendAt_new {k : Nat × Nat} {t : Stamped F D} {m : Groups F D}
    (hk : k ∉ m.map (·.1)) : appendAt k t m = m ++ [(k, [t])] := by
  induction m with
  | nil => rfl
  | cons g m ih =>
    simp only [List.map_cons, List.mem_cons, not_or] at hk
    simp [appendAt, Ne.symm hk.1, ih hk.2]

/-! ## The first loop, taken apart -/

/-- The DELTA series of a batch with their timestamps read, in order; `none` if one of them
has a nil timestamp. -/
def stampDeltas : List (TimeSeries F D) → Option (List (Stamped F D))
  | [] => some []
  | ts :: rest =>
    if ts.metricKind = .delta then ts.stamped?.bind fun s => (stampDeltas rest).map (s :: ·)
    else stampDeltas rest

/-- `byMetric` once the first loop has appended the DELTA series `ds`, read, to `m`. -/
def insertAll (m : Groups F D) (ds : List (Stamped F D)) : Groups F D :=
  ds.foldl (fun m s => appendAt s.key (prepare s) m) m

/-- The first loop from `(out, m)` panics exactly when `stampDeltas` fails, and otherwise
appends the non-DELTA series to `out` and the DELTA ones, prepared, to their groups. -/
theorem foldlM_groupStep (series out : List (TimeSeries F D)) (m : Groups F D) :
    series.foldlM groupStep (out, m) = (stampDeltas series).map fun ds =>
      (out ++ series.filter (·.metricKind ≠ .delta), insertAll m ds) := by
  induction series generalizing out m with
  | nil => simp [stampDeltas, insertAll]
  | cons t series ih =>
    by_cases ht : t.metricKind = .delta
    · cases hs : t.stamped? <;>
        simp [groupStep, stampDeltas, ht, hs, ih, insertAll, Option.map_map, Function.comp_def]
    · simp [groupStep, stampDeltas, ht, ih]

theorem stampDeltas_eq_none_iff (series : List (TimeSeries F D)) :
    stampDeltas series = none ↔ ∃ ts ∈ series, ts.metricKind = .delta ∧ ts.stamped? = none := by
  induction series with
  | nil => simp [stampDeltas]
  | cons t series ih =>
    by_cases ht : t.metricKind = .delta
    · cases hs : t.stamped? <;> simp [stampDeltas, ht, hs, ih]
    · simp [stampDeltas, ht, ih]

theorem stampDeltas_eq_some_iff (series : List (TimeSeries F D)) (ds : List (Stamped F D)) :
    stampDeltas series = some ds ↔
      ds.map Stamped.toSeries = series.filter (·.metricKind = .delta) := by
  induction series generalizing ds with
  | nil => cases ds <;> simp [stampDeltas]
  | cons t series ih =>
    by_cases ht : t.metricKind = .delta
    · rw [stampDeltas, if_pos ht, List.filter_cons_of_pos (by simpa using ht)]
      cases ds with
      | nil => cases t.stamped? <;> cases stampDeltas series <;> simp
      | cons d ds =>
        rw [List.map_cons, List.cons.injEq, ← ih, ← TimeSeries.stamped?_eq_some_iff]
        cases t.stamped? <;> cases stampDeltas series <;> simp [and_comm]
    · simp [stampDeltas, ht, ih]

theorem insertAll_perm (m : Groups F D) (ds : List (Stamped F D)) :
    ((insertAll m ds).flatMap (·.2)).Perm (m.flatMap (·.2) ++ ds.map prepare) := by
  induction ds generalizing m with
  | nil => simp [insertAll]
  | cons s ds ih =>
    simpa [insertAll] using (ih _).trans ((appendAt_flatMap _ _ _).append_right _)

theorem insertAll_keyed {m : Groups F D} (hm : Keyed m) (ds : List (Stamped F D)) :
    Keyed (insertAll m ds) := by
  induction ds generalizing m with
  | nil => exact hm
  | cons s ds ih => exact ih (appendAt_keyed hm (prepare_key s))

/-- When the series' keys are pairwise distinct and new, the first loop opens one group per
series. -/
theorem insertAll_fresh (ds : List (Stamped F D)) (m : Groups F D)
    (hn : (ds.map (·.key)).Nodup) (hm : ∀ s ∈ ds, s.key ∉ m.map (·.1)) :
    insertAll m ds = m ++ ds.map fun s => (s.key, [prepare s]) := by
  induction ds generalizing m with
  | nil => simp [insertAll]
  | cons s ds ih =>
    rw [List.map_cons, List.nodup_cons] at hn
    have hs : insertAll m (s :: ds) = insertAll (m ++ [(s.key, [prepare s])]) ds := by
      rw [insertAll, List.foldl_cons, appendAt_new (hm s (.head _))]; rfl
    rw [hs, ih _ hn.2]
    · simp
    · intro x hx
      simp only [List.map_append, List.mem_append, List.map_cons, List.map_nil,
        List.mem_singleton, not_or]
      exact ⟨hm x (.tail _ hx), fun he => hn.1 (List.mem_map.mpr ⟨x, hx, he⟩)⟩

/-! ## Sorting -/

/-- Not-later start, the order `sort.Sort` leaves neighbours in. -/
def startLE (a b : Stamped F D) : Bool := !startLess b a

theorem startLE_trans (a b c : Stamped F D) (hab : startLE a b = true)
    (hbc : startLE b c = true) : startLE a c = true := by
  simp only [startLE, startLess, Bool.not_eq_true'] at *
  split_ifs at * <;> simp only [decide_eq_false_iff_not, not_lt] at * <;> omega

theorem startLE_total (a b : Stamped F D) : (startLE a b || startLE b a) = true := by
  simp only [startLE, startLess, Bool.or_eq_true, Bool.not_eq_true']
  split_ifs <;> simp only [decide_eq_false_iff_not, not_lt] <;> omega

/-- What the runtime chooses in `coalesce`: `sort.Sort`'s permutation of a group, sorted by
`byStartTimeUSec.Less`, and the order `range` visits `byMetric` in. -/
structure Sched (F D : Type) where
  sort : List (Stamped F D) → List (Stamped F D)
  sort_perm : ∀ l, (sort l).Perm l
  sort_sorted : ∀ l, (sort l).Pairwise (fun a b => startLess b a = false)
  order : Groups F D → Groups F D
  order_perm : ∀ m, (order m).Perm m

/-- `List.mergeSort` by start, with `range` visiting the groups in insertion order: one
behaviour the runtime may show. -/
def goSched : Sched F D where
  sort l := l.mergeSort startLE
  sort_perm l := List.mergeSort_perm l startLE
  sort_sorted l := (List.sorted_mergeSort startLE_trans startLE_total l).imp
    fun h => by simpa [startLE] using h
  order m := m
  order_perm m := .refl m

theorem Sched.sort_singleton (sched : Sched F D) (a : Stamped F D) : sched.sort [a] = [a] :=
  List.perm_singleton.mp (sched.sort_perm [a])

theorem Sched.order_singleton (sched : Sched F D) (g : (Nat × Nat) × List (Stamped F D)) :
    sched.order [g] = [g] :=
  List.perm_singleton.mp (sched.order_perm [g])

/-- Two series with distinct starts are sorted the one way. -/
theorem Sched.sort_pair (sched : Sched F D) {a b : Stamped F D} (h : startLess a b = true) :
    sched.sort [a, b] = [a, b] := by
  obtain ⟨x, y, hxy⟩ := List.length_eq_two.mp (sched.sort_perm [a, b]).length_eq
  have hp := sched.sort_perm [a, b]
  have hs := sched.sort_sorted [a, b]
  rw [hxy] at hp hs ⊢
  have hyx : startLess y x = false := List.rel_of_pairwise_cons hs (.head _)
  rcases List.mem_pair.mp (hp.subset (.head _)) with rfl | rfl
  · rw [List.perm_singleton.mp (hp.cons_inv)]
  · obtain ⟨rfl⟩ := List.perm_singleton.mp (hp.trans (.swap _ _ _)).cons_inv
    simp [hyx] at h

/-! ## Runs -/

/-- A run as a series and the later series merged into it. -/
abbrev Run (F D : Type) := Stamped F D × List (Stamped F D)

/-- The series of a list of runs, in order. -/
def members (runs : List (Run F D)) : List (Stamped F D) := runs.flatMap fun p => p.1 :: p.2

@[simp] theorem members_nil : members ([] : List (Run F D)) = [] := rfl
@[simp] theorem members_cons (p : Run F D) (runs : List (Run F D)) :
    members (p :: runs) = p.1 :: p.2 ++ members runs := rfl
@[simp] theorem members_append (r₁ r₂ : List (Run F D)) :
    members (r₁ ++ r₂) = members r₁ ++ members r₂ := List.flatMap_append ..
/-! ## The second loop -/

/-- Why `merge` refused, with the value its message prints:
"can't merge two timeseries with different value types; a has int64 value, b does not",
"… a has double value, b does not", "… a is a distribution, b is not", and
"invalid type for DELTA metric". -/
inductive MergeError (F D : Type) where
  | notInt64 (b : TypedValue F D)
  | notDouble (b : TypedValue F D)
  | notDistribution (b : TypedValue F D)
  | invalidType (a : TypedValue F D)
  deriving DecidableEq, Repr

variable [Add F]

/-- `merge`: add `b`'s value into `a`'s and take `b`'s end; `a` unchanged, with an error,
when the kinds differ. Two Distributions are not combined (the source's TODO): only the
end moves. -/
def merge (a b : Stamped F D) : Stamped F D × Option (MergeError F D) :=
  match a.value, b.value with
  | .int64Value av, .int64Value bv =>
    ((a.setValue (.int64Value (wrap64 (av + bv)))).setEnd b.endTime, none)
  | .int64Value _, bv => (a, some (.notInt64 bv))
  | .doubleValue av, .doubleValue bv =>
    ((a.setValue (.doubleValue (av + bv))).setEnd b.endTime, none)
  | .doubleValue _, bv => (a, some (.notDouble bv))
  | .distributionValue _, .distributionValue _ => (a.setEnd b.endTime, none)
  | .distributionValue _, bv => (a, some (.notDistribution bv))
  | av, _ => (a, some (.invalidType av))

/-- The inner loop over one sorted group: `current` absorbs each series that starts no
later than it ends, and is emitted when one starts later. -/
def scan (current : Stamped F D) : List (Stamped F D) → List (Stamped F D)
  | [] => [current]
  | t :: rest =>
    if 0 ≤ compareUSec current.endTime t.startTime then scan (merge current t).1 rest
    else current :: scan t rest

/-- One group of the second loop: sort it, then walk it from its first series. -/
def coalesceGroup (sort : List (Stamped F D) → List (Stamped F D))
    (g : List (Stamped F D)) : List (Stamped F D) :=
  match sort g with
  | [] => []
  | current :: rest => scan current rest

/-- `coalesce`; `none` where it panics. -/
def coalesce (sched : Sched F D) (series : List (TimeSeries F D)) :
    Option (List (TimeSeries F D)) :=
  (group series).map fun g =>
    g.1 ++ ((sched.order g.2).flatMap (coalesceGroup sched.sort ·.2)).map Stamped.toSeries

/-! ## What one run becomes -/

/-- What the first value of a run becomes once the later series `rest` are merged in: the
Int64 values among them added one by one with `int64` wrap-around, the Double values added
in run order; any other value, a Distribution included, stays as it is. -/
def TypedValue.absorb (v : TypedValue F D) (rest : List (Stamped F D)) : TypedValue F D :=
  match v with
  | .int64Value a =>
    .int64Value ((rest.filterMap (·.value.int64?)).foldl (fun s w => wrap64 (s + w)) a)
  | .doubleValue a => .doubleValue ((rest.filterMap (·.value.double?)).foldl (· + ·) a)
  | v => v

/-- The series a run `h :: rest` yields: `h`, with the values of the later series of its kind
absorbed, ending where the last of them ends. -/
def combine (h : Stamped F D) (rest : List (Stamped F D)) : Stamped F D :=
  (h.setValue (h.value.absorb rest)).setEnd
    (((rest.filter (h.value.sameKind ·.value)).getLast?.map Stamped.endTime).getD h.endTime)

@[simp] theorem TypedValue.absorb_nil (v : TypedValue F D) : v.absorb [] = v := by
  cases v <;> rfl

@[simp] theorem combine_nil (h : Stamped F D) : combine h [] = h := by
  simp [combine]

/-- One more `merge` extends the run by one series. -/
theorem merge_combine (h t : Stamped F D) (pre : List (Stamped F D)) :
    (merge (combine h pre) t).1 = combine h (pre ++ [t]) := by
  cases hv : h.value <;> cases ht : t.value <;>
    simp only [merge, combine, TypedValue.absorb, TypedValue.sameKind, TypedValue.int64?,
      TypedValue.double?, hv, ht, Stamped.setValue_value, Stamped.setEnd_value,
      Stamped.setEnd_setEnd, Stamped.setValue_setValue, Stamped.setEnd_setValue,
      List.filter_append, List.filter_nil, List.filter_cons_of_neg, List.filter_cons_of_pos,
      List.filter_false, List.filter_getLast?, List.filterMap_append, List.filterMap_nil,
      List.filterMap_cons_none, List.filterMap_cons_some, List.append_nil, List.getLast?_nil,
      List.getLast?_append, List.getLast?_singleton, List.foldl_append, List.foldl_cons,
      List.foldl_nil, Option.getD_map, Option.map_none', Option.getD_none, Option.or_some,
      Option.map_some', Option.getD_some, Option.some.injEq, Bool.false_eq_true,
      not_false_eq_true]

/-- What each run of a list yields. -/
def yields (runs : List (Run F D)) : List (Stamped F D) := runs.map fun p => combine p.1 p.2

@[simp] theorem yields_nil : yields ([] : List (Run F D)) = [] := rfl
@[simp] theorem yields_cons (p : Run F D) (runs : List (Run F D)) :
    yields (p :: runs) = combine p.1 p.2 :: yields runs := rfl
@[simp] theorem yields_append (r₁ r₂ : List (Run F D)) :
    yields (r₁ ++ r₂) = yields r₁ ++ yields r₂ := List.map_append ..

/-- `scan`, started in the middle of a run `h :: pre`, cuts the rest of the group into runs:
the current one grows by `R`, and the series after it start runs of their own. -/
theorem scan_runs (h : Stamped F D) (pre rest : List (Stamped F D)) :
    ∃ R runs, R ++ members runs = rest ∧
      scan (combine h pre) rest = combine h (pre ++ R) :: yields runs := by
  induction rest generalizing h pre with
  | nil => exact ⟨[], [], rfl, by simp [scan]⟩
  | cons t rest ih =>
    by_cases hc : 0 ≤ compareUSec (combine h pre).endTime t.startTime
    · obtain ⟨R, runs, hR, hs⟩ := ih h (pre ++ [t])
      refine ⟨t :: R, runs, by simp [hR], ?_⟩
      rw [scan, if_pos hc, merge_combine, hs]
      simp
    · obtain ⟨R, runs, hR, hs⟩ := ih t []
      refine ⟨[], (t, R) :: runs, by simp [hR], ?_⟩
      rw [scan, if_neg hc, ← combine_nil t, hs]
      simp

/-- One group's output: the yield of a partition of the group into runs. -/
theorem coalesceGroup_runs (sched : Sched F D) (g : List (Stamped F D)) :
    ∃ runs, (members runs).Perm g ∧ coalesceGroup sched.sort g = yields runs := by
  have hp := sched.sort_perm g
  unfold coalesceGroup
  split
  · next hs => exact ⟨[], by simpa [hs] using hp, rfl⟩
  · next c rest hs =>
    obtain ⟨R, runs, hR, hscan⟩ := scan_runs c [] rest
    refine ⟨(c, R) :: runs, ?_, by simpa using hscan⟩
    rw [hs] at hp
    simpa [← List.append_assoc, hR] using hp

/-- The second loop: the yield of a partition of all grouped series into runs, each within
one key. -/
theorem flatMap_coalesceGroup_runs (sched : Sched F D) (gs : Groups F D) (hk : Keyed gs) :
    ∃ runs, (members runs).Perm (gs.flatMap (·.2)) ∧ (∀ p ∈ runs, ∀ x ∈ p.2, x.key = p.1.key) ∧
      gs.flatMap (coalesceGroup sched.sort ·.2) = yields runs := by
  induction gs with
  | nil => exact ⟨[], by simp, by simp, rfl⟩
  | cons g gs ih =>
    obtain ⟨r₁, hp₁, hy₁⟩ := coalesceGroup_runs sched g.2
    obtain ⟨r₂, hp₂, hk₂, hy₂⟩ := ih fun p hp => hk p (.tail _ hp)
    refine ⟨r₁ ++ r₂, by simpa using hp₁.append hp₂, ?_, by simp [hy₁, hy₂]⟩
    have hg : ∀ x ∈ members r₁, x.key = g.1 := fun x hx => hk g (.head _) x (hp₁.subset hx)
    intro p hp x hx
    rcases List.mem_append.mp hp with hp | hp
    · have hm : ∀ y ∈ p.1 :: p.2, y ∈ members r₁ := fun y hy =>
        List.mem_flatMap.mpr ⟨p, hp, hy⟩
      rw [hg x (hm x (.tail _ hx)), hg p.1 (hm _ (.head _))]
    · exact hk₂ p hp x hx

/-! ## What `coalesce` computes -/

/-- The second loop, over the groups the first loop builds from the DELTA series `ds`. -/
def coalesceDeltas (sched : Sched F D) (ds : List (Stamped F D)) : List (Stamped F D) :=
  (sched.order (insertAll [] ds)).flatMap (coalesceGroup sched.sort ·.2)

/-- `coalesce` panics exactly when a DELTA series has a nil timestamp; otherwise it returns
the non-DELTA series, unchanged and in order, then the second loop's output. -/
theorem coalesce_eq (sched : Sched F D) (series : List (TimeSeries F D)) :
    coalesce sched series = (stampDeltas series).map fun ds =>
      series.filter (·.metricKind ≠ .delta) ++ (coalesceDeltas sched ds).map Stamped.toSeries := by
  simp [coalesce, group, foldlM_groupStep, coalesceDeltas, Option.map_map, Function.comp_def]

/-- `coalesce` panics exactly when a DELTA series has a nil `StartTime` or `EndTime`. -/
theorem coalesce_eq_none_iff (sched : Sched F D) (series : List (TimeSeries F D)) :
    coalesce sched series = none ↔
      ∃ ts ∈ series, ts.metricKind = .delta ∧ (ts.startTime = none ∨ ts.endTime = none) := by
  simp only [coalesce_eq, Option.map_eq_none', stampDeltas_eq_none_iff,
    TimeSeries.stamped?_eq_none_iff]

theorem coalesce_eq_some_iff {sched : Sched F D} {series out : List (TimeSeries F D)} :
    coalesce sched series = some out ↔ ∃ ds : List (Stamped F D),
      ds.map Stamped.toSeries = series.filter (·.metricKind = .delta) ∧
      out = series.filter (·.metricKind ≠ .delta) ++ (coalesceDeltas sched ds).map Stamped.toSeries := by
  simp only [coalesce_eq, Option.map_eq_some', stampDeltas_eq_some_iff, eq_comm (a := out)]

/-- A batch of DELTA series with their timestamps set goes through the first loop whole. -/
theorem coalesce_of_stamped {sched : Sched F D} {ds : List (Stamped F D)}
    (hd : ∀ s ∈ ds, s.metricKind = .delta) :
    coalesce sched (ds.map Stamped.toSeries) = some ((coalesceDeltas sched ds).map Stamped.toSeries) := by
  have hf : (ds.map Stamped.toSeries).filter (·.metricKind = .delta) = ds.map Stamped.toSeries :=
    List.filter_eq_self.mpr fun t ht => by
      obtain ⟨s, hs, rfl⟩ := List.mem_map.mp ht
      simpa using hd s hs
  have hn : (ds.map Stamped.toSeries).filter (·.metricKind ≠ .delta) = [] :=
    List.filter_eq_nil_iff.mpr fun t ht => by
      obtain ⟨s, hs, rfl⟩ := List.mem_map.mp ht
      simpa using hd s hs
  rw [coalesce_eq, (stampDeltas_eq_some_iff _ ds).mpr hf.symm, hn]
  rfl

/-- The second loop without its loops: the yield of a partition of the prepared DELTA series
into runs, the series of each run sharing one key. Each run yields its first series with the
Int64 or Double values of the later series of the same kind added in, a Distribution kept as
the first's, and the end of the last series of its kind; any series of another kind is
dropped. -/
theorem coalesceDeltas_runs (sched : Sched F D) (ds : List (Stamped F D)) :
    ∃ runs : List (Run F D), (members runs).Perm (ds.map prepare) ∧
      (∀ p ∈ runs, ∀ x ∈ p.2, x.key = p.1.key) ∧ coalesceDeltas sched ds = yields runs := by
  obtain ⟨runs, hp, hk, hy⟩ := flatMap_coalesceGroup_runs sched (sched.order (insertAll [] ds))
    fun p hp => insertAll_keyed (m := []) (by simp [Keyed]) ds p ((sched.order_perm _).subset hp)
  refine ⟨runs, hp.trans ?_, hk, hy⟩
  simpa using ((sched.order_perm _).flatMap_right _).trans (insertAll_perm [] ds)

/-- Every series the second loop returns is a run's first series, re-kinded. -/
theorem coalesceDeltas_cumulative (sched : Sched F D) (ds : List (Stamped F D)) :
    ∀ s ∈ coalesceDeltas sched ds, s.metricKind = .cumulative := by
  obtain ⟨runs, hp, -, hy⟩ := coalesceDeltas_runs sched ds
  intro s hs
  rw [hy] at hs
  obtain ⟨p, hp', rfl⟩ := List.mem_map.mp hs
  obtain ⟨x, -, hx⟩ := List.mem_map.mp (hp.subset (List.mem_flatMap.mpr ⟨p, hp', .head _⟩))
  simp [combine, ← hx]

theorem coalesceGroup_singleton (sched : Sched F D) (a : Stamped F D) :
    coalesceGroup sched.sort [a] = [a] := by
  simp [coalesceGroup, Sched.sort_singleton, scan]

/-- DELTA series with pairwise distinct keys are never merged: the second loop only
prepares them. -/
theorem coalesceDeltas_distinct_keys (sched : Sched F D) (ds : List (Stamped F D))
    (hn : (ds.map (·.key)).Nodup) : (coalesceDeltas sched ds).Perm (ds.map prepare) := by
  have hsingle : ∀ l : List (Stamped F D),
      (l.map fun t => (t.key, [prepare t])).flatMap (coalesceGroup sched.sort ·.2) =
        l.map prepare := by
    intro l
    induction l with
    | nil => rfl
    | cons t l ih => simp [coalesceGroup_singleton, ih]
  rw [coalesceDeltas, insertAll_fresh ds [] hn (by simp), List.nil_append, ← hsingle]
  exact (sched.order_perm _).flatMap_right _

/-- Two DELTA series of one key whose starts differ are walked as one sorted group. -/
theorem coalesce_pair {sched : Sched F D} {x y : Stamped F D} (hx : x.metricKind = .delta)
    (hy : y.metricKind = .delta) (hk : y.key = x.key) (hs : startLess (prepare x) (prepare y)) :
    coalesce sched [x.toSeries, y.toSeries] = some ((scan (prepare x) [prepare y]).map Stamped.toSeries) := by
  have hg : insertAll [] [x, y] = [(x.key, [prepare x, prepare y])] := by
    simp [insertAll, appendAt, hk]
  rw [show [x.toSeries, y.toSeries] = [x, y].map Stamped.toSeries from rfl,
    coalesce_of_stamped (by simp [hx, hy]), coalesceDeltas, hg, Sched.order_singleton]
  simp [coalesceGroup, Sched.sort_pair sched hs]

/-- A lone DELTA series is only prepared. -/
theorem coalesce_single {sched : Sched F D} {x : Stamped F D} (hx : x.metricKind = .delta) :
    coalesce sched [x.toSeries] = some [(prepare x).toSeries] := by
  rw [show [x.toSeries] = [x].map Stamped.toSeries from rfl, coalesce_of_stamped (by simp [hx]),
    coalesceDeltas, show insertAll [] [x] = [(x.key, [prepare x])] from rfl,
    Sched.order_singleton]
  simp [coalesceGroup_singleton]

/-- A DELTA series of the stream whose `Metric` is stored at `m` and `MonitoredResource` at
`r`. -/
def streamSeries (m r : Nat) (start stop : Timestamp) (v : TypedValue F D) : Stamped F D where
  metric := ⟨m, { type := "custom.googleapis.com/request_count", labels := [] }⟩
  resource := ⟨r, { type := "global", labels := [("project_id", "demo")] }⟩
  metricKind := .delta
  startTime := start
  endTime := stop
  value := v

/-- Every series `coalesce` returns is a non-DELTA input or a run's first series, re-kinded:
none is of kind DELTA. `coalesce` returns exactly when no DELTA series has a nil
timestamp. -/
theorem coalesce_no_delta (sched : Sched F D) (series : List (TimeSeries F D)) :
    ((coalesce sched series).isSome ↔
      ∀ ts ∈ series, ts.metricKind = .delta → ts.startTime.isSome ∧ ts.endTime.isSome) ∧
    ∀ out, coalesce sched series = some out → ∀ t ∈ out, t.metricKind ≠ .delta := by
  refine ⟨?_, fun out h t ht => ?_⟩
  · rw [Option.isSome_iff_ne_none, ne_eq, coalesce_eq_none_iff]
    simp [Option.isSome_iff_ne_none]
  obtain ⟨ds, -, rfl⟩ := coalesce_eq_some_iff.mp h
  rcases List.mem_append.mp ht with ht | ht
  · simpa using (List.mem_filter.mp ht).2
  · obtain ⟨s, hs, rfl⟩ := List.mem_map.mp ht
    simp [coalesceDeltas_cumulative sched ds s hs]

/-- An Int64 DELTA series over [0 s, 10 s]. -/
def int64Series : Stamped Int Unit := streamSeries 1 2 ⟨0, 0⟩ ⟨10, 0⟩ (.int64Value 1)

/-- A Double DELTA series of the same stream, through the same pointers, over [5 s, 15 s]. -/
def doubleSeries : Stamped Int Unit := streamSeries 1 2 ⟨5, 0⟩ ⟨15, 0⟩ (.doubleValue 2)

theorem coalesce_no_delta_pair :
    ∃ t, coalesce goSched [int64Series.toSeries, doubleSeries.toSeries] = some [t] ∧
      t.metricKind ≠ .delta :=
  have h : coalesce goSched [int64Series.toSeries, doubleSeries.toSeries] =
      some [(prepare int64Series).toSeries] :=
    (coalesce_pair (x := int64Series) (y := doubleSeries) rfl rfl rfl rfl).trans rfl
  ⟨_, h, (coalesce_no_delta goSched _).2 _ h _ (List.mem_singleton_self _)⟩

/-! ## Values -/

/-- A Distribution DELTA series over [0 s, 10 s], holding the distribution `1`. -/
def firstDistribution : Stamped Int Nat :=
  streamSeries 1 2 ⟨0, 0⟩ ⟨10, 0⟩ (.distributionValue 1)

/-- A Distribution series of the same stream, through the same pointers, over [5 s, 15 s],
holding the distribution `2`. -/
def laterDistribution : Stamped Int Nat :=
  streamSeries 1 2 ⟨5, 0⟩ ⟨15, 0⟩ (.distributionValue 2)

/-- Whatever order the runtime picks, a merge loses a value: a Distribution merged into
another leaves only the first's distribution, over both intervals, and a Double series
merged into an Int64 one is dropped with its value. -/
theorem coalesce_discards_values :
    (∀ sched : Sched Int Nat, ∃ t : Stamped Int Nat,
      coalesce sched [firstDistribution.toSeries, laterDistribution.toSeries] = some [t.toSeries] ∧
        t.value = .distributionValue 1 ∧ t.endTime = ⟨15, 0⟩) ∧
    ∀ sched : Sched Int Unit, ∃ t : Stamped Int Unit,
      coalesce sched [int64Series.toSeries, doubleSeries.toSeries] = some [t.toSeries] ∧
        t.value = .int64Value 1 :=
  ⟨fun _ => ⟨_, (coalesce_pair (x := firstDistribution) (y := laterDistribution) rfl rfl rfl
      rfl).trans rfl, rfl, rfl⟩,
    fun _ => ⟨_, (coalesce_pair (x := int64Series) (y := doubleSeries) rfl rfl rfl rfl).trans rfl,
      rfl⟩⟩

/-! ## Intervals -/

/-- An Int64 series of the same stream over [2 s, 3 s], inside `int64Series`'s interval. -/
def innerSeries : Stamped Int Unit := streamSeries 1 2 ⟨2, 0⟩ ⟨3, 0⟩ (.int64Value 2)

/-- Merging a series nested in the run moves the run's end back to the inner series' end. -/
theorem coalesce_nested_interval (sched : Sched Int Unit) :
    ∃ t : Stamped Int Unit,
      coalesce sched [int64Series.toSeries, innerSeries.toSeries] = some [t.toSeries] ∧
      t.value = .int64Value 3 ∧ t.startTime = ⟨0, 0⟩ ∧ t.endTime = ⟨3, 0⟩ ∧
      t.endTime.us < int64Series.endTime.us :=
  ⟨_, (coalesce_pair (x := int64Series) (y := innerSeries) rfl rfl rfl rfl).trans rfl,
    rfl, rfl, rfl, by decide⟩

/-- A series that starts and ends 500 ns before a second boundary. -/
def boundarySeries : Stamped Int Unit :=
  streamSeries 1 2 ⟨0, 999999500⟩ ⟨0, 999999500⟩ (.int64Value 1)

/-- Moving an end within its start's microsecond adds `usec` to `Nanos` with no carry into
`Seconds`. -/
theorem coalesce_end_unnormalized (sched : Sched Int Unit) :
    ∃ t : Stamped Int Unit, coalesce sched [boundarySeries.toSeries] = some [t.toSeries] ∧
      t.endTime = ⟨0, 1000000500⟩ ∧ ¬ t.endTime.Normalized :=
  ⟨_, coalesce_single (x := boundarySeries) rfl, rfl, by decide⟩

end Mixer.Stackdriver
