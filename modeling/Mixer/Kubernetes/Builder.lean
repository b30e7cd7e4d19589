import Mathlib.Data.List.Basic

/-!
# `BuildAttributesGenerator`: setting up the pod cache

`src/adapter/kubernetes/kubernetes.go` and `src/unnamed/part_001` hold two versions of the
Kubernetes adapter's builder. Both create the pod cache controller when
`BuildAttributesGenerator` is first called, and hand every generator (`kubegen`) the
builder's controller, which `kubegen.addValues` calls for each pod lookup.
- The version in `kubernetes.go` guards the set-up with a mutex and a flag,
  `needsCacheInit`, that only a successful set-up clears, so a failed set-up is run again by
  the next call.
- The version in `part_001` runs the set-up inside `sync.Once`, which counts a set-up that
  returned early on an error as done: every later call skips it and returns a generator
  whose controller is nil.

The model is each builder's state and one call on it. What the world answers during a
call is the call's `CallEnv`: the controller factory's result for the path and refresh it
is given, the `KUBECONFIG` environment variable, and whether `WaitForCacheSync` reports
success. A run is a list of calls, each with its own answers and parameters, and every
theorem holds for every list.

Mirroring notes:
- A `cacheController` interface value is an `Option`, where `none` is nil; the factory
  returns a controller whenever it returns no error.
- The mutex makes each call atomic, so the model runs the calls one after another.
- `env.ScheduleDaemon` starts the controller's `Run` loop on `stopChan`, and
  `cache.WaitForCacheSync(b.stopChan, …)` waits until the cache has synced (`true`) or
  `stopChan` is closed (`false`), which only `Close` does. After a `false` the version of
  `kubernetes.go` sends on the closed `stopChan`, and the send panics; the deferred
  `Unlock` runs as the panic unwinds. A call whose cache never syncs and whose builder is
  never closed waits for ever and ends no run, so every call of a run returns or panics.
  The daemon, the channel and logging (`kubegen.log`) are not modelled.
- A call's result is `Except String (Except String (Kubegen C))`: the outer error is a
  panic, the inner `Except` the Go pair `(kg, err)`.
- The unchecked `c.(*config.Params)` is assumed to hold: a call's `Params` is the asserted
  value.
-/

namespace Mixer.Kubernetes

/-- `config.Params`: the fields `BuildAttributesGenerator` reads. -/
structure Params where
  kubeconfigPath : String
  /-- A `time.Duration`, in nanoseconds. -/
  cacheRefreshDuration : Int

/-- `kubegen`: the generator a successful call returns. -/
structure Kubegen (C : Type) where
  pods : Option C
  params : Params

/-- What the world answers during one call. -/
structure CallEnv (C : Type) where
  /-- `newCacheControllerFn`, as it answers during this call. -/
  newCacheControllerFn : String → Int → Except String C
  /-- `os.LookupEnv("KUBECONFIG")`. -/
  kubeconfig : Option String
  /-- What `cache.WaitForCacheSync` returns: `false` only once `stopChan` is closed. -/
  cacheSynced : Bool

/-- A run of calls from state `s`: each call's result, in order, and the state after the
last call. -/
def runCalls {σ β γ : Type} (call : σ → β → γ × σ) : σ → List β → List γ × σ
  | s, [] => ([], s)
  | s, x :: xs =>
    let r := runCalls call (call s x).2 xs
    ((call s x).1 :: r.1, r.2)

/-- A run keeps an invariant of the state when each call does, and relates each call to its
result as each call does from the invariant. -/
theorem runCalls_inv {σ β γ : Type} {call : σ → β → γ × σ} (Inv : σ → Prop) (P : β → γ → Prop)
    (step : ∀ s x, Inv s → P x (call s x).1 ∧ Inv (call s x).2) :
    ∀ (s : σ) (xs : List β), Inv s →
      List.Forall₂ P xs (runCalls call s xs).1 ∧ Inv (runCalls call s xs).2
  | _, [], hs => ⟨.nil, hs⟩
  | s, x :: xs, hs =>
    have ih := runCalls_inv Inv P step (call s x).2 xs (step s x hs).2
    ⟨.cons (step s x hs).1 ih.1, ih.2⟩

theorem exists_of_forall₂ {β γ : Type} {P : β → γ → Prop} {xs : List β} {ys : List γ}
    (h : List.Forall₂ P xs ys) {y : γ} (hy : y ∈ ys) : ∃ x ∈ xs, P x y := by
  induction h with
  | nil => cases hy
  | cons hxy _ ih =>
    rcases List.mem_cons.mp hy with rfl | hy
    · exact ⟨_, .head _, hxy⟩
    · obtain ⟨x, hx, hp⟩ := ih hy
      exact ⟨x, .tail _ hx, hp⟩

variable {C : Type}

/-- What `BuildAttributesGenerator` says when it panics after a failed cache sync. -/
def sendOnClosedChannel : String := "send on closed channel"

/-- What a call of `BuildAttributesGenerator`, with the world's answers and the parameters
`c`, may give: a generator with a controller and those parameters; an error the controller
factory returned for the path in use; or the panic on the closed `stopChan`, after the cache
sync failed. -/
def Served (c : CallEnv C × Params) (r : Except String (Except String (Kubegen C))) : Prop :=
  (∀ kg, r = .ok (.ok kg) → kg.pods.isSome ∧ kg.params = c.2) ∧
  (∀ err, r = .ok (.error err) → c.1.newCacheControllerFn (c.1.kubeconfig.getD c.2.kubeconfigPath)
    c.2.cacheRefreshDuration = .error err) ∧
  (∀ msg, r = .error msg → msg = sendOnClosedChannel ∧ c.1.cacheSynced = false)

/-! ## The builder of `kubernetes.go` -/

/-- `builder`: the fields `BuildAttributesGenerator` reads and writes. -/
structure Builder (C : Type) where
  pods : Option C
  needsCacheInit : Bool

/-- `newBuilder`. -/
def newBuilder : Builder C := ⟨none, true⟩

/-- `BuildAttributesGenerator`: after a failed cache sync the send on the closed `stopChan`
panics, and the builder keeps the controller and still needs its set-up. -/
def Builder.buildAttributesGenerator (b : Builder C) (env : CallEnv C) (paramsProto : Params) :
    Except String (Except String (Kubegen C)) × Builder C :=
  if b.needsCacheInit then
    let path := env.kubeconfig.getD paramsProto.kubeconfigPath
    match env.newCacheControllerFn path paramsProto.cacheRefreshDuration with
    | .error err => (.ok (.error err), b)
    | .ok controller =>
      let b := { b with pods := some controller }
      if !env.cacheSynced then (.error sendOnClosedChannel, b)
      else (.ok (.ok ⟨b.pods, paramsProto⟩), { b with needsCacheInit := false })
  else (.ok (.ok ⟨b.pods, paramsProto⟩), b)

/-- A run of calls on one builder. -/
def Builder.run (b : Builder C) (calls : List (CallEnv C × Params)) :
    List (Except String (Except String (Kubegen C))) × Builder C :=
  runCalls (fun b c => b.buildAttributesGenerator c.1 c.2) b calls

/-- Whether the set-up would succeed during this call. -/
def CallEnv.initSucceeds (env : CallEnv C) (paramsProto : Params) : Bool :=
  (env.newCacheControllerFn (env.kubeconfig.getD paramsProto.kubeconfigPath)
    paramsProto.cacheRefreshDuration).isOk && env.cacheSynced

/-- The builder's invariant: once set up, it holds a controller. -/
def Builder.Inv (b : Builder C) : Prop := b.needsCacheInit = false → b.pods.isSome

/-- One call keeps the invariant, and from it gives what `Served` allows. -/
theorem buildAttributesGenerator_inv {b : Builder C} (hb : b.Inv) (env : CallEnv C)
    (paramsProto : Params) :
    Served (env, paramsProto) (b.buildAttributesGenerator env paramsProto).1 ∧
      (b.buildAttributesGenerator env paramsProto).2.Inv := by
  unfold Builder.buildAttributesGenerator
  by_cases hn : b.needsCacheInit
  · rw [if_pos hn]
    dsimp only
    cases hf : env.newCacheControllerFn (env.kubeconfig.getD paramsProto.kubeconfigPath)
      paramsProto.cacheRefreshDuration
    · exact ⟨⟨by simp, by simp [hf], by simp⟩, by simp [Builder.Inv, hn]⟩
    · cases hs : env.cacheSynced <;> simp [Served, Builder.Inv, hs]
  · rw [if_neg hn]
    exact ⟨⟨by simpa using hb (by simpa using hn), by simp, by simp⟩, hb⟩

/-- One call clears `needsCacheInit` exactly when the set-up runs and succeeds. -/
theorem buildAttributesGenerator_needsCacheInit (b : Builder C) (env : CallEnv C)
    (paramsProto : Params) :
    (b.buildAttributesGenerator env paramsProto).2.needsCacheInit =
      (b.needsCacheInit && !env.initSucceeds paramsProto) := by
  obtain ⟨pods, _ | _⟩ := b
  · rfl
  · unfold Builder.buildAttributesGenerator CallEnv.initSucceeds
    dsimp only [if_true]
    cases env.newCacheControllerFn (env.kubeconfig.getD paramsProto.kubeconfigPath)
      paramsProto.cacheRefreshDuration <;> cases env.cacheSynced <;> rfl

/-- Every call of every run from `newBuilder` returns a generator with a controller,
returns the controller factory's error, or panics on the closed `stopChan` after its cache
sync failed; it never returns a generator with a nil controller. -/
theorem newBuilder_serves (calls : List (CallEnv C × Params)) :
    List.Forall₂ Served calls (newBuilder.run calls).1 :=
  (runCalls_inv Builder.Inv Served (fun b c hb => buildAttributesGenerator_inv hb c.1 c.2)
    newBuilder calls (fun h => by cases h)).1

/-- A failed set-up is run again: after any run from `newBuilder`, the builder still needs
its set-up exactly when no call of the run had one succeed. -/
theorem newBuilder_retries (calls : List (CallEnv C × Params)) :
    (newBuilder.run calls).2.needsCacheInit = !calls.any fun c => c.1.initSucceeds c.2 := by
  suffices h : ∀ b : Builder C, (b.run calls).2.needsCacheInit =
      (b.needsCacheInit && !calls.any fun c => c.1.initSucceeds c.2) from h newBuilder
  induction calls with
  | nil => simp [Builder.run, runCalls]
  | cons c calls ih =>
    intro b
    have := ih (b.buildAttributesGenerator c.1 c.2).2
    simp only [Builder.run, runCalls] at this ⊢
    rw [this, buildAttributesGenerator_needsCacheInit]
    simp [Bool.and_assoc]

/-! ## The builder of `part_001` -/

/-- `builder`: the controller and `sync.Once`'s done flag. -/
structure OnceBuilder (C : Type) where
  pods : Option C
  once : Bool

/-- `newBuilder`. -/
def newOnceBuilder : OnceBuilder C := ⟨none, false⟩

/-- `b.once.Do(f)`: `f` runs on the first call only, and the flag is set when it returns,
also when it returned early. The result is `clientErr`. -/
def OnceBuilder.doInit (b : OnceBuilder C) (env : CallEnv C) (paramsProto : Params) :
    Option String × OnceBuilder C :=
  if b.once then (none, b)
  else
    match env.newCacheControllerFn paramsProto.kubeconfigPath paramsProto.cacheRefreshDuration with
    | .error err => (some err, { b with once := true })
    | .ok controller => (none, ⟨some controller, true⟩)

/-- `BuildAttributesGenerator`. -/
def OnceBuilder.buildAttributesGenerator (b : OnceBuilder C) (env : CallEnv C)
    (paramsProto : Params) : Except String (Kubegen C) × OnceBuilder C :=
  let r := b.doInit env paramsProto
  match r.1 with
  | some err => (.error err, r.2)
  | none => (.ok ⟨r.2.pods, paramsProto⟩, r.2)

/-- A run of calls on one builder. -/
def OnceBuilder.run (b : OnceBuilder C) (calls : List (CallEnv C × Params)) :
    List (Except String (Kubegen C)) × OnceBuilder C :=
  runCalls (fun b c => b.buildAttributesGenerator c.1 c.2) b calls

/-- Once `sync.Once` is done, a call leaves the builder alone and returns a generator with
the builder's controller, nil or not. -/
theorem buildAttributesGenerator_of_once {b : OnceBuilder C} (hb : b.once = true)
    (env : CallEnv C) (paramsProto : Params) :
    b.buildAttributesGenerator env paramsProto = (.ok ⟨b.pods, paramsProto⟩, b) := by
  simp [OnceBuilder.buildAttributesGenerator, OnceBuilder.doInit, hb]

theorem run_of_once {b : OnceBuilder C} (hb : b.once = true) (calls : List (CallEnv C × Params)) :
    b.run calls = (calls.map fun c => .ok ⟨b.pods, c.2⟩, b) := by
  induction calls with
  | nil => rfl
  | cons c calls ih =>
    simp only [OnceBuilder.run, runCalls, buildAttributesGenerator_of_once hb] at ih ⊢
    rw [ih]
    rfl

/-- A run whose first call's factory fails: every later call, whatever the world answers,
returns a generator with a nil controller, and the builder stays done with none. -/
theorem newOnceBuilder_run_of_failure {env : CallEnv C} {paramsProto : Params}
    (hfail : (env.newCacheControllerFn paramsProto.kubeconfigPath
      paramsProto.cacheRefreshDuration).isOk = false) (later : List (CallEnv C × Params)) :
    newOnceBuilder.run ((env, paramsProto) :: later) =
      ((newOnceBuilder.buildAttributesGenerator env paramsProto).1 ::
        later.map (fun c => .ok ⟨none, c.2⟩), ⟨none, true⟩) := by
  obtain ⟨err, herr⟩ : ∃ err, env.newCacheControllerFn paramsProto.kubeconfigPath
      paramsProto.cacheRefreshDuration = .error err := by
    revert hfail; cases env.newCacheControllerFn _ _ <;> simp [Except.isOk, Except.toBool]
  have h1 : (newOnceBuilder.buildAttributesGenerator env paramsProto).2 = ⟨none, true⟩ := by
    simp [OnceBuilder.buildAttributesGenerator, OnceBuilder.doInit, newOnceBuilder, herr]
  have h := run_of_once (b := (⟨none, true⟩ : OnceBuilder C)) rfl later
  simp only [OnceBuilder.run, runCalls, h1] at h ⊢
  rw [h]

/-- The first call decides for good: when its factory fails, every later call, whatever the
world answers, returns a generator whose controller is nil. -/
theorem newOnceBuilder_first_failure (env : CallEnv C) (paramsProto : Params)
    (later : List (CallEnv C × Params))
    (hfail : (env.newCacheControllerFn paramsProto.kubeconfigPath
      paramsProto.cacheRefreshDuration).isOk = false) :
    (newOnceBuilder.run ((env, paramsProto) :: later)).1.tail =
      later.map fun c => .ok ⟨none, c.2⟩ := by
  rw [newOnceBuilder_run_of_failure hfail]
  rfl

/-- The default parameters' path and refresh period (`defaultRefreshPeriod`, five minutes). -/
def defaultParams : Params := ⟨"", 300000000000⟩

/-- A call during which the factory cannot reach the cluster. -/
def unreachableCluster : CallEnv Unit := ⟨fun _ _ => .error "could not retrieve kubeconfig", none, true⟩

/-- A call during which the factory returns a controller and the cache syncs. -/
def reachableCluster : CallEnv Unit := ⟨fun _ _ => .ok (), none, true⟩

theorem newOnceBuilder_first_failure_unreachable :
    (unreachableCluster.newCacheControllerFn defaultParams.kubeconfigPath
      defaultParams.cacheRefreshDuration).isOk = false ∧
    (newOnceBuilder.run [(unreachableCluster, defaultParams), (reachableCluster, defaultParams)]).1.tail =
      [(reachableCluster, defaultParams)].map fun c => .ok ⟨none, c.2⟩ :=
  ⟨rfl, newOnceBuilder_first_failure _ _ _ rfl⟩

/-- A call during which the factory returns a controller but the builder is closed before
the cache syncs. -/
def closedBeforeSync : CallEnv Unit := ⟨fun _ _ => .ok (), none, false⟩

theorem newBuilder_serves_retry :
    List.Forall₂ Served
      [(unreachableCluster, defaultParams), (closedBeforeSync, defaultParams),
        (reachableCluster, defaultParams)]
      (newBuilder.run [(unreachableCluster, defaultParams), (closedBeforeSync, defaultParams),
        (reachableCluster, defaultParams)]).1 ∧
    (newBuilder.run [(unreachableCluster, defaultParams), (closedBeforeSync, defaultParams),
        (reachableCluster, defaultParams)]).1 =
      [.ok (.error "could not retrieve kubeconfig"), .error sendOnClosedChannel,
        .ok (.ok ⟨some (), defaultParams⟩)] :=
  ⟨newBuilder_serves _, rfl⟩

/-- After a first call whose factory fails, the `sync.Once` builder answers a second call,
whose factory would succeed, with a generator whose controller is nil. -/
theorem onceBuilder_serves_nil_pods :
    (newOnceBuilder.run [(unreachableCluster, defaultParams), (reachableCluster, defaultParams)]).1 =
      [.error "could not retrieve kubeconfig", .ok ⟨none, defaultParams⟩] :=
  rfl

end Mixer.Kubernetes
