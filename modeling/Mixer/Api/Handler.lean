import Mixer.Api.Messages
import Mathlib.Data.List.Basic

/-!
# `handlerState.execute`: the per-request logic of the API methods

`src/pkg/api/handler.go`. `Check`, `Report` and `Quota` each echo the request's index and
run `execute`, which starts the request on the attribute tracker (and defers `EndRequest`),
loads the configuration that `ConfigChange` last stored, resolves the configs of the
method's aspects, and hands them one by one to the aspect executor, stopping at the first
that fails.

The model is the handler's state and the functions on it. `ConfigChange` is the only
function that changes the state; `configChanges` runs a sequence of calls, and the states
reachable from `NewHandler` are the results of those runs.

Mirroring notes:
- `cfg` is an `atomic.Value`: `none` until the first `Store`, afterwards `some` of the
  `*config.Runtime` last stored, itself `none` for a nil pointer. `Load().(*config.Runtime)`
  on a value never stored panics, since the assertion is unchecked.
- A panic is `.error` with the message the Go runtime prints. The deferred `EndRequest`
  runs on every return after `StartRequest` succeeded, panics included; `Executed` counts
  its calls.
- `config.Runtime`, `config.Combined`, `attribute.Tracker` and the `Executor` are defined
  outside this repository; the model keeps what `execute` calls on them (`Resolve`,
  `Builder.Name`, `StartRequest`, `Execute`) as fields, so every behaviour is covered. The
  executor's `*aspect.Output` is an `Option`: `none` is a nil pointer, which `out.Code`
  dereferences.
- `attribute.NewContext` builds a context that nothing reads (`_ = ctx`), and logging is
  not modelled.
-/

namespace Mixer.Api

/-- `aspect.Output`: the field `execute` reads. -/
structure Output where
  code : Code
  deriving DecidableEq

/-- `config.Combined`: the builder whose name the messages print, and the aspect's
configuration, which only the executor reads. -/
structure Combined (A : Type) where
  builderName : String
  aspect : A

/-- `config.Runtime`, through the one method `execute` calls. -/
structure Runtime (Bag S A : Type) where
  resolve : Bag → S → Except String (List (Combined A))

/-- `attribute.Tracker`: `StartRequest`, which turns the request's attributes into a bag. -/
structure Tracker (Attrs Bag : Type) where
  startRequest : Attrs → Except String Bag

/-- `config.APIMethod`. -/
inductive APIMethod where
  | checkMethod | reportMethod | quotaMethod

/-- `handlerState`. -/
structure HandlerState (Bag S A : Type) where
  /-- `aspectExecutor.Execute`. -/
  aspectExecutor : Combined A → Bag → Except String (Option Output)
  /-- The `atomic.Value`: what `ConfigChange` last stored, if it was ever called. -/
  cfg : Option (Option (Runtime Bag S A))
  checkSet : S
  reportSet : S
  quotaSet : S

variable {Attrs Bag S A : Type}

/-- `NewHandler`; `methodmap` is the Go map read with its zero value for a missing method. -/
def newHandler (aspectExecutor : Combined A → Bag → Except String (Option Output))
    (methodmap : APIMethod → S) : HandlerState Bag S A :=
  { aspectExecutor, cfg := none, checkSet := methodmap .checkMethod,
    reportSet := methodmap .reportMethod, quotaSet := methodmap .quotaMethod }

/-- `ConfigChange`: `h.cfg.Store(cfg)`. -/
def HandlerState.configChange (h : HandlerState Bag S A) (cfg : Option (Runtime Bag S A)) :
    HandlerState Bag S A :=
  { h with cfg := some cfg }

/-- `ConfigChange` called with each of `cfgs` in turn. -/
def HandlerState.configChanges (h : HandlerState Bag S A) (cfgs : List (Option (Runtime Bag S A))) :
    HandlerState Bag S A :=
  cfgs.foldl HandlerState.configChange h

/-- `newStatus`. -/
def newStatus (c : Code) : Status := { code := c }

/-- `newStatusWithMessage`. -/
def newStatusWithMessage (c : Code) (message : String) : Status := { code := c, message := message }

/-- The panic of `Load().(*config.Runtime)` on an `atomic.Value` never stored. -/
def nilInterfaceConversion : String := "interface conversion: interface is nil, not *config.Runtime"

/-- The panic of `out.Code` on a nil `*aspect.Output`. -/
def nilDereference : String := "runtime error: invalid memory address or nil pointer dereference"

/-- What a call does: its result (`.error` for the panic that escapes it), the configs it
handed the executor, in order, and how many times it called `tracker.EndRequest`. -/
structure Executed (A α : Type) where
  result : Except String α
  executed : List (Combined A)
  endRequests : Nat

/-- The loop over the resolved configs: the status it returns (or its panic) and the configs
it handed the executor. -/
def runConfigs (exec : Combined A → Bag → Except String (Option Output)) (ab : Bag) :
    List (Combined A) → Except String Status × List (Combined A)
  | [] => (.ok (newStatus .ok), [])
  | conf :: rest =>
    match exec conf ab with
    | .error err =>
      (.ok (newStatusWithMessage .internal ("Adapter " ++ conf.builderName ++ " returned err: " ++ err)),
        [conf])
    | .ok none => (.error nilDereference, [conf])
    | .ok (some out) =>
      if out.code ≠ .ok then
        (.ok (newStatusWithMessage out.code ("Rejected by builder " ++ conf.builderName)), [conf])
      else
        let r := runConfigs exec ab rest
        (r.1, conf :: r.2)

/-- `execute`. -/
def HandlerState.execute (h : HandlerState Bag S A) (tracker : Tracker Attrs Bag) (attrs : Attrs)
    (aspects : S) : Executed A Status :=
  match tracker.startRequest attrs with
  | .error _ => ⟨.ok (newStatus .invalidArgument), [], 0⟩
  | .ok ab =>
    let r : Except String Status × List (Combined A) :=
      match h.cfg with
      | none => (.error nilInterfaceConversion, [])
      | some none =>
        (.ok (newStatusWithMessage .unavailable "configuration is not available"), [])
      | some (some cfg) =>
        match cfg.resolve ab aspects with
        | .error err => (.ok (newStatusWithMessage .internal ("unable to resolve config " ++ err)), [])
        | .ok cfgs => runConfigs h.aspectExecutor ab cfgs
    ⟨r.1, r.2, 1⟩

/-- The call's response, from the status `execute` returned. -/
def Executed.map {α β : Type} (r : Executed A α) (f : α → β) : Executed A β :=
  ⟨r.result.map f, r.executed, r.endRequests⟩

/-- `Check`. -/
def HandlerState.check (h : HandlerState Bag S A) (tracker : Tracker Attrs Bag)
    (request : CheckRequest Attrs) (response : CheckResponse Attrs) :
    Executed A (CheckResponse Attrs) :=
  (h.execute tracker request.attributeUpdate h.checkSet).map fun st =>
    { response with requestIndex := request.requestIndex, result := st }

/-- `Report`. -/
def HandlerState.report (h : HandlerState Bag S A) (tracker : Tracker Attrs Bag)
    (request : ReportRequest Attrs) (response : ReportResponse Attrs) :
    Executed A (ReportResponse Attrs) :=
  (h.execute tracker request.attributeUpdate h.reportSet).map fun st =>
    { response with requestIndex := request.requestIndex, result := st }

/-- `Quota`: the result is `newQuotaError` of the status's code, which drops its message. -/
def HandlerState.quota (h : HandlerState Bag S A) (tracker : Tracker Attrs Bag)
    (request : QuotaRequest Attrs) (response : QuotaResponse Attrs) :
    Executed A (QuotaResponse Attrs) :=
  (h.execute tracker request.attributeUpdate h.quotaSet).map fun st =>
    { response with requestIndex := request.requestIndex, result := newStatus st.code }

/-! ## Reachable states

`ConfigChange` writes `cfg` alone, so after any sequence of calls the handler is the one
`NewHandler` built with the last configuration stored, or unchanged if there was none. -/

theorem configChanges_eq (h : HandlerState Bag S A) (cfgs : List (Option (Runtime Bag S A))) :
    h.configChanges cfgs = { h with cfg := (cfgs.getLast?.map some).getD h.cfg } := by
  induction cfgs using List.reverseRecOn with
  | nil => rfl
  | append_singleton cfgs c ih =>
    rw [HandlerState.configChanges, List.foldl_concat, ← HandlerState.configChanges, ih]
    simp [HandlerState.configChange]

theorem configChanges_aspectExecutor (h : HandlerState Bag S A)
    (cfgs : List (Option (Runtime Bag S A))) :
    (h.configChanges cfgs).aspectExecutor = h.aspectExecutor := by
  rw [configChanges_eq]

theorem configChanges_concat_cfg (h : HandlerState Bag S A) (cfgs : List (Option (Runtime Bag S A)))
    (c : Option (Runtime Bag S A)) : (h.configChanges (cfgs ++ [c])).cfg = some c := by
  simp [configChanges_eq]

/-! ## What `execute` returns -/

section Outcome

variable (exec : Combined A → Bag → Except String (Option Output)) (ab : Bag)

/-- How the loop over the resolved configs `cfgs` ends: every config runs and returns
`OK`, and so does the loop; or the loop stops at the first config whose executor errors
(`INTERNAL`) or returns a non-OK code (that code), and runs no later config. -/
def RunOutcome (cfgs : List (Combined A)) (st : Status) (executed : List (Combined A)) : Prop :=
  (∀ c ∈ cfgs, exec c ab = .ok (some ⟨.ok⟩)) ∧ st.code = .ok ∧ executed = cfgs ∨
  ∃ pre c post, cfgs = pre ++ c :: post ∧ (∀ c' ∈ pre, exec c' ab = .ok (some ⟨.ok⟩)) ∧
    executed = pre ++ [c] ∧
    ((∃ e, exec c ab = .error e) ∧ st.code = .internal ∨
      ∃ o, exec c ab = .ok (some o) ∧ o.code ≠ .ok ∧ st.code = o.code)

variable {exec ab}

theorem RunOutcome.stop {c : Combined A} (rest : List (Combined A)) {st : Status}
    (h : (∃ e, exec c ab = .error e) ∧ st.code = .internal ∨
      ∃ o, exec c ab = .ok (some o) ∧ o.code ≠ .ok ∧ st.code = o.code) :
    RunOutcome exec ab (c :: rest) st [c] :=
  .inr ⟨[], c, rest, rfl, by simp, rfl, h⟩

/-- A config that returns `OK` runs and the loop goes on. -/
theorem RunOutcome.cons {c : Combined A} {rest : List (Combined A)} {st : Status}
    {executed : List (Combined A)} (hc : exec c ab = .ok (some ⟨.ok⟩))
    (h : RunOutcome exec ab rest st executed) : RunOutcome exec ab (c :: rest) st (c :: executed) := by
  rcases h with ⟨hall, hst, rfl⟩ | ⟨pre, c', post, rfl, hpre, rfl, hstop⟩
  · exact .inl ⟨List.forall_mem_cons.mpr ⟨hc, hall⟩, hst, rfl⟩
  · exact .inr ⟨c :: pre, c', post, rfl, List.forall_mem_cons.mpr ⟨hc, hpre⟩, rfl, hstop⟩

/-- When the executor never returns a nil output without an error, the loop returns a
status, as `RunOutcome` describes. -/
theorem runConfigs_outcome (hx : ∀ c, exec c ab ≠ .ok none) :
    ∀ cfgs, ∃ st, (runConfigs exec ab cfgs).1 = .ok st ∧
      RunOutcome exec ab cfgs st (runConfigs exec ab cfgs).2
  | [] => ⟨_, rfl, .inl ⟨by simp, rfl, rfl⟩⟩
  | c :: rest => by
    rcases hc : exec c ab with e | (_ | o)
    · simp only [runConfigs, hc]
      exact ⟨_, rfl, .stop rest (.inl ⟨⟨e, hc⟩, rfl⟩)⟩
    · exact absurd hc (hx c)
    · by_cases ho : o.code = .ok
      · obtain ⟨st, hst, hout⟩ := runConfigs_outcome hx rest
        obtain rfl : o = ⟨.ok⟩ := by cases o; simp_all
        simp only [runConfigs, hc, ne_eq, not_true_eq_false, ↓reduceIte]
        exact ⟨st, hst, hout.cons hc⟩
      · simp only [runConfigs, hc, ho, ne_eq, not_false_eq_true, ↓reduceIte]
        exact ⟨_, rfl, .stop rest (.inr ⟨o, hc, ho, rfl⟩)⟩

end Outcome

/-- How a call `r` of `execute` ends on a handler whose stored configuration is `cfg`: it
returns a status; `INVALID_ARGUMENT` and no `EndRequest` when `StartRequest` fails;
otherwise one `EndRequest` and `UNAVAILABLE` for a nil configuration, `INTERNAL` when
`Resolve` fails, or else the loop's outcome. -/
def ExecuteOutcome (exec : Combined A → Bag → Except String (Option Output))
    (tracker : Tracker Attrs Bag) (attrs : Attrs) (aspects : S) (cfg : Option (Runtime Bag S A))
    (r : Executed A Status) : Prop :=
  ∃ st, r.result = .ok st ∧
    match tracker.startRequest attrs with
    | .error _ => st.code = .invalidArgument ∧ r.executed = [] ∧ r.endRequests = 0
    | .ok ab => r.endRequests = 1 ∧
      match cfg with
      | none => st.code = .unavailable ∧ r.executed = []
      | some rt =>
        match rt.resolve ab aspects with
        | .error _ => st.code = .internal ∧ r.executed = []
        | .ok cfgs => RunOutcome exec ab cfgs st r.executed

/-- Once a configuration is stored, `execute` returns a status, as `ExecuteOutcome` lists
it. -/
theorem execute_outcome (h : HandlerState Bag S A) {cfg : Option (Runtime Bag S A)}
    (hcfg : h.cfg = some cfg) (hx : ∀ c ab, h.aspectExecutor c ab ≠ .ok none)
    (tracker : Tracker Attrs Bag) (attrs : Attrs) (aspects : S) :
    ExecuteOutcome h.aspectExecutor tracker attrs aspects cfg (h.execute tracker attrs aspects) := by
  simp only [HandlerState.execute, ExecuteOutcome, hcfg]
  rcases tracker.startRequest attrs with _ | ab
  · exact ⟨_, rfl, rfl, rfl, rfl⟩
  rcases cfg with _ | rt
  · exact ⟨_, rfl, rfl, rfl, rfl⟩
  dsimp only
  rcases rt.resolve ab aspects with _ | cfgs
  · exact ⟨_, rfl, rfl, rfl, rfl⟩
  exact (runConfigs_outcome (fun c => hx c ab) cfgs).imp fun _ h => ⟨h.1, rfl, h.2⟩

/-! ## The states `NewHandler` and `ConfigChange` reach -/

section Reachable

variable (exec : Combined A → Bag → Except String (Option Output)) (methodmap : APIMethod → S)

/-- After at least one `ConfigChange`, every request gets a status, as `ExecuteOutcome` lists
it. -/
theorem execute_after_configChange (cfgs : List (Option (Runtime Bag S A)))
    (c : Option (Runtime Bag S A)) (hx : ∀ conf ab, exec conf ab ≠ .ok none)
    (tracker : Tracker Attrs Bag) (attrs : Attrs) (aspects : S) :
    ExecuteOutcome exec tracker attrs aspects c
      (((newHandler exec methodmap).configChanges (cfgs ++ [c])).execute tracker attrs aspects) := by
  have he : ((newHandler exec methodmap).configChanges (cfgs ++ [c])).aspectExecutor = exec :=
    configChanges_aspectExecutor _ _
  have := execute_outcome _ (configChanges_concat_cfg _ cfgs c) (he ▸ hx) tracker attrs aspects
  rwa [he] at this

/-- Over the reachable states, `execute` panics exactly when no `ConfigChange` has happened
and `StartRequest` succeeded. -/
theorem execute_panics_iff (cfgs : List (Option (Runtime Bag S A)))
    (hx : ∀ conf ab, exec conf ab ≠ .ok none) (tracker : Tracker Attrs Bag) (attrs : Attrs)
    (aspects : S) :
    (∃ p, (((newHandler exec methodmap).configChanges cfgs).execute tracker attrs aspects).result =
      .error p) ↔ cfgs = [] ∧ (tracker.startRequest attrs).isOk := by
  induction cfgs using List.reverseRecOn with
  | nil =>
    simp only [HandlerState.execute, HandlerState.configChanges, List.foldl_nil, newHandler,
      true_and]
    cases tracker.startRequest attrs <;> simp [Except.isOk, Except.toBool]
  | append_singleton cfgs c _ =>
    obtain ⟨st, hst, -⟩ := execute_outcome ((newHandler exec methodmap).configChanges (cfgs ++ [c]))
      (configChanges_concat_cfg _ cfgs c) (by rw [configChanges_aspectExecutor]; exact hx)
      tracker attrs aspects
    simp [hst]

end Reachable

/-- A sample executor whose every config returns `OK`. -/
def okExecutor : Combined Unit → Unit → Except String (Option Output) :=
  fun _ _ => .ok (some ⟨.ok⟩)

/-- A tracker whose `StartRequest` succeeds. -/
def okTracker : Tracker Unit Unit := ⟨fun _ => .ok ()⟩

theorem execute_after_configChange_ok :
    (∀ conf ab, okExecutor conf ab ≠ .ok none) ∧
      ExecuteOutcome okExecutor okTracker () () none
        (((newHandler okExecutor fun _ => ()).configChanges [none]).execute okTracker () ()) :=
  have hx : ∀ conf ab, okExecutor conf ab ≠ .ok none := fun _ _ => by simp [okExecutor]
  ⟨hx, execute_after_configChange okExecutor (fun _ => ()) [] none hx okTracker () ()⟩

theorem execute_panics_iff_ok :
    (∀ conf ab, okExecutor conf ab ≠ .ok none) ∧
      ((∃ p, (((newHandler okExecutor fun _ => ()).configChanges []).execute okTracker () ()).result =
        .error p) ↔ ([] : List (Option (Runtime Unit Unit Unit))) = [] ∧ (okTracker.startRequest ()).isOk) :=
  have hx : ∀ conf ab, okExecutor conf ab ≠ .ok none := fun _ _ => by simp [okExecutor]
  ⟨hx, execute_panics_iff okExecutor (fun _ => ()) [] hx okTracker () ()⟩

/-- The handler `NewHandler` returns, before any `ConfigChange`. -/
def unconfigured : HandlerState Unit Unit Unit := newHandler okExecutor fun _ => ()

/-- A handler that no `ConfigChange` has reached panics on a request whose `StartRequest`
succeeds, after one `EndRequest`, instead of answering `UNAVAILABLE`. -/
theorem execute_panics_before_configChange :
    (unconfigured.execute okTracker () ()).result = .error nilInterfaceConversion ∧
      (unconfigured.execute okTracker () ()).endRequests = 1 :=
  ⟨rfl, rfl⟩

end Mixer.Api
