import Mixer.Lists
import Mixer.Stackdriver.Record

/-!
# `Record` and `pushData` on one `sd`: no series lost or pushed twice

`src/adapter/stackdriver/stackdriver.go`. Any number of `Record` calls append their series
to `s.toSend`, and the ticker's daemon periodically runs `pushData`, which swaps `s.toSend`
for a fresh slice and hands the old one to `coalesce`. Both touch `s.toSend` only while
holding `s.m`.

The model is an interleaving transition system in the style of `Mixer.Api.Dispatcher`: one
record per `Record` call with a program counter, one program counter for the daemon, and a
`step` per action. Each read and each write of `s.toSend` is its own step, so the mutex, not
the model, is what keeps them apart. Three ghost logs record what the results below speak
of: each call's series in the order the calls took `s.m` (`acquired`), each batch `pushData`
took (`taken`), and each batch it passed to `coalesce` (`coalesced`).

`Inv` is preserved by every step (`step_inv`), so it holds in every reachable state. Its
accounting fields give `record_push_no_loss`: the batches taken, followed by `s.toSend`, are
exactly the acquired series, in order, once the call that holds the mutex (if any) has
appended. `FreshInv` adds that all those series have distinct `Metric` addresses, which
gives `pushData_merges_nothing`: `coalesce`, keying by pointer, never merges two series
`Record` built; it panics instead when one of their DELTA series has a nil timestamp.

Mirroring notes:
- A `Record` call's loop is thread-local and runs in one step (`Action.record`), which also
  takes its fresh addresses from the heap; a call that panics takes no step.
- The daemon is one goroutine (`for range ticker.C { s.pushData() }`), so `pushData` calls
  never overlap; `tick` is the ticker firing.
- Go's `append` may reuse the backing array of `s.toSend`, but `pushData` has replaced
  `s.toSend` by a fresh slice before it unlocks, so the batch it holds is never written to;
  slices are values here.
-/

namespace Mixer.Stackdriver

variable {F D : Type}

/-- Where a `Record` call is once its series are built: waiting for `s.m`, holding it before
reading `s.toSend`, holding it with the slice it read, holding it after writing
`append(s.toSend, data...)` back, or returned. -/
inductive RecordPc (F D : Type) where
  | lock
  | read
  | write (old : List (TimeSeries F D))
  | unlock
  | done

/-- Where the daemon is: between ticks, then through `pushData`: `s.m.Lock()`, the length
check, `s.m.Unlock()` on an empty buffer, `toSend := s.toSend`, `s.toSend = make(…)`,
`s.m.Unlock()`, and `coalesce` with the push. -/
inductive PushPc (F D : Type) where
  | idle
  | lock
  | check
  | unlockEmpty
  | take
  | reset (batch : List (TimeSeries F D))
  | unlock (batch : List (TimeSeries F D))
  | push (batch : List (TimeSeries F D))

/-- One `Record` call: the series it built and where it is. -/
structure RecordCall (F D : Type) where
  data : List (TimeSeries F D)
  pc : RecordPc F D

/-- `sd`'s shared state (`toSend`, whether `m` is locked), the goroutines, the heap's next
free address, and the ghost logs. -/
structure Sd (F D : Type) where
  toSend : List (TimeSeries F D)
  locked : Bool
  calls : List (RecordCall F D)
  pusher : PushPc F D
  heap : Nat
  acquired : List (List (TimeSeries F D))
  taken : List (List (TimeSeries F D))
  coalesced : List (List (TimeSeries F D))

/-- What can happen next: a new `Record` call, a step of call `k`, the ticker firing, or a
step of the daemon. -/
inductive Action (F : Type) where
  | record (vals : List (Value F))
  | stepRecord (k : Nat)
  | tick
  | stepPush

/-- A fresh `sd` whose heap's free addresses start at `heap`. -/
def Sd.init (heap : Nat) : Sd F D :=
  { toSend := [], locked := false, calls := [], pusher := .idle, heap := heap, acquired := [],
    taken := [], coalesced := [] }

/-- Replace call `k`. -/
def Sd.setCall (s : Sd F D) (k : Nat) (c : RecordCall F D) : Sd F D :=
  { s with calls := s.calls.set k c }

section
variable (s : Sd F D) (k : Nat) (c : RecordCall F D)
@[simp] theorem Sd.setCall_calls : (s.setCall k c).calls = s.calls.set k c := rfl
@[simp] theorem Sd.setCall_toSend : (s.setCall k c).toSend = s.toSend := rfl
@[simp] theorem Sd.setCall_locked : (s.setCall k c).locked = s.locked := rfl
@[simp] theorem Sd.setCall_pusher : (s.setCall k c).pusher = s.pusher := rfl
@[simp] theorem Sd.setCall_acquired : (s.setCall k c).acquired = s.acquired := rfl
@[simp] theorem Sd.setCall_taken : (s.setCall k c).taken = s.taken := rfl
@[simp] theorem Sd.setCall_coalesced : (s.setCall k c).coalesced = s.coalesced := rfl
end

/-- One step of `Record` call `k`, at `c`. -/
def recordStep (s : Sd F D) (k : Nat) (c : RecordCall F D) : Option (Sd F D) :=
  match c.pc with
  | .lock =>
    if s.locked then none
    else some { s.setCall k { c with pc := .read } with
      locked := true, acquired := s.acquired ++ [c.data] }
  | .read => some (s.setCall k { c with pc := .write s.toSend })
  | .write old => some { s.setCall k { c with pc := .unlock } with toSend := old ++ c.data }
  | .unlock => some { s.setCall k { c with pc := .done } with locked := false }
  | .done => none

/-- One step of the daemon. -/
def pushStep (s : Sd F D) : Option (Sd F D) :=
  match s.pusher with
  | .idle => none
  | .lock => if s.locked then none else some { s with locked := true, pusher := .check }
  | .check => some { s with pusher := if s.toSend.length = 0 then .unlockEmpty else .take }
  | .unlockEmpty => some { s with locked := false, pusher := .idle }
  | .take => some { s with pusher := .reset s.toSend }
  | .reset batch =>
    some { s with toSend := [], pusher := .unlock batch, taken := s.taken ++ [batch] }
  | .unlock batch => some { s with locked := false, pusher := .push batch }
  | .push batch => some { s with pusher := .idle, coalesced := s.coalesced ++ [batch] }

variable (sprint : GoValue F → String) (cfg : SdConfig)

/-- One step of the system. -/
def step (s : Sd F D) : Action F → Option (Sd F D)
  | .record vals => (buildSeries sprint cfg vals s.heap).map fun r =>
    { s with calls := s.calls ++ [⟨r.1, .lock⟩], heap := r.2 }
  | .stepRecord k => s.calls[k]?.bind (recordStep s k)
  | .tick => match s.pusher with
    | .idle => some { s with pusher := .lock }
    | _ => none
  | .stepPush => pushStep s

/-- The states a fresh `sd` reaches, under any interleaving. -/
inductive Reachable (heap : Nat) : Sd F D → Prop where
  | init : Reachable heap (Sd.init heap)
  | step {s s' : Sd F D} (a : Action F) : Reachable heap s → step sprint cfg s a = some s' →
      Reachable heap s'

/-- Run a list of actions; `none` if one cannot be taken. -/
def run (s : Sd F D) : List (Action F) → Option (Sd F D)
  | [] => some s
  | a :: as => (step sprint cfg s a).bind fun s' => run s' as

theorem run_reachable {heap : Nat} {s s' : Sd F D} :
    ∀ {as : List (Action F)}, Reachable sprint cfg heap s → run sprint cfg s as = some s' →
      Reachable sprint cfg heap s'
  | [], hs, h => by cases h; exact hs
  | a :: as, hs, h => by
    cases ha : step sprint cfg s a with
    | none => simp [run, ha] at h
    | some s₁ => exact run_reachable (.step a hs ha) (by simpa [run, ha] using h)

/-! ## The mutex and the accounting -/

/-- Between `s.m.Lock()` and `s.m.Unlock()`. -/
def RecordPc.holds : RecordPc F D → Bool
  | .lock => false
  | .read | .write _ | .unlock => true
  | .done => false

/-- Holding `s.m` with its series not yet in `s.toSend`. -/
def RecordPc.appending : RecordPc F D → Bool
  | .lock => false
  | .read | .write _ => true
  | .unlock | .done => false

theorem RecordPc.holds_of_appending {p : RecordPc F D} (h : p.appending) : p.holds := by
  cases p <;> simp_all [appending, holds]

/-- Between the daemon's `s.m.Lock()` and its `s.m.Unlock()`. -/
def PushPc.holds : PushPc F D → Bool
  | .idle | .lock => false
  | .check | .unlockEmpty | .take | .reset _ | .unlock _ => true
  | .push _ => false

/-- The batch the daemon has taken and not yet passed to `coalesce`. -/
def PushPc.batch? : PushPc F D → Option (List (TimeSeries F D))
  | .idle | .lock | .check | .unlockEmpty | .take | .reset _ => none
  | .unlock b | .push b => some b

/-- What keeps every series accounted for. The goroutines inside `s.m` are counted by it
(`mutex`); a slice read under the lock is still the current `s.toSend` when written back
(`snapshot`, `batch`); the batches taken, then `s.toSend`, then the series of a call that
has taken `s.m` but not yet appended, are the acquired series in order (`settled`,
`inFlight`); and `coalesce` has been given every batch taken but the one in the daemon's
hands (`coalesced`). -/
structure Inv (s : Sd F D) : Prop where
  mutex : s.calls.countP (·.pc.holds) + s.pusher.holds.toNat = s.locked.toNat
  snapshot : ∀ (k : Nat) (c : RecordCall F D), s.calls[k]? = some c →
    ∀ old, c.pc = .write old → old = s.toSend
  batch : ∀ b, s.pusher = .reset b → b = s.toSend
  settled : (∀ (k : Nat) (c : RecordCall F D), s.calls[k]? = some c → c.pc.appending = false) →
    s.taken.flatten ++ s.toSend = s.acquired.flatten
  inFlight : ∀ (k : Nat) (c : RecordCall F D), s.calls[k]? = some c → c.pc.appending →
    s.taken.flatten ++ s.toSend ++ c.data = s.acquired.flatten
  coalesced : s.taken = s.coalesced ++ s.pusher.batch?.toList

section Inv

variable {s s' : Sd F D} {k : Nat} {c : RecordCall F D}

/-- The holder of `s.m` is alone: a call inside it excludes the daemon and every other call. -/
theorem Inv.call_alone (hi : Inv s) (hk : s.calls[k]? = some c) (hc : c.pc.holds) :
    s.pusher.holds = false ∧
      ∀ (j : Nat) (c' : RecordCall F D), s.calls[j]? = some c' → j ≠ k → c'.pc.holds = false := by
  have h₁ := countP_pos_of_get (p := (·.pc.holds)) hk hc
  have h₂ := hi.mutex
  have h₃ := Bool.toNat_le s.locked
  refine ⟨?_, fun j c' hj hjk => ?_⟩
  · cases hp : s.pusher.holds
    · rfl
    · rw [hp, Bool.toNat_true] at h₂; omega
  by_contra hc'
  have := countP_ge_two (p := (·.pc.holds)) hj hk hjk (by simpa using hc') hc
  omega

/-- No call is inside `s.m` while the daemon is, or while `s.m` is free. -/
theorem Inv.calls_out (hi : Inv s) (h : s.pusher.holds = true ∨ s.locked = false) :
    ∀ (j : Nat) (c' : RecordCall F D), s.calls[j]? = some c' → c'.pc.holds = false := by
  intro j c' hj
  by_contra hc'
  have h₁ := countP_pos_of_get (p := (·.pc.holds)) hj (by simpa using hc')
  have h₂ := hi.mutex
  have h₃ := Bool.toNat_le s.locked
  rcases h with h | h
  · rw [h, Bool.toNat_true] at h₂; omega
  · rw [h, Bool.toNat_false] at h₂; omega

theorem Inv.appending_out (hi : Inv s) (h : s.pusher.holds = true ∨ s.locked = false) :
    ∀ (j : Nat) (c' : RecordCall F D), s.calls[j]? = some c' → c'.pc.appending = false := by
  intro j c' hj
  have := hi.calls_out h j c' hj
  by_contra hc
  simp [RecordPc.holds_of_appending (by simpa using hc)] at this

theorem Inv.pusher_out (hi : Inv s) (hl : s.locked = false) : s.pusher.holds = false := by
  have h := hi.mutex
  rw [hl, Bool.toNat_false] at h
  cases hp : s.pusher.holds
  · rfl
  · rw [hp, Bool.toNat_true] at h; omega

/-! ### One step of a `Record` call -/

theorem Inv.spawn (hi : Inv s) (data : List (TimeSeries F D)) (heap : Nat) :
    Inv { s with calls := s.calls ++ [⟨data, .lock⟩], heap := heap } where
  mutex := by simpa [List.countP_append, RecordPc.holds] using hi.mutex
  snapshot j c' h := by
    rcases getElem?_concat_cases h with h | ⟨-, rfl⟩
    · exact hi.snapshot j c' h
    · intro _ h; cases h
  batch := hi.batch
  settled h := hi.settled fun j c' hj => h j c' (getElem?_concat_of_some hj)
  inFlight j c' h := by
    rcases getElem?_concat_cases h with h | ⟨-, rfl⟩
    · exact hi.inFlight j c' h
    · intro h; cases h
  coalesced := hi.coalesced

/-- `s.m.Lock()` by a waiting call: it now holds the mutex, and its series join the
acquired ones. -/
theorem Inv.acquire (hi : Inv s) (hk : s.calls[k]? = some c) (hpc : c.pc = .lock)
    (hl : s.locked = false) :
    Inv { s.setCall k { c with pc := .read } with
      locked := true, acquired := s.acquired ++ [c.data] } where
  mutex := by
    have h₁ := countP_set (·.pc.holds) s.calls k { c with pc := .read } c hk
    have h₂ := hi.mutex
    simp only [hpc, hl, hi.pusher_out hl, RecordPc.holds, Bool.toNat_false, Bool.toNat_true,
      Sd.setCall_calls, Sd.setCall_pusher] at h₁ h₂ ⊢
    omega
  snapshot := forall_set (fun j c' hj _ => hi.snapshot j c' hj) (fun _ h => by cases h)
  batch := hi.batch
  settled h := by
    have := h k _ (List.getElem?_set_self (List.getElem?_eq_some_iff.mp hk).1)
    cases this
  inFlight := forall_set
    (fun j c' hj _ h => absurd h (by simp [hi.appending_out (.inr hl) j c' hj]))
    (fun _ => by simp [← hi.settled (hi.appending_out (.inr hl))])
  coalesced := hi.coalesced

/-- `toSend := s.toSend`, read under the mutex. -/
theorem Inv.read (hi : Inv s) (hk : s.calls[k]? = some c) (hpc : c.pc = .read) :
    Inv (s.setCall k { c with pc := .write s.toSend }) where
  mutex := by
    have h₁ := countP_set (·.pc.holds) s.calls k { c with pc := .write s.toSend } c hk
    have h₂ := hi.mutex
    simp only [hpc, RecordPc.holds, Sd.setCall_calls, Sd.setCall_pusher,
      Sd.setCall_locked] at h₁ h₂ ⊢
    omega
  snapshot := forall_set (fun j c' hj _ => hi.snapshot j c' hj)
    (fun _ h => by cases h; rfl)
  batch := hi.batch
  settled h := by
    have := h k _ (List.getElem?_set_self (List.getElem?_eq_some_iff.mp hk).1)
    cases this
  inFlight := forall_set (fun j c' hj _ => hi.inFlight j c' hj)
    (fun _ => hi.inFlight k c hk (by simp [hpc, RecordPc.appending]))
  coalesced := hi.coalesced

/-- `s.toSend = append(old, data...)`: the call's series reach `s.toSend`. -/
theorem Inv.write (hi : Inv s) (hk : s.calls[k]? = some c) {old : List (TimeSeries F D)}
    (hpc : c.pc = .write old) :
    Inv { s.setCall k { c with pc := .unlock } with toSend := old ++ c.data } where
  mutex := by
    have h₁ := countP_set (·.pc.holds) s.calls k { c with pc := .unlock } c hk
    have h₂ := hi.mutex
    simp only [hpc, RecordPc.holds, Sd.setCall_calls, Sd.setCall_pusher,
      Sd.setCall_locked] at h₁ h₂ ⊢
    omega
  snapshot := forall_set
    (fun j c' hj hjk old' h => absurd ((hi.call_alone hk (by simp [hpc, RecordPc.holds])).2 j c'
      hj hjk) (by simp [h, RecordPc.holds]))
    (fun _ h => by cases h)
  batch b hb := absurd (hi.call_alone hk (by simp [hpc, RecordPc.holds])).1
    (by simp [show s.pusher = .reset b from hb, PushPc.holds])
  settled _ := by
    simpa [hi.snapshot k c hk old hpc] using hi.inFlight k c hk (by simp [hpc, RecordPc.appending])
  inFlight := forall_set
    (fun j c' hj hjk h => absurd ((hi.call_alone hk (by simp [hpc, RecordPc.holds])).2 j c'
      hj hjk) (by simp [RecordPc.holds_of_appending h]))
    (fun h => by cases h)
  coalesced := hi.coalesced

/-- `s.m.Unlock()` by a call that has appended. -/
theorem Inv.release (hi : Inv s) (hk : s.calls[k]? = some c) (hpc : c.pc = .unlock) :
    Inv { s.setCall k { c with pc := .done } with locked := false } where
  mutex := by
    have h₁ := countP_set (·.pc.holds) s.calls k { c with pc := .done } c hk
    have h₂ := hi.mutex
    have h₃ := (hi.call_alone hk (by simp [hpc, RecordPc.holds])).1
    have h₄ := Bool.toNat_le s.locked
    simp only [hpc, h₃, RecordPc.holds, Sd.setCall_calls, Sd.setCall_pusher, Bool.toNat_false,
      Bool.toNat_true] at h₁ h₂ ⊢
    omega
  snapshot := forall_set (fun j c' hj _ => hi.snapshot j c' hj) (fun _ h => by cases h)
  batch := hi.batch
  settled h := hi.settled fun j c' hj => by
    by_cases hjk : j = k
    · subst hjk
      obtain rfl := Option.some.inj (hk.symm.trans hj)
      simp [hpc, RecordPc.appending]
    · exact h j c' (by simpa [List.getElem?_set, Ne.symm hjk] using hj)
  inFlight := forall_set (fun j c' hj _ => hi.inFlight j c' hj) (fun h => by cases h)
  coalesced := hi.coalesced

/-! ### One step of the daemon -/

/-- A daemon step that leaves the calls, `s.toSend` and the logs alone keeps `Inv` when it
keeps the count of holders and the daemon's own two fields. -/
theorem Inv.daemon (hi : Inv s) {p : PushPc F D} {l : Bool}
    (hm : s.calls.countP (·.pc.holds) + p.holds.toNat = l.toNat)
    (hb : ∀ b, p = .reset b → b = s.toSend) (hc : s.taken = s.coalesced ++ p.batch?.toList) :
    Inv { s with pusher := p, locked := l } :=
  ⟨hm, hi.snapshot, hb, hi.settled, hi.inFlight, hc⟩

/-- `s.toSend = make(…)`: the batch leaves `s.toSend` for the daemon's hands. -/
theorem Inv.reset (hi : Inv s) {b : List (TimeSeries F D)} (hp : s.pusher = .reset b) :
    Inv { s with toSend := [], pusher := .unlock b, taken := s.taken ++ [b] } where
  mutex := by simpa [hp, PushPc.holds] using hi.mutex
  snapshot j c' hj old h := absurd (hi.calls_out (.inl (by simp [hp, PushPc.holds])) j c' hj)
    (by simp [h, RecordPc.holds])
  batch _ h := by cases h
  settled _ := by
    simpa [hi.batch b hp] using hi.settled (hi.appending_out (.inl (by simp [hp, PushPc.holds])))
  inFlight j c' hj h := absurd (hi.appending_out (.inl (by simp [hp, PushPc.holds])) j c' hj)
    (by simp [h])
  coalesced := by simpa [hp, PushPc.batch?] using hi.coalesced

theorem Inv.daemon_step (hi : Inv s) (h : pushStep s = some s') : Inv s' := by
  have hm := hi.mutex
  have hl := Bool.toNat_le s.locked
  cases hp : s.pusher with
  | idle => unfold pushStep at h; simp [hp] at h
  | lock =>
    unfold pushStep at h; simp only [hp] at h
    split at h
    · cases h
    · next hlk =>
      cases h
      refine hi.daemon ?_ (fun _ h => by cases h) (by simpa [hp, PushPc.batch?] using hi.coalesced)
      simp_all [PushPc.holds]
  | check =>
    unfold pushStep at h; simp only [hp, Option.some.injEq] at h
    subst h
    refine hi.daemon ?_ (fun _ h => by split at h <;> cases h) ?_
    · split <;> simpa [hp, PushPc.holds] using hm
    · split <;> simpa [hp, PushPc.batch?] using hi.coalesced
  | unlockEmpty =>
    unfold pushStep at h; simp only [hp, Option.some.injEq] at h
    subst h
    refine hi.daemon ?_ (fun _ h => by cases h) (by simpa [hp, PushPc.batch?] using hi.coalesced)
    simp only [hp, PushPc.holds, Bool.toNat_true, Bool.toNat_false] at hm ⊢
    omega
  | take =>
    unfold pushStep at h; simp only [hp, Option.some.injEq] at h
    subst h
    exact hi.daemon (by simpa [hp, PushPc.holds] using hm) (fun _ h => by cases h; rfl)
      (by simpa [hp, PushPc.batch?] using hi.coalesced)
  | reset b =>
    unfold pushStep at h; simp only [hp, Option.some.injEq] at h
    subst h
    exact hi.reset hp
  | unlock b =>
    unfold pushStep at h; simp only [hp, Option.some.injEq] at h
    subst h
    refine hi.daemon ?_ (fun _ h => by cases h) (by simpa [hp, PushPc.batch?] using hi.coalesced)
    simp only [hp, PushPc.holds, Bool.toNat_true, Bool.toNat_false] at hm ⊢
    omega
  | push b =>
    unfold pushStep at h; simp only [hp, Option.some.injEq] at h
    subst h
    exact ⟨by simpa [hp, PushPc.holds] using hm, hi.snapshot, fun _ h => (by cases h),
      hi.settled, hi.inFlight, by simpa [hp, PushPc.batch?] using hi.coalesced⟩

/-! ### Every step -/

theorem Inv.call_step (hi : Inv s) (hk : s.calls[k]? = some c) (h : recordStep s k c = some s') :
    Inv s' := by
  unfold recordStep at h
  cases hpc : c.pc with
  | lock =>
    simp only [hpc] at h
    split at h
    · cases h
    · next hl => cases h; exact hi.acquire hk hpc (by simpa using hl)
  | read => simp only [hpc, Option.some.injEq] at h; subst h; exact hi.read hk hpc
  | write old => simp only [hpc, Option.some.injEq] at h; subst h; exact hi.write hk hpc
  | unlock => simp only [hpc, Option.some.injEq] at h; subst h; exact hi.release hk hpc
  | done => simp [hpc] at h

theorem Inv.init (heap : Nat) : Inv (Sd.init heap : Sd F D) :=
  ⟨rfl, by simp [Sd.init], fun _ h => (by cases h), fun _ => rfl, by simp [Sd.init], rfl⟩

theorem step_inv (hi : Inv s) {a : Action F} (h : step sprint cfg s a = some s') : Inv s' := by
  cases a with
  | record vals =>
    obtain ⟨r, -, rfl⟩ := Option.map_eq_some'.mp h
    exact hi.spawn r.1 r.2
  | stepRecord k =>
    obtain ⟨c, hk, h⟩ := Option.bind_eq_some.mp h
    exact hi.call_step hk h
  | tick =>
    cases hp : s.pusher <;> simp only [step, hp] at h <;> cases h
    exact hi.daemon (by simpa [hp, PushPc.holds] using hi.mutex) (fun _ h => by cases h)
      (by simpa [hp, PushPc.batch?] using hi.coalesced)
  | stepPush => exact hi.daemon_step h

theorem reachable_inv {heap : Nat} (hs : Reachable sprint cfg heap s) : Inv s := by
  induction hs with
  | init => exact .init heap
  | step a _ h ih => exact step_inv sprint cfg ih h

/-- The taken batches are always a prefix of the acquired series. -/
theorem Inv.taken_initial (hi : Inv s) : s.taken.flatten <+: s.acquired.flatten := by
  by_cases h : ∃ (k : Nat) (c : RecordCall F D), s.calls[k]? = some c ∧ c.pc.appending
  · obtain ⟨k, c, hk, hc⟩ := h
    rw [← hi.inFlight k c hk hc, List.append_assoc]
    exact List.prefix_append _ _
  · push_neg at h
    rw [← hi.settled fun k c hk => by simpa using h k c hk]
    exact List.prefix_append _ _

end Inv

/-! ## No series lost or pushed twice -/

section Run

variable {s : Sd F D} {heap : Nat}

/-- Under any interleaving of `Record` calls with the daemon, no series is lost or pushed
twice. While `s.m` is free, the batches `pushData` took, followed by `s.toSend`, are the
series of the `Record` calls in the order the calls took `s.m`; while a call holds it before
appending, they are that concatenation less the call's own series, which come last. Every
batch taken has been passed to `coalesce`, but the one the daemon holds between its
`Unlock` and its push. -/
theorem record_push_no_loss (hs : Reachable sprint cfg heap s) :
    (s.locked = false → s.taken.flatten ++ s.toSend = s.acquired.flatten) ∧
    (∀ (k : Nat) (c : RecordCall F D), s.calls[k]? = some c → c.pc.appending →
      s.taken.flatten ++ s.toSend ++ c.data = s.acquired.flatten) ∧
    s.taken = s.coalesced ++ s.pusher.batch?.toList := by
  have hi := reachable_inv sprint cfg hs
  exact ⟨fun hl => hi.settled (hi.appending_out (.inr hl)), hi.inFlight, hi.coalesced⟩

/-- Two `Record` calls, the second taking `s.m` first, and one push in between. -/
def sampleActions : List (Action Float) :=
  [.record [countValue 0 10], .record [countValue 5 15], .stepRecord 1, .stepRecord 1,
   .stepRecord 1, .stepRecord 1, .tick, .stepPush, .stepPush, .stepPush, .stepPush, .stepPush,
   .stepPush, .stepRecord 0, .stepRecord 0, .stepRecord 0, .stepRecord 0]

theorem record_push_no_loss_sample : ∃ s : Sd Float Unit,
    Reachable (fun _ => "a") countCfg 0 s ∧ s.taken.length = 1 ∧ s.toSend.length = 1 ∧
    ((s.locked = false → s.taken.flatten ++ s.toSend = s.acquired.flatten) ∧
    (∀ (k : Nat) (c : RecordCall Float Unit), s.calls[k]? = some c → c.pc.appending →
      s.taken.flatten ++ s.toSend ++ c.data = s.acquired.flatten) ∧
    s.taken = s.coalesced ++ s.pusher.batch?.toList) := by
  obtain ⟨s, hrun, h₁, h₂⟩ : ∃ s : Sd Float Unit, run (fun _ => "a") countCfg (Sd.init 0)
      sampleActions = some s ∧ s.taken.length = 1 ∧ s.toSend.length = 1 := ⟨_, rfl, rfl, rfl⟩
  have hs := run_reachable (fun _ => "a") countCfg .init hrun
  exact ⟨s, hs, h₁, h₂, record_push_no_loss (fun _ => "a") countCfg hs⟩

end Run

/-! ## Fresh pointers: `pushData` never merges -/

/-- The daemon touches neither the calls, nor the acquired series, nor the heap. -/
theorem pushStep_frame {s s' : Sd F D} (h : pushStep s = some s') :
    s'.calls = s.calls ∧ s'.acquired = s.acquired ∧ s'.heap = s.heap := by
  unfold pushStep at h
  split at h <;> (try split at h) <;> cases h <;> exact ⟨rfl, rfl, rfl⟩

/-- The series of a call still waiting for `s.m`. -/
def RecordCall.waiting (c : RecordCall F D) : List (TimeSeries F D) :=
  match c.pc with
  | .lock => c.data
  | _ => []

/-- The `Metric` addresses of every series acquired or still waiting. -/
def Sd.addrs (s : Sd F D) : List Nat :=
  (s.acquired.flatten ++ s.calls.flatMap RecordCall.waiting).map (·.metric.addr)

/-- Every series built so far has its own `Metric`, below the heap's next free address. -/
structure FreshInv (s : Sd F D) : Prop where
  nodup : s.addrs.Nodup
  below : ∀ a ∈ s.addrs, a < s.heap

section Fresh

variable {s s' : Sd F D} {k : Nat} {c : RecordCall F D}

theorem FreshInv.of_perm (hf : FreshInv s) (hp : s'.addrs.Perm s.addrs) (hh : s'.heap = s.heap) :
    FreshInv s' :=
  ⟨hp.nodup_iff.mpr hf.nodup, fun a ha => hh ▸ hf.below a (hp.subset ha)⟩

/-- Replacing a call that is not waiting by one that is not either keeps the addresses. -/
theorem addrs_set (hk : s.calls[k]? = some c) (c' : RecordCall F D) (hc : c.waiting = [])
    (hc' : c'.waiting = []) (s'' : Sd F D) (hcalls : s''.calls = s.calls.set k c')
    (hacq : s''.acquired = s.acquired) : s''.addrs.Perm s.addrs := by
  have := flatMap_set_perm RecordCall.waiting s.calls k c' c hk
  rw [hc, hc', List.append_nil, List.append_nil] at this
  unfold Sd.addrs
  rw [hcalls, hacq]
  exact (this.append_left _).map _

/-- A step that leaves the calls, the acquired series and the heap alone keeps `FreshInv`. -/
theorem FreshInv.of_frame (hf : FreshInv s) (hc : s'.calls = s.calls)
    (ha : s'.acquired = s.acquired) (hh : s'.heap = s.heap) : FreshInv s' := by
  refine hf.of_perm ?_ hh
  unfold Sd.addrs
  rw [hc, ha]

theorem FreshInv.call_step (hf : FreshInv s) (hk : s.calls[k]? = some c)
    (h : recordStep s k c = some s') : FreshInv s' := by
  unfold recordStep at h
  cases hpc : c.pc with
  | lock =>
    simp only [hpc] at h
    split at h
    · cases h
    · cases h
      refine hf.of_perm ?_ rfl
      have := flatMap_set_perm RecordCall.waiting s.calls k { c with pc := .read } c hk
      have hw : c.waiting = c.data := by simp [RecordCall.waiting, hpc]
      rw [hw, show ({ c with pc := .read } : RecordCall F D).waiting = [] from rfl,
        List.append_nil] at this
      unfold Sd.addrs
      refine List.Perm.map _ ?_
      simp only [Sd.setCall_calls, Sd.setCall_acquired, List.flatten_append,
        List.flatten_singleton, List.append_assoc]
      exact (List.perm_append_comm.append_left _).trans (this.append_left _)
  | read | write _ | unlock =>
    simp only [hpc, Option.some.injEq] at h
    subst h
    exact hf.of_perm (addrs_set hk _ (by simp [RecordCall.waiting, hpc])
      (by simp [RecordCall.waiting]) _ rfl rfl) rfl
  | done => simp [hpc] at h

theorem FreshInv.spawn (hf : FreshInv s) {data : List (TimeSeries F D)} {heap : Nat}
    (hle : s.heap ≤ heap) (hd : Fresh s.heap heap data) :
    FreshInv { s with calls := s.calls ++ [⟨data, .lock⟩], heap := heap } := by
  have ha : Sd.addrs { s with calls := s.calls ++ [⟨data, .lock⟩], heap := heap } =
      s.addrs ++ data.map (·.metric.addr) := by
    simp [Sd.addrs, RecordCall.waiting]
  constructor <;> rw [ha]
  · refine List.nodup_append.mpr ⟨hf.nodup, hd.1, fun a ha hb => ?_⟩
    obtain ⟨t, ht, hta⟩ := List.mem_map.mp hb
    have := hf.below a ha
    have := (hd.2 t ht).1
    omega
  · intro a ha
    rcases List.mem_append.mp ha with ha | ha
    · exact lt_of_lt_of_le (hf.below a ha) hle
    · obtain ⟨t, ht, rfl⟩ := List.mem_map.mp ha
      exact (hd.2 t ht).2

theorem fresh_step (hf : FreshInv s) {a : Action F} (h : step sprint cfg s a = some s') :
    FreshInv s' := by
  cases a with
  | record vals =>
    obtain ⟨r, hr, rfl⟩ := Option.map_eq_some'.mp h
    obtain ⟨-, hle, hd⟩ := buildSeries_some hr
    exact hf.spawn hle hd
  | stepRecord k =>
    obtain ⟨c, hk, h⟩ := Option.bind_eq_some.mp h
    exact hf.call_step hk h
  | tick =>
    cases hp : s.pusher <;> simp only [step, hp] at h <;> cases h
    exact hf.of_frame rfl rfl rfl
  | stepPush =>
    obtain ⟨hc, ha, hh⟩ := pushStep_frame h
    exact hf.of_frame hc ha hh

theorem reachable_fresh {heap : Nat} (hs : Reachable sprint cfg heap s) : FreshInv s := by
  induction hs with
  | init => exact ⟨by simp [Sd.addrs, Sd.init], by simp [Sd.addrs, Sd.init]⟩
  | step a _ h ih => exact fresh_step sprint cfg ih h

/-- Every batch `pushData` takes is coalesced without a single merge, or makes `coalesce`
panic. It panics exactly when one of its DELTA series has a nil timestamp, which `Record`
stores for a time `TimestampProto` refuses. Otherwise the series `Record` builds never share
a `Metric` pointer, and `coalesce` groups by pointer, so each DELTA series is its own group
and is only re-kinded (and its end moved within its start's microsecond). -/
theorem pushData_merges_nothing [Add F] {heap : Nat} (hs : Reachable sprint cfg heap s)
    (sched : Sched F D) :
    ∀ b ∈ s.taken, (coalesce sched b = none ↔
        ∃ ts ∈ b, ts.metricKind = .delta ∧ (ts.startTime = none ∨ ts.endTime = none)) ∧
      ∀ out, coalesce sched b = some out → ∃ ds : List (Stamped F D),
        ds.map Stamped.toSeries = b.filter (·.metricKind = .delta) ∧
        out.Perm (b.filter (·.metricKind ≠ .delta) ++ (ds.map prepare).map Stamped.toSeries) := by
  intro b hb
  refine ⟨coalesce_eq_none_iff sched b, fun out h => ?_⟩
  obtain ⟨ds, hds, rfl⟩ := coalesce_eq_some_iff.mp h
  have hn : (s.acquired.flatten.map (·.metric.addr)).Nodup := by
    have := (reachable_fresh sprint cfg hs).nodup
    rw [Sd.addrs, List.map_append] at this
    exact this.sublist (List.sublist_append_left _ _)
  have hsub : b.Sublist s.acquired.flatten :=
    (List.sublist_flatten_of_mem hb).trans (reachable_inv sprint cfg hs).taken_initial.sublist
  have hd : ((b.filter (·.metricKind = .delta)).map (·.metric.addr)).Nodup :=
    hn.sublist ((List.filter_sublist _).trans hsub |>.map _)
  have hk : (ds.map (·.key)).Nodup := by
    rw [← hds, List.map_map] at hd
    exact List.Nodup.of_map Prod.fst (by simpa [List.map_map, Function.comp_def, Stamped.key] using hd)
  exact ⟨ds, hds, ((coalesceDeltas_distinct_keys sched ds hk).map _).append_left _⟩

theorem pushData_merges_nothing_sample : ∃ s : Sd Float Unit,
    Reachable (fun _ => "a") countCfg 0 s ∧ s.taken.length = 1 ∧
    ∀ (sched : Sched Float Unit), ∀ b ∈ s.taken, (coalesce sched b = none ↔
        ∃ ts ∈ b, ts.metricKind = .delta ∧ (ts.startTime = none ∨ ts.endTime = none)) ∧
      ∀ out, coalesce sched b = some out → ∃ ds : List (Stamped Float Unit),
        ds.map Stamped.toSeries = b.filter (·.metricKind = .delta) ∧
        out.Perm (b.filter (·.metricKind ≠ .delta) ++ (ds.map prepare).map Stamped.toSeries) := by
  obtain ⟨s, hrun, h₁⟩ : ∃ s : Sd Float Unit, run (fun _ => "a") countCfg (Sd.init 0)
      sampleActions = some s ∧ s.taken.length = 1 := ⟨_, rfl, rfl⟩
  have hs := run_reachable (fun _ => "a") countCfg .init hrun
  exact ⟨s, hs, h₁, pushData_merges_nothing (fun _ => "a") countCfg hs⟩

end Fresh

end Mixer.Stackdriver
