import Mixer.Api.Dispatcher
import Mixer.Lists

/-!
# Draining: the trackers close only after every work item has finished

The control half of `dispatcher`'s correctness. `Inv` ties the Go state to the slots'
program counters: the WaitGroup's counter is the number of slots between `wg.Add(1)`
and `wg.Done()` (`SlotPc.inGroup`), `sendLock` is held exactly when one slot is inside
a critical section (`SlotPc.holdsLock`), the reader is `serving` exactly when one slot is
in its hands (`SlotPc.withReader`), and every slot's bag-release counts are fixed by its
program counter (`SlotOk`).

Each action preserves `Inv` (`step_inv`), so every reachable state satisfies it
(`reachable_inv`). The payoff is `trackers_done_after_drain`: the deferred
`respTracker.Done()` and `reqTracker.Done()` run only when the counter is zero, every
scheduled item has finished and released each of its two bags exactly once, and every
rejected request has been answered. It rests on `wg.Add(1)` preceding `ScheduleWork`
(an `added` slot is already counted) and on the bags' `Done()` calls preceding
`wg.Done()` in the work item.
-/

namespace Mixer.Api

namespace SlotPc

/-- Inside a `sendLock` critical section. -/
def holdsLock : SlotPc → Bool
  | .rejectSending | .rejectSent | .locked | .applied | .sent => true
  | _ => false

/-- Counted by the WaitGroup: `wg.Add(1)` done, `wg.Done()` not yet. -/
def inGroup : SlotPc → Bool
  | .added | .queued | .started | .worked | .locked | .applied | .sent | .unlocked
  | .requestReleased | .responseReleased => true
  | _ => false

/-- Still in the reader's hands. -/
def withReader : SlotPc → Bool
  | .rejected | .rejectSending | .rejectSent | .accepted | .added => true
  | _ => false

/-- On the reader's invalid-attribute path. -/
def rejecting : SlotPc → Bool
  | .rejected | .rejectSending | .rejectSent | .rejectDone => true
  | _ => false

/-- `requestBag.Done()` calls made by a slot at this point. -/
def requestReleases : SlotPc → Nat
  | .requestReleased | .responseReleased | .finished => 1
  | _ => 0

/-- `responseBag.Done()` calls made by a slot at this point. -/
def responseReleases : SlotPc → Nat
  | .responseReleased | .finished => 1
  | _ => 0

/-- Responses a slot at this point has sent. -/
def sends : SlotPc → Nat
  | .rejectSent | .rejectDone | .sent | .unlocked | .requestReleased | .responseReleased
  | .finished => 1
  | _ => 0

/-- The program counter after one `advance`. -/
def next : SlotPc → SlotPc
  | .rejected => .rejectSending
  | .rejectSending => .rejectSent
  | .rejectSent => .rejectDone
  | .accepted => .added
  | .added => .queued
  | .queued => .started
  | .worked => .locked
  | .locked => .applied
  | .applied => .sent
  | .sent => .unlocked
  | .unlocked => .requestReleased
  | .requestReleased => .responseReleased
  | .responseReleased => .finished
  | p => p

/-- Out of the reader's hands and not counted by the WaitGroup: answered and done. -/
theorem done_of {p : SlotPc} (hg : p.inGroup = false) (hr : p.withReader = false) :
    p = .rejectDone ∨ p = .finished := by
  cases p <;> simp_all [inGroup, withReader]

end SlotPc

theorem SlotPc.sends_le_one (p : SlotPc) : p.sends ≤ 1 := by
  cases p <;> decide

theorem SlotPc.rejecting_next (p : SlotPc) : p.next.rejecting = p.rejecting := by
  cases p <;> rfl

/-- The reader has returned from the deferred `wg.Wait()`. -/
def ReaderPc.pastWait : ReaderPc → Bool
  | .closingResp | .closingReq | .returned => true
  | _ => false

variable {Req Resp Out α β τ σ : Type}

/-- The event is a response sent for request `k`. -/
def Event.answers (k : Nat) : Event Resp α β → Bool
  | .send j _ | .sendInvalid j _ => j == k
  | .applyBag .. => false

@[simp] theorem Event.answers_send (j k : Nat) (r : Resp) :
    (Event.send j r : Event Resp α β).answers k = (j == k) := rfl

@[simp] theorem Event.answers_sendInvalid (j k : Nat) (r : Resp) :
    (Event.sendInvalid j r : Event Resp α β).answers k = (j == k) := rfl

@[simp] theorem Event.answers_applyBag (j k : Nat) (b : β) (d : α) :
    (Event.applyBag j b d : Event Resp α β).answers k = false := rfl

/-- What each slot keeps: its bag-release counts, and which path it is on. -/
structure SlotOk (sl : Slot Req Resp β) : Prop where
  requestDones : sl.requestBagDones = sl.pc.requestReleases
  responseDones : sl.responseBagDones = sl.pc.responseReleases
  path : sl.requestBag = none ↔ sl.pc.rejecting = true

/-- The control invariant of a `dispatcher` call on a stream carrying `input`. -/
structure Inv (input : List Req) (s : Sys Req Resp α β τ σ) : Prop where
  received : s.slots.map Slot.request ++ s.input = input
  wg : s.wg = s.slots.countP (·.pc.inGroup)
  lock : s.slots.countP (·.pc.holdsLock) = s.locked.toNat
  reader : s.slots.countP (·.pc.withReader) = if s.reader = .serving then 1 else 0
  drained : s.reader.pastWait → ∀ sl ∈ s.slots, sl.pc = .rejectDone ∨ sl.pc = .finished
  exhausted : s.reader ≠ .reading → s.reader ≠ .serving → s.input = []
  respDones : s.respTrackerDones = if s.reader = .closingReq ∨ s.reader = .returned then 1 else 0
  reqDones : s.reqTrackerDones = if s.reader = .returned then 1 else 0
  slots : ∀ sl ∈ s.slots, SlotOk sl
  answers : ∀ k, s.log.countP (·.answers k) = (s.slots[k]?.map (·.pc.sends)).getD 0

/-! ## One action -/

section Step

variable {m : Method Req Resp Out α} {lib : AttributeLib α β τ σ}
variable {s s' : Sys Req Resp α β τ σ} {k : Nat} {sl : Slot Req Resp β}

/-- What one `advance` of a slot does, counter by counter. The three hypotheses are the
parts of `Inv` the step relies on: a counted slot makes the counter positive, a slot in a
critical section holds the lock, a slot in the reader's hands has the reader serving. -/
theorem advanceStep_spec (h : advanceStep m lib s k sl = some s')
    (hg : sl.pc.inGroup = true → 0 < s.wg) (hl : sl.pc.holdsLock = true → s.locked = true)
    (hr : sl.pc.withReader = true → s.reader = .serving) :
    ∃ sl', s'.slots = s.slots.set k sl' ∧ sl'.pc = sl.pc.next ∧ sl'.request = sl.request ∧
      sl'.requestBag = sl.requestBag ∧
      sl'.requestBagDones + sl.pc.requestReleases = sl.requestBagDones + sl.pc.next.requestReleases ∧
      sl'.responseBagDones + sl.pc.responseReleases =
        sl.responseBagDones + sl.pc.next.responseReleases ∧ s'.input = s.input ∧
      (∃ es, s'.log = s.log ++ es ∧ ∀ j, es.countP (·.answers j) + (if k = j then sl.pc.sends else 0) =
        if k = j then sl.pc.next.sends else 0) ∧
      s'.reqTrackerDones = s.reqTrackerDones ∧ s'.respTrackerDones = s.respTrackerDones ∧
      s'.wg + (sl.pc.inGroup).toNat = s.wg + (sl.pc.next.inGroup).toNat ∧
      s'.locked.toNat + (sl.pc.holdsLock).toNat = s.locked.toNat + (sl.pc.next.holdsLock).toNat ∧
      (if s'.reader = .serving then 1 else 0) + (sl.pc.withReader).toNat =
        (if s.reader = .serving then 1 else 0) + (sl.pc.next.withReader).toNat ∧
      (s'.reader = s.reader ∨ s.reader = .serving ∧ s'.reader = .reading) := by
  unfold advanceStep at h
  cases hpc : sl.pc <;>
    simp only [hpc, Option.ite_none_left_eq_some, Option.some.injEq, reduceCtorEq] at h hg hl hr <;>
    try obtain ⟨hlk, rfl⟩ := h
  all_goals refine ⟨_, rfl, ?_⟩
  all_goals simp_all [Sys.setSlot, SlotPc.next, SlotPc.inGroup, SlotPc.holdsLock,
    SlotPc.withReader, SlotPc.requestReleases, SlotPc.responseReleases, SlotPc.sends,
    List.countP_cons, beq_iff_eq]
  all_goals omega

theorem SlotOk.advance {sl' : Slot Req Resp β} (h : SlotOk sl) (hpc : sl'.pc = sl.pc.next)
    (hb : sl'.requestBag = sl.requestBag)
    (hq : sl'.requestBagDones + sl.pc.requestReleases =
      sl.requestBagDones + sl.pc.next.requestReleases)
    (hp : sl'.responseBagDones + sl.pc.responseReleases =
      sl.responseBagDones + sl.pc.next.responseReleases) : SlotOk sl' where
  requestDones := by have := h.requestDones; rw [hpc]; omega
  responseDones := by have := h.responseDones; rw [hpc]; omega
  path := by rw [hb, hpc, SlotPc.rejecting_next]; exact h.path

theorem map_set_of_get {γ δ : Type} (f : γ → δ) {l : List γ} {k : Nat} {a b : γ}
    (h : l[k]? = some b) (hf : f a = f b) : (l.set k a).map f = l.map f := by
  rw [List.map_set, hf]
  apply List.ext_getElem?
  intro i
  rw [List.getElem?_set, List.getElem?_map, List.length_map]
  have hk : k < l.length := (List.getElem?_eq_some_iff.mp h).1
  split
  · subst_vars; simp [h, hk]
  · rfl

theorem getD_map_set {γ : Type} (f : γ → Nat) {l : List γ} {k j : Nat} {a b : γ}
    (h : l[k]? = some b) :
    ((l.set k a)[j]?.map f).getD 0 = if k = j then f a else (l[j]?.map f).getD 0 := by
  rw [List.getElem?_set]
  have hk : k < l.length := (List.getElem?_eq_some_iff.mp h).1
  split <;> simp_all

/-- A slot that is done has no `advance` left. -/
theorem advanceStep_done (h : sl.pc = .rejectDone ∨ sl.pc = .finished) :
    advanceStep m lib s k sl = none := by
  unfold advanceStep
  rcases h with h | h <;> rw [h]

theorem Inv.advance {input : List Req} (hi : Inv input s) (hk : s.slots[k]? = some sl)
    (h : advanceStep m lib s k sl = some s') : Inv input s' := by
  have hmem : sl ∈ s.slots := List.mem_iff_getElem?.mpr ⟨k, hk⟩
  obtain ⟨sl', hsl, hpc, hreq, hb, hq, hp, hin, ⟨es, hlog, hes⟩, hrd, hsd, hwg, hlk, hrdr, hrr⟩ :=
    advanceStep_spec h
      (fun hg => hi.wg ▸ countP_pos_of_get hk hg)
      (fun hl => by
        have h1 := countP_pos_of_get (p := (·.pc.holdsLock)) hk hl
        rw [hi.lock] at h1
        cases hb : s.locked <;> simp_all)
      (fun hr => by
        have h1 := countP_pos_of_get (p := (·.pc.withReader)) hk hr
        rw [hi.reader] at h1
        split at h1 <;> simp_all)
  have hg := countP_set (·.pc.inGroup) s.slots k sl' sl hk
  have hl := countP_set (·.pc.holdsLock) s.slots k sl' sl hk
  have hr := countP_set (·.pc.withReader) s.slots k sl' sl hk
  have hdone : ¬ s.reader.pastWait := fun hw => by
    rw [advanceStep_done (hi.drained hw sl hmem)] at h; cases h
  simp only [hpc] at hg hl hr
  refine ⟨?_, ?_, ?_, ?_, ?_, ?_, ?_, ?_, ?_, ?_⟩
  · rw [hsl, map_set_of_get _ hk hreq, hin]; exact hi.received
  · have := hi.wg; rw [hsl]; omega
  · have := hi.lock; rw [hsl]; omega
  · have := hi.reader; rw [hsl]; omega
  · rcases hrr with hrr | ⟨-, hrr⟩ <;> rw [hrr] <;> simp_all [ReaderPc.pastWait]
  · rcases hrr with hrr | ⟨-, hrr⟩ <;> rw [hrr, hin]
    · exact hi.exhausted
    · simp
  · rcases hrr with hrr | ⟨hs, hrr⟩ <;> rw [hsd, hrr]
    · exact hi.respDones
    · simpa [hs] using hi.respDones
  · rcases hrr with hrr | ⟨hs, hrr⟩ <;> rw [hrd, hrr]
    · exact hi.reqDones
    · simpa [hs] using hi.reqDones
  · intro x hx
    rw [hsl] at hx
    rcases mem_set_of_mem hx with hx | rfl
    · exact hi.slots x hx
    · exact (hi.slots sl hmem).advance hpc hb hq hp
  · intro j
    rw [hlog, List.countP_append, hsl, getD_map_set _ hk, hi.answers j]
    have := hes j
    split
    · simp_all; omega
    · simp_all

theorem recvStep_nil (h : s.input = []) : recvStep m lib s = { s with reader := .draining } := by
  unfold recvStep; rw [h]

theorem recvStep_error {req : Req} {rest : List Req} {err : String} (h : s.input = req :: rest)
    (he : lib.applyProto s.reqTracker (m.requestAttrs req) = .error err) :
    recvStep m lib s =
      { s with
        input := rest
        reader := .serving
        slots := s.slots ++ [{ request := req, requestBag := none, responseBag := lib.emptyBag,
                               pc := .rejected,
                               response := m.setResult m.newResponse (invalidAttributeStatus err) }] } := by
  unfold recvStep; rw [h]; simp only [he]

theorem recvStep_ok {req : Req} {rest : List Req} {t : τ} {bag : β} (h : s.input = req :: rest)
    (he : lib.applyProto s.reqTracker (m.requestAttrs req) = .ok (t, bag)) :
    recvStep m lib s =
      { s with
        input := rest
        reader := .serving
        reqTracker := t
        slots := s.slots ++ [{ request := req, requestBag := some bag, responseBag := lib.emptyBag,
                               pc := .accepted, response := m.newResponse }] } := by
  unfold recvStep; rw [h]; simp only [he]

/-- Reading one request keeps `Inv`: the new slot is in the reader's hands, has sent
nothing and released nothing. -/
theorem Inv.push {input rest : List Req} {t : τ} (hi : Inv input s) (hr : s.reader = .reading)
    (hin : s.input = sl.request :: rest) (hw : sl.pc.withReader = true)
    (hg : sl.pc.inGroup = false) (hl : sl.pc.holdsLock = false) (hs : sl.pc.sends = 0)
    (hok : SlotOk sl) :
    Inv input { s with input := rest, reader := .serving, reqTracker := t, slots := s.slots ++ [sl] } := by
  have hw0 : s.slots.countP (·.pc.withReader) = 0 := by rw [hi.reader, hr]; rfl
  refine ⟨?_, ?_, ?_, ?_, ?_, ?_, ?_, ?_, ?_, ?_⟩
  · simpa [hin] using hi.received
  · simpa [hg] using hi.wg
  · simpa [hl] using hi.lock
  · simpa [hw] using hw0
  · simp [ReaderPc.pastWait]
  · simp
  · simpa [hr] using hi.respDones
  · simpa [hr] using hi.reqDones
  · simp only [List.mem_append, List.mem_singleton]
    rintro x (hx | rfl)
    · exact hi.slots x hx
    · exact hok
  · intro j
    rw [hi.answers j, List.getElem?_append]
    split
    · rfl
    · have h1 : s.slots[j]? = none := List.getElem?_eq_none (by omega)
      rcases Nat.lt_or_ge j (s.slots.length + 1) with hj | hj
      · obtain rfl : j = s.slots.length := by omega
        simp [h1, hs]
      · have h2 : [sl][j - s.slots.length]? = none := List.getElem?_eq_none (by simp; omega)
        simp [h1, h2]

theorem Inv.recv {input : List Req} (hi : Inv input s) (hr : s.reader = .reading) :
    Inv input (recvStep m lib s) := by
  cases hin : s.input with
  | nil =>
    rw [recvStep_nil hin]
    exact { hi with
      reader := by rw [hi.reader, hr]; rfl
      drained := by simp [ReaderPc.pastWait]
      exhausted := fun _ _ => hin
      respDones := by rw [hi.respDones, hr]; rfl
      reqDones := by rw [hi.reqDones, hr]; rfl }
  | cons req rest =>
    cases he : lib.applyProto s.reqTracker (m.requestAttrs req) with
    | error err =>
      rw [recvStep_error hin he]
      refine hi.push (t := s.reqTracker) hr hin ?_ ?_ ?_ ?_ ?_
      all_goals first | rfl | exact ⟨rfl, rfl, by simp [SlotPc.rejecting]⟩
    | ok p =>
      rw [recvStep_ok hin he]
      refine hi.push hr hin ?_ ?_ ?_ ?_ ?_
      all_goals first | rfl | exact ⟨rfl, rfl, by simp [SlotPc.rejecting]⟩

/-- `worker`'s return keeps `Inv`: `started` and `worked` count alike. -/
theorem Inv.work {input : List Req} {sl' : Slot Req Resp β} (hi : Inv input s)
    (hk : s.slots[k]? = some sl) (hpc : sl.pc = .started) (hpc' : sl'.pc = .worked)
    (hreq : sl'.request = sl.request) (hb : sl'.requestBag = sl.requestBag)
    (hq : sl'.requestBagDones = sl.requestBagDones)
    (hp : sl'.responseBagDones = sl.responseBagDones) : Inv input (s.setSlot k sl') := by
  have hmem : sl ∈ s.slots := List.mem_iff_getElem?.mpr ⟨k, hk⟩
  have hg := countP_set (·.pc.inGroup) s.slots k sl' sl hk
  have hl := countP_set (·.pc.holdsLock) s.slots k sl' sl hk
  have hr := countP_set (·.pc.withReader) s.slots k sl' sl hk
  dsimp only at hg hl hr
  rw [show sl'.pc.inGroup = sl.pc.inGroup by rw [hpc, hpc']; rfl] at hg
  rw [show sl'.pc.holdsLock = sl.pc.holdsLock by rw [hpc, hpc']; rfl] at hl
  rw [show sl'.pc.withReader = sl.pc.withReader by rw [hpc, hpc']; rfl] at hr
  have hok := hi.slots sl hmem
  refine ⟨?_, ?_, ?_, ?_, ?_, hi.exhausted, hi.respDones, hi.reqDones, ?_, ?_⟩
  · rw [Sys.setSlot, map_set_of_get Slot.request hk hreq]; exact hi.received
  · have := hi.wg; simp only [Sys.setSlot]; omega
  · have := hi.lock; simp only [Sys.setSlot]; omega
  · have := hi.reader; simp only [Sys.setSlot]; omega
  · intro hw
    have := hi.drained hw sl hmem
    simp_all
  · intro x hx
    rcases mem_set_of_mem hx with hx | rfl
    · exact hi.slots x hx
    · exact ⟨by simpa [hpc, hpc', hq, SlotPc.requestReleases] using hok.requestDones,
        by simpa [hpc, hpc', hp, SlotPc.responseReleases] using hok.responseDones,
        by simpa [hpc, hpc', hb, SlotPc.rejecting] using hok.path⟩
  · intro j
    simp only [Sys.setSlot, getD_map_set _ hk, hi.answers j]
    split <;> simp_all [SlotPc.sends]

theorem Inv.unwind {input : List Req} (hi : Inv input s)
    (h : step m lib s .unwind = some s') : Inv input s' := by
  simp only [step] at h
  split at h
  · rename_i hrd
    split at h
    · rename_i hwg
      cases h
      refine { hi with reader := ?_, drained := ?_, exhausted := ?_, respDones := ?_,
                       reqDones := ?_ }
      · simpa [hrd] using hi.reader
      · intro _ sl hsl
        have hg : sl.pc.inGroup = false := by
          have := List.countP_eq_zero.mp (hi.wg ▸ hwg) sl hsl; simpa using this
        have hr : sl.pc.withReader = false := by
          have h0 : s.slots.countP (·.pc.withReader) = 0 := by rw [hi.reader, hrd]; rfl
          have := List.countP_eq_zero.mp h0 sl hsl; simpa using this
        exact SlotPc.done_of hg hr
      · exact fun _ _ => hi.exhausted (by simp [hrd]) (by simp [hrd])
      · simpa [hrd] using hi.respDones
      · simpa [hrd] using hi.reqDones
    · cases h
  · rename_i hrd
    cases h
    refine { hi with reader := ?_, drained := ?_, exhausted := ?_, respDones := ?_,
                     reqDones := ?_ }
    · simpa [hrd] using hi.reader
    · exact fun _ => hi.drained (by simp [hrd, ReaderPc.pastWait])
    · exact fun _ _ => hi.exhausted (by simp [hrd]) (by simp [hrd])
    · simp [hi.respDones, hrd]
    · simpa [hrd] using hi.reqDones
  · rename_i hrd
    cases h
    refine { hi with reader := ?_, drained := ?_, exhausted := ?_, respDones := ?_,
                     reqDones := ?_ }
    · simpa [hrd] using hi.reader
    · exact fun _ => hi.drained (by simp [hrd, ReaderPc.pastWait])
    · exact fun _ _ => hi.exhausted (by simp [hrd]) (by simp [hrd])
    · simpa [hrd] using hi.respDones
    · simp [hi.reqDones, hrd]
  · cases h

theorem step_inv {input : List Req} {a : Action Out β} (hi : Inv input s)
    (h : step m lib s a = some s') : Inv input s' := by
  cases a with
  | recv =>
    simp only [step] at h
    split at h
    · cases h; exact hi.recv ‹_›
    · cases h
  | unwind => exact hi.unwind h
  | advance k =>
    simp only [step] at h
    split at h
    · exact hi.advance ‹_› h
    · cases h
  | work k out bag =>
    simp only [step] at h
    split at h
    · rename_i sl hk
      split at h
      · cases h; exact hi.work hk ‹_› rfl rfl rfl rfl rfl
      · cases h
    · cases h

/-- Before the reader is past `wg.Wait()`, no step calls a tracker's `Done()`. -/
theorem step_dones (h : step m lib s a = some s') (hr : s.reader.pastWait = false) :
    s'.respTrackerDones = s.respTrackerDones ∧ s'.reqTrackerDones = s.reqTrackerDones := by
  cases a with
  | recv =>
    simp only [step] at h
    split at h
    · cases h
      unfold recvStep
      split
      · exact ⟨rfl, rfl⟩
      · split <;> exact ⟨rfl, rfl⟩
    · cases h
  | unwind =>
    simp only [step] at h
    split at h
    · simp only [Option.ite_none_right_eq_some, Option.some.injEq] at h
      obtain ⟨-, rfl⟩ := h
      exact ⟨rfl, rfl⟩
    all_goals simp_all [ReaderPc.pastWait]
  | advance k =>
    simp only [step] at h
    split at h
    · unfold advanceStep at h
      split at h <;> simp only [Option.ite_none_left_eq_some, Option.some.injEq, reduceCtorEq] at h <;>
        first | (subst h; exact ⟨rfl, rfl⟩) | (obtain ⟨-, rfl⟩ := h; exact ⟨rfl, rfl⟩)
    · cases h
  | work k out bag =>
    simp only [step] at h
    split at h
    · split at h
      · cases h; exact ⟨rfl, rfl⟩
      · cases h
    · cases h

end Step

section Run

variable {m : Method Req Resp Out α} {lib : AttributeLib α β τ σ}
variable {input : List Req} {ending : Option String} {t₀ : τ} {r₀ : σ}

theorem reachable_inv {s : Sys Req Resp α β τ σ} (hs : Reachable m lib input ending t₀ r₀ s) :
    Inv input s := by
  induction hs with
  | init =>
    exact ⟨by simp [Sys.init], rfl, rfl, rfl, by simp [Sys.init, ReaderPc.pastWait],
      by simp [Sys.init], rfl, rfl, by simp [Sys.init], by simp [Sys.init]⟩
  | step a _ h ih => exact step_inv ih h

/-- The deferred `respTracker.Done()` and `reqTracker.Done()` run only when the
WaitGroup's counter is zero, every request has been answered exactly once, and every
scheduled work item has finished after releasing each of its two bags exactly once; and
no slot ever releases a bag twice. -/
theorem trackers_done_after_drain {s : Sys Req Resp α β τ σ}
    (hs : Reachable m lib input ending t₀ r₀ s) :
    (∀ sl ∈ s.slots, sl.requestBagDones ≤ 1 ∧ sl.responseBagDones ≤ 1) ∧
    ∀ (a : Action Out β) s', step m lib s a = some s' →
      s.respTrackerDones + s.reqTrackerDones < s'.respTrackerDones + s'.reqTrackerDones →
      s.wg = 0 ∧ ∀ k sl, s.slots[k]? = some sl → s.log.countP (·.answers k) = 1 ∧
        (sl.requestBag.isSome → sl.pc = .finished ∧ sl.requestBagDones = 1 ∧
          sl.responseBagDones = 1) := by
  have hi := reachable_inv hs
  refine ⟨fun sl hsl => ?_, fun a s' h hlt => ?_⟩
  · have hok := hi.slots sl hsl
    rw [hok.requestDones, hok.responseDones]
    cases sl.pc <;> simp [SlotPc.requestReleases, SlotPc.responseReleases]
  · have hw : s.reader.pastWait = true := by
      cases hp : s.reader.pastWait
      · have := step_dones h hp; omega
      · rfl
    have hdone := hi.drained hw
    refine ⟨?_, fun k sl hk => ?_⟩
    · rw [hi.wg, List.countP_eq_zero]
      intro sl hsl
      rcases hdone sl hsl with h | h <;> simp [h, SlotPc.inGroup]
    · have hsl : sl ∈ s.slots := List.mem_iff_getElem?.mpr ⟨k, hk⟩
      have hok := hi.slots sl hsl
      rw [hi.answers k, hk]
      rcases hdone sl hsl with hpc | hpc
      · have : sl.requestBag = none := hok.path.mpr (by simp [hpc, SlotPc.rejecting])
        simp [hpc, SlotPc.sends, this]
      · simp [hpc, SlotPc.sends, hok.requestDones, hok.responseDones, SlotPc.requestReleases,
          SlotPc.responseReleases]

/-! ## A sample stream -/

/-- Trackers for the examples: `ApplyProto` rejects an update of `0` and otherwise returns
it as the bag; `ApplyBag` sends the whole bag and adds it to its state. -/
def sampleLib : AttributeLib Nat Nat Nat Nat where
  emptyBag := 0
  applyProto t a := if a = 0 then .error "invalid attribute index" else .ok (t + 1, a)
  applyBag r b := (r + b, b)

/-- A `Check` stream carrying a well-formed request (index 1) and a malformed one (index 2)
up to the deferred `respTracker.Done()`: the first is answered by its work item, whose
aspects answer `OK` and leave `3` in the response bag, the second on the reader. -/
def sampleTrace : List (Action Status Nat) :=
  [.recv, .advance 0, .advance 0, .recv, .advance 1, .advance 1, .advance 1, .advance 0,
   .work 0 {} 3, .advance 0, .advance 0, .advance 0, .advance 0, .advance 0, .advance 0,
   .advance 0, .recv, .unwind]

theorem trackers_done_after_drain_sample : ∃ s,
    Reachable (check 0) sampleLib [⟨1, 5⟩, ⟨2, 0⟩] none 0 0 s ∧ s.reader = .closingResp ∧
    ((∀ sl ∈ s.slots, sl.requestBagDones ≤ 1 ∧ sl.responseBagDones ≤ 1) ∧
    ∀ (a : Action Status Nat) s', step (check 0) sampleLib s a = some s' →
      s.respTrackerDones + s.reqTrackerDones < s'.respTrackerDones + s'.reqTrackerDones →
      s.wg = 0 ∧ ∀ k sl, s.slots[k]? = some sl → s.log.countP (·.answers k) = 1 ∧
        (sl.requestBag.isSome → sl.pc = .finished ∧ sl.requestBagDones = 1 ∧
          sl.responseBagDones = 1)) := by
  obtain ⟨s, hrun, hr⟩ : ∃ s, run (check 0) sampleLib (Sys.init [⟨1, 5⟩, ⟨2, 0⟩] none 0 0)
      sampleTrace = some s ∧ s.reader = .closingResp := ⟨_, rfl, rfl⟩
  have hs := run_reachable (check 0) sampleLib .init hrun
  exact ⟨s, hs, hr, trackers_done_after_drain hs⟩

end Run

end Mixer.Api
