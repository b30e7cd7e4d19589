import Mixer.Api.Drain

/-!
# What the stream sees: responses, their indices, and the order of deltas

The wire half of `dispatcher`'s correctness, over the ghost `log` of `ApplyBag` calls and
sends. `WireInv` adds to `Inv`:

- `events`: the events of request `k` in the log are exactly what its slot's program
  counter says it has done (`slotEvents`), with the slot's own bag and response;
- `paired`: the log is `Closed` — every `ApplyBag` directly followed by its own send,
  carrying the delta it computed, and every invalid-attribute response carrying the
  fresh response's empty delta — except that the last `ApplyBag` may still wait for its
  send, while its slot holds `sendLock`;
- `replay`: the response tracker's state and the deltas in the log are what calling
  `ApplyBag` on the logged bags in log order computes (`replay`);
- the per-slot facts that an invalid-attribute response is the fresh response with the
  `INVALID_ARGUMENT` status, and a worker's response echoes the request's index.

`sendLock` is what makes `paired` hold: the lock is held from before `ApplyBag` to after
the send, and on the reader's path around the send (`Inv.lock` gives at most one holder).
The results, `wire_order`, `answered_once` and `response_indices`, hold for every method
whose getters and setters behave (`Method.Lawful`: `check`, `report` and `quota` do).
-/

namespace Mixer.Api

variable {Req Resp Out α β τ σ : Type}

/-- The request an event belongs to. -/
def Event.slot : Event Resp α β → Nat
  | .applyBag k .. | .send k _ | .sendInvalid k _ => k

/-- The bag an `ApplyBag` event read. -/
def Event.bag? : Event Resp α β → Option β
  | .applyBag _ b _ => some b
  | _ => none

/-- The delta an `ApplyBag` event computed. -/
def Event.delta? : Event Resp α β → Option α
  | .applyBag _ _ d => some d
  | _ => none

/-- The events request `k`'s slot has produced, read off its program counter. -/
def slotEvents (m : Method Req Resp Out α) (k : Nat) (sl : Slot Req Resp β) :
    List (Event Resp α β) :=
  match sl.pc with
  | .rejectSent | .rejectDone => [.sendInvalid k sl.response]
  | .applied => [.applyBag k sl.responseBag (m.responseAttrs sl.response)]
  | .sent | .unlocked | .requestReleased | .responseReleased | .finished =>
    [.applyBag k sl.responseBag (m.responseAttrs sl.response), .send k sl.response]
  | _ => []

/-- A log in which every `ApplyBag` is directly followed by the send of its own response,
carrying the delta it computed, and every invalid-attribute response carries `empty`. -/
inductive Closed (attrs : Resp → α) (empty : α) : List (Event Resp α β) → Prop where
  | nil : Closed attrs empty []
  | invalid {l : List (Event Resp α β)} {k : Nat} {r : Resp} :
      Closed attrs empty l → attrs r = empty → Closed attrs empty (l ++ [.sendInvalid k r])
  | reply {l : List (Event Resp α β)} {k : Nat} {b : β} {r : Resp} :
      Closed attrs empty l → Closed attrs empty (l ++ [.applyBag k b (attrs r), .send k r])

/-- `Closed`, or `Closed` followed by one `ApplyBag` whose send has not happened yet. -/
def Paired (attrs : Resp → α) (empty : α) (l : List (Event Resp α β)) : Prop :=
  Closed attrs empty l ∨ ∃ pre k b d, Closed attrs empty pre ∧ l = pre ++ [.applyBag k b d]

/-- `ApplyBag` called on `bags` in order from tracker state `r`: the final state and the
deltas it wrote. -/
def replay (f : σ → β → σ × α) : σ → List β → σ × List α
  | r, [] => (r, [])
  | r, b :: bs => ((replay f (f r b).1 bs).1, (f r b).2 :: (replay f (f r b).1 bs).2)

theorem replay_snoc (f : σ → β → σ × α) :
    ∀ (r : σ) (bs : List β) (b : β),
      replay f r (bs ++ [b]) =
        ((f (replay f r bs).1 b).1, (replay f r bs).2 ++ [(f (replay f r bs).1 b).2])
  | _, [], _ => rfl
  | r, c :: bs, b => by
    rw [List.cons_append, replay, replay_snoc f _ bs b, replay]; rfl

namespace SlotPc

/-- The worker has returned: the response carries the request's index from here on. -/
def answering : SlotPc → Bool
  | .worked | .locked | .applied | .sent | .unlocked | .requestReleased | .responseReleased
  | .finished => true
  | _ => false

end SlotPc

/-- The wire invariant of a `dispatcher` call whose response tracker started at `r₀`. -/
structure WireInv (m : Method Req Resp Out α) (lib : AttributeLib α β τ σ) (r₀ : σ)
    (s : Sys Req Resp α β τ σ) : Prop where
  events : ∀ k sl, s.slots[k]? = some sl → s.log.filter (·.slot == k) = slotEvents m k sl
  beyond : ∀ k, s.slots.length ≤ k → s.log.filter (·.slot == k) = []
  invalid : ∀ sl ∈ s.slots, sl.pc.rejecting = true →
    ∃ err, sl.response = m.setResult m.newResponse (invalidAttributeStatus err)
  echoed : ∀ sl ∈ s.slots, sl.pc.answering = true →
    m.responseIndex sl.response = m.requestIndex sl.request
  paired : (Closed m.responseAttrs (m.responseAttrs m.newResponse) s.log ∧
      ∀ sl ∈ s.slots, sl.pc ≠ .applied) ∨
    ∃ k sl pre, s.slots[k]? = some sl ∧ sl.pc = .applied ∧
      Closed m.responseAttrs (m.responseAttrs m.newResponse) pre ∧
      s.log = pre ++ [.applyBag k sl.responseBag (m.responseAttrs sl.response)]
  replay : replay lib.applyBag r₀ (s.log.filterMap Event.bag?) =
    (s.respTracker, s.log.filterMap Event.delta?)

theorem SlotPc.answering_next (p : SlotPc) : p.next.answering = p.answering := by
  cases p <;> rfl

/-! ## At most one slot holds `sendLock` -/

theorem Inv.lock_unique {input : List Req} {s : Sys Req Resp α β τ σ} {j k : Nat}
    {a b : Slot Req Resp β} (hi : Inv input s) (hj : s.slots[j]? = some a)
    (hk : s.slots[k]? = some b) (ha : a.pc.holdsLock = true) (hb : b.pc.holdsLock = true) :
    j = k := by
  by_cases hjk : j = k
  · exact hjk
  · have := countP_ge_two (p := fun x => x.pc.holdsLock) hj hk hjk ha hb
    have := Bool.toNat_le s.locked
    have := hi.lock
    omega

/-- While slot `k` holds `sendLock` short of `ApplyBag`'s result, no slot is at `applied`. -/
theorem Inv.none_applied {input : List Req} {s : Sys Req Resp α β τ σ} {k : Nat}
    {sl : Slot Req Resp β} (hi : Inv input s) (hk : s.slots[k]? = some sl)
    (hl : sl.pc.holdsLock = true) (hpc : sl.pc ≠ .applied) : ∀ x ∈ s.slots, x.pc ≠ .applied := by
  intro x hx hxa
  obtain ⟨j, hj⟩ := List.mem_iff_getElem?.mp hx
  obtain rfl := hi.lock_unique hj hk (by simp [hxa, SlotPc.holdsLock]) hl
  rw [hj] at hk
  cases hk
  exact hpc hxa

/-! ## One action -/

section Step

variable {m : Method Req Resp Out α} {lib : AttributeLib α β τ σ}
variable {s s' : Sys Req Resp α β τ σ} {k : Nat} {sl : Slot Req Resp β}

/-- Every `advance` but three leaves the log, the response tracker, the response and the
slot's events alone. -/
theorem advanceStep_silent (h : advanceStep m lib s k sl = some s')
    (h₁ : sl.pc ≠ .rejectSending) (h₂ : sl.pc ≠ .locked) (h₃ : sl.pc ≠ .applied) :
    ∃ sl', s'.slots = s.slots.set k sl' ∧ s'.log = s.log ∧ s'.respTracker = s.respTracker ∧
      sl'.pc = sl.pc.next ∧ sl'.request = sl.request ∧ sl'.response = sl.response ∧
      slotEvents m k sl' = slotEvents m k sl := by
  unfold advanceStep at h
  cases hpc : sl.pc <;>
    simp only [hpc, Option.ite_none_left_eq_some, Option.some.injEq, reduceCtorEq, ne_eq,
      not_true_eq_false] at h h₁ h₂ h₃ <;>
    try obtain ⟨-, rfl⟩ := h
  all_goals refine ⟨_, rfl, ?_⟩
  all_goals simp [Sys.setSlot, slotEvents, SlotPc.next, hpc]

theorem advanceStep_rejectSending (h : advanceStep m lib s k sl = some s')
    (hpc : sl.pc = .rejectSending) :
    s' = { s.setSlot k { sl with pc := .rejectSent } with
      log := s.log ++ [.sendInvalid k sl.response] } := by
  simp [advanceStep, hpc] at h; exact h.symm

theorem advanceStep_locked (h : advanceStep m lib s k sl = some s') (hpc : sl.pc = .locked) :
    s' = { s.setSlot k { sl with pc := .applied,
                                 response := m.setResponseAttrs sl.response
                                   (lib.applyBag s.respTracker sl.responseBag).2 } with
      respTracker := (lib.applyBag s.respTracker sl.responseBag).1
      log := s.log ++ [.applyBag k sl.responseBag (lib.applyBag s.respTracker sl.responseBag).2] } := by
  simp [advanceStep, hpc] at h; exact h.symm

theorem advanceStep_applied (h : advanceStep m lib s k sl = some s') (hpc : sl.pc = .applied) :
    s' = { s.setSlot k { sl with pc := .sent } with log := s.log ++ [.send k sl.response] } := by
  simp [advanceStep, hpc] at h; exact h.symm

theorem filter_snoc_slot (l : List (Event Resp α β)) (e : Event Resp α β) (j : Nat) :
    (l ++ [e]).filter (·.slot == j) = l.filter (·.slot == j) ++ if e.slot = j then [e] else [] := by
  rw [List.filter_append]
  by_cases h : e.slot = j <;> simp [h]

section Preserve

variable {input : List Req} {r₀ : σ}

theorem WireInv.silent (hw : WireInv m lib r₀ s) (hk : s.slots[k]? = some sl)
    (h : advanceStep m lib s k sl = some s')
    (h₁ : sl.pc ≠ .rejectSending) (h₂ : sl.pc ≠ .locked) (h₃ : sl.pc ≠ .applied) :
    WireInv m lib r₀ s' := by
  obtain ⟨sl', hsl, hlog, hr, hpc, hreq, hresp, hev⟩ := advanceStep_silent h h₁ h₂ h₃
  have hmem : sl ∈ s.slots := List.mem_iff_getElem?.mpr ⟨k, hk⟩
  have hna : sl'.pc ≠ .applied := by rw [hpc]; cases hq : sl.pc <;> simp_all [SlotPc.next]
  refine ⟨?_, ?_, ?_, ?_, ?_, by rw [hlog, hr]; exact hw.replay⟩
  · intro j x hj
    rw [hsl] at hj
    rcases getElem?_set_cases hj with ⟨rfl, rfl⟩ | ⟨-, hj⟩
    · rw [hlog, hev]; exact hw.events j sl hk
    · rw [hlog]; exact hw.events j x hj
  · intro j hj
    rw [hlog]; exact hw.beyond j (by simpa [hsl] using hj)
  · intro x hx hrej
    rw [hsl] at hx
    rcases mem_set_of_mem hx with hx | rfl
    · exact hw.invalid x hx hrej
    · rw [hpc, SlotPc.rejecting_next] at hrej
      rw [hresp]; exact hw.invalid sl hmem hrej
  · intro x hx hans
    rw [hsl] at hx
    rcases mem_set_of_mem hx with hx | rfl
    · exact hw.echoed x hx hans
    · rw [hpc, SlotPc.answering_next] at hans
      rw [hresp, hreq]; exact hw.echoed sl hmem hans
  · rw [hlog, hsl]
    rcases hw.paired with ⟨hc, hno⟩ | ⟨j, x, pre, hj, hx, hc, hl⟩
    · refine .inl ⟨hc, fun y hy => ?_⟩
      rcases mem_set_of_mem hy with hy | rfl
      · exact hno y hy
      · exact hna
    · have hjk : j ≠ k := by rintro rfl; rw [hk] at hj; cases hj; exact h₃ hx
      refine .inr ⟨j, x, pre, ?_, hx, hc, hl⟩
      rw [List.getElem?_set, if_neg (Ne.symm hjk)]; exact hj

/-- The events of the other slots are untouched when slot `k` appends `e`. -/
theorem events_snoc {log : List (Event Resp α β)} {slots : List (Slot Req Resp β)}
    {e : Event Resp α β} {sl' : Slot Req Resp β}
    (hev : ∀ j x, slots[j]? = some x → log.filter (·.slot == j) = slotEvents m j x)
    (he : e.slot = k) (hk : slots[k]? = some sl)
    (hnew : slotEvents m k sl ++ [e] = slotEvents m k sl') :
    ∀ j x, (slots.set k sl')[j]? = some x →
      (log ++ [e]).filter (·.slot == j) = slotEvents m j x := by
  intro j x hj
  rw [filter_snoc_slot]
  rcases getElem?_set_cases hj with ⟨rfl, rfl⟩ | ⟨hjk, hj⟩
  · rw [hev j sl hk, if_pos he, hnew]
  · rw [hev j x hj, if_neg (by omega), List.append_nil]

theorem beyond_snoc {log : List (Event Resp α β)} {slots : List (Slot Req Resp β)}
    {e : Event Resp α β} (hb : ∀ j, slots.length ≤ j → log.filter (·.slot == j) = [])
    (he : e.slot < slots.length) :
    ∀ j, slots.length ≤ j → (log ++ [e]).filter (·.slot == j) = [] := by
  intro j hj
  rw [filter_snoc_slot, hb j hj, if_neg (by omega)]; rfl

theorem WireInv.sendInvalid (hm : m.Lawful) (hi : Inv input s) (hw : WireInv m lib r₀ s)
    (hk : s.slots[k]? = some sl) (hpc : sl.pc = .rejectSending) :
    WireInv m lib r₀ { s.setSlot k { sl with pc := .rejectSent } with
      log := s.log ++ [.sendInvalid k sl.response] } := by
  have hmem : sl ∈ s.slots := List.mem_iff_getElem?.mpr ⟨k, hk⟩
  have hlt : k < s.slots.length := (List.getElem?_eq_some_iff.mp hk).1
  have hno := hi.none_applied hk (by simp [hpc, SlotPc.holdsLock]) (by simp [hpc])
  obtain ⟨err, herr⟩ := hw.invalid sl hmem (by simp [hpc, SlotPc.rejecting])
  refine ⟨events_snoc hw.events rfl hk (by simp [slotEvents, hpc]),
    fun j hj => beyond_snoc hw.beyond (by exact hlt) j (by simpa [Sys.setSlot] using hj), ?_, ?_, ?_, ?_⟩
  · intro x hx hrej
    rcases mem_set_of_mem hx with hx | rfl
    · exact hw.invalid x hx hrej
    · exact ⟨err, herr⟩
  · intro x hx hans
    rcases mem_set_of_mem hx with hx | rfl
    · exact hw.echoed x hx hans
    · simp [SlotPc.answering] at hans
  · rcases hw.paired with ⟨hc, -⟩ | ⟨j, x, -, hj, hx, -⟩
    · refine .inl ⟨hc.invalid (by rw [herr, hm.attrs_setResult]), fun y hy => ?_⟩
      rcases mem_set_of_mem hy with hy | rfl
      · exact hno y hy
      · simp
    · exact absurd hx (hno x (List.mem_iff_getElem?.mpr ⟨j, hj⟩))
  · simpa [Event.bag?, Event.delta?] using hw.replay

theorem WireInv.applyBag (hm : m.Lawful) (hi : Inv input s) (hw : WireInv m lib r₀ s)
    (hk : s.slots[k]? = some sl) (hpc : sl.pc = .locked) :
    WireInv m lib r₀ { s.setSlot k { sl with pc := .applied,
                                             response := m.setResponseAttrs sl.response
                                               (lib.applyBag s.respTracker sl.responseBag).2 } with
      respTracker := (lib.applyBag s.respTracker sl.responseBag).1
      log := s.log ++ [.applyBag k sl.responseBag (lib.applyBag s.respTracker sl.responseBag).2] } := by
  have hmem : sl ∈ s.slots := List.mem_iff_getElem?.mpr ⟨k, hk⟩
  have hlt : k < s.slots.length := (List.getElem?_eq_some_iff.mp hk).1
  have hno := hi.none_applied hk (by simp [hpc, SlotPc.holdsLock]) (by simp [hpc])
  refine ⟨events_snoc hw.events rfl hk (by simp [slotEvents, hpc, hm.attrs_setAttrs]),
    fun j hj => beyond_snoc hw.beyond (by exact hlt) j (by simpa [Sys.setSlot] using hj), ?_, ?_, ?_, ?_⟩
  · intro x hx hrej
    rcases mem_set_of_mem hx with hx | rfl
    · exact hw.invalid x hx hrej
    · simp [SlotPc.rejecting] at hrej
  · intro x hx hans
    rcases mem_set_of_mem hx with hx | rfl
    · exact hw.echoed x hx hans
    · rw [hm.index_setAttrs]; exact hw.echoed sl hmem (by simp [hpc, SlotPc.answering])
  · rcases hw.paired with ⟨hc, -⟩ | ⟨j, x, -, hj, hx, -⟩
    · refine .inr ⟨k, _, s.log, List.getElem?_set_self hlt, rfl, hc, ?_⟩
      simp [hm.attrs_setAttrs]
    · exact absurd hx (hno x (List.mem_iff_getElem?.mpr ⟨j, hj⟩))
  · simp only [List.filterMap_append, Event.bag?, Event.delta?, List.filterMap_cons,
      List.filterMap_nil, replay_snoc, hw.replay]

theorem WireInv.send (hi : Inv input s) (hw : WireInv m lib r₀ s)
    (hk : s.slots[k]? = some sl) (hpc : sl.pc = .applied) :
    WireInv m lib r₀ { s.setSlot k { sl with pc := .sent } with
      log := s.log ++ [.send k sl.response] } := by
  have hmem : sl ∈ s.slots := List.mem_iff_getElem?.mpr ⟨k, hk⟩
  have hlt : k < s.slots.length := (List.getElem?_eq_some_iff.mp hk).1
  refine ⟨events_snoc hw.events rfl hk (by simp [slotEvents, hpc]),
    fun j hj => beyond_snoc hw.beyond (by exact hlt) j (by simpa [Sys.setSlot] using hj), ?_, ?_, ?_, ?_⟩
  · intro x hx hrej
    rcases mem_set_of_mem hx with hx | rfl
    · exact hw.invalid x hx hrej
    · simp [SlotPc.rejecting] at hrej
  · intro x hx hans
    rcases mem_set_of_mem hx with hx | rfl
    · exact hw.echoed x hx hans
    · exact hw.echoed sl hmem (by simp [hpc, SlotPc.answering])
  · rcases hw.paired with ⟨-, hno⟩ | ⟨j, x, pre, hj, hx, hc, hl⟩
    · exact absurd hpc (hno sl hmem)
    · obtain rfl := hi.lock_unique hj hk (by simp [hx, SlotPc.holdsLock])
        (by simp [hpc, SlotPc.holdsLock])
      rw [hk] at hj; cases hj
      refine .inl ⟨?_, fun y hy hy' => ?_⟩
      · rw [hl, List.append_assoc]; exact hc.reply
      · obtain ⟨i, hi'⟩ := List.mem_iff_getElem?.mp hy
        rcases getElem?_set_cases hi' with ⟨-, rfl⟩ | ⟨hik, hi'⟩
        · cases hy'
        · exact hik (hi.lock_unique hi' hk (by simp [hy', SlotPc.holdsLock])
            (by simp [hpc, SlotPc.holdsLock]))
  · simpa [Event.bag?, Event.delta?] using hw.replay

theorem WireInv.work {out : Out} {bag : β} (hm : m.Lawful) (hw : WireInv m lib r₀ s)
    (hk : s.slots[k]? = some sl) (hpc : sl.pc = .started) :
    WireInv m lib r₀ (s.setSlot k { sl with pc := .worked, responseBag := bag,
                                            response := m.worker sl.request sl.response out }) := by
  refine ⟨?_, fun j hj => hw.beyond j (by simpa [Sys.setSlot] using hj), ?_, ?_, ?_, hw.replay⟩
  · intro j x hj
    rcases getElem?_set_cases hj with ⟨rfl, rfl⟩ | ⟨-, hj⟩
    · show s.log.filter _ = _
      rw [hw.events j sl hk]; simp [slotEvents, hpc]
    · exact hw.events j x hj
  · intro x hx hrej
    rcases mem_set_of_mem hx with hx | rfl
    · exact hw.invalid x hx hrej
    · simp [SlotPc.rejecting] at hrej
  · intro x hx hans
    rcases mem_set_of_mem hx with hx | rfl
    · exact hw.echoed x hx hans
    · exact hm.echoes _ _ _
  · rcases hw.paired with ⟨hc, hno⟩ | ⟨j, x, pre, hj, hx, hc, hl⟩
    · refine .inl ⟨hc, fun y hy => ?_⟩
      rcases mem_set_of_mem hy with hy | rfl
      · exact hno y hy
      · simp
    · have hjk : j ≠ k := by rintro rfl; rw [hk] at hj; cases hj; simp [hpc] at hx
      refine .inr ⟨j, x, pre, ?_, hx, hc, hl⟩
      simp only [Sys.setSlot]
      rw [List.getElem?_set, if_neg (Ne.symm hjk)]; exact hj

/-- Reading one request keeps `WireInv`: the new slot has no events yet. -/
theorem WireInv.push {rest : List Req} {t : τ} (hw : WireInv m lib r₀ s)
    (hev : slotEvents m s.slots.length sl = []) (hpc : sl.pc ≠ .applied)
    (hans : sl.pc.answering = false)
    (hinv : sl.pc.rejecting = true →
      ∃ err, sl.response = m.setResult m.newResponse (invalidAttributeStatus err)) :
    WireInv m lib r₀ { s with input := rest, reader := .serving, reqTracker := t,
                               slots := s.slots ++ [sl] } := by
  refine ⟨?_, ?_, ?_, ?_, ?_, hw.replay⟩
  · intro j x hj
    rw [List.getElem?_append] at hj
    split at hj
    · exact hw.events j x hj
    · rename_i hj'
      have : j - s.slots.length = 0 := by
        rcases Nat.lt_or_ge (j - s.slots.length) 1 with h | h
        · omega
        · rw [List.getElem?_eq_none (by simpa using h)] at hj; cases hj
      obtain rfl : j = s.slots.length := by omega
      simp at hj; subst hj
      rw [hev]; exact hw.beyond _ (Nat.le_refl _)
  · intro j hj
    exact hw.beyond j (by simp at hj; omega)
  · intro x hx hrej
    rcases List.mem_append.mp hx with hx | hx
    · exact hw.invalid x hx hrej
    · rw [List.mem_singleton.mp hx]; exact hinv (by rwa [← List.mem_singleton.mp hx])
  · intro x hx hx'
    rcases List.mem_append.mp hx with hx | hx
    · exact hw.echoed x hx hx'
    · rw [List.mem_singleton.mp hx] at hx'; simp [hans] at hx'
  · rcases hw.paired with ⟨hc, hno⟩ | ⟨j, x, pre, hj, hx, hc, hl⟩
    · refine .inl ⟨hc, fun y hy => ?_⟩
      rcases List.mem_append.mp hy with hy | hy
      · exact hno y hy
      · rw [List.mem_singleton.mp hy]; exact hpc
    · refine .inr ⟨j, x, pre, ?_, hx, hc, hl⟩
      rw [List.getElem?_append_left (List.getElem?_eq_some_iff.mp hj).1]; exact hj

theorem WireInv.recv (hw : WireInv m lib r₀ s) : WireInv m lib r₀ (recvStep m lib s) := by
  cases hin : s.input with
  | nil => rw [recvStep_nil hin]; exact ⟨hw.1, hw.2, hw.3, hw.4, hw.5, hw.6⟩
  | cons req rest =>
    cases he : lib.applyProto s.reqTracker (m.requestAttrs req) with
    | error err =>
      rw [recvStep_error hin he]
      exact hw.push (by simp [slotEvents]) (by simp) rfl (fun _ => ⟨err, rfl⟩)
    | ok p =>
      rw [recvStep_ok hin he]
      exact hw.push (by simp [slotEvents]) (by simp) rfl (fun h => by simp [SlotPc.rejecting] at h)

theorem wire_step (hm : m.Lawful) {a : Action Out β} (hi : Inv input s)
    (hw : WireInv m lib r₀ s) (h : step m lib s a = some s') : WireInv m lib r₀ s' := by
  cases a with
  | recv =>
    simp only [step] at h
    split at h
    · cases h; exact hw.recv
    · cases h
  | unwind =>
    simp only [step] at h
    split at h
    · split at h
      · cases h; exact ⟨hw.1, hw.2, hw.3, hw.4, hw.5, hw.6⟩
      · cases h
    · cases h; exact ⟨hw.1, hw.2, hw.3, hw.4, hw.5, hw.6⟩
    · cases h; exact ⟨hw.1, hw.2, hw.3, hw.4, hw.5, hw.6⟩
    · cases h
  | advance k =>
    simp only [step] at h
    split at h
    · rename_i sl hk
      by_cases h₁ : sl.pc = .rejectSending
      · rw [advanceStep_rejectSending h h₁]; exact hw.sendInvalid hm hi hk h₁
      by_cases h₂ : sl.pc = .locked
      · rw [advanceStep_locked h h₂]; exact hw.applyBag hm hi hk h₂
      by_cases h₃ : sl.pc = .applied
      · rw [advanceStep_applied h h₃]; exact hw.send hi hk h₃
      exact hw.silent hk h h₁ h₂ h₃
    · cases h
  | work k out bag =>
    simp only [step] at h
    split at h
    · rename_i sl hk
      split at h
      · cases h; exact hw.work hm hk ‹_›
      · cases h
    · cases h

end Preserve

end Step

section Run

variable {m : Method Req Resp Out α} {lib : AttributeLib α β τ σ}
variable {input : List Req} {ending : Option String} {t₀ : τ} {r₀ : σ}
variable {s : Sys Req Resp α β τ σ}

theorem reachable_wire (hm : m.Lawful) (hs : Reachable m lib input ending t₀ r₀ s) :
    WireInv m lib r₀ s := by
  induction hs with
  | init =>
    refine ⟨fun _ _ h => by simp [Sys.init] at h, fun _ _ => rfl, by simp [Sys.init],
      by simp [Sys.init], .inl ⟨.nil, by simp [Sys.init]⟩, rfl⟩
  | step a hs h ih => exact wire_step hm (reachable_inv hs) ih h

/-- `sampleTrace` run on to the end of `dispatcher`. -/
def sampleRun : List (Action Status Nat) :=
  [.recv, .advance 0, .advance 0, .recv, .advance 1, .advance 1, .advance 1, .advance 0,
   .work 0 {} 3, .advance 0, .advance 0, .advance 0, .advance 0, .advance 0, .advance 0,
   .advance 0, .recv, .unwind, .unwind, .unwind]

/-- Response deltas reach the stream in the order `respTracker.ApplyBag` computed them:
every `ApplyBag` is directly followed by the send of its own response carrying the delta
it computed, with no other `ApplyBag` or send in between (only the last one may still be
waiting for its send); every response on the invalid-attribute path carries the fresh
response's empty update; and the tracker's state and the logged deltas are exactly what
calling `ApplyBag` on the logged bags, in log order, computes from the initial state. -/
theorem wire_order (hm : m.Lawful) (hs : Reachable m lib input ending t₀ r₀ s) :
    Paired m.responseAttrs (m.responseAttrs m.newResponse) s.log ∧
    replay lib.applyBag r₀ (s.log.filterMap Event.bag?) =
      (s.respTracker, s.log.filterMap Event.delta?) := by
  have hw := reachable_wire hm hs
  refine ⟨?_, hw.replay⟩
  rcases hw.paired with ⟨hc, -⟩ | ⟨k, sl, pre, -, -, hc, hl⟩
  · exact .inl hc
  · exact .inr ⟨pre, k, _, _, hc, hl⟩

theorem wire_order_sample : ∃ s,
    Reachable (check 0) sampleLib [⟨1, 5⟩, ⟨2, 0⟩] none 0 0 s ∧ s.reader = .returned ∧
    Paired (check 0).responseAttrs ((check 0).responseAttrs (check 0).newResponse) s.log ∧
    replay sampleLib.applyBag 0 (s.log.filterMap Event.bag?) =
      (s.respTracker, s.log.filterMap Event.delta?) := by
  obtain ⟨s, hrun, hr⟩ : ∃ s, run (check 0) sampleLib (Sys.init [⟨1, 5⟩, ⟨2, 0⟩] none 0 0)
      sampleRun = some s ∧ s.reader = .returned := ⟨_, rfl, rfl⟩
  have hs := run_reachable (check 0) sampleLib .init hrun
  exact ⟨s, hs, hr, wire_order (check_lawful 0) hs⟩

/-- No request is answered twice; and once `dispatcher` has returned, every request of the
stream was read and answered exactly once. -/
theorem answered_once (hs : Reachable m lib input ending t₀ r₀ s) :
    (∀ k, s.log.countP (·.answers k) ≤ 1) ∧
    (s.reader = .returned →
      s.slots.map Slot.request = input ∧ ∀ k < input.length, s.log.countP (·.answers k) = 1) := by
  have hi := reachable_inv hs
  refine ⟨fun k => ?_, fun hr => ?_⟩
  · rw [hi.answers k]
    cases s.slots[k]? with
    | none => simp
    | some sl => exact SlotPc.sends_le_one sl.pc
  · have hin := hi.exhausted (by simp [hr]) (by simp [hr])
    have hmap : s.slots.map Slot.request = input := by simpa [hin] using hi.received
    refine ⟨hmap, fun k hk => ?_⟩
    have hk' : k < s.slots.length := by simpa [← hmap] using hk
    obtain ⟨sl, hsl⟩ : ∃ sl, s.slots[k]? = some sl := ⟨_, List.getElem?_eq_getElem hk'⟩
    rw [hi.answers k, hsl]
    rcases hi.drained (by simp [hr, ReaderPc.pastWait]) sl
      (List.mem_iff_getElem?.mpr ⟨k, hsl⟩) with h | h <;> simp [h, SlotPc.sends]

theorem answered_once_sample : ∃ s,
    Reachable (check 0) sampleLib [⟨1, 5⟩, ⟨2, 0⟩] none 0 0 s ∧ s.reader = .returned ∧
    (∀ k, s.log.countP (·.answers k) ≤ 1) ∧
    (s.reader = .returned → s.slots.map Slot.request = [⟨1, 5⟩, ⟨2, 0⟩] ∧
      ∀ k < [(⟨1, 5⟩ : CheckRequest Nat), ⟨2, 0⟩].length, s.log.countP (·.answers k) = 1) := by
  obtain ⟨s, hrun, hr⟩ : ∃ s, run (check 0) sampleLib (Sys.init [⟨1, 5⟩, ⟨2, 0⟩] none 0 0)
      sampleRun = some s ∧ s.reader = .returned := ⟨_, rfl, rfl⟩
  have hs := run_reachable (check 0) sampleLib .init hrun
  exact ⟨s, hs, hr, answered_once hs⟩

/-- What each response says about its request's index: a worker's response carries the
index of the request it answers; a response on the reader's invalid-attribute path carries
the index of `getState`'s fresh response, whatever the request's index was. -/
theorem response_indices (hm : m.Lawful) (hs : Reachable m lib input ending t₀ r₀ s) :
    (∀ k r, Event.send k r ∈ s.log →
      ∃ sl, s.slots[k]? = some sl ∧ m.responseIndex r = m.requestIndex sl.request) ∧
    (∀ k r, Event.sendInvalid k r ∈ s.log → m.responseIndex r = m.responseIndex m.newResponse) := by
  have hw := reachable_wire hm hs
  have hmem : ∀ e ∈ s.log, ∃ sl, s.slots[e.slot]? = some sl ∧ e ∈ slotEvents m e.slot sl := by
    intro e he
    have hf : e ∈ s.log.filter (·.slot == e.slot) := List.mem_filter.mpr ⟨he, by simp⟩
    cases hsl : s.slots[e.slot]? with
    | none =>
      rw [hw.beyond _ (List.getElem?_eq_none_iff.mp hsl)] at hf; cases hf
    | some sl => exact ⟨sl, rfl, hw.events _ sl hsl ▸ hf⟩
  refine ⟨fun k r he => ?_, fun k r he => ?_⟩
  · obtain ⟨sl, hsl, he'⟩ := hmem _ he
    refine ⟨sl, hsl, ?_⟩
    have hsm : sl ∈ s.slots := List.mem_iff_getElem?.mpr ⟨_, hsl⟩
    unfold slotEvents at he'
    split at he' <;> simp at he'
    all_goals (obtain ⟨-, rfl⟩ := he'; exact hw.echoed sl hsm (by simp [*, SlotPc.answering]))
  · obtain ⟨sl, hsl, he'⟩ := hmem _ he
    have hsm : sl ∈ s.slots := List.mem_iff_getElem?.mpr ⟨_, hsl⟩
    unfold slotEvents at he'
    split at he' <;> simp at he'
    all_goals
      obtain ⟨-, rfl⟩ := he'
      obtain ⟨err, herr⟩ := hw.invalid sl hsm (by simp [*, SlotPc.rejecting])
      rw [herr, hm.index_setResult]

theorem response_indices_sample : ∃ s,
    Reachable (check 0) sampleLib [⟨1, 5⟩, ⟨2, 0⟩] none 0 0 s ∧ s.reader = .returned ∧
    (∀ k r, Event.send k r ∈ s.log →
      ∃ sl, s.slots[k]? = some sl ∧ r.requestIndex = sl.request.requestIndex) ∧
    (∀ k r, Event.sendInvalid k r ∈ s.log → r.requestIndex = 0) := by
  obtain ⟨s, hrun, hr⟩ : ∃ s, run (check 0) sampleLib (Sys.init [⟨1, 5⟩, ⟨2, 0⟩] none 0 0)
      sampleRun = some s ∧ s.reader = .returned := ⟨_, rfl, rfl⟩
  have hs := run_reachable (check 0) sampleLib .init hrun
  exact ⟨s, hs, hr, response_indices (check_lawful 0) hs⟩

/-- A `Check` request with index 7 whose attribute update `ApplyProto` rejects is answered
on the reader with an `INVALID_ARGUMENT` response whose index is 0: the response comes
fresh from `getState`, and nothing copies the request's index into it. -/
theorem invalid_update_answered_without_index : ∃ s r,
    Reachable (check 0) sampleLib [⟨7, 0⟩] none 0 0 s ∧ s.reader = .returned ∧
    s.log = [.sendInvalid 0 r] ∧ r.result = invalidAttributeStatus "invalid attribute index" ∧
    r.requestIndex = 0 := by
  obtain ⟨s, hrun, hr, hlog⟩ : ∃ s, run (check 0) sampleLib (Sys.init [⟨7, 0⟩] none 0 0)
      [.recv, .advance 0, .advance 0, .advance 0, .recv, .unwind, .unwind, .unwind] = some s ∧
      s.reader = .returned ∧
      s.log = [.sendInvalid 0
        { attributeUpdate := 0, result := invalidAttributeStatus "invalid attribute index" }] :=
    ⟨_, rfl, rfl, rfl⟩
  exact ⟨s, _, run_reachable (check 0) sampleLib .init hrun, hr, hlog, rfl, rfl⟩

end Run

end Mixer.Api
