import Mixer.Api.Messages

/-!
# `grpcServer.dispatcher` as a transition system

`dispatcher` (`src/unnamed/part_010`, lines 75–155) drives one stream. A single reading
goroutine loops: `getState`, `RecvMsg`, then `reqTracker.ApplyProto` on the request's
attribute update. A rejected update is answered on the reader itself, under `sendLock`,
with the fresh response carrying an `INVALID_ARGUMENT` status. An accepted one is
`wg.Add(1)`-ed and handed to the goroutine pool as a closure that runs the method's
`worker`, then under `sendLock` computes the response delta with `respTracker.ApplyBag`
and sends, then releases both bags and calls `wg.Done()`. When `RecvMsg` returns `io.EOF`
or another error the function returns, and its defers run last-in first-out:
`wg.Wait()`, then `respTracker.Done()`, then `reqTracker.Done()`.

The model is an interleaving semantics. Every received request gets a `Slot` whose
program counter `SlotPc` walks the reader's part of its handling and then its work item's
part; `step` takes one atomic action — one access to shared state (`sendLock`, the
WaitGroup, a tracker, the stream, a bag) — of the reader or of any slot. A queued work
item may start at any time, so every order in which the pool runs the items (with any
number of workers) is a run of `step`; the executor's outcome is chosen by the step that
returns from `worker`.

Package `attribute` is outside this repository: `AttributeLib` takes its trackers and its
empty mutable bag as parameters, so everything proved holds for every implementation of
them. The tracing spans and the logging of send errors do not change the control flow
(a failed send is logged and the goroutine goes on) and are not modelled. Bookkeeping
that the Go program does not keep — which request a slot answers (its index in
`slots`), the event `log`, the counts of `Done` calls — is ghost state.
-/

namespace Mixer.Api

/-- What `dispatcher` uses of package `attribute`. -/
structure AttributeLib (α β τ σ : Type) where
  /-- `attribute.GetMutableBag(nil)`. -/
  emptyBag : β
  /-- `reqTracker.ApplyProto`: the new cumulative state and the request bag, or an error. -/
  applyProto : τ → α → Except String (τ × β)
  /-- `respTracker.ApplyBag(bag, 0, out)`: the new cumulative state and the delta written. -/
  applyBag : σ → β → σ × α

/-- Where a received request is: first in the reader's hands, then in its work item's. -/
inductive SlotPc where
  /-- `ApplyProto` failed and `*result` is set; the reader is about to lock `sendLock`. -/
  | rejected
  /-- The reader holds `sendLock` and is about to send the error response. -/
  | rejectSending
  /-- Sent; the reader is about to unlock `sendLock`. -/
  | rejectSent
  /-- Answered on the reader's invalid-attribute path. -/
  | rejectDone
  /-- `ApplyProto` succeeded; the reader is about to call `wg.Add(1)`. -/
  | accepted
  /-- The reader is about to call `ScheduleWork`. -/
  | added
  /-- Waiting in the pool's queue. -/
  | queued
  /-- A pool worker took it and a fresh `responseBag`; `worker` is running. -/
  | started
  /-- `worker` returned; about to lock `sendLock`. -/
  | worked
  /-- Holds `sendLock`; about to call `respTracker.ApplyBag`. -/
  | locked
  /-- The delta is in the response; about to send. -/
  | applied
  /-- Sent; about to unlock `sendLock`. -/
  | sent
  /-- About to call `requestBag.Done()`. -/
  | unlocked
  /-- About to call `responseBag.Done()`. -/
  | requestReleased
  /-- About to call `wg.Done()`. -/
  | responseReleased
  /-- The work item has returned. -/
  | finished
  deriving DecidableEq, Repr

/-- Where the reading goroutine is. -/
inductive ReaderPc where
  /-- At the top of the `for` loop. -/
  | reading
  /-- Handling the request it read last (the last slot's `SlotPc` says where). -/
  | serving
  /-- `RecvMsg` failed; the deferred `wg.Wait()` is running. -/
  | draining
  /-- About to run the deferred `respTracker.Done()`. -/
  | closingResp
  /-- About to run the deferred `reqTracker.Done()`. -/
  | closingReq
  /-- `dispatcher` has returned. -/
  | returned
  deriving DecidableEq, Repr

/-- One received request and its handling. -/
structure Slot (Req Resp β : Type) where
  request : Req
  response : Resp
  /-- The bag `ApplyProto` returned (`none` on the invalid-attribute path). -/
  requestBag : Option β
  responseBag : β
  pc : SlotPc
  /-- Calls of `requestBag.Done()` so far. -/
  requestBagDones : Nat := 0
  /-- Calls of `responseBag.Done()` so far. -/
  responseBagDones : Nat := 0

/-- What the stream and the response tracker see, in order. -/
inductive Event (Resp α β : Type) where
  /-- `respTracker.ApplyBag` for request `k`, with the bag it read and the delta it wrote. -/
  | applyBag (k : Nat) (bag : β) (delta : α)
  /-- `s.sendMsg(stream, response)` in request `k`'s work item. -/
  | send (k : Nat) (resp : Resp)
  /-- `s.sendMsg(stream, response)` on the reader's invalid-attribute path for request `k`. -/
  | sendInvalid (k : Nat) (resp : Resp)

/-- The state of one `dispatcher` call and its work items. -/
structure Sys (Req Resp α β τ σ : Type) where
  /-- The requests the client has still to send. -/
  input : List Req
  /-- How the stream ends after them: `none` for `io.EOF`, `some e` for the error `e`. -/
  ending : Option String
  reader : ReaderPc
  slots : List (Slot Req Resp β)
  reqTracker : τ
  respTracker : σ
  /-- `sendLock` is held. -/
  locked : Bool
  /-- The WaitGroup's counter. -/
  wg : Nat
  log : List (Event Resp α β)
  reqTrackerDones : Nat
  respTrackerDones : Nat

/-- One atomic action of the reader or of a slot. -/
inductive Action (Out β : Type) where
  /-- The reader's `getState`, `RecvMsg` and, for a request, `ApplyProto`. -/
  | recv
  /-- The reader's next deferred call. -/
  | unwind
  /-- Slot `k`'s next action, other than returning from `worker`. -/
  | advance (k : Nat)
  /-- Slot `k`'s `worker` returns; the aspects answered `out` and left `bag` as the
  response bag. -/
  | work (k : Nat) (out : Out) (bag : β)

variable {Req Resp Out α β τ σ : Type}

/-- A `dispatcher` call on a stream carrying `input` and then `ending`. -/
def Sys.init (input : List Req) (ending : Option String) (reqTracker : τ) (respTracker : σ) :
    Sys Req Resp α β τ σ :=
  { input, ending, reader := .reading, slots := [], reqTracker, respTracker, locked := false,
    wg := 0, log := [], reqTrackerDones := 0, respTrackerDones := 0 }

/-- Replace slot `k`. -/
def Sys.setSlot (s : Sys Req Resp α β τ σ) (k : Nat) (sl : Slot Req Resp β) :
    Sys Req Resp α β τ σ :=
  { s with slots := s.slots.set k sl }

section Step

variable (m : Method Req Resp Out α) (lib : AttributeLib α β τ σ)

/-- The reader's loop body up to the branch: read the next request, or leave the loop. -/
def recvStep (s : Sys Req Resp α β τ σ) : Sys Req Resp α β τ σ :=
  match s.input with
  | [] => { s with reader := .draining }
  | req :: rest =>
    match lib.applyProto s.reqTracker (m.requestAttrs req) with
    | .error err =>
      let sl : Slot Req Resp β :=
        { request := req, requestBag := none, responseBag := lib.emptyBag, pc := .rejected,
          response := m.setResult m.newResponse (invalidAttributeStatus err) }
      { s with input := rest, reader := .serving, slots := s.slots ++ [sl] }
    | .ok (t, bag) =>
      let sl : Slot Req Resp β :=
        { request := req, requestBag := some bag, responseBag := lib.emptyBag, pc := .accepted,
          response := m.newResponse }
      { s with input := rest, reader := .serving, reqTracker := t, slots := s.slots ++ [sl] }

/-- Slot `k`'s next action other than `worker`'s return, from its current state `sl`;
`none` when it is blocked or has nothing left to do. -/
def advanceStep (s : Sys Req Resp α β τ σ) (k : Nat) (sl : Slot Req Resp β) :
    Option (Sys Req Resp α β τ σ) :=
  match sl.pc with
  | .rejected => if s.locked then none else
      some { s.setSlot k { sl with pc := .rejectSending } with locked := true }
  | .rejectSending =>
      some { s.setSlot k { sl with pc := .rejectSent } with
        log := s.log ++ [.sendInvalid k sl.response] }
  | .rejectSent =>
      some { s.setSlot k { sl with pc := .rejectDone } with locked := false, reader := .reading }
  | .accepted => some { s.setSlot k { sl with pc := .added } with wg := s.wg + 1 }
  | .added => some { s.setSlot k { sl with pc := .queued } with reader := .reading }
  | .queued => some (s.setSlot k { sl with pc := .started, responseBag := lib.emptyBag })
  | .worked => if s.locked then none else
      some { s.setSlot k { sl with pc := .locked } with locked := true }
  | .locked =>
      let r := lib.applyBag s.respTracker sl.responseBag
      some { s.setSlot k { sl with pc := .applied, response := m.setResponseAttrs sl.response r.2 }
        with respTracker := r.1, log := s.log ++ [.applyBag k sl.responseBag r.2] }
  | .applied =>
      some { s.setSlot k { sl with pc := .sent } with log := s.log ++ [.send k sl.response] }
  | .sent => some { s.setSlot k { sl with pc := .unlocked } with locked := false }
  | .unlocked =>
      some (s.setSlot k { sl with pc := .requestReleased, requestBagDones := sl.requestBagDones + 1 })
  | .requestReleased =>
      some (s.setSlot k
        { sl with pc := .responseReleased, responseBagDones := sl.responseBagDones + 1 })
  | .responseReleased => some { s.setSlot k { sl with pc := .finished } with wg := s.wg - 1 }
  | .rejectDone | .started | .finished => none

/-- One atomic action; `none` when it is not enabled. -/
def step (s : Sys Req Resp α β τ σ) : Action Out β → Option (Sys Req Resp α β τ σ)
  | .recv => if s.reader = .reading then some (recvStep m lib s) else none
  | .unwind =>
    match s.reader with
    | .draining => if s.wg = 0 then some { s with reader := .closingResp } else none
    | .closingResp =>
      some { s with reader := .closingReq, respTrackerDones := s.respTrackerDones + 1 }
    | .closingReq =>
      some { s with reader := .returned, reqTrackerDones := s.reqTrackerDones + 1 }
    | _ => none
  | .advance k =>
    match s.slots[k]? with
    | some sl => advanceStep m lib s k sl
    | none => none
  | .work k out bag =>
    match s.slots[k]? with
    | some sl =>
      if sl.pc = .started then
        some (s.setSlot k
          { sl with pc := .worked, responseBag := bag, response := m.worker sl.request sl.response out })
      else none
    | none => none

/-- The states one `dispatcher` call can reach on a stream carrying `input` and `ending`,
for every interleaving and every outcome of the aspects. -/
inductive Reachable (input : List Req) (ending : Option String) (t₀ : τ) (r₀ : σ) :
    Sys Req Resp α β τ σ → Prop where
  | init : Reachable input ending t₀ r₀ (Sys.init input ending t₀ r₀)
  | step {s s' : Sys Req Resp α β τ σ} (a : Action Out β) :
      Reachable input ending t₀ r₀ s → step m lib s a = some s' → Reachable input ending t₀ r₀ s'

/-- Run a list of actions, failing at the first one that is not enabled. -/
def run : Sys Req Resp α β τ σ → List (Action Out β) → Option (Sys Req Resp α β τ σ)
  | s, [] => some s
  | s, a :: as => (step m lib s a).bind (run · as)

theorem run_reachable {input : List Req} {ending : Option String} {t₀ : τ} {r₀ : σ} :
    ∀ {s s' : Sys Req Resp α β τ σ} {as : List (Action Out β)},
      Reachable m lib input ending t₀ r₀ s → run m lib s as = some s' →
      Reachable m lib input ending t₀ r₀ s'
  | _, _, [], hs, h => by cases h; exact hs
  | s, _, a :: as, hs, h => by
    cases ha : step m lib s a with
    | none => simp [run, ha] at h
    | some s₁ =>
      simp only [run, ha, Option.bind_some] at h
      exact run_reachable (.step a hs ha) h

end Step

end Mixer.Api
