import Mathlib.Logic.Basic

/-!
# The streaming API's messages, and what each method plugs into `dispatcher`

`src/unnamed/part_010` (package `api`) serves the three streaming methods `Check`, `Report`
and `Quota` with one generic loop, `grpcServer.dispatcher`. Each method hands the loop two
closures: `getState`, which allocates a fresh request and response (the response's
`AttributeUpdate` set to an empty `mixerpb.Attributes`), and a `worker` (`handleCheck`,
`handleReport`, `handleQuota`) that runs the aspect dispatcher and fills the response.

This file models the messages and those closures. The wire attribute delta is a type
parameter `α`: its encoding belongs to package `attribute` (not in this repository), and
the dispatcher only moves deltas between the trackers and the stream. `Method` bundles,
per method, exactly what `dispatcher` uses of the method; `check`, `report` and `quota`
are the three instances.

Mirroring notes:
- `google.rpc.Status` carries its details as `Any`s; the only detail this code attaches
  is `status.NewBadRequest`'s field violation, so `details` holds field violations.
- What the aspect dispatcher returns is the executor's outcome `Out` of a method; the
  model leaves it free (`Dispatcher.lean` lets every step choose it), so the arguments
  `handleQuota` builds for it (`aspect.QuotaMethodArgs`) are not modelled.
- `time.Duration` values are nanoseconds in `Int`.
-/

namespace Mixer.Api

/-- `google.rpc.Code`. -/
inductive Code where
  | ok | cancelled | unknown | invalidArgument | deadlineExceeded | notFound
  | alreadyExists | permissionDenied | resourceExhausted | failedPrecondition | aborted
  | outOfRange | unimplemented | internal | unavailable | dataLoss | unauthenticated
  deriving DecidableEq, Repr

/-- One field violation of a `google.rpc.BadRequest`. -/
structure FieldViolation where
  field : String
  description : String
  deriving DecidableEq, Repr

/-- `google.rpc.Status`; the zero value is `OK` with no message. -/
structure Status where
  code : Code := .ok
  message : String := ""
  details : List FieldViolation := []
  deriving DecidableEq, Repr

/-- `status.NewBadRequest(field, err)`: a bad request naming one offending field. -/
def newBadRequest (field err : String) : List FieldViolation := [⟨field, err⟩]

/-- `status.InvalidWithDetails(msg, details)`. -/
def invalidWithDetails (msg : String) (details : List FieldViolation) : Status :=
  { code := .invalidArgument, message := msg, details := details }

/-- The status `dispatcher` writes into `*result` when `reqTracker.ApplyProto` rejects the
request's attribute update with error `err`. -/
def invalidAttributeStatus (err : String) : Status :=
  invalidWithDetails "Request could not be processed due to invalid 'attribute_update'."
    (newBadRequest "attribute_update" err)

/-! ## Messages -/

structure CheckRequest (α : Type) where
  requestIndex : Int
  attributeUpdate : α

structure CheckResponse (α : Type) where
  requestIndex : Int := 0
  attributeUpdate : α
  result : Status := {}
  expiration : Int := 0

structure ReportRequest (α : Type) where
  requestIndex : Int
  attributeUpdate : α

structure ReportResponse (α : Type) where
  requestIndex : Int := 0
  attributeUpdate : α
  result : Status := {}

structure QuotaRequest (α : Type) where
  requestIndex : Int
  attributeUpdate : α
  quota : String
  amount : Int
  deduplicationId : String
  bestEffort : Bool

structure QuotaResponse (α : Type) where
  requestIndex : Int := 0
  attributeUpdate : α
  result : Status := {}
  expiration : Int := 0
  amount : Int := 0

/-- `aspect.QuotaMethodResp`: what a quota aspect grants. -/
structure QuotaMethodResp where
  amount : Int
  expiration : Int

/-! ## Methods -/

/-- One API method as `dispatcher` receives it: `getState`'s fresh response and its
pointers into the messages, and the `worker` closure, given the aspect dispatcher's
outcome `Out`. -/
structure Method (Req Resp Out α : Type) where
  /-- The response `getState` allocates. -/
  newResponse : Resp
  requestIndex : Req → Int
  responseIndex : Resp → Int
  /-- `requestAttrs`: the request's `AttributeUpdate`. -/
  requestAttrs : Req → α
  /-- `responseAttrs`: the response's `AttributeUpdate`. -/
  responseAttrs : Resp → α
  /-- `*result = st`. -/
  setResult : Resp → Status → Resp
  /-- `respTracker.ApplyBag(…, responseAttrs)` overwriting the response's delta. -/
  setResponseAttrs : Resp → α → Resp
  /-- The method's handler (`handleCheck`, …) run on the request and the response. -/
  worker : Req → Resp → Out → Resp

variable {α : Type}

/-- `handleCheck`: echo the index, store the aspects' status, and a fixed 5 s expiration. -/
def handleCheck (req : CheckRequest α) (resp : CheckResponse α) (out : Status) :
    CheckResponse α :=
  { resp with requestIndex := req.requestIndex, result := out, expiration := 5 * 1000000000 }

/-- `handleReport`: echo the index and store the aspects' status. -/
def handleReport (req : ReportRequest α) (resp : ReportResponse α) (out : Status) :
    ReportResponse α :=
  { resp with requestIndex := req.requestIndex, result := out }

/-- `handleQuota`: echo the index, store the status, and copy the grant when there is one. -/
def handleQuota (req : QuotaRequest α) (resp : QuotaResponse α)
    (out : Option QuotaMethodResp × Status) : QuotaResponse α :=
  let resp := { resp with requestIndex := req.requestIndex, result := out.2 }
  match out.1 with
  | some qmr => { resp with amount := qmr.amount, expiration := qmr.expiration }
  | none => resp

/-- `Check`'s `getState` and `handleCheck`; `empty` is the empty `mixerpb.Attributes`. -/
def check (empty : α) : Method (CheckRequest α) (CheckResponse α) Status α where
  newResponse := { attributeUpdate := empty }
  requestIndex := CheckRequest.requestIndex
  responseIndex := CheckResponse.requestIndex
  requestAttrs := CheckRequest.attributeUpdate
  responseAttrs := CheckResponse.attributeUpdate
  setResult resp st := { resp with result := st }
  setResponseAttrs resp a := { resp with attributeUpdate := a }
  worker := handleCheck

/-- `Report`'s `getState` and `handleReport`. -/
def report (empty : α) : Method (ReportRequest α) (ReportResponse α) Status α where
  newResponse := { attributeUpdate := empty }
  requestIndex := ReportRequest.requestIndex
  responseIndex := ReportResponse.requestIndex
  requestAttrs := ReportRequest.attributeUpdate
  responseAttrs := ReportResponse.attributeUpdate
  setResult resp st := { resp with result := st }
  setResponseAttrs resp a := { resp with attributeUpdate := a }
  worker := handleReport

/-- `Quota`'s `getState` and `handleQuota`. -/
def quota (empty : α) :
    Method (QuotaRequest α) (QuotaResponse α) (Option QuotaMethodResp × Status) α where
  newResponse := { attributeUpdate := empty }
  requestIndex := QuotaRequest.requestIndex
  responseIndex := QuotaResponse.requestIndex
  requestAttrs := QuotaRequest.attributeUpdate
  responseAttrs := QuotaResponse.attributeUpdate
  setResult resp st := { resp with result := st }
  setResponseAttrs resp a := { resp with attributeUpdate := a }
  worker := handleQuota

/-! ## What the methods share -/

variable {Req Resp Out : Type}

/-- The worker echoes the request's index into the response. -/
def Method.EchoesIndex (m : Method Req Resp Out α) : Prop :=
  ∀ req resp out, m.responseIndex (m.worker req resp out) = m.requestIndex req

/-- Writing the delta or the status leaves the index alone, and the delta written is the
one read back. -/
structure Method.Lawful (m : Method Req Resp Out α) : Prop where
  index_setResult : ∀ resp st, m.responseIndex (m.setResult resp st) = m.responseIndex resp
  index_setAttrs : ∀ resp a, m.responseIndex (m.setResponseAttrs resp a) = m.responseIndex resp
  attrs_setAttrs : ∀ resp a, m.responseAttrs (m.setResponseAttrs resp a) = a
  attrs_setResult : ∀ resp st, m.responseAttrs (m.setResult resp st) = m.responseAttrs resp
  echoes : m.EchoesIndex

theorem check_lawful (empty : α) : (check empty).Lawful :=
  ⟨fun _ _ => rfl, fun _ _ => rfl, fun _ _ => rfl, fun _ _ => rfl, fun _ _ _ => rfl⟩

theorem report_lawful (empty : α) : (report empty).Lawful :=
  ⟨fun _ _ => rfl, fun _ _ => rfl, fun _ _ => rfl, fun _ _ => rfl, fun _ _ _ => rfl⟩

theorem quota_lawful (empty : α) : (quota empty).Lawful := by
  refine ⟨fun _ _ => rfl, fun _ _ => rfl, fun _ _ => rfl, fun _ _ => rfl, ?_⟩
  intro req resp out
  rcases out with ⟨_ | _, _⟩ <;> rfl

end Mixer.Api
