import Mixer.Api.Messages
import Mixer.Lists

/-!
# The unary API server

The later `grpcServer` of `src/unnamed/part_010` (lines 275–478) serves `Check`, `Report`
and `Quota` as unary calls. One function, `dispatch`, does what every method shares: it
decodes the request's attributes into a bag with the server's global dictionary, runs the
aspect dispatcher's `Preprocess` on it and a fresh response bag, merges the response bag
into the request bag, and only then runs the method's `worker`. The worker's status is
written into the response when the method passes a `result` pointer and is otherwise the
call's status; `ToProto` writes the response bag into the response when the method passes
an `outAttrs` pointer; and `makeGRPCError` turns the status into the call's error, `nil`
for `OK`.

The model threads the method's response `R` through `dispatch`: the two pointers of
`dispatchState` become functions that update one field of it, and the worker closure,
which writes other fields of the response (`Check` its cachability, `Quota` the grant),
takes it and returns it. Package `attribute` and the aspect dispatcher are outside this
repository: `BagLib` and `AspectDispatcher` take what the server calls of them as
parameters, with what each call does to the bags, so every theorem holds for every
implementation of them.

Mirroring notes:
- `requestBag.Done()` and `responseBag.Done()` hand the bags back to their pool on every
  path past `GetBagFromProto`; they change nothing a caller sees and are not modelled, nor
  are the `glog` calls and `statusString`, which only feed the log.
- `grpc.Errorf(code, format)` is `nil` for `OK` and otherwise formats the status message
  as a format with no operands; `sprintf` is that call of `fmt.Sprintf`.
- `ReportResponse` has no field this code writes: `Report` returns the request, whose
  attribute sets its loop rewrites in place, and the error.
- `time.Duration` values are nanoseconds in `Int`; the dictionary's `int32` indices are
  `BitVec 32`.
-/

namespace Mixer.Api.Unary

/-- `mixerpb.Attributes`: the per-message dictionary `Words`, which `Report` reads and
rewrites, and the other fields, which only package `attribute` reads. -/
structure Attributes (A : Type) where
  words : List String
  body : A

/-- The global dictionary's reverse map, from word to index. -/
abbrev WordMap := AList fun _ : String => BitVec 32

/-- What the server uses of package `attribute`, and the zero `mixerpb.Attributes`. -/
structure BagLib (A β : Type) where
  /-- The fields of `mixerpb.Attributes{}` other than `Words`. -/
  zeroBody : A
  /-- `attribute.GetBagFromProto(attrs, globalWords)`. -/
  getBagFromProto : Attributes A → List String → Except String β
  /-- `attribute.GetMutableBag(nil)`. -/
  getMutableBag : β
  /-- `requestBag.Merge(responseBag)`: the merged request bag, or the error. -/
  merge : β → β → Except String β
  /-- `responseBag.ToProto(output, globalDict)`: the message `output` afterwards. -/
  toProto : β → WordMap → Attributes A → Attributes A

/-- `mixerpb.Attributes{}`. -/
def BagLib.zeroAttributes {A β : Type} (lib : BagLib A β) : Attributes A := ⟨[], lib.zeroBody⟩

/-- What a method of the aspect dispatcher returns, and both bags as it leaves them. -/
structure AspectOut (β : Type) where
  status : Status
  requestBag : β
  responseBag : β

/-- `aspect.QuotaMethodArgs`. -/
structure QuotaMethodArgs where
  deduplicationID : String
  quota : String
  amount : Int
  bestEffort : Bool
  deriving DecidableEq, Repr

/-- `adapterManager.AspectDispatcher`: each method runs on the request and the response bag. -/
structure AspectDispatcher (β : Type) where
  preprocess : β → β → AspectOut β
  check : β → β → AspectOut β
  report : β → β → AspectOut β
  quota : β → β → QuotaMethodArgs → Option QuotaMethodResp × AspectOut β

/-- `grpcServer`: the aspect dispatcher and the global dictionary, as words and as the
reverse map (the goroutine pool is not used by these methods). -/
structure Server (β : Type) where
  aspectDispatcher : AspectDispatcher β
  words : List String
  wordMap : WordMap

/-! ## Messages -/

/-- `Cachability`: how long, and for how many uses, a client may reuse a `Check` answer. -/
structure Cachability where
  /-- `Duration`, in nanoseconds. -/
  duration : Int := 0
  useCount : Int := 0
  deriving DecidableEq, Repr

structure CheckRequest (A : Type) where
  attributes : Attributes A

structure CheckResponse (A : Type) where
  attributes : Attributes A
  status : Status := {}
  cachability : Cachability := {}

structure ReportRequest (A : Type) where
  attributes : List (Attributes A)
  defaultWords : List String

structure QuotaRequest (A : Type) where
  attributes : Attributes A
  quota : String
  amount : Int
  deduplicationId : String
  bestEffort : Bool

structure QuotaResponse where
  amount : Int := 0
  expiration : Int := 0
  deriving DecidableEq, Repr

/-- An error of `grpc.Errorf`: its code and its formatted description. -/
structure RpcError where
  code : Code
  desc : String
  deriving DecidableEq, Repr

/-- `status.WithInternal(msg)`. -/
def withInternal (msg : String) : Status := { code := .internal, message := msg }

/-- The message of a request whose attributes do not decode. -/
def invalidAttributes : String := "Request could not be processed due to invalid 'attributes'."

/-- The message of a request whose bags do not merge. -/
def unmergeable : String := "The results from the request preprocessing could not be merged."

/-- The cachability `Check`'s worker writes: 5 s, 10000 uses. -/
def checkCachability : Cachability := { duration := 5 * 1000000000, useCount := 10000 }

/-! ## `NewGRPCServer` -/

/-- The loop of `NewGRPCServer`: `wordMap[words[i]] = int32(i)`, for `i` upward. -/
def wordMapOf (words : List String) : WordMap :=
  words.enum.foldl (fun m e => m.insert e.2 (BitVec.ofNat 32 e.1)) ∅

/-- `NewGRPCServer`. -/
def newGRPCServer {β : Type} (aspectDispatcher : AspectDispatcher β) : Server β :=
  let words := ["request.size"]
  { aspectDispatcher, words, wordMap := wordMapOf words }

/-- A word the rest of the loop does not visit keeps its index. -/
theorem lookup_foldl_insert_of_not_mem {w : String} (l : List String) (n : Nat) (m : WordMap)
    (hw : w ∉ l) :
    ((l.enumFrom n).foldl (fun m e => m.insert e.2 (BitVec.ofNat 32 e.1)) m).lookup w =
      m.lookup w := by
  refine (lookup_foldl_insert Prod.snd (fun e : Nat × String => BitVec.ofNat 32 e.1) w _ m).trans ?_
  rw [List.find?_eq_none.mpr fun e he h => hw (by
    simpa [← of_decide_eq_true h] using List.snd_mem_of_mem_enumFrom (List.mem_reverse.mp he))]
  rfl

/-- The loop from index `n` maps the `i`-th word of a list without repeats to `n + i`. -/
theorem lookup_foldl_insert_enumFrom : ∀ (l : List String) (n : Nat) (m : WordMap), l.Nodup →
    ∀ i (hi : i < l.length),
      ((l.enumFrom n).foldl (fun m e => m.insert e.2 (BitVec.ofNat 32 e.1)) m).lookup
        (l.get ⟨i, hi⟩) = some (BitVec.ofNat 32 (n + i))
  | x :: l, n, m, hl, 0, _ =>
    (lookup_foldl_insert_of_not_mem l _ _ (List.nodup_cons.mp hl).1).trans (AList.lookup_insert _)
  | x :: l, n, m, hl, i + 1, hi => by
    rw [List.enumFrom_cons, List.foldl_cons, show n + (i + 1) = n + 1 + i by omega]
    exact lookup_foldl_insert_enumFrom l (n + 1) _ (List.nodup_cons.mp hl).2 i
      (Nat.lt_of_succ_lt_succ hi)

/-- `NewGRPCServer`'s loop inverts a word list without repeats: each word maps to its index,
and no other string is in the map. -/
theorem wordMapOf_inverse (words : List String) (h : words.Nodup) :
    (∀ i (hi : i < words.length),
      (wordMapOf words).lookup (words.get ⟨i, hi⟩) = some (BitVec.ofNat 32 i)) ∧
    ∀ w, w ∉ words → (wordMapOf words).lookup w = none := by
  refine ⟨fun i hi => ?_, fun w hw => lookup_foldl_insert_of_not_mem words 0 ∅ hw⟩
  rw [wordMapOf, List.enum, lookup_foldl_insert_enumFrom words 0 ∅ h i hi, Nat.zero_add]

theorem wordMapOf_inverse_server :
    ["request.size"].Nodup ∧
      (∀ i (hi : i < ["request.size"].length),
        (wordMapOf ["request.size"]).lookup (["request.size"].get ⟨i, hi⟩) =
          some (BitVec.ofNat 32 i)) ∧
      ∀ w, w ∉ ["request.size"] → (wordMapOf ["request.size"]).lookup w = none :=
  have h : ["request.size"].Nodup := by decide
  ⟨h, wordMapOf_inverse _ h⟩

/-! ## `dispatch` and the methods -/

section Dispatch

variable {A β R : Type} (sprintf : String → String) (lib : BagLib A β)

/-- `makeGRPCError`: `grpc.Errorf(codes.Code(status.Code), status.Message)`. -/
def makeGRPCError (status : Status) : Option RpcError :=
  if status.code = .ok then none else some ⟨status.code, sprintf status.message⟩

/-- `dispatchState`: the request's attributes, and where in the response `R` to write the
response bag and the worker's status (`none` for a nil pointer). -/
structure DispatchState (A R : Type) where
  inAttrs : Attributes A
  outAttrs : Option ((Attributes A → Attributes A) → R → R)
  result : Option (Status → R → R)

/-- Where `dispatch` stands before `ToProto`: the status `out`, the response bag and the
response. -/
structure Worked (β R : Type) where
  out : Status
  responseBag : β
  resp : R

/-- The part of `dispatch` from `Preprocess` to the worker. -/
def work (ad : AspectDispatcher β) (dState : DispatchState A R)
    (worker : β → β → R → AspectOut β × R) (requestBag : β) (resp : R) : Worked β R :=
  let pre := ad.preprocess requestBag lib.getMutableBag
  if pre.status.code = .ok then
    match lib.merge pre.requestBag pre.responseBag with
    | .error _ => ⟨withInternal unmergeable, pre.responseBag, resp⟩
    | .ok requestBag =>
      let w := worker requestBag pre.responseBag resp
      match dState.result with
      | some result => ⟨{}, w.1.responseBag, result w.1.status w.2⟩
      | none => ⟨w.1.status, w.1.responseBag, w.2⟩
  else ⟨pre.status, pre.responseBag, resp⟩

/-- `responseBag.ToProto(dState.outAttrs, s.wordMap)` when `outAttrs` is not nil. -/
def writeOutAttrs (dState : DispatchState A R) (wordMap : WordMap) (responseBag : β)
    (resp : R) : R :=
  match dState.outAttrs with
  | some outAttrs => outAttrs (lib.toProto responseBag wordMap) resp
  | none => resp

/-- `grpcServer.dispatch`, on the response `resp` the method's closures write into. -/
def Server.dispatch (s : Server β) (dState : DispatchState A R)
    (worker : β → β → R → AspectOut β × R) (resp : R) : R × Option RpcError :=
  match lib.getBagFromProto dState.inAttrs s.words with
  | .error err =>
    (resp, makeGRPCError sprintf
      (invalidWithDetails invalidAttributes (newBadRequest "attributes" err)))
  | .ok requestBag =>
    let w := work lib s.aspectDispatcher dState worker requestBag resp
    (writeOutAttrs lib dState s.wordMap w.responseBag w.resp, makeGRPCError sprintf w.out)

/-- `Check`'s `dispatchState`: the response's attributes and status are the pointers. -/
def checkState (req : CheckRequest A) : DispatchState A (CheckResponse A) :=
  { inAttrs := req.attributes
    outAttrs := some fun f resp => { resp with attributes := f resp.attributes }
    result := some fun st resp => { resp with status := st } }

/-- `Check`'s worker: the Check aspects, then the cachability written into the response. -/
def Server.checkWorker (s : Server β) (requestBag responseBag : β) (resp : CheckResponse A) :
    AspectOut β × CheckResponse A :=
  (s.aspectDispatcher.check requestBag responseBag, { resp with cachability := checkCachability })

/-- `Check`. -/
def Server.check (s : Server β) (req : CheckRequest A) : CheckResponse A × Option RpcError :=
  s.dispatch sprintf lib (checkState req) s.checkWorker { attributes := lib.zeroAttributes }

/-- `Report`'s substitution of the request's default words into a set without words. -/
def withDefaultWords (defaultWords : List String) (attrs : Attributes A) : Attributes A :=
  if attrs.words.length = 0 then { attrs with words := defaultWords } else attrs

/-- `Report`'s worker: the Report aspects; the response is not written. -/
def Server.reportWorker (s : Server β) (requestBag responseBag : β) (_ : Unit) :
    AspectOut β × Unit :=
  (s.aspectDispatcher.report requestBag responseBag, ())

/-- The dispatch of one attribute set of `Report`, with nil pointers. -/
def Server.reportOne (s : Server β) (attrs : Attributes A) : Option RpcError :=
  (s.dispatch sprintf lib ⟨attrs, none, none⟩ s.reportWorker ()).2

/-- The loop of `Report`: each set gets the default words in place and is dispatched, and
the first error ends the call. The sets as the loop leaves them, and the error. -/
def Server.reportLoop (s : Server β) (defaultWords : List String) :
    List (Attributes A) → List (Attributes A) × Option RpcError
  | [] => ([], none)
  | attrs :: rest =>
    let attrs := withDefaultWords defaultWords attrs
    match s.reportOne sprintf lib attrs with
    | some err => (attrs :: rest, some err)
    | none =>
      let r := s.reportLoop defaultWords rest
      (attrs :: r.1, r.2)

/-- `Report`: the request as its loop leaves it, and the error. -/
def Server.report (s : Server β) (req : ReportRequest A) : ReportRequest A × Option RpcError :=
  let r := s.reportLoop sprintf lib req.defaultWords req.attributes
  ({ req with attributes := r.1 }, r.2)

/-- The `QuotaMethodArgs` `Quota`'s worker builds from the request. -/
def QuotaRequest.args (req : QuotaRequest A) : QuotaMethodArgs :=
  { quota := req.quota, amount := req.amount, deduplicationID := req.deduplicationId,
    bestEffort := req.bestEffort }

/-- `if qmr != nil { resp.Amount = qmr.Amount; resp.Expiration = qmr.Expiration }`. -/
def copyGrant (resp : QuotaResponse) : Option QuotaMethodResp → QuotaResponse
  | some qmr => { resp with amount := qmr.amount, expiration := qmr.expiration }
  | none => resp

/-- `Quota`'s worker: the Quota aspects on the request's arguments, and their grant copied. -/
def Server.quotaWorker (s : Server β) (req : QuotaRequest A) (requestBag responseBag : β)
    (resp : QuotaResponse) : AspectOut β × QuotaResponse :=
  let q := s.aspectDispatcher.quota requestBag responseBag req.args
  (q.2, copyGrant resp q.1)

/-- `Quota`, with nil pointers. -/
def Server.quota (s : Server β) (req : QuotaRequest A) : QuotaResponse × Option RpcError :=
  s.dispatch sprintf lib ⟨req.attributes, none, none⟩ (s.quotaWorker req) {}

end Dispatch


/-! ## What `dispatch` does, path by path -/

section Paths

variable {A β R : Type} (sprintf : String → String) (lib : BagLib A β)

theorem makeGRPCError_eq_none {st : Status} : makeGRPCError sprintf st = none ↔ st.code = .ok := by
  unfold makeGRPCError
  split_ifs with h <;> simp [h]

theorem makeGRPCError_of_ne {st : Status} (h : st.code ≠ .ok) :
    makeGRPCError sprintf st = some ⟨st.code, sprintf st.message⟩ :=
  if_neg h

theorem code_ne_ok_of_makeGRPCError {st : Status} {e : RpcError}
    (h : makeGRPCError sprintf st = some e) : e.code ≠ .ok := by
  unfold makeGRPCError at h
  split_ifs at h with hc
  cases h
  exact hc

variable (ad : AspectDispatcher β) (dState : DispatchState A R)
  (worker : β → β → R → AspectOut β × R) (requestBag : β) (resp : R)

/-- The middle of `dispatch` ends in one of three ways: `Preprocess` fails, the bags do not
merge, or the worker runs on the merged bag and its status goes where `result` says. -/
theorem work_cases :
    let pre := ad.preprocess requestBag lib.getMutableBag
    pre.status.code ≠ .ok ∧ work lib ad dState worker requestBag resp =
        ⟨pre.status, pre.responseBag, resp⟩ ∨
      pre.status.code = .ok ∧ (∃ e, lib.merge pre.requestBag pre.responseBag = .error e) ∧
        work lib ad dState worker requestBag resp =
          ⟨withInternal unmergeable, pre.responseBag, resp⟩ ∨
      pre.status.code = .ok ∧ ∃ merged, lib.merge pre.requestBag pre.responseBag = .ok merged ∧
        let w := worker merged pre.responseBag resp
        work lib ad dState worker requestBag resp =
          match dState.result with
          | some result => ⟨{}, w.1.responseBag, result w.1.status w.2⟩
          | none => ⟨w.1.status, w.1.responseBag, w.2⟩ := by
  simp only [work]
  generalize ad.preprocess requestBag lib.getMutableBag = pre
  by_cases h : pre.status.code = .ok
  · rcases lib.merge pre.requestBag pre.responseBag with e | merged <;> simp [h]
  · simp [h]

variable {ad dState worker requestBag resp} {s : Server β}

theorem dispatch_of_error {err : String}
    (h : lib.getBagFromProto dState.inAttrs s.words = .error err) :
    s.dispatch sprintf lib dState worker resp =
      (resp, some ⟨.invalidArgument, sprintf invalidAttributes⟩) := by
  simp only [Server.dispatch, h]
  rfl

theorem dispatch_of_ok (h : lib.getBagFromProto dState.inAttrs s.words = .ok requestBag) :
    s.dispatch sprintf lib dState worker resp =
      let w := work lib s.aspectDispatcher dState worker requestBag resp
      (writeOutAttrs lib dState s.wordMap w.responseBag w.resp, makeGRPCError sprintf w.out) := by
  simp only [Server.dispatch, h]

/-- Every error `dispatch` returns has a code other than `OK`. -/
theorem dispatch_code_ne_ok {e : RpcError} (h : (s.dispatch sprintf lib dState worker resp).2 = some e) :
    e.code ≠ .ok := by
  rcases hb : lib.getBagFromProto dState.inAttrs s.words with err | rb
  · rw [dispatch_of_error sprintf lib hb] at h
    cases h
    exact (by decide : Code.invalidArgument ≠ .ok)
  · rw [dispatch_of_ok sprintf lib hb] at h
    exact code_ne_ok_of_makeGRPCError sprintf h

end Paths

/-! ## What each method answers -/

section Answers

variable {A β : Type} (sprintf : String → String) (lib : BagLib A β) (s : Server β)

/-- `Check` answers in one of four ways. Either the attributes decode, `Preprocess` succeeds
and the bags merge; then the call succeeds whatever the Check aspects decide, and the
response carries their status, the cachability and the response bag they leave. Or the call
fails, with no status and no cachability written: with `INVALID_ARGUMENT` and no attributes
when the attributes do not decode; with `Preprocess`'s own code and message when it fails;
or with `INTERNAL` when the bags do not merge, the response bag `Preprocess` left written
in these two cases. -/
theorem Server.check_answers (req : CheckRequest A) :
    (∃ rb pre merged, lib.getBagFromProto req.attributes s.words = .ok rb ∧
      s.aspectDispatcher.preprocess rb lib.getMutableBag = pre ∧ pre.status.code = .ok ∧
      lib.merge pre.requestBag pre.responseBag = .ok merged ∧
      let out := s.aspectDispatcher.check merged pre.responseBag
      s.check sprintf lib req =
        ({ attributes := lib.toProto out.responseBag s.wordMap lib.zeroAttributes
           status := out.status
           cachability := checkCachability }, none)) ∨
    (∃ err, lib.getBagFromProto req.attributes s.words = .error err ∧
      s.check sprintf lib req =
        ({ attributes := lib.zeroAttributes }, some ⟨.invalidArgument, sprintf invalidAttributes⟩)) ∨
    (∃ rb pre, lib.getBagFromProto req.attributes s.words = .ok rb ∧
      s.aspectDispatcher.preprocess rb lib.getMutableBag = pre ∧ pre.status.code ≠ .ok ∧
      s.check sprintf lib req =
        ({ attributes := lib.toProto pre.responseBag s.wordMap lib.zeroAttributes },
          some ⟨pre.status.code, sprintf pre.status.message⟩)) ∨
    ∃ rb pre err, lib.getBagFromProto req.attributes s.words = .ok rb ∧
      s.aspectDispatcher.preprocess rb lib.getMutableBag = pre ∧ pre.status.code = .ok ∧
      lib.merge pre.requestBag pre.responseBag = .error err ∧
      s.check sprintf lib req =
        ({ attributes := lib.toProto pre.responseBag s.wordMap lib.zeroAttributes },
          some ⟨.internal, sprintf unmergeable⟩) := by
  unfold Server.check
  rcases hb : lib.getBagFromProto req.attributes s.words with err | rb
  · exact .inr (.inl ⟨err, rfl, dispatch_of_error sprintf lib hb⟩)
  rw [dispatch_of_ok sprintf lib hb]
  rcases work_cases lib s.aspectDispatcher (checkState req) s.checkWorker rb
    { attributes := lib.zeroAttributes } with ⟨h, hw⟩ | ⟨h, ⟨e, he⟩, hw⟩ | ⟨h, merged, hm, hw⟩
  · refine .inr (.inr (.inl ⟨rb, _, rfl, rfl, h, ?_⟩))
    rw [hw]
    exact congrArg _ (makeGRPCError_of_ne sprintf h)
  · exact .inr (.inr (.inr ⟨rb, _, e, rfl, rfl, h, he, by rw [hw]; rfl⟩))
  · exact .inl ⟨rb, _, merged, rfl, rfl, h, hm, by rw [hw]; rfl⟩

/-- A bag library over one bag, where every set decodes and every merge succeeds. -/
def unitLib : BagLib Unit Unit :=
  ⟨(), fun _ _ => .ok (), (), fun _ _ => .ok (), fun _ _ a => a⟩

/-- A server whose `Preprocess` succeeds and whose Check aspects deny every request. -/
def denyingServer : Server Unit :=
  newGRPCServer
    { preprocess := fun _ _ => ⟨{}, (), ()⟩
      check := fun _ _ => ⟨{ code := .permissionDenied }, (), ()⟩
      report := fun _ _ => ⟨{}, (), ()⟩
      quota := fun _ _ _ => (none, ⟨{}, (), ()⟩) }

/-- A denied `Check` is no RPC error: the denial is in the response, with the cachability. -/
example :
    (denyingServer.check id unitLib ⟨⟨[], ()⟩⟩).2 = none ∧
      (denyingServer.check id unitLib ⟨⟨[], ()⟩⟩).1.status.code = .permissionDenied ∧
      (denyingServer.check id unitLib ⟨⟨[], ()⟩⟩).1.cachability = checkCachability :=
  ⟨rfl, rfl, rfl⟩

/-- `Quota` answers in one of two ways. Either the attributes decode, `Preprocess` succeeds
and the bags merge; then the Quota aspects' status is the call's error (`nil` for `OK`), so a
denial is an RPC error, and their grant is copied into the response whatever the status. Or
the call fails with a code other than `OK` and the response as `Quota` made it. -/
theorem Server.quota_answers (req : QuotaRequest A) :
    (∃ rb pre merged, lib.getBagFromProto req.attributes s.words = .ok rb ∧
      s.aspectDispatcher.preprocess rb lib.getMutableBag = pre ∧ pre.status.code = .ok ∧
      lib.merge pre.requestBag pre.responseBag = .ok merged ∧
      let q := s.aspectDispatcher.quota merged pre.responseBag req.args
      s.quota sprintf lib req = (copyGrant {} q.1, makeGRPCError sprintf q.2.status)) ∨
    ∃ e : RpcError, e.code ≠ .ok ∧ s.quota sprintf lib req = ({}, some e) := by
  unfold Server.quota
  rcases hb : lib.getBagFromProto req.attributes s.words with err | rb
  · rw [dispatch_of_error sprintf lib hb]
    exact .inr ⟨_, (by decide : Code.invalidArgument ≠ .ok), rfl⟩
  rw [dispatch_of_ok sprintf lib hb]
  rcases work_cases lib s.aspectDispatcher ⟨req.attributes, none, none⟩ (s.quotaWorker req) rb
    {} with ⟨h, hw⟩ | ⟨-, -, hw⟩ | ⟨h, merged, hm, hw⟩
  · rw [hw]
    refine .inr ⟨_, ?_, Prod.ext rfl (makeGRPCError_of_ne sprintf h)⟩
    exact h
  · rw [hw]
    exact .inr ⟨_, (by decide : Code.internal ≠ .ok), rfl⟩
  · exact .inl ⟨rb, _, merged, rfl, rfl, h, hm, by rw [hw]; rfl⟩

/-- An attribute set of `Report` passes: it decodes, `Preprocess` succeeds, the bags merge,
and the Report aspects return `OK`. -/
def Server.ReportPasses (attrs : Attributes A) : Prop :=
  ∃ rb pre merged, lib.getBagFromProto attrs s.words = .ok rb ∧
    s.aspectDispatcher.preprocess rb lib.getMutableBag = pre ∧ pre.status.code = .ok ∧
    lib.merge pre.requestBag pre.responseBag = .ok merged ∧
    (s.aspectDispatcher.report merged pre.responseBag).status.code = .ok

theorem Server.reportOne_eq_none_iff (attrs : Attributes A) :
    s.reportOne sprintf lib attrs = none ↔ s.ReportPasses lib attrs := by
  unfold Server.reportOne Server.ReportPasses
  rcases hb : lib.getBagFromProto attrs s.words with err | rb
  · rw [dispatch_of_error sprintf lib hb]
    simp
  rw [dispatch_of_ok sprintf lib hb]
  rcases work_cases lib s.aspectDispatcher ⟨attrs, none, none⟩ s.reportWorker rb ()
    with ⟨h, hw⟩ | ⟨h, ⟨e, hm⟩, hw⟩ | ⟨h, merged, hm, hw⟩
  · simp [hw, makeGRPCError_eq_none, h]
  · simp [hw, makeGRPCError_eq_none, hm, withInternal]
  · simp [hw, makeGRPCError_eq_none, h, hm, Server.reportWorker]

/-- The loop of `Report`, run on `sets`: the first set whose dispatch fails ends it. -/
theorem Server.reportLoop_outcome (dw : List String) : ∀ sets : List (Attributes A),
    ((∀ a ∈ sets, s.reportOne sprintf lib (withDefaultWords dw a) = none) ∧
        s.reportLoop sprintf lib dw sets = (sets.map (withDefaultWords dw), none)) ∨
      ∃ pre a post err, sets = pre ++ a :: post ∧
        (∀ b ∈ pre, s.reportOne sprintf lib (withDefaultWords dw b) = none) ∧
        s.reportOne sprintf lib (withDefaultWords dw a) = some err ∧
        s.reportLoop sprintf lib dw sets =
          (pre.map (withDefaultWords dw) ++ withDefaultWords dw a :: post, some err)
  | [] => .inl ⟨by simp, rfl⟩
  | a :: rest => by
    rcases ha : s.reportOne sprintf lib (withDefaultWords dw a) with _ | err
    · have hcons : s.reportLoop sprintf lib dw (a :: rest) =
          (withDefaultWords dw a :: (s.reportLoop sprintf lib dw rest).1,
            (s.reportLoop sprintf lib dw rest).2) := by
        simp only [Server.reportLoop, ha]
      rcases Server.reportLoop_outcome dw rest with ⟨hall, hl⟩ | ⟨pre, b, post, err, rfl, hpre, hb, hl⟩
      · exact .inl ⟨List.forall_mem_cons.mpr ⟨ha, hall⟩, by rw [hcons, hl]; rfl⟩
      · exact .inr ⟨a :: pre, b, post, err, rfl, List.forall_mem_cons.mpr ⟨ha, hpre⟩, hb,
          by rw [hcons, hl]; rfl⟩
    · exact .inr ⟨[], a, rest, err, rfl, by simp, ha, by simp only [Server.reportLoop, ha]; rfl⟩

/-- `Report` dispatches its attribute sets in order, each with the request's default words
written in when it has none, until the first that does not pass: the call then fails with a
code other than `OK`, and the sets after it are neither dispatched nor rewritten. When every
set passes, the call succeeds with every set rewritten. -/
theorem Server.report_first_error (req : ReportRequest A) :
    ((∀ a ∈ req.attributes, s.ReportPasses lib (withDefaultWords req.defaultWords a)) ∧
        s.report sprintf lib req =
          ({ req with attributes := req.attributes.map (withDefaultWords req.defaultWords) },
            none)) ∨
      ∃ pre a post, req.attributes = pre ++ a :: post ∧
        (∀ b ∈ pre, s.ReportPasses lib (withDefaultWords req.defaultWords b)) ∧
        ¬s.ReportPasses lib (withDefaultWords req.defaultWords a) ∧
        ∃ e : RpcError, e.code ≠ .ok ∧ s.report sprintf lib req =
          ({ req with attributes := pre.map (withDefaultWords req.defaultWords) ++
              withDefaultWords req.defaultWords a :: post }, some e) := by
  rcases s.reportLoop_outcome sprintf lib req.defaultWords req.attributes with
    ⟨hall, hl⟩ | ⟨pre, a, post, err, hs, hpre, ha, hl⟩
  · refine .inl ⟨fun a h => (s.reportOne_eq_none_iff sprintf lib _).mp (hall a h), ?_⟩
    simp only [Server.report, hl]
  · refine .inr ⟨pre, a, post, hs, fun b h => (s.reportOne_eq_none_iff sprintf lib _).mp (hpre b h),
      fun hp => by simp [(s.reportOne_eq_none_iff sprintf lib _).mpr hp] at ha,
      err, dispatch_code_ne_ok sprintf lib ha, by simp only [Server.report, hl]⟩

end Answers

end Mixer.Api.Unary
