import Mathlib.Data.List.AList
import Mathlib.Data.List.Perm.Basic

/-!
# `ConfigureHandlers`: grouping a handler's instances by template, then configuring it

`src/unnamed/part_016` (package `config`). `ConfigureHandlers` runs three passes over a
validated configuration: `inferTypes` infers a type for every constructor,
`groupHandlerInstancesByTemplate` collects, per handler named by an action, the instance
names of each template (`instancesByTemplate.insertInstance`, which keeps one copy of each
name), and `dispatchTypesToHandlers` calls each template's `ConfigureTypeFn` once per
(handler, template) group. A `ConfigureTypeFn` calls into adapter code that may panic;
the code defers a `recover` that marks the handler broken.

The model follows the two functions. Go maps are Mathlib's `AList`s, which carry the
distinct-keys invariant themselves. What the Go runtime decides is a parameter, `Order`:
the order in which each `range` visits a map, any permutation of its entries, chosen anew
for every loop. Everything proved holds for every `Order`.

Mirroring notes:
- A panic is a value of `Panic`, which names what the panic's message prints: the four
  "This code should be called after config has been validated" panics, and the value a
  `ConfigureTypeFn` panicked with.
- `defer func() { if r := recover(); … }()` registers, just before each `ConfigureTypeFn`
  call, a function that runs when `dispatchTypesToHandlers` returns. The model keeps the
  registered recovers as a stack of handler names (`Frame.deferred`, newest first). At
  exit the newest one recovers a pending panic and sets its handler's `isBroken`; the older
  ones find nothing to recover. The function then returns its zero value, `nil`.
- `typesToConfigure` and the inferred types are a type parameter `T` (Go's
  `proto.Message`), the handler builders a type parameter `B`; a `ConfigureTypeFn` is any
  function of the two, so every behaviour of the adapters is covered.
- Logging is not modelled, and `inferTypes` is left out: `ConfigureHandlers` only hands its
  result to `dispatchTypesToHandlers`, which the model takes as an argument.
-/

namespace Mixer.Config

/-- A Go `map[string]V`. -/
abbrev GoMap (V : Type) := AList fun _ : String => V

/-- `pb.Action`: the fields the grouping reads. -/
structure Action where
  handler : String
  instances : List String

/-- `pb.Constructor`: the field the grouping reads. -/
structure Constructor where
  template : String

/-- `HandlerBuilderInfo`: a handler's builder and whether its configuration panicked. -/
structure HandlerBuilderInfo (B : Type) where
  handlerBuilder : B
  isBroken : Bool

/-- What a `ConfigureTypeFn` call does: return `nil`, return an error, or panic. -/
inductive Outcome where
  | ok
  | error (e : String)
  | panic (r : String)

/-- `template.Info`: the field `dispatchTypesToHandlers` calls. -/
structure TemplateInfo (T B : Type) where
  configureTypeFn : GoMap T → B → Outcome

/-- A panic, by what its message names. -/
inductive Panic where
  /-- "unable to find a configured handler with name '%s' referenced in action %v. …" -/
  | handlerNotFound (hName : String)
  /-- "unable to find an a constructor with instance name '%s' referenced in action %v. …" -/
  | constructorNotFound (iName : String)
  /-- "handler %s is not registered. …" -/
  | handlerNotRegistered (hName : String)
  /-- "template %s is not registered. …" -/
  | templateNotRegistered (tmplName : String)
  /-- "instance %s is not found in inferred types. …" -/
  | instanceNotInferred (inst : String)
  /-- A panic inside a `ConfigureTypeFn`, with the value it panicked with. -/
  | configure (r : String)

/-! ## Grouping -/

/-- `instancesByTemplate`: the instance names of a handler, per template. -/
structure InstancesByTemplate where
  instancesNamesByTemplate : GoMap (List String)

/-- `newInstancesByTemplate`. -/
def newInstancesByTemplate : InstancesByTemplate := ⟨∅⟩

/-- `contains`. -/
def contains : List String → String → Bool
  | [], _ => false
  | a :: s, e => if a = e then true else contains s e

/-- `insertInstance`: create the template's list if it has none, then append the name
unless the list read before already holds it. -/
def InstancesByTemplate.insertInstance (t : InstancesByTemplate) (tmplName instName : String) :
    InstancesByTemplate :=
  let instsPerTmpl := t.instancesNamesByTemplate.lookup tmplName
  let m := match instsPerTmpl with
    | none => t.instancesNamesByTemplate.insert tmplName []
    | some _ => t.instancesNamesByTemplate
  if !contains (instsPerTmpl.getD []) instName then
    ⟨m.insert tmplName ((m.lookup tmplName).getD [] ++ [instName])⟩
  else ⟨m⟩

/-- The inner loop of `groupHandlerInstancesByTemplate`: every instance of one action
inserted under its constructor's template. -/
def insertInstances (constructors : GoMap Constructor) (instsByTmpl : InstancesByTemplate) :
    List String → Except Panic InstancesByTemplate
  | [] => .ok instsByTmpl
  | iName :: rest =>
    match constructors.lookup iName with
    | none => .error (.constructorNotFound iName)
    | some cnstr =>
      insertInstances constructors (instsByTmpl.insertInstance cnstr.template iName) rest

/-- The loop of `groupHandlerInstancesByTemplate` over the actions. `result[hName]` and the
local `instsByTmpl` share one Go map, so storing the grouping back after the inner loop is
what the Go code does. -/
def groupActions {B : Type} (constructors : GoMap Constructor)
    (handlers : GoMap (HandlerBuilderInfo B)) :
    GoMap InstancesByTemplate → List Action → Except Panic (GoMap InstancesByTemplate)
  | result, [] => .ok result
  | result, action :: rest =>
    if (handlers.lookup action.handler).isNone then .error (.handlerNotFound action.handler)
    else
      let instsByTmpl := (result.lookup action.handler).getD newInstancesByTemplate
      match insertInstances constructors instsByTmpl action.instances with
      | .error p => .error p
      | .ok instsByTmpl =>
        groupActions constructors handlers (result.insert action.handler instsByTmpl) rest

/-- `groupHandlerInstancesByTemplate`. -/
def groupHandlerInstancesByTemplate {B : Type} (actions : List Action)
    (constructors : GoMap Constructor) (handlers : GoMap (HandlerBuilderInfo B)) :
    Except Panic (GoMap InstancesByTemplate) :=
  groupActions constructors handlers ∅ actions

/-! ## What the grouping computes

Per handler and template the grouping keeps the first occurrence of each instance name, in
the order the actions list them: Lean's `List.eraseDups` of that stream. `insertInstance`
grows a list exactly as `eraseDups` grows under appending one name (`eraseDups_concat`), and
the loop over the actions keeps `Groups`, which says so for every key. -/

section EraseDups

variable {α : Type} [DecidableEq α]

theorem eraseDups_loop_concat (x : α) :
    ∀ (l bs : List α), List.eraseDups.loop (l ++ [x]) bs =
      if x ∈ List.eraseDups.loop l bs then List.eraseDups.loop l bs
      else List.eraseDups.loop l bs ++ [x]
  | [], bs => by
    simp only [List.nil_append, List.eraseDups.loop, List.mem_reverse]
    cases h : bs.elem x <;> simp_all [List.elem_eq_mem]
  | a :: l, bs => by
    simp only [List.cons_append, List.eraseDups.loop]
    split <;> exact eraseDups_loop_concat x l _

theorem eraseDups_concat (l : List α) (x : α) :
    (l ++ [x]).eraseDups = if x ∈ l.eraseDups then l.eraseDups else l.eraseDups ++ [x] :=
  eraseDups_loop_concat x l []

@[simp]
theorem mem_eraseDups {l : List α} {x : α} : x ∈ l.eraseDups ↔ x ∈ l := by
  induction l using List.reverseRecOn generalizing x with
  | nil => rfl
  | append_singleton l y ih =>
    rw [eraseDups_concat]
    split_ifs with hy <;> simp only [List.mem_append, List.mem_singleton, ih]
    rw [ih] at hy
    exact ⟨.inl, fun h => h.elim id (· ▸ hy)⟩

theorem nodup_eraseDups (l : List α) : l.eraseDups.Nodup := by
  induction l using List.reverseRecOn with
  | nil => exact List.nodup_nil
  | append_singleton l y ih =>
    rw [eraseDups_concat]
    split_ifs with hy
    · exact ih
    · exact ih.append (List.nodup_singleton y) (by simpa using hy)

end EraseDups

theorem contains_eq (s : List String) (e : String) : contains s e = decide (e ∈ s) := by
  induction s with
  | nil => rfl
  | cons a s ih => by_cases h : a = e <;> simp [contains, h, ih, Ne.symm]

/-- `instsByTmpl.instancesNamesByTemplate[tmplName]` as Go reads it: `nil` when absent. -/
def InstancesByTemplate.instancesOf (t : InstancesByTemplate) (tmplName : String) : List String :=
  (t.instancesNamesByTemplate.lookup tmplName).getD []

/-- `insertInstance` appends the name to its template's list unless the list holds it, and
leaves every other template's list alone. -/
theorem instancesOf_insertInstance (t : InstancesByTemplate) (tmplName instName t' : String) :
    (t.insertInstance tmplName instName).instancesOf t' =
      if t' = tmplName then
        if instName ∈ t.instancesOf tmplName then t.instancesOf tmplName
        else t.instancesOf tmplName ++ [instName]
      else t.instancesOf t' := by
  unfold InstancesByTemplate.insertInstance InstancesByTemplate.instancesOf
  rcases eq_or_ne t' tmplName with rfl | ht
  · cases h : t.instancesNamesByTemplate.lookup t' with
    | none => simp [h, contains]
    | some v => by_cases hi : instName ∈ v <;> simp [h, hi, contains_eq]
  · cases h : t.instancesNamesByTemplate.lookup tmplName with
    | none => simp [h, ht, contains, AList.lookup_insert_ne ht]
    | some v => by_cases hi : instName ∈ v <;> simp [h, hi, ht, contains_eq, AList.lookup_insert_ne ht]

/-- The names of `insts` whose constructor has template `tmplName`, in order. -/
def ofTemplate (constructors : GoMap Constructor) (tmplName : String) (insts : List String) :
    List String :=
  insts.filter fun i => (constructors.lookup i).map (·.template) = some tmplName

theorem ofTemplate_append (constructors : GoMap Constructor) (tmplName : String)
    (l l' : List String) : ofTemplate constructors tmplName (l ++ l') =
      ofTemplate constructors tmplName l ++ ofTemplate constructors tmplName l' :=
  List.filter_append _ _

theorem ofTemplate_singleton {constructors : GoMap Constructor} {i : String} {c : Constructor}
    (h : constructors.lookup i = some c) (tmplName : String) :
    ofTemplate constructors tmplName [i] = if c.template = tmplName then [i] else [] := by
  by_cases ht : c.template = tmplName <;> simp [ofTemplate, h, ht]

/-- One action's inner loop keeps every template's list the first occurrences among all
names inserted so far. -/
theorem insertInstances_eraseDups {constructors : GoMap Constructor} :
    ∀ {insts : List String} {t : InstancesByTemplate} (pre : List String),
      (∀ i ∈ insts, i ∈ constructors) →
      (∀ tmpl, t.instancesOf tmpl = (ofTemplate constructors tmpl pre).eraseDups) →
      ∃ t', insertInstances constructors t insts = .ok t' ∧
        ∀ tmpl, t'.instancesOf tmpl = (ofTemplate constructors tmpl (pre ++ insts)).eraseDups
  | [], t, pre, _, ht => ⟨t, rfl, by simpa using ht⟩
  | i :: rest, t, pre, hc, ht => by
    obtain ⟨c, hi⟩ := Option.isSome_iff_exists.mp (AList.lookup_isSome.mpr (hc i (.head _)))
    have step : ∀ tmpl, (t.insertInstance c.template i).instancesOf tmpl =
        (ofTemplate constructors tmpl (pre ++ [i])).eraseDups := by
      intro tmpl
      rw [instancesOf_insertInstance, ofTemplate_append, ofTemplate_singleton hi]
      by_cases h : tmpl = c.template
      · simp [h, ht, eraseDups_concat]
      · simp [h, ht, Ne.symm h]
    simp only [insertInstances, hi]
    simpa using insertInstances_eraseDups (pre ++ [i]) (fun j hj => hc j (.tail _ hj)) step

/-- `result[hName].instancesNamesByTemplate[tmplName]` as Go reads it: `nil` when absent. -/
def groupedInstances (result : GoMap InstancesByTemplate) (hName tmplName : String) : List String :=
  ((result.lookup hName).getD newInstancesByTemplate).instancesOf tmplName

/-- The instance names that the actions of `hName` list, in order, whose template is
`tmplName`: the grouping's input for one (handler, template) pair. -/
def instanceStream (constructors : GoMap Constructor) (actions : List Action)
    (hName tmplName : String) : List String :=
  ofTemplate constructors tmplName ((actions.filter (·.handler = hName)).flatMap (·.instances))

/-- What the grouping loop keeps true of `result` after the actions `done`: a key for each
handler they name, and under it the first occurrence of each instance name, per template. -/
structure Groups (constructors : GoMap Constructor) (done : List Action)
    (result : GoMap InstancesByTemplate) : Prop where
  keys : ∀ h, h ∈ result ↔ h ∈ done.map (·.handler)
  insts : ∀ h t, groupedInstances result h t = (instanceStream constructors done h t).eraseDups

theorem groups_nil (constructors : GoMap Constructor) : Groups constructors [] ∅ :=
  ⟨fun h => by simp, fun _ _ => rfl⟩

theorem instanceStream_concat (constructors : GoMap Constructor) (done : List Action) (a : Action)
    (h t : String) : instanceStream constructors (done ++ [a]) h t =
      if a.handler = h then
        instanceStream constructors done h t ++ ofTemplate constructors t a.instances
      else instanceStream constructors done h t := by
  by_cases ha : a.handler = h <;> simp [instanceStream, ha, ofTemplate_append]

/-- Storing an action's grouping back under its handler keeps the invariant. -/
theorem Groups.insert {constructors : GoMap Constructor} {done : List Action}
    {result : GoMap InstancesByTemplate} (g : Groups constructors done result) (a : Action)
    {t' : InstancesByTemplate} (ht' : ∀ t, t'.instancesOf t =
      (instanceStream constructors done a.handler t ++ ofTemplate constructors t a.instances).eraseDups) :
    Groups constructors (done ++ [a]) (result.insert a.handler t') where
  keys h := by
    simp only [AList.mem_insert, g.keys, List.map_append, List.mem_append, List.map_cons,
      List.map_nil, List.mem_singleton, or_comm]
  insts h t := by
    rw [instanceStream_concat]
    by_cases ha : a.handler = h
    · subst ha; simp [groupedInstances, ht']
    · simp [groupedInstances, ha, AList.lookup_insert_ne (Ne.symm ha), ← g.insts]

/-- The loop over the actions, from any accumulator that holds the invariant. -/
theorem groupActions_groups {constructors : GoMap Constructor} {B : Type}
    {handlers : GoMap (HandlerBuilderInfo B)} :
    ∀ {rest done : List Action} {result : GoMap InstancesByTemplate},
      (∀ a ∈ rest, a.handler ∈ handlers) → (∀ a ∈ rest, ∀ i ∈ a.instances, i ∈ constructors) →
      Groups constructors done result →
      ∃ r, groupActions constructors handlers result rest = .ok r ∧
        Groups constructors (done ++ rest) r
  | [], done, result, _, _, g => ⟨result, rfl, by simpa using g⟩
  | a :: rest, done, result, hh, hc, g => by
    have hb : (handlers.lookup a.handler).isNone = false := by
      simpa [← Option.not_isSome, AList.lookup_isSome] using hh a (.head _)
    obtain ⟨t', ht', hspec⟩ := insertInstances_eraseDups _ (hc a (.head _)) (g.insts a.handler)
    obtain ⟨r, hr, gr⟩ := groupActions_groups (fun b hb => hh b (.tail _ hb))
      (fun b hb => hc b (.tail _ hb)) (g.insert a fun t => by rw [hspec, ofTemplate_append]; rfl)
    refine ⟨r, ?_, by simpa using gr⟩
    simp only [groupActions, hb, Bool.false_eq_true, ↓reduceIte]
    rw [show (result.lookup a.handler).getD newInstancesByTemplate = _ from rfl, ht']
    exact hr

/-- When every action's handler and instances resolve, the grouping succeeds; it has a key
for exactly the handlers the actions name, and each (handler, template) list holds the
instances of that handler's actions with that template, each once, in the order of their
first occurrence. -/
theorem groupHandlerInstancesByTemplate_firstOccurrences {B : Type} (actions : List Action)
    (constructors : GoMap Constructor) (handlers : GoMap (HandlerBuilderInfo B))
    (hh : ∀ a ∈ actions, a.handler ∈ handlers)
    (hc : ∀ a ∈ actions, ∀ i ∈ a.instances, i ∈ constructors) :
    ∃ result, groupHandlerInstancesByTemplate actions constructors handlers = .ok result ∧
      (∀ h, h ∈ result ↔ ∃ a ∈ actions, a.handler = h) ∧
      ∀ h t,
        (∀ i, i ∈ groupedInstances result h t ↔ ∃ a ∈ actions, a.handler = h ∧
          i ∈ a.instances ∧ (constructors.lookup i).map (·.template) = some t) ∧
        (groupedInstances result h t).Nodup ∧
        groupedInstances result h t = (instanceStream constructors actions h t).eraseDups := by
  obtain ⟨r, hr, g⟩ := groupActions_groups hh hc (groups_nil constructors)
  refine ⟨r, hr, fun h => by simpa using g.keys h, fun h t => ⟨fun i => ?_, ?_, g.insts h t⟩⟩
  · simp only [g.insts, mem_eraseDups, instanceStream, ofTemplate, List.mem_filter,
      List.mem_flatMap, decide_eq_true_eq]
    exact ⟨fun ⟨⟨a, ⟨ha, hh⟩, hi⟩, ht⟩ => ⟨a, ha, hh, hi, ht⟩,
      fun ⟨a, ha, hh, hi, ht⟩ => ⟨⟨a, ⟨ha, hh⟩, hi⟩, ht⟩⟩
  · simpa [g.insts] using nodup_eraseDups _

/-- Two actions of handler `a` that repeat instances of two templates. -/
def repeatedActions : List Action := [⟨"a", ["i", "j"]⟩, ⟨"a", ["j", "k", "i"]⟩]

def threeConstructors : GoMap Constructor :=
  (((∅ : GoMap Constructor).insert "i" ⟨"t"⟩).insert "j" ⟨"u"⟩).insert "k" ⟨"t"⟩

def oneHandler : GoMap (HandlerBuilderInfo Unit) := (∅ : GoMap _).insert "a" ⟨(), false⟩

example : (instanceStream threeConstructors repeatedActions "a" "t").eraseDups = ["i", "k"] := by
  decide

theorem groupHandlerInstancesByTemplate_firstOccurrences_repeated :
    (∀ a ∈ repeatedActions, a.handler ∈ oneHandler) ∧
    (∀ a ∈ repeatedActions, ∀ i ∈ a.instances, i ∈ threeConstructors) ∧
    ∃ result, groupHandlerInstancesByTemplate repeatedActions threeConstructors oneHandler = .ok result ∧
      (∀ h, h ∈ result ↔ ∃ a ∈ repeatedActions, a.handler = h) ∧
      ∀ h t,
        (∀ i, i ∈ groupedInstances result h t ↔ ∃ a ∈ repeatedActions, a.handler = h ∧
          i ∈ a.instances ∧ (threeConstructors.lookup i).map (·.template) = some t) ∧
        (groupedInstances result h t).Nodup ∧
        groupedInstances result h t = (instanceStream threeConstructors repeatedActions h t).eraseDups :=
  have hh : ∀ a ∈ repeatedActions, a.handler ∈ oneHandler := by decide
  have hc : ∀ a ∈ repeatedActions, ∀ i ∈ a.instances, i ∈ threeConstructors := by decide
  ⟨hh, hc, groupHandlerInstancesByTemplate_firstOccurrences _ _ _ hh hc⟩


/-! ## Configuring -/

/-- The order each `range` over a map takes: any permutation of the map's entries, chosen
anew for the loop over the handlers and for each handler's loop over its templates. -/
structure Order where
  handlers : List ((_ : String) × InstancesByTemplate) → List ((_ : String) × InstancesByTemplate)
  handlers_perm : ∀ l, (handlers l).Perm l
  templates : String → List ((_ : String) × List String) → List ((_ : String) × List String)
  templates_perm : ∀ h l, (templates h l).Perm l

/-- Where `dispatchTypesToHandlers` is in its loops. -/
structure Frame where
  /-- The handlers whose deferred recover is registered, newest first. -/
  deferred : List String
  /-- The (handler, template) groups whose `ConfigureTypeFn` was called, in call order. -/
  calls : List (String × String)

/-- Why the loops stopped early: a returned error or a panic. -/
inductive Stop where
  | error (e : String)
  | panic (p : Panic)

variable {T B : Type} (tmplRepo : String → Option (TemplateInfo T B)) (infrdTypes : GoMap T)

/-- The loop that fills `typesToConfigure` from the inferred types. -/
def typesToConfigure : GoMap T → List String → Except Panic (GoMap T)
  | m, [] => .ok m
  | m, inst :: rest =>
    match infrdTypes.lookup inst with
    | none => .error (.instanceNotInferred inst)
    | some v => typesToConfigure (m.insert inst v) rest

/-- The inner loop of `dispatchTypesToHandlers`, over one handler's templates: look the
template up, collect the types, defer the recover, call `ConfigureTypeFn`. -/
def configureTemplates (hName : String) (hb : HandlerBuilderInfo B) :
    List ((_ : String) × List String) → Frame → Except (Stop × Frame) Frame
  | [], f => .ok f
  | ⟨tmplName, insts⟩ :: rest, f =>
    match tmplRepo tmplName with
    | none => .error (.panic (.templateNotRegistered tmplName), f)
    | some ti =>
      match typesToConfigure infrdTypes ∅ insts with
      | .error p => .error (.panic p, f)
      | .ok types =>
        let f : Frame := ⟨hName :: f.deferred, f.calls ++ [(hName, tmplName)]⟩
        match ti.configureTypeFn types hb.handlerBuilder with
        | .ok => configureTemplates hName hb rest f
        | .error e => .error (.error e, f)
        | .panic r => .error (.panic (.configure r), f)

/-- The outer loop of `dispatchTypesToHandlers`, over the handlers. -/
def configureGroups (order : Order) (handlers : GoMap (HandlerBuilderInfo B)) :
    List ((_ : String) × InstancesByTemplate) → Frame → Except (Stop × Frame) Frame
  | [], f => .ok f
  | ⟨hName, instsByTmpl⟩ :: rest, f =>
    match handlers.lookup hName with
    | none => .error (.panic (.handlerNotRegistered hName), f)
    | some hb =>
      match configureTemplates tmplRepo infrdTypes hName hb
          (order.templates hName instsByTmpl.instancesNamesByTemplate.entries) f with
      | .error stop => .error stop
      | .ok f => configureGroups order handlers rest f

/-- What `dispatchTypesToHandlers` leaves behind: the handlers with their `isBroken` flags,
the `ConfigureTypeFn` calls it made, and its result: `.ok none` for `nil`, `.ok (some e)`
for an error, `.error p` for a panic that escaped. -/
structure Dispatched (B : Type) where
  handlers : GoMap (HandlerBuilderInfo B)
  calls : List (String × String)
  result : Except Panic (Option String)

/-- `hb.isBroken = true`, through the pointer `handlers[hName]` holds. -/
def setBroken (handlers : GoMap (HandlerBuilderInfo B)) (hName : String) :
    GoMap (HandlerBuilderInfo B) :=
  match handlers.lookup hName with
  | none => handlers
  | some hb => handlers.insert hName { hb with isBroken := true }

/-- Leaving `dispatchTypesToHandlers`: the deferred functions run newest first; the newest
recovers a pending panic and marks its handler broken, and the function returns `nil`. -/
def unwind (handlers : GoMap (HandlerBuilderInfo B)) : Except (Stop × Frame) Frame → Dispatched B
  | .ok f => ⟨handlers, f.calls, .ok none⟩
  | .error (.error e, f) => ⟨handlers, f.calls, .ok (some e)⟩
  | .error (.panic p, f) =>
    match f.deferred with
    | [] => ⟨handlers, f.calls, .error p⟩
    | hName :: _ => ⟨setBroken handlers hName, f.calls, .ok none⟩

/-- `dispatchTypesToHandlers`. -/
def dispatchTypesToHandlers (order : Order) (instsByTmpls : GoMap InstancesByTemplate)
    (handlers : GoMap (HandlerBuilderInfo B)) : Dispatched B :=
  unwind handlers <|
    configureGroups tmplRepo infrdTypes order handlers (order.handlers instsByTmpls.entries) ⟨[], []⟩

/-- `ConfigureHandlers`, given what `inferTypes` returned. -/
def configureHandlers (order : Order) (actions : List Action) (constructors : GoMap Constructor)
    (handlers : GoMap (HandlerBuilderInfo B)) (iTypes : Except String (GoMap T)) :
    Dispatched B :=
  match iTypes with
  | .error e => ⟨handlers, [], .ok (some e)⟩
  | .ok iTypes =>
    match groupHandlerInstancesByTemplate actions constructors handlers with
    | .error p => ⟨handlers, [], .error p⟩
    | .ok grpHandlers => dispatchTypesToHandlers tmplRepo iTypes order grpHandlers handlers

/-! ## What dispatching does

The two loops visit the (handler, template) groups in the order `visitOrder` lists them,
and each call's outcome depends on its group alone (`groupOutcome`). The loops call the
groups one after another until one returns an error or panics (`LoopOutcome`), and at exit
the deferred recovers decide the result (`DispatchOutcome`). -/

/-- A (handler, template) group with its instance names, as the loops visit it. -/
structure Group where
  hName : String
  tmplName : String
  insts : List String

/-- The pair a `ConfigureTypeFn` call is recorded under. -/
def Group.key (g : Group) : String × String := (g.hName, g.tmplName)

/-- The groups of one handler's entry, in the order its template loop visits them. -/
def entryGroups (order : Order) (e : (_ : String) × InstancesByTemplate) : List Group :=
  (order.templates e.1 e.2.instancesNamesByTemplate.entries).map fun t => ⟨e.1, t.1, t.2⟩

/-- Every group, in the order the two loops of `dispatchTypesToHandlers` visit them. -/
def visitOrder (order : Order) (instsByTmpls : GoMap InstancesByTemplate) : List Group :=
  (order.handlers instsByTmpls.entries).flatMap (entryGroups order)

/-- What the group's `ConfigureTypeFn` call does, when its template, its instances' types and
its handler resolve. -/
def groupOutcome (handlers : GoMap (HandlerBuilderInfo B)) (g : Group) : Option Outcome :=
  match tmplRepo g.tmplName, typesToConfigure infrdTypes ∅ g.insts, handlers.lookup g.hName with
  | some ti, .ok types, some hb => some (ti.configureTypeFn types hb.handlerBuilder)
  | _, _, _ => none

/-- What the loops do over `groups` from a frame whose calls are `calls₀`: they call every
group, each returning `nil`; or they stop at the first group that returns an error or
panics, after calling it, with that group's handler's recover deferred last. -/
def LoopOutcome (out : Group → Option Outcome) (groups : List Group)
    (calls₀ : List (String × String)) : Except (Stop × Frame) Frame → Prop
  | .ok f => (∀ g ∈ groups, out g = some .ok) ∧ f.calls = calls₀ ++ groups.map Group.key
  | .error (s, f) => ∃ pre g post, groups = pre ++ g :: post ∧ (∀ g' ∈ pre, out g' = some .ok) ∧
      f.calls = calls₀ ++ (pre ++ [g]).map Group.key ∧ f.deferred.head? = some g.hName ∧
      ((∃ e, out g = some (.error e) ∧ s = .error e) ∨
        ∃ p, out g = some (.panic p) ∧ s = .panic (.configure p))

section LoopOutcome

variable {out : Group → Option Outcome} {calls₀ : List (String × String)}

theorem LoopOutcome.append_ok {l₁ l₂ : List Group} {f : Frame}
    {r : Except (Stop × Frame) Frame} (h₁ : LoopOutcome out l₁ calls₀ (.ok f))
    (h₂ : LoopOutcome out l₂ f.calls r) : LoopOutcome out (l₁ ++ l₂) calls₀ r := by
  obtain ⟨hall, hf⟩ := h₁
  rcases r with ⟨s, f'⟩ | f'
  · obtain ⟨pre, g, post, rfl, hpre, hc, hd, hs⟩ := h₂
    refine ⟨l₁ ++ pre, g, post, by simp, ?_, by simp [hc, hf], hd, hs⟩
    simp only [List.mem_append]
    rintro g' (hg | hg)
    exacts [hall g' hg, hpre g' hg]
  · obtain ⟨hall₂, hc⟩ := h₂
    refine ⟨?_, by simp [hc, hf]⟩
    simp only [List.mem_append]
    rintro g' (hg | hg)
    exacts [hall g' hg, hall₂ g' hg]

theorem LoopOutcome.append_error {l₁ : List Group} {s : Stop} {f : Frame}
    (h₁ : LoopOutcome out l₁ calls₀ (.error (s, f))) (l₂ : List Group) :
    LoopOutcome out (l₁ ++ l₂) calls₀ (.error (s, f)) := by
  obtain ⟨pre, g, post, rfl, hpre, hc, hd, hs⟩ := h₁
  exact ⟨pre, g, post ++ l₂, by simp, hpre, hc, hd, hs⟩

end LoopOutcome

theorem typesToConfigure_ok (m : GoMap T) :
    ∀ {insts : List String}, (∀ i ∈ insts, i ∈ infrdTypes) →
      ∃ types, typesToConfigure infrdTypes m insts = .ok types
  | [], _ => ⟨m, rfl⟩
  | i :: rest, h => by
    obtain ⟨v, hv⟩ := Option.isSome_iff_exists.mp (AList.lookup_isSome.mpr (h i (.head _)))
    simp only [typesToConfigure, hv]
    exact typesToConfigure_ok _ fun j hj => h j (.tail _ hj)

theorem groupOutcome_eq {handlers : GoMap (HandlerBuilderInfo B)} {g : Group}
    (h : (groupOutcome tmplRepo infrdTypes handlers g).isSome) :
    ∃ ti types hb, tmplRepo g.tmplName = some ti ∧ typesToConfigure infrdTypes ∅ g.insts = .ok types ∧
      handlers.lookup g.hName = some hb ∧
      groupOutcome tmplRepo infrdTypes handlers g = some (ti.configureTypeFn types hb.handlerBuilder) := by
  unfold groupOutcome at h ⊢
  split at h
  · rename_i ti types hb h₁ h₂ h₃
    exact ⟨ti, types, hb, h₁, h₂, h₃, rfl⟩
  · simp at h

/-- The template loop of one handler, from any frame. -/
theorem configureTemplates_outcome {handlers : GoMap (HandlerBuilderInfo B)} {hName : String}
    {hb : HandlerBuilderInfo B} (hhb : handlers.lookup hName = some hb) :
    ∀ (ts : List ((_ : String) × List String)) (f : Frame),
      (∀ t ∈ ts, (groupOutcome tmplRepo infrdTypes handlers ⟨hName, t.1, t.2⟩).isSome) →
      LoopOutcome (groupOutcome tmplRepo infrdTypes handlers) (ts.map fun t => ⟨hName, t.1, t.2⟩)
        f.calls (configureTemplates tmplRepo infrdTypes hName hb ts f)
  | [], f, _ => ⟨by simp, by simp⟩
  | ⟨tmplName, insts⟩ :: rest, f, hs => by
    obtain ⟨ti, types, hb', hti, htypes, hb'', hout⟩ := groupOutcome_eq tmplRepo infrdTypes (hs _ (.head _))
    obtain rfl : hb' = hb := Option.some.inj (hb''.symm.trans hhb)
    simp only [configureTemplates, hti, htypes, List.map_cons]
    rcases hc : ti.configureTypeFn types hb'.handlerBuilder with _ | e | p
    · have h₁ : LoopOutcome (groupOutcome tmplRepo infrdTypes handlers) [⟨hName, tmplName, insts⟩] f.calls
          (.ok ⟨hName :: f.deferred, f.calls ++ [(hName, tmplName)]⟩) :=
        ⟨by simpa [hc] using hout, rfl⟩
      exact h₁.append_ok (configureTemplates_outcome hhb rest _ fun t ht => hs t (.tail _ ht))
    · exact ⟨[], _, _, rfl, by simp, rfl, rfl, .inl ⟨e, by rw [hout, hc], rfl⟩⟩
    · exact ⟨[], _, _, rfl, by simp, rfl, rfl, .inr ⟨p, by rw [hout, hc], rfl⟩⟩

/-- The handler loop, from any frame. -/
theorem configureGroups_outcome (order : Order) {handlers : GoMap (HandlerBuilderInfo B)} :
    ∀ (es : List ((_ : String) × InstancesByTemplate)) (f : Frame),
      (∀ e ∈ es, e.1 ∈ handlers) →
      (∀ g ∈ es.flatMap (entryGroups order), (groupOutcome tmplRepo infrdTypes handlers g).isSome) →
      LoopOutcome (groupOutcome tmplRepo infrdTypes handlers) (es.flatMap (entryGroups order))
        f.calls (configureGroups tmplRepo infrdTypes order handlers es f)
  | [], f, _, _ => ⟨by simp, by simp⟩
  | ⟨hName, ibt⟩ :: rest, f, hh, hs => by
    obtain ⟨hb, hhb⟩ := Option.isSome_iff_exists.mp (AList.lookup_isSome.mpr (hh _ (.head _)))
    have ht := configureTemplates_outcome tmplRepo infrdTypes hhb
      (order.templates hName ibt.instancesNamesByTemplate.entries) f
      fun t ht => hs _ (List.mem_append_left _ (List.mem_map_of_mem _ ht))
    simp only [List.flatMap_cons, configureGroups, hhb]
    rcases hr : configureTemplates tmplRepo infrdTypes hName hb
      (order.templates hName ibt.instancesNamesByTemplate.entries) f with ⟨s, f'⟩ | f'
    · rw [hr] at ht
      exact ht.append_error _
    · rw [hr] at ht
      exact ht.append_ok (configureGroups_outcome order rest f' (fun e he => hh e (.tail _ he))
        fun g hg => hs g (List.mem_append_right _ hg))

/-- What `dispatchTypesToHandlers` does over the visited `groups`: it calls every group's
`ConfigureTypeFn`, each returning `nil`, leaves the handlers alone and returns `nil`; or it
stops at the first group that returns an error (returned, handlers left alone) or panics
(recovered: that group's handler marked broken, `nil` returned), having called no later
group. -/
def DispatchOutcome (out : Group → Option Outcome) (groups : List Group)
    (handlers : GoMap (HandlerBuilderInfo B)) (d : Dispatched B) : Prop :=
  (∀ g ∈ groups, out g = some .ok) ∧ d.calls = groups.map Group.key ∧ d.result = .ok none ∧
      d.handlers = handlers ∨
  ∃ pre g post, groups = pre ++ g :: post ∧ (∀ g' ∈ pre, out g' = some .ok) ∧
    d.calls = (pre ++ [g]).map Group.key ∧
    ((∃ e, out g = some (.error e) ∧ d.result = .ok (some e) ∧ d.handlers = handlers) ∨
      ∃ p, out g = some (.panic p) ∧ d.result = .ok none ∧ d.handlers = setBroken handlers g.hName)

/-- Leaving the function: the deferred recovers turn the loops' outcome into the result. -/
theorem unwind_outcome {out : Group → Option Outcome} {groups : List Group}
    {r : Except (Stop × Frame) Frame} (h : LoopOutcome out groups [] r)
    (handlers : GoMap (HandlerBuilderInfo B)) : DispatchOutcome out groups handlers (unwind handlers r) := by
  rcases r with ⟨s, f⟩ | f
  · obtain ⟨pre, g, post, hg, hpre, hc, hd, hs⟩ := h
    obtain ⟨rest, hdef⟩ : ∃ rest, f.deferred = g.hName :: rest := by
      cases h' : f.deferred <;> simp_all
    rcases hs with ⟨e, he, rfl⟩ | ⟨p, hp, rfl⟩
    · exact .inr ⟨pre, g, post, hg, hpre, by simpa [unwind] using hc, .inl ⟨e, he, rfl, rfl⟩⟩
    · refine .inr ⟨pre, g, post, hg, hpre, ?_, .inr ⟨p, hp, ?_, ?_⟩⟩ <;> simp [unwind, hdef, hc]
  · exact .inl ⟨h.1, by simpa [unwind] using h.2, rfl, rfl⟩

/-- Under the preconditions every visited group resolves. -/
theorem groupOutcome_isSome_of_mem {order : Order} {instsByTmpls : GoMap InstancesByTemplate}
    {handlers : GoMap (HandlerBuilderInfo B)}
    (hh : ∀ e ∈ instsByTmpls.entries, e.1 ∈ handlers)
    (ht : ∀ e ∈ instsByTmpls.entries, ∀ t ∈ e.2.instancesNamesByTemplate.entries,
      (tmplRepo t.1).isSome ∧ ∀ i ∈ t.2, i ∈ infrdTypes)
    {g : Group} (hg : g ∈ visitOrder order instsByTmpls) :
    (groupOutcome tmplRepo infrdTypes handlers g).isSome := by
  obtain ⟨e, he, hg⟩ := List.mem_flatMap.mp hg
  obtain ⟨t, htm, rfl⟩ := List.mem_map.mp hg
  have he := (order.handlers_perm _).subset he
  obtain ⟨hti, hi⟩ := ht e he t ((order.templates_perm _ _).subset htm)
  obtain ⟨ti, hti⟩ := Option.isSome_iff_exists.mp hti
  obtain ⟨types, htypes⟩ := typesToConfigure_ok infrdTypes ∅ hi
  obtain ⟨hb, hhb⟩ := Option.isSome_iff_exists.mp (AList.lookup_isSome.mpr (hh e he))
  simp [groupOutcome, hti, htypes, hhb]

/-- When every handler, template and instance `instsByTmpls` names resolves, for every
iteration order and every behaviour of the `ConfigureTypeFn`s, `dispatchTypesToHandlers`
does what `DispatchOutcome` says. -/
theorem dispatchTypesToHandlers_outcome (order : Order) (instsByTmpls : GoMap InstancesByTemplate)
    (handlers : GoMap (HandlerBuilderInfo B))
    (hh : ∀ e ∈ instsByTmpls.entries, e.1 ∈ handlers)
    (ht : ∀ e ∈ instsByTmpls.entries, ∀ t ∈ e.2.instancesNamesByTemplate.entries,
      (tmplRepo t.1).isSome ∧ ∀ i ∈ t.2, i ∈ infrdTypes) :
    DispatchOutcome (groupOutcome tmplRepo infrdTypes handlers) (visitOrder order instsByTmpls)
      handlers (dispatchTypesToHandlers tmplRepo infrdTypes order instsByTmpls handlers) :=
  unwind_outcome (configureGroups_outcome tmplRepo infrdTypes order _ ⟨[], []⟩
    (fun e he => hh e ((order.handlers_perm _).subset he))
    fun _ hg => groupOutcome_isSome_of_mem tmplRepo infrdTypes hh ht hg) handlers

/-- A template repository whose every `ConfigureTypeFn` panics. -/
def panickingRepo : String → Option (TemplateInfo Unit Unit) :=
  fun _ => some ⟨fun _ _ => .panic "boom"⟩

/-- One template `t` with one instance `i`. -/
def oneGroup : InstancesByTemplate := ⟨(∅ : GoMap (List String)).insert "t" ["i"]⟩

/-- The grouping of two handlers `a` and `b` that both use `oneGroup`. -/
def twoHandlerGroups : GoMap InstancesByTemplate :=
  ((∅ : GoMap _).insert "a" oneGroup).insert "b" oneGroup

def twoHandlers : GoMap (HandlerBuilderInfo Unit) :=
  ((∅ : GoMap _).insert "a" ⟨(), false⟩).insert "b" ⟨(), false⟩

def oneInferredType : GoMap Unit := (∅ : GoMap Unit).insert "i" ()

/-- The order that visits a map's entries as stored. -/
def storedOrder : Order := ⟨id, fun _ => .refl _, fun _ => id, fun _ _ => .refl _⟩

theorem dispatchTypesToHandlers_outcome_twoPanics :
    (∀ e ∈ twoHandlerGroups.entries, e.1 ∈ twoHandlers) ∧
    (∀ e ∈ twoHandlerGroups.entries, ∀ t ∈ e.2.instancesNamesByTemplate.entries,
      (panickingRepo t.1).isSome ∧ ∀ i ∈ t.2, i ∈ oneInferredType) ∧
    DispatchOutcome (groupOutcome panickingRepo oneInferredType twoHandlers)
      (visitOrder storedOrder twoHandlerGroups) twoHandlers
      (dispatchTypesToHandlers panickingRepo oneInferredType storedOrder twoHandlerGroups twoHandlers) :=
  have hh : ∀ e ∈ twoHandlerGroups.entries, e.1 ∈ twoHandlers := by decide
  have ht : ∀ e ∈ twoHandlerGroups.entries, ∀ t ∈ e.2.instancesNamesByTemplate.entries,
      (panickingRepo t.1).isSome ∧ ∀ i ∈ t.2, i ∈ oneInferredType := by decide
  ⟨hh, ht, dispatchTypesToHandlers_outcome _ _ _ _ _ hh ht⟩

/-! ## A panic skips the groups after it

The deferred recovers run only when `dispatchTypesToHandlers` returns, so a panic in one
`ConfigureTypeFn` unwinds both loops at once: the groups the loops had not reached are
never configured, while the function still returns `nil`. Two handlers whose single
template's `ConfigureTypeFn` panics show it for every iteration order. -/

theorem perm_pair {α : Type} {l : List α} {a b : α} (hp : l.Perm [a, b]) :
    l = [a, b] ∨ l = [b, a] := by
  obtain ⟨x, y, rfl⟩ := List.length_eq_two.mp hp.length_eq
  rcases List.mem_pair.mp (hp.subset (.head _)) with hx | hx <;> subst hx
  · exact .inl (by rw [List.perm_singleton.mp hp.cons_inv])
  · exact .inr (by rw [List.perm_singleton.mp (hp.trans (.swap _ _ _)).cons_inv])

/-- `dispatchTypesToHandlers` on the two handlers, in iteration order `order`. -/
def twoPanicsDispatch (order : Order) : Dispatched Unit :=
  dispatchTypesToHandlers panickingRepo oneInferredType order twoHandlerGroups twoHandlers

/-- Whatever the iteration order, one of the two groups is configured and panics, its
handler is marked broken, and the other handler is never configured nor marked. -/
theorem dispatchTypesToHandlers_twoPanics (order : Order) :
    (twoPanicsDispatch order).result = .ok none ∧ ∃ h h', [h, h'].Perm ["a", "b"] ∧
      (twoPanicsDispatch order).calls = [(h, "t")] ∧
      ((twoPanicsDispatch order).handlers.lookup h).map (·.isBroken) = some true ∧
      ((twoPanicsDispatch order).handlers.lookup h').map (·.isBroken) = some false := by
  have ht : ∀ h, order.templates h oneGroup.instancesNamesByTemplate.entries = [⟨"t", ["i"]⟩] :=
    fun h => List.perm_singleton.mp (order.templates_perm h _)
  have he : twoHandlerGroups.entries = [⟨"b", oneGroup⟩, ⟨"a", oneGroup⟩] := rfl
  have hp := order.handlers_perm twoHandlerGroups.entries
  rw [he] at hp
  rcases perm_pair hp with h | h <;>
    simp only [twoPanicsDispatch, dispatchTypesToHandlers, he, h, configureGroups, ht]
  · exact ⟨rfl, "b", "a", .swap _ _ _, rfl, rfl, rfl⟩
  · exact ⟨rfl, "a", "b", .refl _, rfl, rfl, rfl⟩

/-- In stored order, handler `b`'s group panics and handler `a`'s is skipped. -/
theorem dispatchTypesToHandlers_skips_after_panic :
    (twoPanicsDispatch storedOrder).result = .ok none ∧
      (twoPanicsDispatch storedOrder).calls = [("b", "t")] ∧
      ((twoPanicsDispatch storedOrder).handlers.lookup "b").map (·.isBroken) = some true ∧
      ((twoPanicsDispatch storedOrder).handlers.lookup "a").map (·.isBroken) = some false := by
  obtain ⟨hr, h, h', hp, hc, hb, hb'⟩ := dispatchTypesToHandlers_twoPanics storedOrder
  rcases perm_pair hp with hl | hl <;> simp only [List.cons.injEq, and_true] at hl <;>
    obtain ⟨rfl, rfl⟩ := hl
  · exact absurd hc (by decide)
  · exact ⟨hr, hc, hb, hb'⟩

end Mixer.Config
