import Mixer.Config.HandlerConfigurer

/-!
# `inferTypes`, and `ConfigureHandlers` from the constructors on

`src/unnamed/part_016`. `ConfigureHandlers` starts with `inferTypes`, which asks each
constructor's template for the type of the instance it builds (`InferTypeFn`) and keys the
result by the constructor's instance name. Only then does it group the actions' instances and
dispatch the types to the handlers (`configureHandlers`, in `HandlerConfigurer.lean`).

The main result, `configureHandlersOf_validated`, is the whole function on a validated
configuration: every action's handler and instances exist, every constructor is stored under
its own instance name, and every constructor's template is registered. Then, for every
iteration order of each of its maps, none of the "This code should be called after config has
been validated" panics fires: the function returns the error of the first constructor whose
type cannot be inferred, or else the inferred types hold every constructor's type and the
dispatch does what `DispatchOutcome` says of the grouping's (handler, template) groups.

Mirroring notes:
- `pb.Constructor` is `PbConstructor`; the grouping reads only its template, through
  `PbConstructor.toConstructor`.
- `InferTypeFn` is called with the params and the type checker's `EvalType`, which is fixed
  for the call, so the model takes it as one function of the params
  (`FullTemplateInfo.inferTypeFn`). The error it returns is dropped; `%v`, as the error message
  prints the params and the constructor, is a parameter (`sprintParams`, `sprintCnstr`).
- `cnstr.GetParams()` is an `interface{}`, asserted unchecked to be a `proto.Message` before
  `InferTypeFn` is called; whether the assertion holds, which it does not for nil, is the
  parameter `isMessage`.
- `inferTypes`' panics escape `ConfigureHandlers` before it does anything else: the result is
  `.error` of the panic, and `.ok` of what the rest of the function does otherwise.
-/

namespace Mixer.Config

/-- `pb.Constructor`. -/
structure PbConstructor (P : Type) where
  instanceName : String
  template : String
  params : P

/-- What the grouping reads of a constructor. -/
def PbConstructor.toConstructor {P : Type} (c : PbConstructor P) : Constructor := ⟨c.template⟩

/-- `template.Info`: both functions `ConfigureHandlers` calls. -/
structure FullTemplateInfo (P T B : Type) extends TemplateInfo T B where
  inferTypeFn : P → Except String T

/-- The order a `range` over a map takes: any permutation of its entries. -/
structure RangeOrder (V : Type) where
  visit : List ((_ : String) × V) → List ((_ : String) × V)
  visit_perm : ∀ l, (visit l).Perm l

/-- A panic of `inferTypes`: a constructor whose template is not registered ("template %s in
constructor %v is not registered. …"), or whose params are no `proto.Message`. -/
inductive InferPanic (P : Type) where
  | unregistered (tmplName : String) (cnstr : PbConstructor P)
  | notMessage (cnstr : PbConstructor P)

/-- The same map with each value seen through `f`: the same keys, in the same order. -/
def mapValues {V W : Type} (f : V → W) (m : GoMap V) : GoMap W :=
  ⟨m.entries.map fun e => ⟨e.1, f e.2⟩, by
    simpa [List.NodupKeys, List.keys, Function.comp_def] using m.nodupKeys⟩

theorem lookup_mapValues {V W : Type} (f : V → W) (m : GoMap V) (k : String) :
    (mapValues f m).lookup k = (m.lookup k).map f := by
  suffices h : ∀ l : List ((_ : String) × V),
      (l.map fun e => (⟨e.1, f e.2⟩ : (_ : String) × W)).dlookup k = (l.dlookup k).map f from
    h m.entries
  intro l
  induction l with
  | nil => rfl
  | cons e l ih =>
    obtain ⟨a, b⟩ := e
    by_cases h : k = a
    · subst h; simp [List.dlookup_cons_eq]
    · rw [List.map_cons, List.dlookup_cons_ne _ (⟨a, f b⟩ : (_ : String) × W) h,
        List.dlookup_cons_ne _ (⟨a, b⟩ : (_ : String) × V) h, ih]

section Infer

variable {P T B : Type} (tmplRepo : String → Option (FullTemplateInfo P T B))
  (isMessage : P → Bool) (sprintParams : P → String) (sprintCnstr : PbConstructor P → String)

/-- The error `inferTypes` returns for a constructor whose type cannot be inferred. -/
def cannotInfer (cnstr : PbConstructor P) : String :=
  "cannot infer type information from params " ++ sprintParams cnstr.params ++
    " in constructor " ++ sprintCnstr cnstr

/-- The loop of `inferTypes`, over the constructors in the order `range` visits them. -/
def inferLoop (result : GoMap T) :
    List ((_ : String) × PbConstructor P) → Except (InferPanic P) (Except String (GoMap T))
  | [] => .ok (.ok result)
  | ⟨_, cnstr⟩ :: rest =>
    match tmplRepo cnstr.template with
    | none => .error (.unregistered cnstr.template cnstr)
    | some tmplInfo =>
      if isMessage cnstr.params then
        match tmplInfo.inferTypeFn cnstr.params with
        | .error _ => .ok (.error (cannotInfer sprintParams sprintCnstr cnstr))
        | .ok inferredType => inferLoop (result.insert cnstr.instanceName inferredType) rest
      else .error (.notMessage cnstr)

/-- `inferTypes`. -/
def inferTypes (order : RangeOrder (PbConstructor P)) (constructors : GoMap (PbConstructor P)) :
    Except (InferPanic P) (Except String (GoMap T)) :=
  inferLoop tmplRepo isMessage sprintParams sprintCnstr ∅ (order.visit constructors.entries)

/-- What `dispatchTypesToHandlers` reads of the repository. -/
def dispatchRepo (tmplName : String) : Option (TemplateInfo T B) :=
  (tmplRepo tmplName).map FullTemplateInfo.toTemplateInfo

/-- `ConfigureHandlers`, from the constructors on: `inferTypes`, whose panic escapes, then the
grouping and the dispatch. -/
def configureHandlersOf (cOrder : RangeOrder (PbConstructor P)) (order : Order)
    (actions : List Action) (constructors : GoMap (PbConstructor P))
    (handlers : GoMap (HandlerBuilderInfo B)) : Except (InferPanic P) (Dispatched B) :=
  (inferTypes tmplRepo isMessage sprintParams sprintCnstr cOrder constructors).map
    (configureHandlers (dispatchRepo tmplRepo) order actions
      (mapValues PbConstructor.toConstructor constructors) handlers)

/-- The type a constructor's template infers for it, when its template is registered and the
inference succeeds. -/
def inferredType (cnstr : PbConstructor P) : Option T :=
  (tmplRepo cnstr.template).bind fun ti => (ti.inferTypeFn cnstr.params).toOption

theorem inferredType_eq_some {cnstr : PbConstructor P} {t : T} :
    inferredType tmplRepo cnstr = some t ↔
      ∃ ti, tmplRepo cnstr.template = some ti ∧ ti.inferTypeFn cnstr.params = .ok t := by
  simp only [inferredType, Option.bind_eq_some]
  refine exists_congr fun ti => and_congr_right fun _ => ?_
  cases ti.inferTypeFn cnstr.params <;> simp [Except.toOption]

/-! ## What `inferTypes` computes -/

/-- When every constructor's type is inferred and no two share an instance name, the loop
stores each type under its constructor's instance name and leaves every other key alone. -/
theorem inferLoop_ok : ∀ (l : List ((_ : String) × PbConstructor P)) (result : GoMap T),
    (∀ e ∈ l, isMessage e.2.params) →
    (∀ e ∈ l, (inferredType tmplRepo e.2).isSome) → (l.map (·.2.instanceName)).Nodup →
    ∃ types, inferLoop tmplRepo isMessage sprintParams sprintCnstr result l = .ok (.ok types) ∧
      (∀ e ∈ l, types.lookup e.2.instanceName = inferredType tmplRepo e.2) ∧
      ∀ k ∉ l.map (·.2.instanceName), types.lookup k = result.lookup k
  | [], result, _, _, _ => ⟨result, rfl, by simp, fun _ _ => rfl⟩
  | ⟨key, cnstr⟩ :: rest, result, hm, hs, hn => by
    obtain ⟨t, ht⟩ := Option.isSome_iff_exists.mp (hs _ (.head _))
    obtain ⟨ti, hti, hinf⟩ := (inferredType_eq_some tmplRepo).mp ht
    rw [List.map_cons, List.nodup_cons] at hn
    obtain ⟨types, hl, hmem, hout⟩ :=
      inferLoop_ok rest (result.insert cnstr.instanceName t) (fun e he => hm e (.tail _ he))
        (fun e he => hs e (.tail _ he)) hn.2
    refine ⟨types, by simp only [inferLoop, hti, hm _ (.head _), hinf, hl, ite_true], ?_,
      fun k hk => ?_⟩
    · rintro e (_ | ⟨_, he⟩)
      · rw [hout _ hn.1, AList.lookup_insert, ← ht]
      · exact hmem e he
    · simp only [List.map_cons, List.mem_cons, not_or] at hk
      rw [hout k hk.2, AList.lookup_insert_ne hk.1]

/-- The loop returns the error of the first constructor whose type cannot be inferred. -/
theorem inferLoop_first_failure (post : List ((_ : String) × PbConstructor P))
    (c : (_ : String) × PbConstructor P) (hreg : (tmplRepo c.2.template).isSome)
    (hcm : isMessage c.2.params) (hc : inferredType tmplRepo c.2 = none) :
    ∀ (pre : List ((_ : String) × PbConstructor P)) (result : GoMap T),
      (∀ e ∈ pre, isMessage e.2.params) → (∀ e ∈ pre, (inferredType tmplRepo e.2).isSome) →
      inferLoop tmplRepo isMessage sprintParams sprintCnstr result (pre ++ c :: post) =
        .ok (.error (cannotInfer sprintParams sprintCnstr c.2))
  | [], result, _, _ => by
    obtain ⟨key, cnstr⟩ := c
    obtain ⟨ti, hti⟩ := Option.isSome_iff_exists.mp hreg
    cases h : ti.inferTypeFn cnstr.params with
    | error e => simp [inferLoop, hti, hcm, h]
    | ok t => cases hc.symm.trans ((inferredType_eq_some tmplRepo).mpr ⟨ti, hti, h⟩)
  | ⟨key, cnstr⟩ :: pre, result, hm, hs => by
    obtain ⟨t, ht⟩ := Option.isSome_iff_exists.mp (hs _ (.head _))
    obtain ⟨ti, hti, hinf⟩ := (inferredType_eq_some tmplRepo).mp ht
    simp only [List.cons_append, inferLoop, hti, hm _ (.head _), hinf, ite_true]
    exact inferLoop_first_failure post c hreg hcm hc pre _ (fun e he => hm e (.tail _ he))
      fun e he => hs e (.tail _ he)

end Infer

/-! ## The grouping's template keys -/

/-- Every template key of `ibt` is the template of some constructor. -/
def TemplatesOf (constructors : GoMap Constructor) (ibt : InstancesByTemplate) : Prop :=
  ∀ t ∈ ibt.instancesNamesByTemplate, ∃ i c, constructors.lookup i = some c ∧ c.template = t

section Templates

variable {constructors : GoMap Constructor}

theorem templatesOf_insertInstance {ibt : InstancesByTemplate} (h : TemplatesOf constructors ibt)
    {i : String} {c : Constructor} (hc : constructors.lookup i = some c) :
    TemplatesOf constructors (ibt.insertInstance c.template i) := by
  have hm : ∀ t, t ∈ (ibt.insertInstance c.template i).instancesNamesByTemplate →
      t = c.template ∨ t ∈ ibt.instancesNamesByTemplate := by
    intro t ht
    simp only [InstancesByTemplate.insertInstance] at ht
    cases hl : ibt.instancesNamesByTemplate.lookup c.template <;> simp only [hl] at ht <;>
      split_ifs at ht <;> simp_all [AList.mem_insert]
  intro t ht
  rcases hm t ht with rfl | ht
  exacts [⟨i, c, hc, rfl⟩, h t ht]

theorem templatesOf_insertInstances :
    ∀ {insts : List String} {ibt ibt' : InstancesByTemplate}, TemplatesOf constructors ibt →
      insertInstances constructors ibt insts = .ok ibt' → TemplatesOf constructors ibt'
  | [], _, _, h, he => by cases he; exact h
  | i :: rest, ibt, ibt', h, he => by
    simp only [insertInstances] at he
    split at he
    · cases he
    · next c hc => exact templatesOf_insertInstances (templatesOf_insertInstance h hc) he

/-- Every handler's grouping the loop builds has only templates of constructors as keys. -/
theorem groupActions_templatesOf {B : Type} {handlers : GoMap (HandlerBuilderInfo B)} :
    ∀ {actions : List Action} {result r : GoMap InstancesByTemplate},
      (∀ h ibt, result.lookup h = some ibt → TemplatesOf constructors ibt) →
      groupActions constructors handlers result actions = .ok r →
      ∀ h ibt, r.lookup h = some ibt → TemplatesOf constructors ibt
  | [], _, _, h, he => by cases he; exact h
  | a :: rest, result, r, h, he => by
    simp only [groupActions] at he
    split_ifs at he
    split at he
    · cases he
    · next ibt' hi =>
      apply groupActions_templatesOf _ he
      intro h' ibt hl
      by_cases hh : h' = a.handler
      · subst hh
        rw [AList.lookup_insert] at hl
        cases hl
        refine templatesOf_insertInstances ?_ hi
        cases hr : result.lookup a.handler
        · intro t ht; simp [newInstancesByTemplate] at ht
        · exact h _ _ hr
      · rw [AList.lookup_insert_ne hh] at hl
        exact h _ _ hl

end Templates

/-- A template's list in an entry of the grouping is what Go reads under the pair. -/
theorem groupedInstances_of_mem {grp : GoMap InstancesByTemplate}
    {e : (_ : String) × InstancesByTemplate} (he : e ∈ grp.entries)
    {t : (_ : String) × List String} (ht : t ∈ e.2.instancesNamesByTemplate.entries) :
    groupedInstances grp e.1 t.1 = t.2 := by
  have h₁ : grp.lookup e.1 = some e.2 := AList.mem_lookup_iff.mpr he
  have h₂ : e.2.instancesNamesByTemplate.lookup t.1 = some t.2 := AList.mem_lookup_iff.mpr ht
  simp [groupedInstances, InstancesByTemplate.instancesOf, h₁, h₂]

/-! ## `ConfigureHandlers` on a validated configuration -/

section Validated

variable {P T B : Type} (tmplRepo : String → Option (FullTemplateInfo P T B))
  (isMessage : P → Bool) (sprintParams : P → String) (sprintCnstr : PbConstructor P → String)

/-- When some constructor's type is not inferred, `inferTypes` returns the error of the first
one its loop visits. -/
theorem inferTypes_first_failure (cOrder : RangeOrder (PbConstructor P))
    {constructors : GoMap (PbConstructor P)}
    (ht : ∀ e ∈ constructors.entries, (tmplRepo e.2.template).isSome)
    (hm : ∀ e ∈ constructors.entries, isMessage e.2.params)
    (hall : ¬∀ e ∈ cOrder.visit constructors.entries, (inferredType tmplRepo e.2).isSome) :
    ∃ pre c post, cOrder.visit constructors.entries = pre ++ c :: post ∧
      (∀ e ∈ pre, (inferredType tmplRepo e.2).isSome) ∧ inferredType tmplRepo c.2 = none ∧
      inferTypes tmplRepo isMessage sprintParams sprintCnstr cOrder constructors =
        .ok (.error (cannotInfer sprintParams sprintCnstr c.2)) := by
  let p := fun e : (_ : String) × PbConstructor P => (inferredType tmplRepo e.2).isSome
  have hne : (cOrder.visit constructors.entries).dropWhile p ≠ [] :=
    fun h => hall (List.dropWhile_eq_nil_iff.mp h)
  obtain ⟨c, post, hcp⟩ := List.exists_cons_of_ne_nil hne
  have hsplit : cOrder.visit constructors.entries =
      (cOrder.visit constructors.entries).takeWhile p ++ c :: post := by
    rw [← hcp, List.takeWhile_append_dropWhile]
  have hpre : ∀ e ∈ (cOrder.visit constructors.entries).takeWhile p,
      (inferredType tmplRepo e.2).isSome := fun e he => List.mem_takeWhile_imp (p := p) he
  have hc₀ : inferredType tmplRepo c.2 = none := by
    simpa [hcp, p] using List.head_dropWhile_not p _ hne
  have hvisit : ∀ e ∈ cOrder.visit constructors.entries, e ∈ constructors.entries :=
    fun e he => (cOrder.visit_perm _).subset he
  have hcv : c ∈ constructors.entries := hvisit c (hsplit ▸ List.mem_append_right _ (.head _))
  refine ⟨_, c, post, hsplit, hpre, hc₀, ?_⟩
  rw [inferTypes, hsplit]
  exact inferLoop_first_failure tmplRepo isMessage sprintParams sprintCnstr post c (ht c hcv)
    (hm c hcv) hc₀ _ _ (fun e he => hm e (hvisit e (hsplit ▸ List.mem_append_left _ he))) hpre

/-- When every type is inferred and each constructor is stored under its instance name,
`inferTypes` holds each constructor's type under its key, and a type for every key. -/
theorem inferTypes_ok (cOrder : RangeOrder (PbConstructor P))
    {constructors : GoMap (PbConstructor P)}
    (hn : ∀ e ∈ constructors.entries, e.2.instanceName = e.1)
    (hm : ∀ e ∈ constructors.entries, isMessage e.2.params)
    (hall : ∀ e ∈ cOrder.visit constructors.entries, (inferredType tmplRepo e.2).isSome) :
    ∃ types, inferTypes tmplRepo isMessage sprintParams sprintCnstr cOrder constructors = .ok (.ok types) ∧
      (∀ e ∈ constructors.entries, types.lookup e.1 = inferredType tmplRepo e.2) ∧
      ∀ i ∈ constructors, i ∈ types := by
  have hperm := cOrder.visit_perm constructors.entries
  have hnd : ((cOrder.visit constructors.entries).map (·.2.instanceName)).Nodup := by
    have hmap : constructors.entries.map (·.2.instanceName) = constructors.keys :=
      List.map_congr_left fun e he => hn e he
    rw [(hperm.map _).nodup_iff, hmap]
    exact constructors.nodupKeys
  obtain ⟨types, hinf, hmem, -⟩ := inferLoop_ok tmplRepo isMessage sprintParams sprintCnstr _ ∅
    (fun e he => hm e (hperm.subset he)) hall hnd
  have hlookup : ∀ e ∈ constructors.entries, types.lookup e.1 = inferredType tmplRepo e.2 :=
    fun e he => hn e he ▸ hmem e (hperm.symm.subset he)
  refine ⟨types, hinf, hlookup, fun i hi => ?_⟩
  obtain ⟨pc, hpc⟩ := Option.isSome_iff_exists.mp (AList.lookup_isSome.mpr hi)
  have he := AList.mem_lookup_iff.mp hpc
  rw [← AList.lookup_isSome, hlookup _ he]
  exact hall _ (hperm.symm.subset he)

/-- The grouping of actions whose handlers and instances exist succeeds; each of its keys is a
handler, and each of its templates is registered with a type for every instance. -/
theorem groupHandlerInstancesByTemplate_resolves {actions : List Action}
    {constructors : GoMap (PbConstructor P)} {handlers : GoMap (HandlerBuilderInfo B)}
    {types : GoMap T} (hh : ∀ a ∈ actions, a.handler ∈ handlers)
    (hc : ∀ a ∈ actions, ∀ i ∈ a.instances, i ∈ constructors)
    (ht : ∀ e ∈ constructors.entries, (tmplRepo e.2.template).isSome)
    (hin : ∀ i ∈ constructors, i ∈ types) :
    ∃ grp, groupHandlerInstancesByTemplate actions
        (mapValues PbConstructor.toConstructor constructors) handlers = .ok grp ∧
      (∀ e ∈ grp.entries, e.1 ∈ handlers) ∧
      ∀ e ∈ grp.entries, ∀ t ∈ e.2.instancesNamesByTemplate.entries,
        (dispatchRepo tmplRepo t.1).isSome ∧ ∀ i ∈ t.2, i ∈ types := by
  set cs := mapValues PbConstructor.toConstructor constructors
  have hcs : ∀ i, i ∈ cs ↔ i ∈ constructors := fun i => by
    simp [cs, ← AList.lookup_isSome, lookup_mapValues]
  obtain ⟨grp, hgrp, g⟩ : ∃ r, groupActions cs handlers ∅ actions = .ok r ∧
      Groups cs ([] ++ actions) r :=
    groupActions_groups hh (fun a ha i hi => (hcs i).mpr (hc a ha i hi)) (groups_nil cs)
  have hkeys := groupActions_templatesOf (fun _ _ h => by simp at h) hgrp
  refine ⟨grp, hgrp, fun e he => ?_, fun e he t htm => ⟨?_, fun i hi => ?_⟩⟩
  · obtain ⟨a, ha, hae⟩ : ∃ a ∈ actions, a.handler = e.1 := by
      simpa using (g.keys e.1).mp (AList.mem_keys.mpr (List.mem_keys_of_mem he))
    exact hae ▸ hh a ha
  · obtain ⟨i, c, hic, hct⟩ := hkeys e.1 e.2 (AList.mem_lookup_iff.mpr he) t.1
      (AList.mem_keys.mpr (List.mem_keys_of_mem htm))
    rw [lookup_mapValues] at hic
    obtain ⟨pc, hpc, rfl⟩ := Option.map_eq_some'.mp hic
    simpa [dispatchRepo, ← hct, PbConstructor.toConstructor] using
      ht _ (AList.mem_lookup_iff.mp hpc)
  · rw [← groupedInstances_of_mem he htm, g.insts] at hi
    simp only [mem_eraseDups, instanceStream, ofTemplate, List.mem_filter,
      List.mem_flatMap, List.nil_append] at hi
    obtain ⟨⟨a, ⟨ha, -⟩, hia⟩, -⟩ := hi
    exact hin i (hc a ha i hia)

/-- On a validated configuration, whose constructors' params are all messages, for every
iteration order of each map and every behaviour of the templates' functions,
`ConfigureHandlers` raises none of the panics of a configuration that was not validated. It returns the error of the first constructor, in the order its loop
visits them, whose type cannot be inferred, having dispatched nothing. Otherwise the inferred
types hold every constructor's type under its name, the grouping succeeds, and the dispatch
does what `DispatchOutcome` says of its (handler, template) groups. -/
theorem configureHandlersOf_validated (cOrder : RangeOrder (PbConstructor P)) (order : Order)
    (actions : List Action) (constructors : GoMap (PbConstructor P))
    (handlers : GoMap (HandlerBuilderInfo B))
    (hh : ∀ a ∈ actions, a.handler ∈ handlers)
    (hc : ∀ a ∈ actions, ∀ i ∈ a.instances, i ∈ constructors)
    (hn : ∀ e ∈ constructors.entries, e.2.instanceName = e.1)
    (ht : ∀ e ∈ constructors.entries, (tmplRepo e.2.template).isSome)
    (hm : ∀ e ∈ constructors.entries, isMessage e.2.params) :
    ∃ d, configureHandlersOf tmplRepo isMessage sprintParams sprintCnstr cOrder order actions constructors
        handlers = .ok d ∧
      ((∃ pre c post, cOrder.visit constructors.entries = pre ++ c :: post ∧
          (∀ e ∈ pre, (inferredType tmplRepo e.2).isSome) ∧ inferredType tmplRepo c.2 = none ∧
          d = ⟨handlers, [], .ok (some (cannotInfer sprintParams sprintCnstr c.2))⟩) ∨
        ∃ iTypes grp, (∀ e ∈ constructors.entries, iTypes.lookup e.1 = inferredType tmplRepo e.2) ∧
          groupHandlerInstancesByTemplate actions (mapValues PbConstructor.toConstructor constructors)
            handlers = .ok grp ∧
          DispatchOutcome (groupOutcome (dispatchRepo tmplRepo) iTypes handlers)
            (visitOrder order grp) handlers d) := by
  by_cases hall : ∀ e ∈ cOrder.visit constructors.entries, (inferredType tmplRepo e.2).isSome
  case neg =>
    obtain ⟨pre, c, post, hsplit, hpre, hc₀, hinf⟩ :=
      inferTypes_first_failure tmplRepo isMessage sprintParams sprintCnstr cOrder ht hm hall
    exact ⟨_, by rw [configureHandlersOf, hinf]; rfl, .inl ⟨pre, c, post, hsplit, hpre, hc₀, rfl⟩⟩
  case pos =>
    obtain ⟨types, hinf, hlookup, hin⟩ :=
      inferTypes_ok tmplRepo isMessage sprintParams sprintCnstr cOrder hn hm hall
    obtain ⟨grp, hgrp, hh', ht'⟩ := groupHandlerInstancesByTemplate_resolves tmplRepo hh hc ht hin
    refine ⟨_, by rw [configureHandlersOf, hinf]; rfl, .inr ⟨types, grp, hlookup, hgrp, ?_⟩⟩
    show DispatchOutcome _ _ handlers (configureHandlers (dispatchRepo tmplRepo) order actions
      (mapValues PbConstructor.toConstructor constructors) handlers (.ok types))
    simp only [configureHandlers, hgrp]
    exact unwind_outcome (configureGroups_outcome (dispatchRepo tmplRepo) types order _ ⟨[], []⟩
      (fun e he => hh' e ((order.handlers_perm _).subset he))
      fun _ hg => groupOutcome_isSome_of_mem (dispatchRepo tmplRepo) types hh' ht' hg) handlers

end Validated

/-! ## A sample configuration -/

/-- A repository with one template `t`, whose types are inferred and whose handlers
configure. -/
def okRepo : String → Option (FullTemplateInfo Unit Unit Unit) :=
  fun n => if n = "t" then some ⟨⟨fun _ _ => .ok⟩, fun _ => .ok ()⟩ else none

/-- One constructor, the instance `i` of template `t`, stored under its name. -/
def oneConstructor : GoMap (PbConstructor Unit) := (∅ : GoMap _).insert "i" ⟨"i", "t", ()⟩

/-- The order in which `range` returns a map's entries as they are stored. -/
def storedRange (V : Type) : RangeOrder V := ⟨id, fun _ => .refl _⟩

/-- The action that hands the instance `i` to the handler `a`. -/
def oneAction : List Action := [⟨"a", ["i"]⟩]

theorem configureHandlersOf_validated_one :
    (∀ a ∈ oneAction, a.handler ∈ oneHandler) ∧
      (∀ a ∈ oneAction, ∀ i ∈ a.instances, i ∈ oneConstructor) ∧
      (∀ e ∈ oneConstructor.entries, e.2.instanceName = e.1) ∧
      (∀ e ∈ oneConstructor.entries, (okRepo e.2.template).isSome) ∧
      (∀ e ∈ oneConstructor.entries, (fun _ : Unit => true) e.2.params) ∧
      ∃ d, configureHandlersOf okRepo (fun _ => true) (fun _ => "") (fun _ => "") (storedRange _)
          storedOrder
          oneAction oneConstructor oneHandler = .ok d ∧
        ((∃ pre c post, (storedRange _).visit oneConstructor.entries = pre ++ c :: post ∧
            (∀ e ∈ pre, (inferredType okRepo e.2).isSome) ∧ inferredType okRepo c.2 = none ∧
            d = ⟨oneHandler, [], .ok (some (cannotInfer (fun _ => "") (fun _ => "") c.2))⟩) ∨
          ∃ iTypes grp, (∀ e ∈ oneConstructor.entries, iTypes.lookup e.1 = inferredType okRepo e.2) ∧
            groupHandlerInstancesByTemplate oneAction
              (mapValues PbConstructor.toConstructor oneConstructor) oneHandler = .ok grp ∧
            DispatchOutcome (groupOutcome (dispatchRepo okRepo) iTypes oneHandler)
              (visitOrder storedOrder grp) oneHandler d) :=
  have hh : ∀ a ∈ oneAction, a.handler ∈ oneHandler := by decide
  have hc : ∀ a ∈ oneAction, ∀ i ∈ a.instances, i ∈ oneConstructor := by decide
  have hn : ∀ e ∈ oneConstructor.entries, e.2.instanceName = e.1 := by decide
  have ht : ∀ e ∈ oneConstructor.entries, (okRepo e.2.template).isSome := by decide
  have hm : ∀ e ∈ oneConstructor.entries, (fun _ : Unit => true) e.2.params := fun _ _ => rfl
  ⟨hh, hc, hn, ht, hm, configureHandlersOf_validated _ _ _ _ _ _ _ _ _ hh hc hn ht hm⟩

end Mixer.Config
