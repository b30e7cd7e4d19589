import Mixer.Config.InferTypes
import Mixer.Lists

/-!
# The adapter registry and the template repository

`newRegistry2` (`src/unnamed/part_015`, lines 459–536) registers the adapters' `handler.Info`
values one by one, in inventory order. It panics on the first adapter whose name is already
registered, whose `ValidateConfig` or `DefaultConfig` is nil, or whose handler builder does
not implement one of the templates it lists (`doesBuilderSupportsTemplates`, which asks a
`handlerBuilderValidator` about each template and joins the complaints). `AdapterInfoMap`
returns the registry's map, and `InventoryMap` builds the same kind of map with no check at
all. The validator is meant to be the template repository's `SupportsTemplate`
(`src/unnamed/part_018`, lines 85–124): a template it does not know, or whose
`SupportsTemplate` function rejects the builder, gets a message.

What is proved: `AdapterInfoMap` returns exactly when the adapters are `Registrable` (names
without repeats, both functions set, a builder that the validator accepts for each listed
template), and then returns `InventoryMap` of the same inventory (`adapterInfoMap_iff`);
with the repository as validator, the last condition reads: every listed template is in the
repository and accepts the builder (`adapterInfoMap_repository_iff`). `InventoryMap` keeps
the last adapter of each name.

Mirroring notes:
- A panic is the `.error` of the message it is raised with. `%v` of a `handler.Info` prints
  its function fields as addresses; `sprintInfo` is that printing, and a pointer prints as
  `&` before it.
- A nil `CreateHandlerBuilder` is `none`: calling it is a nil-function panic.
- `NewRepository` iterates over its map in the order `range` happens to give (`RangeOrder`).
-/

namespace Mixer.Config

/-! ## The template repository -/

/-- `template.Info`: what the repository reads of a template. -/
structure TmplInfo (B : Type) where
  /-- `SupportsTemplate(hndlrBuilder)`: whether the builder implements the template's
  interface. -/
  supportsTemplate : B → Bool
  bldrName : String

/-- `template.repo`. -/
structure Repo (B : Type) where
  info : GoMap (TmplInfo B)
  allSupportedTmpls : List String
  tmplToBuilderNames : GoMap String

section Repository

variable {B : Type}

/-- `repo.GetTemplateInfo`. -/
def Repo.getTemplateInfo (t : Repo B) (template : String) : Option (TmplInfo B) :=
  t.info.lookup template

/-- `NewRepository`, for a nil map (`none`) or a map visited in the order `order` gives.
`allSupportedTmpls` starts as `make([]string, len(templateInfos))`. -/
def newRepository (order : RangeOrder (TmplInfo B)) : Option (GoMap (TmplInfo B)) → Repo B
  | none => ⟨∅, [], ∅⟩
  | some templateInfos =>
    let r := (order.visit templateInfos.entries).foldl
      (fun (r : List String × GoMap String) e => (r.1 ++ [e.1], r.2.insert e.1 e.2.bldrName))
      (List.replicate templateInfos.entries.length "", ∅)
    { info := templateInfos, allSupportedTmpls := r.1, tmplToBuilderNames := r.2 }

/-- `fmt`'s `%v` of a `[]string`: the elements between brackets, separated by spaces. -/
def sprintStrings (l : List String) : String := "[" ++ " ".intercalate l ++ "]"

/-- `repo.SupportsTemplate`. -/
def Repo.supportsTemplate (t : Repo B) (hndlrBuilder : B) (tmpl : String) : Bool × String :=
  match t.getTemplateInfo tmpl with
  | none => (false, "Supported template " ++ tmpl ++
      " is not one of the allowed supported templates " ++ sprintStrings t.allSupportedTmpls)
  | some i =>
    if i.supportsTemplate hndlrBuilder then (true, "")
    else (false, "HandlerBuilder does not implement interface " ++
      (t.tmplToBuilderNames.lookup tmpl).getD "" ++ ". " ++
      "Therefore, it cannot support template " ++ tmpl)

theorem newRepository_info (order : RangeOrder (TmplInfo B)) (tinfos : Option (GoMap (TmplInfo B))) :
    (newRepository order tinfos).info = tinfos.getD ∅ := by
  cases tinfos <;> rfl

theorem foldl_allSupportedTmpls (l : List ((_ : String) × TmplInfo B)) (r : List String × GoMap String) :
    (l.foldl (fun (r : List String × GoMap String) e => (r.1 ++ [e.1], r.2.insert e.1 e.2.bldrName))
      r).1 = r.1 ++ l.map (·.1) := by
  induction l generalizing r with
  | nil => simp
  | cons e l ih => simp [ih]

/-- The templates `NewRepository` lists: one empty string for each template, then the
templates in the order `range` visits them. -/
theorem newRepository_allSupportedTmpls (order : RangeOrder (TmplInfo B))
    (tinfos : GoMap (TmplInfo B)) :
    (newRepository order (some tinfos)).allSupportedTmpls =
      List.replicate tinfos.entries.length "" ++ (order.visit tinfos.entries).map (·.1) :=
  foldl_allSupportedTmpls _ _

/-- `SupportsTemplate` accepts exactly a template in the repository whose own
`SupportsTemplate` accepts the builder. -/
theorem supportsTemplate_iff (t : Repo B) (hndlrBuilder : B) (tmpl : String) :
    (t.supportsTemplate hndlrBuilder tmpl).1 = true ↔
      ∃ i, t.info.lookup tmpl = some i ∧ i.supportsTemplate hndlrBuilder = true := by
  unfold Repo.supportsTemplate Repo.getTemplateInfo
  cases t.info.lookup tmpl with
  | none => simp
  | some i => by_cases h : i.supportsTemplate hndlrBuilder <;> simp [h]

end Repository

/-! ## The adapter registry -/

/-- `handler.Info`: what the registry reads of an adapter's registration. -/
structure AdapterInfo (V D B : Type) where
  name : String
  validateConfig : Option V
  defaultConfig : Option D
  /-- What `CreateHandlerBuilder()` returns; `none` for a nil function. -/
  createHandlerBuilder : Option B
  supportedTemplates : List String

/-- `adapterInfoRegistry`. -/
structure AdapterInfoRegistry (V D B : Type) where
  adapterInfosByName : GoMap (AdapterInfo V D B)

/-- The panic of a call of a nil function. -/
def nilFuncCall : String := "runtime error: invalid memory address or nil pointer dereference"

section Registry

variable {V D B : Type} (hndlrBldrValidator : B → String → Bool × String)
  (sprintInfo : AdapterInfo V D B → String)

/-- `doesBuilderSupportsTemplates`: the builder asked about every listed template, and the
complaints joined by newlines. -/
def doesBuilderSupportsTemplates (info : AdapterInfo V D B) : Except String (Bool × String) :=
  match info.createHandlerBuilder with
  | none => .error nilFuncCall
  | some handlerBuilder =>
    let resultMsgs := info.supportedTemplates.filterMap fun t =>
      let r := hndlrBldrValidator handlerBuilder t
      if r.1 then none else some r.2
    if resultMsgs.length ≠ 0 then .ok (false, "\n".intercalate resultMsgs) else .ok (true, "")

/-- One iteration of `newRegistry2`'s loop. -/
def registerInfo (r : GoMap (AdapterInfo V D B)) (adptInfo : AdapterInfo V D B) :
    Except String (GoMap (AdapterInfo V D B)) :=
  match r.lookup adptInfo.name with
  | some a => .error ("duplicate registration for '" ++ a.name ++ "' : old = " ++
      sprintInfo adptInfo ++ " new = &" ++ sprintInfo a)
  | none =>
    if adptInfo.validateConfig.isNone then
      .error ("Adapter info " ++ sprintInfo adptInfo ++ " from adapter " ++ adptInfo.name ++
        " does not contain value for ValidateConfig function field.")
    else if adptInfo.defaultConfig.isNone then
      .error ("Adapter info " ++ sprintInfo adptInfo ++ " from adapter " ++ adptInfo.name ++
        " does not contain value for DefaultConfig field.")
    else do
      let (ok, errMsg) ← doesBuilderSupportsTemplates hndlrBldrValidator adptInfo
      if ok then pure (r.insert adptInfo.name adptInfo)
      else .error ("HandlerBuilder from adapter " ++ adptInfo.name ++
        " does not implement the required interfaces for the templates it supports: " ++ errMsg)

/-- `newRegistry2`. -/
def newRegistry2 (infos : List (AdapterInfo V D B)) :
    Except String (AdapterInfoRegistry V D B) :=
  (infos.foldlM (registerInfo hndlrBldrValidator sprintInfo) ∅).map fun m => ⟨m⟩

/-- `AdapterInfoMap`. -/
def adapterInfoMap (handlerRegFns : List (AdapterInfo V D B)) :
    Except String (GoMap (AdapterInfo V D B)) :=
  (newRegistry2 hndlrBldrValidator sprintInfo handlerRegFns).map (·.adapterInfosByName)

/-- `adapterInfoRegistry.FindAdapterInfo`. -/
def AdapterInfoRegistry.findAdapterInfo (r : AdapterInfoRegistry V D B) (name : String) :
    Option (AdapterInfo V D B) :=
  r.adapterInfosByName.lookup name

/-- `InventoryMap`: every adapter under its name, with no check. -/
def inventoryMap (inv : List (AdapterInfo V D B)) : GoMap (AdapterInfo V D B) :=
  inv.foldl (fun m bi => m.insert bi.name bi) ∅

/-- Adapters the registry takes: no name twice, both functions set, and a handler builder
that the validator accepts for every template the adapter lists. -/
def Registrable (infos : List (AdapterInfo V D B)) : Prop :=
  (infos.map (·.name)).Nodup ∧ ∀ info ∈ infos, info.validateConfig.isSome ∧
    info.defaultConfig.isSome ∧ ∃ hb, info.createHandlerBuilder = some hb ∧
      ∀ t ∈ info.supportedTemplates, (hndlrBldrValidator hb t).1 = true

theorem doesBuilderSupportsTemplates_true_iff (info : AdapterInfo V D B) :
    (∃ msg, doesBuilderSupportsTemplates hndlrBldrValidator info = .ok (true, msg)) ↔
      ∃ hb, info.createHandlerBuilder = some hb ∧
        ∀ t ∈ info.supportedTemplates, (hndlrBldrValidator hb t).1 = true := by
  unfold doesBuilderSupportsTemplates
  cases info.createHandlerBuilder with
  | none => simp
  | some hb =>
    have hnil : info.supportedTemplates.filterMap (fun t =>
        if (hndlrBldrValidator hb t).1 then none else some (hndlrBldrValidator hb t).2) = [] ↔
        ∀ t ∈ info.supportedTemplates, (hndlrBldrValidator hb t).1 = true := by
      rw [List.filterMap_eq_nil_iff]
      exact forall₂_congr fun t _ => by split_ifs with h <;> simp [h]
    simp only [Option.some.injEq, exists_eq_left', ← hnil, ne_eq, List.length_eq_zero]
    split_ifs with h <;> simp [h]

/-- One registration succeeds exactly when the name is new and the adapter is complete; it
then adds the adapter under its name. -/
theorem registerInfo_eq_ok_iff {r r' : GoMap (AdapterInfo V D B)} {info : AdapterInfo V D B} :
    registerInfo hndlrBldrValidator sprintInfo r info = .ok r' ↔
      info.name ∉ r ∧ info.validateConfig.isSome ∧ info.defaultConfig.isSome ∧
        (∃ hb, info.createHandlerBuilder = some hb ∧
          ∀ t ∈ info.supportedTemplates, (hndlrBldrValidator hb t).1 = true) ∧
        r.insert info.name info = r' := by
  rw [← doesBuilderSupportsTemplates_true_iff]
  unfold registerInfo
  rcases hl : r.lookup info.name with _ | a
  · simp only [AList.lookup_eq_none.mp hl, not_false_eq_true, true_and]
    cases hv : info.validateConfig
    · simp
    cases hd : info.defaultConfig
    · simp
    rcases doesBuilderSupportsTemplates hndlrBldrValidator info with e | ⟨_ | _, msg⟩ <;>
      simp [bind, Except.bind, pure, Except.pure]
  · have : info.name ∈ r := AList.lookup_isSome.mp (by simp [hl])
    simp [this]

/-- The loop from the registry `r` succeeds exactly when the adapters are registrable and
none has a name already in `r`; it then inserts them in order. -/
theorem foldlM_registerInfo_eq_ok_iff :
    ∀ (infos : List (AdapterInfo V D B)) (r r' : GoMap (AdapterInfo V D B)),
      infos.foldlM (registerInfo hndlrBldrValidator sprintInfo) r = .ok r' ↔
        (∀ info ∈ infos, info.name ∉ r) ∧ Registrable hndlrBldrValidator infos ∧
          infos.foldl (fun m bi => m.insert bi.name bi) r = r'
  | [], r, r' => by simp [Registrable, pure, Except.pure]
  | info :: infos, r, r' => by
    rw [List.foldlM_cons]
    constructor
    · intro h
      obtain ⟨mid, hmid, h⟩ : ∃ mid, registerInfo hndlrBldrValidator sprintInfo r info = .ok mid ∧
          infos.foldlM (registerInfo hndlrBldrValidator sprintInfo) mid = .ok r' := by
        cases hr : registerInfo hndlrBldrValidator sprintInfo r info <;> simp_all [bind, Except.bind]
      obtain ⟨hnew, hv, hd, hb, rfl⟩ := (registerInfo_eq_ok_iff hndlrBldrValidator sprintInfo).mp hmid
      obtain ⟨hfresh, ⟨hnd, hall⟩, rfl⟩ := (foldlM_registerInfo_eq_ok_iff infos _ r').mp h
      refine ⟨?_, ⟨?_, ?_⟩, rfl⟩
      · rintro i (_ | ⟨_, hi⟩)
        · exact hnew
        · exact fun hm => hfresh i hi ((AList.mem_insert _).mpr (.inr hm))
      · refine List.nodup_cons.mpr ⟨fun hm => ?_, hnd⟩
        obtain ⟨i, hi, hname⟩ := List.mem_map.mp hm
        exact hfresh i hi ((AList.mem_insert _).mpr (.inl hname))
      · rintro i (_ | ⟨_, hi⟩)
        exacts [⟨hv, hd, hb⟩, hall i hi]
    · rintro ⟨hfresh, ⟨hnd, hall⟩, rfl⟩
      obtain ⟨hv, hd, hb⟩ := hall info (.head _)
      have hmid : registerInfo hndlrBldrValidator sprintInfo r info = .ok (r.insert info.name info) :=
        (registerInfo_eq_ok_iff hndlrBldrValidator sprintInfo).mpr ⟨hfresh info (.head _), hv, hd, hb, rfl⟩
      rw [hmid]
      refine (foldlM_registerInfo_eq_ok_iff infos _ _).mpr ⟨fun i hi hm => ?_, ⟨(List.nodup_cons.mp hnd).2,
        fun i hi => hall i (.tail _ hi)⟩, rfl⟩
      rcases (AList.mem_insert _).mp hm with h | h
      · exact (List.nodup_cons.mp hnd).1 (List.mem_map.mpr ⟨i, hi, h⟩)
      · exact hfresh i (.tail _ hi) h

/-- `AdapterInfoMap` returns exactly when the inventory is registrable, and then returns what
`InventoryMap` returns for it. -/
theorem adapterInfoMap_iff (infos : List (AdapterInfo V D B)) (m : GoMap (AdapterInfo V D B)) :
    adapterInfoMap hndlrBldrValidator sprintInfo infos = .ok m ↔
      Registrable hndlrBldrValidator infos ∧ m = inventoryMap infos := by
  have h := foldlM_registerInfo_eq_ok_iff hndlrBldrValidator sprintInfo infos ∅ m
  simp only [AList.not_mem_empty, not_false_eq_true, implies_true, true_and] at h
  rw [inventoryMap, @eq_comm _ m, ← h, adapterInfoMap, newRegistry2]
  cases infos.foldlM (registerInfo hndlrBldrValidator sprintInfo) ∅ <;> simp [Except.map]

/-- `InventoryMap` keeps, under each name, the last adapter of the inventory with that name
(where `AdapterInfoMap` panics on the second). -/
theorem inventoryMap_lookup (inv : List (AdapterInfo V D B)) (n : String) :
    (inventoryMap inv).lookup n = inv.reverse.find? (·.name = n) := by
  refine (lookup_foldl_insert (·.name) id n inv ∅).trans ?_
  cases inv.reverse.find? (·.name = n) <;> rfl

end Registry

/-! ## The registry with the repository as validator -/

section WithRepository

variable {V D B : Type} (sprintInfo : AdapterInfo V D B → String)

/-- With the template repository's `SupportsTemplate` as validator, `AdapterInfoMap` returns
exactly when no adapter name repeats, every adapter sets both functions and has a handler
builder, and every template an adapter lists is in the repository with a `SupportsTemplate`
that accepts that builder; it then returns `InventoryMap` of the inventory. -/
theorem adapterInfoMap_repository_iff (order : RangeOrder (TmplInfo B))
    (tinfos : Option (GoMap (TmplInfo B))) (infos : List (AdapterInfo V D B))
    (m : GoMap (AdapterInfo V D B)) :
    adapterInfoMap (newRepository order tinfos).supportsTemplate sprintInfo infos = .ok m ↔
      (infos.map (·.name)).Nodup ∧ (∀ info ∈ infos, info.validateConfig.isSome ∧
        info.defaultConfig.isSome ∧ ∃ hb, info.createHandlerBuilder = some hb ∧
          ∀ t ∈ info.supportedTemplates,
            ∃ ti, (tinfos.getD ∅).lookup t = some ti ∧ ti.supportsTemplate hb = true) ∧
        m = inventoryMap infos := by
  rw [adapterInfoMap_iff, Registrable]
  simp only [supportsTemplate_iff, newRepository_info, and_assoc]

/-- A template the repository does not hold is refused, with a message whose list of allowed
templates starts with one empty string for each template it holds. -/
theorem supportsTemplate_unknown (order : RangeOrder (TmplInfo B)) (tinfos : GoMap (TmplInfo B))
    (hb : B) {tmpl : String} (h : tmpl ∉ tinfos) :
    (newRepository order (some tinfos)).supportsTemplate hb tmpl =
      (false, "Supported template " ++ tmpl ++ " is not one of the allowed supported templates " ++
        sprintStrings (List.replicate tinfos.entries.length "" ++
          (order.visit tinfos.entries).map (·.1))) := by
  rw [Repo.supportsTemplate, Repo.getTemplateInfo, newRepository_info, Option.getD_some,
    AList.lookup_eq_none.mpr h, newRepository_allSupportedTmpls]

/-- A repository holding the one template `metric`. -/
def metricTemplates : GoMap (TmplInfo Unit) :=
  (∅ : GoMap (TmplInfo Unit)).insert "metric" ⟨fun _ => true, "metric.HandlerBuilder"⟩

theorem supportsTemplate_unknown_quota :
    "quota" ∉ metricTemplates ∧
      (newRepository (storedRange _) (some metricTemplates)).supportsTemplate () "quota" =
        (false, "Supported template " ++ "quota" ++
          " is not one of the allowed supported templates " ++
          sprintStrings (List.replicate metricTemplates.entries.length "" ++
            ((storedRange _).visit metricTemplates.entries).map (·.1))) :=
  have h : "quota" ∉ metricTemplates := by decide
  ⟨h, supportsTemplate_unknown _ metricTemplates () h⟩

/-- The message lists `[ metric]`: an empty string, then the one template. -/
example : ((newRepository (storedRange _) (some metricTemplates)).supportsTemplate () "quota").2 =
    "Supported template quota is not one of the allowed supported templates [ metric]" := by
  decide

end WithRepository

end Mixer.Config
