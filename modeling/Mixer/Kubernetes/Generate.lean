import Mixer.Kubernetes.Builder
import Mixer.Lists
import Mixer.Kubernetes.CanonicalName
import Mathlib.Data.List.AList

/-!
# `Generate`: the values the Kubernetes adapter adds to a request

`src/adapter/kubernetes/kubernetes.go`, and its earlier version in `src/unnamed/part_001`.
`ValidateConfig` checks the adapter's parameters: every name it uses must be set, and the
cluster domain must have three segments. A generator's `Generate` looks up the source, target
and origin uids among the request's inputs; for each that is a non-empty string it asks the
pod cache for the pod the uid names (`keyFromUID` turns the uid into the cache's key) and
writes the pod's fields, and the canonical name of its service, under names made of the uid's
prefix and the parameter naming the value (`valueName`).

With a controller, `Generate` writes no key but a value name under the prefix of a uid that
names a pod the cache finds (`generate_keys`), and never panics; on a nil controller it panics
when it reads a uid. Composed with the builders of `Builder.lean`:
no generator that the builder of `kubernetes.go` serves panics (`newBuilder_generate_ok`),
while after a failed first set-up every generator the `sync.Once` builder of `part_001` serves
does (`newOnceBuilder_generate_panics`). A pod's uid, `name.namespace`, is looked up under
`key(namespace, name)` (`keyFromUID_pod`), and the `ParseIP` check the later `keyFromUID`
added changes no key of a uid without `':'` (`keyFromUID_eq_earlier`).

Mirroring notes:
- Strings are Go strings (`GoString`) and maps are `AList`s, so that `m[k] = v` is
  `AList.insert`, which replaces the key's value.
- `ConfigParams` has the fields of both versions of `config.Params`: `podLabelForIstioService`
  is only in the later one, `targetServiceInputName` only in the earlier one.
- The cache controller and `key` are defined outside this repository: the controller is the
  two lookups it answers (`CacheController`; the earlier version calls `GetPod` only), `key`
  a parameter, as is `net.ParseIP`'s IPv6 parser. A pointer the cache returns is an `Option`,
  `none` for nil; the later `GetPod` finds a pod only with a pointer to it, and the `found` of
  `GetServiceForPod`, like the earlier `GetPod`'s error, is only logged.
- An input is an `interface{}`: the model keeps a string, or the dynamic type of any other
  value, which is all a type assertion to `string` reads.
- `*adapter.ConfigErrors` is the list of `(field, message)` pairs `Appendf` added, in order,
  the empty list for nil.
- A panic is `.error` with the message the Go runtime prints. Logging (`k.log`) is not
  modelled.
-/

namespace Mixer.Kubernetes

/-! ## Parameters -/

/-- `config.Params`: the fields `BuildAttributesGenerator` reads, and those `ValidateConfig`
and `Generate` read. -/
structure ConfigParams extends Params where
  sourceUidInputName : GoString
  targetUidInputName : GoString
  originUidInputName : GoString
  targetServiceInputName : GoString
  clusterDomainName : GoString
  podLabelForService : GoString
  podLabelForIstioService : GoString
  sourcePrefix : GoString
  targetPrefix : GoString
  originPrefix : GoString
  labelsValueName : GoString
  podNameValueName : GoString
  podIpValueName : GoString
  hostIpValueName : GoString
  namespaceValueName : GoString
  serviceAccountValueName : GoString
  serviceValueName : GoString

/-- `conf`, the adapter's default parameters. -/
def conf : ConfigParams where
  toParams := defaultParams
  sourceUidInputName := "sourceUID".toList
  targetUidInputName := "targetUID".toList
  originUidInputName := "originUID".toList
  targetServiceInputName := []
  clusterDomainName := "svc.cluster.local".toList
  podLabelForService := "app".toList
  podLabelForIstioService := "istio".toList
  sourcePrefix := "source".toList
  targetPrefix := "target".toList
  originPrefix := "origin".toList
  labelsValueName := "Labels".toList
  podNameValueName := "PodName".toList
  podIpValueName := "PodIP".toList
  hostIpValueName := "HostIP".toList
  namespaceValueName := "Namespace".toList
  serviceAccountValueName := "ServiceAccountName".toList
  serviceValueName := "Service".toList

/-! ## `ValidateConfig` -/

/-- `*adapter.ConfigErrors`: the `(field, message)` pairs `Appendf` added, in order. -/
abbrev ConfigErrors := List (String × String)

/-- One of `ValidateConfig`'s checks that a field is set:
`if len(v) == 0 { ce = ce.Appendf(field, "field must be populated") }`. -/
def checkPopulated (field : String) (v : GoString) : ConfigErrors :=
  if v.length = 0 then [(field, "field must be populated")] else []

/-- The last check, on the cluster domain, which must also have three segments. -/
def checkClusterDomainName (d : GoString) : ConfigErrors :=
  if d.length = 0 then [("clusterDomainName", "field must be populated")]
  else if (split '.' d).length ≠ 3 then
    [("clusterDomainName",
      "must have three segments, separated by '.' ('svc.cluster.local', for example)")]
  else []

/-- Both versions of `ValidateConfig`: a check that each of `fields` is set, in order, under
the name its error gives, then the check of the cluster domain. -/
def validateFields (fields : List (String × GoString)) (d : GoString) : ConfigErrors :=
  fields.flatMap (fun f => checkPopulated f.1 f.2) ++ checkClusterDomainName d

/-- The fields `ValidateConfig` checks are set, in its order. -/
def populatedFields (p : ConfigParams) : List (String × GoString) :=
  [("sourceUidInputName", p.sourceUidInputName), ("targetUidInputName", p.targetUidInputName),
    ("originUidInputName", p.originUidInputName), ("sourcePrefix", p.sourcePrefix),
    ("targetPrefix", p.targetPrefix), ("originPrefix", p.originPrefix),
    ("labelsValueName", p.labelsValueName), ("podIpValueName", p.podIpValueName),
    ("podNameValueName", p.podNameValueName), ("hostIpValueName", p.hostIpValueName),
    ("namespaceValueName", p.namespaceValueName),
    ("serviceAccountValueName", p.serviceAccountValueName),
    ("serviceValueName", p.serviceValueName), ("podLabelForService", p.podLabelForService),
    ("podLabelForIstioService", p.podLabelForIstioService)]

/-- `ValidateConfig`. -/
def validateConfig (p : ConfigParams) : ConfigErrors :=
  validateFields (populatedFields p) p.clusterDomainName

section Validate

variable {fields : List (String × GoString)} {d : GoString}

/-- A configuration passes exactly when every field is set and the cluster domain has two
dots, so three segments. -/
theorem validateFields_eq_nil_iff :
    validateFields fields d = [] ↔ (∀ f ∈ fields, f.2 ≠ []) ∧ d.count '.' = 2 := by
  have hd : checkClusterDomainName d = [] ↔ d.count '.' = 2 := by
    unfold checkClusterDomainName
    rw [length_split]
    split_ifs with h₀ h₃
    · simp_all
    · simp only [List.cons_ne_nil, false_iff]; omega
    · simp only [true_iff]; omega
  simp [validateFields, checkPopulated, hd]

/-- Every error names the field it checks, with the message for what is wrong with it. -/
theorem mem_validateFields {e : String × String} :
    e ∈ validateFields fields d ↔
      (∃ f ∈ fields, f.2 = [] ∧ e = (f.1, "field must be populated")) ∨
      e.1 = "clusterDomainName" ∧
        (d = [] ∧ e.2 = "field must be populated" ∨ d ≠ [] ∧ d.count '.' ≠ 2 ∧
          e.2 = "must have three segments, separated by '.' ('svc.cluster.local', for example)") := by
  unfold validateFields checkClusterDomainName checkPopulated
  rw [length_split]
  obtain ⟨e₁, e₂⟩ := e
  split_ifs with h₀ h₃ <;> simp_all [eq_comm (a := e₁), and_comm (a := e₁ = _)]

/-- The errors come in the order of the checks, one at most for each. -/
theorem validateFields_sublist :
    List.Sublist ((validateFields fields d).map Prod.fst)
      (fields.map Prod.fst ++ ["clusterDomainName"]) := by
  unfold validateFields
  rw [List.map_append]
  refine List.Sublist.append ?_ ?_
  · induction fields with
    | nil => exact List.Sublist.slnil
    | cons f fields ih =>
      simp only [List.flatMap_cons, List.map_append, List.map_cons, checkPopulated]
      split_ifs
      · exact ih.cons₂ _
      · exact ih.cons _
  · unfold checkClusterDomainName; split_ifs <;> simp

end Validate

/-- The default parameters pass their own check. -/
theorem validateConfig_conf : validateConfig conf = [] := by decide

/-! ## Pods, services, inputs and values -/

/-- `v1.Pod`: the fields `addPodValues` reads. -/
structure Pod where
  labels : AList fun _ : GoString => GoString
  name : GoString
  «namespace» : GoString
  serviceAccountName : GoString
  podIP : GoString
  hostIP : GoString
  deriving DecidableEq

/-- `v1.Service`: the fields `addPodValues` reads. -/
structure Service where
  name : GoString
  «namespace» : GoString
  deriving DecidableEq

/-- `cacheController`: what the cache answers when asked for the pod under a key, and for the
service of the pod under a key. -/
structure CacheController where
  getPod : GoString → Option Pod
  getServiceForPod : GoString → Option Service

/-- An input value, an `interface{}`: a string, or a value of another dynamic type (`"nil"`
for a nil interface). -/
inductive Input where
  | string (s : GoString)
  | other (typeName : String)
  deriving DecidableEq

/-- `Generate`'s inputs, a `map[string]interface{}`. -/
abbrev Inputs := AList fun _ : GoString => Input

/-- A generated value: a pod's labels or a string. -/
inductive Value where
  | labels (l : AList fun _ : GoString => GoString)
  | string (s : GoString)
  deriving DecidableEq

/-- The generated values, a `map[string]interface{}`. -/
abbrev Values := AList fun _ : GoString => Value

/-- `kubePrefix`. -/
def kubePrefix : GoString := "kubernetes://".toList

/-- `strings.TrimPrefix`. -/
def trimPrefix (pre s : GoString) : GoString := if pre <+: s then s.drop pre.length else s

/-- A `key` that joins the namespace and the name with `'/'`, as the earlier `keyFromUID`
does. -/
def slashKey (ns n : GoString) : GoString := ns ++ '/' :: n

/-- `valueName`: `fmt.Sprintf("%s%s", prefix, value)`. -/
def valueName (valPrefix value : GoString) : GoString := valPrefix ++ value

/-- `if len > 0 { m[k] = v }`: the write `addPodValues` makes for each field of the pod. -/
def setIfPopulated (m : Values) (len : Nat) (k : GoString) (v : Value) : Values :=
  if 0 < len then m.insert k v else m

/-- The panic of a method call on a nil `cacheController`. -/
def nilControllerCall : String := "runtime error: invalid memory address or nil pointer dereference"

/-- The value names `addPodValues` writes under. -/
def valueNames (params : ConfigParams) : List GoString :=
  [params.labelsValueName, params.podNameValueName, params.namespaceValueName,
    params.serviceAccountValueName, params.podIpValueName, params.hostIpValueName,
    params.serviceValueName]

/-- The three uid inputs `Generate` reads, each with the prefix of the values it adds. -/
def uidInputs (params : ConfigParams) : List (GoString × GoString) :=
  [(params.sourceUidInputName, params.sourcePrefix), (params.targetUidInputName, params.targetPrefix),
    (params.originUidInputName, params.originPrefix)]

/-- The writes both versions of `addPodValues` make for the pod's own fields, in their order. -/
def setPodFields (m : Values) (valPrefix : GoString) (params : ConfigParams) (p : Pod) : Values :=
  let m := setIfPopulated m p.labels.entries.length (valueName valPrefix params.labelsValueName)
    (.labels p.labels)
  let m := setIfPopulated m p.name.length (valueName valPrefix params.podNameValueName)
    (.string p.name)
  let m := setIfPopulated m p.«namespace».length (valueName valPrefix params.namespaceValueName)
    (.string p.«namespace»)
  let m := setIfPopulated m p.serviceAccountName.length
    (valueName valPrefix params.serviceAccountValueName) (.string p.serviceAccountName)
  let m := setIfPopulated m p.podIP.length (valueName valPrefix params.podIpValueName)
    (.string p.podIP)
  setIfPopulated m p.hostIP.length (valueName valPrefix params.hostIpValueName) (.string p.hostIP)

section Writes

variable {params : ConfigParams} {k valPrefix : GoString}

@[simp] theorem mem_setIfPopulated {m : Values} {len : Nat} {k' : GoString} {v : Value} :
    k ∈ setIfPopulated m len k' v ↔ 0 < len ∧ k = k' ∨ k ∈ m := by
  unfold setIfPopulated
  split_ifs with h <;> simp [h, AList.mem_insert]

/-- `setPodFields` adds no key but a value name under the prefix. -/
theorem mem_setPodFields {m : Values} {p : Pod} (h : k ∈ setPodFields m valPrefix params p) :
    k ∈ m ∨ k ∈ (valueNames params).map (valueName valPrefix) := by
  simp only [setPodFields, mem_setIfPopulated] at h
  rcases h with ⟨-, rfl⟩ | ⟨-, rfl⟩ | ⟨-, rfl⟩ | ⟨-, rfl⟩ | ⟨-, rfl⟩ | ⟨-, rfl⟩ | h <;>
    simp [valueNames, *]

/-- A write under the service's value name keeps the keys within the value names. -/
theorem mem_insert_service {m : Values} {v : Value}
    (h : k ∈ m.insert (valueName valPrefix params.serviceValueName) v) :
    k ∈ m ∨ k ∈ (valueNames params).map (valueName valPrefix) := by
  rw [AList.mem_insert] at h
  exact h.symm.imp_right fun h => by simp [valueNames, h]

end Writes

/-! ## The generator of `kubernetes.go` -/

section Generate

variable (parseIPv6 : GoString → Bool) (key : GoString → GoString → GoString)

/-- `keyFromUID`: an IP address is its own key; otherwise the uid without `kubernetes://`,
where `name.namespace` becomes `key(namespace, name)`. -/
def keyFromUID (uid : GoString) : GoString :=
  if parseIP parseIPv6 uid then uid
  else
    let fullname := trimPrefix kubePrefix uid
    if '.' ∈ fullname then
      let parts := split '.' fullname
      if parts.length = 2 then key (parts.getD 1 []) (parts.getD 0 []) else fullname
    else fullname

/-- `addPodValues`. -/
def addPodValues (m : Values) (valPrefix : GoString) (params : ConfigParams) (p : Pod)
    (svc : Option Service) : Values :=
  let m := setPodFields m valPrefix params p
  match svc with
  | none => m
  | some svc =>
    match canonicalName parseIPv6 svc.name svc.«namespace» params.clusterDomainName with
    | .ok n => m.insert (valueName valPrefix params.serviceValueName) (.string n)
    | .error _ => m

/-- `addValues`, on the generator's controller `pods`. -/
def addValues (pods : Option CacheController) (params : ConfigParams) (vals : Values)
    (uid valPrefix : GoString) : Except String Values :=
  match pods with
  | none => .error nilControllerCall
  | some pods =>
    match pods.getPod (keyFromUID parseIPv6 key uid) with
    | none => .ok vals
    | some pod =>
      .ok (addPodValues parseIPv6 vals valPrefix params pod
        (pods.getServiceForPod (key pod.«namespace» pod.name)))

/-- One of `Generate`'s three blocks: the uid under `inputName`, if it is a non-empty string,
adds its pod's values under `valPrefix`. -/
def generateFrom (pods : Option CacheController) (params : ConfigParams) (inputs : Inputs)
    (values : Values) (inputName valPrefix : GoString) : Except String Values :=
  match inputs.lookup inputName with
  | some (.string uidstr) =>
    if 0 < uidstr.length then addValues parseIPv6 key pods params values uidstr valPrefix
    else .ok values
  | _ => .ok values

/-- `Generate`, on the generator's `pods` and `params`. -/
def generate (pods : Option CacheController) (params : ConfigParams) (inputs : Inputs) :
    Except String Values := do
  let values ← generateFrom parseIPv6 key pods params inputs ∅ params.sourceUidInputName
    params.sourcePrefix
  let values ← generateFrom parseIPv6 key pods params inputs values params.targetUidInputName
    params.targetPrefix
  generateFrom parseIPv6 key pods params inputs values params.originUidInputName
    params.originPrefix

/-- `k` is a value name under the prefix of one of the three uids, where the uid is a
non-empty string among the inputs and names a pod the cache `c` finds. -/
def Generated (c : CacheController) (params : ConfigParams) (inputs : Inputs) (k : GoString) :
    Prop :=
  ∃ b ∈ uidInputs params, ∃ uid pod, inputs.lookup b.1 = some (.string uid) ∧ uid ≠ [] ∧
    c.getPod (keyFromUID parseIPv6 key uid) = some pod ∧
    ∃ v ∈ valueNames params, k = valueName b.2 v

/-! ### What `Generate` writes -/

variable {params : ConfigParams} {inputs : Inputs} {k : GoString}

/-- `addPodValues` adds no key but a value name under the prefix. -/
theorem mem_addPodValues {m : Values} {valPrefix : GoString} {p : Pod} {svc : Option Service}
    (h : k ∈ addPodValues parseIPv6 m valPrefix params p svc) :
    k ∈ m ∨ k ∈ (valueNames params).map (valueName valPrefix) := by
  unfold addPodValues at h
  split at h
  · exact mem_setPodFields h
  · split at h
    · exact (mem_insert_service h).elim mem_setPodFields .inr
    · exact mem_setPodFields h

/-- A block adds no key but a value name under its prefix, and only when its uid is a
non-empty string that the cache finds a pod for. -/
theorem mem_generateFrom {c : CacheController} {values values' : Values} {b : GoString × GoString}
    (hb : b ∈ uidInputs params)
    (h : generateFrom parseIPv6 key (some c) params inputs values b.1 b.2 = .ok values')
    (hk : k ∈ values') : k ∈ values ∨ Generated parseIPv6 key c params inputs k := by
  unfold generateFrom at h
  split at h
  · next uid hl =>
    split_ifs at h with hu
    · simp only [addValues] at h
      split at h
      · cases h; exact .inl hk
      · next pod hp =>
        cases h
        refine (mem_addPodValues parseIPv6 hk).imp_right fun hv => ?_
        obtain ⟨v, hv', rfl⟩ := List.mem_map.mp hv
        exact ⟨b, hb, uid, pod, hl, List.ne_nil_of_length_pos hu, hp, v, hv', rfl⟩
    · cases h; exact .inl hk
  · cases h; exact .inl hk

/-- With a controller, `Generate` writes no key but a value name under the prefix of a uid
that is a non-empty string among the inputs and names a pod the cache finds. -/
theorem generate_keys {c : CacheController} {vals : Values}
    (h : generate parseIPv6 key (some c) params inputs = .ok vals) (hk : k ∈ vals) :
    Generated parseIPv6 key c params inputs k := by
  obtain ⟨v₁, h₁, h⟩ := except_bind_eq_ok.mp h
  obtain ⟨v₂, h₂, h₃⟩ := except_bind_eq_ok.mp h
  rcases mem_generateFrom parseIPv6 key (b := (_, params.originPrefix)) (by simp [uidInputs]) h₃ hk
    with hk | hk
  · rcases mem_generateFrom parseIPv6 key (b := (_, params.targetPrefix)) (by simp [uidInputs]) h₂
      hk with hk | hk
    · rcases mem_generateFrom parseIPv6 key (b := (_, params.sourcePrefix)) (by simp [uidInputs])
        h₁ hk with hk | hk
      · exact absurd hk (AList.not_mem_empty k)
      · exact hk
    · exact hk
  · exact hk

/-! ### When `Generate` panics -/

/-- With a controller, a block never panics. -/
theorem generateFrom_some_ok (c : CacheController) (values : Values) (inputName valPrefix : GoString) :
    ∃ values', generateFrom parseIPv6 key (some c) params inputs values inputName valPrefix =
      .ok values' := by
  unfold generateFrom
  split
  · split_ifs
    · simp only [addValues]
      split <;> exact ⟨_, rfl⟩
    · exact ⟨_, rfl⟩
  · exact ⟨_, rfl⟩

/-- With a controller, `Generate` never panics. -/
theorem generate_some_ok (c : CacheController) :
    ∃ vals, generate parseIPv6 key (some c) params inputs = .ok vals := by
  obtain ⟨v₁, h₁⟩ : ∃ v, generateFrom parseIPv6 key (some c) params inputs ∅
      params.sourceUidInputName params.sourcePrefix = .ok v := generateFrom_some_ok _ _ c _ _ _
  obtain ⟨v₂, h₂⟩ : ∃ v, generateFrom parseIPv6 key (some c) params inputs v₁
      params.targetUidInputName params.targetPrefix = .ok v := generateFrom_some_ok _ _ c _ _ _
  obtain ⟨v₃, h₃⟩ : ∃ v, generateFrom parseIPv6 key (some c) params inputs v₂
      params.originUidInputName params.originPrefix = .ok v := generateFrom_some_ok _ _ c _ _ _
  exact ⟨v₃, except_bind_eq_ok.mpr ⟨v₁, h₁, except_bind_eq_ok.mpr ⟨v₂, h₂, h₃⟩⟩⟩

/-- Every generator that a builder from `newBuilder` serves, in any run, runs `Generate`
without a panic, whatever its parameters and inputs: the builder hands out its controller
only once the set-up succeeded. -/
theorem newBuilder_generate_ok (calls : List (CallEnv CacheController × Params)) :
    ∀ r ∈ (newBuilder.run calls).1, ∀ kg, r = .ok (.ok kg) →
      (generate parseIPv6 key kg.pods params inputs).isOk := by
  intro r hr kg hkg
  obtain ⟨call, -, hserved⟩ := exists_of_forall₂ ((runCalls_inv Builder.Inv Served
    (fun b c hb => buildAttributesGenerator_inv hb c.1 c.2) newBuilder calls
    (fun h => by cases h)).1) hr
  obtain ⟨c, hc⟩ := Option.isSome_iff_exists.mp (hserved.1 kg hkg).1
  obtain ⟨vals, hv⟩ : ∃ vals, generate parseIPv6 key (some c) params inputs = .ok vals :=
    generate_some_ok parseIPv6 key c
  rw [hc, hv]
  rfl

/-! ### The uid of a pod -/

/-- `kubernetes://` is no part of a string with no `':'`. -/
theorem trimPrefix_kubePrefix_of_not_mem {s : GoString} (hs : ':' ∉ s) :
    trimPrefix kubePrefix s = s :=
  if_neg fun h => hs (h.subset (by decide))

/-- `name.namespace` splits into the name and the namespace. -/
theorem split_name_namespace {n ns : GoString} (hn : '.' ∉ n) (hns : '.' ∉ ns) :
    split '.' (n ++ '.' :: ns) = [n, ns] := by
  simpa [intercalate_cons] using split_intercalate (c := '.') (show [n, ns] ≠ [] by simp)
    (by simp [hn, hns])

/-- `kubernetes://` is trimmed off a uid that starts with it. -/
theorem trimPrefix_kubePrefix (s : GoString) : trimPrefix kubePrefix (kubePrefix ++ s) = s := by
  simp [trimPrefix]

/-- A uid after `kubernetes://` has its first `':'` before any `'.'`, so `ParseIP` asks the
IPv6 parser. -/
theorem parseIP_kubePrefix (s : GoString) :
    parseIP parseIPv6 (kubePrefix ++ s) = parseIPv6 (kubePrefix ++ s) :=
  rfl

/-- A pod's uid `name.namespace` is looked up under `key(namespace, name)`, the key
`addValues` builds from the pod's own namespace and name; so is `kubernetes://name.namespace`
when the IPv6 parser rejects it. -/
theorem keyFromUID_pod {n ns : GoString} (hn : '.' ∉ n ∧ ':' ∉ n) (hns : '.' ∉ ns ∧ ':' ∉ ns) :
    keyFromUID parseIPv6 key (n ++ '.' :: ns) = key ns n ∧
      (parseIPv6 (kubePrefix ++ n ++ '.' :: ns) = false →
        keyFromUID parseIPv6 key (kubePrefix ++ n ++ '.' :: ns) = key ns n) := by
  have hcolon : ':' ∉ n ++ '.' :: ns := not_mem_append_sep (by decide) hn.2 hns.2
  have hdot : '.' ∈ n ++ '.' :: ns := by simp
  have hsplit := split_name_namespace hn.1 hns.1
  have hbare : parseIP parseIPv6 (n ++ '.' :: ns) = false :=
    parseIP_of_count parseIPv6 hcolon <| by
      simp [List.count_append, List.count_eq_zero_of_not_mem hn.1,
        List.count_eq_zero_of_not_mem hns.1]
  refine ⟨by simp [keyFromUID, hbare, trimPrefix_kubePrefix_of_not_mem hcolon, hdot, hsplit],
    fun hip => ?_⟩
  have hkube : parseIP parseIPv6 (kubePrefix ++ (n ++ '.' :: ns)) = false := by
    rw [parseIP_kubePrefix, ← List.append_assoc, hip]
  rw [List.append_assoc]
  simp [keyFromUID, hkube, trimPrefix_kubePrefix, hdot, hsplit]

end Generate

/-! ## The generator of `part_001`

The earlier version asserts `uid.(string)` unchecked, so an input of another type panics;
`keyFromUID` has no `ParseIP` check and builds the key itself; `GetPod` answers with a
pointer that may be nil, which `addPodValues` checks; the service is the pod's label
`podLabelForService`, qualified by the pod's namespace; and `Generate` ends with a block that
writes the canonical name of the input `targetServiceInputName` as the target's service. -/

namespace Earlier

/-- `defaultNamespace`. -/
def defaultNamespace : GoString := "default".toList

/-- The fields the earlier `ValidateConfig` checks are set, in its order: it checks
`targetServiceInputName` where the later one checks `podLabelForIstioService`, and reports an
empty `podLabelForService` under the name `podLabelName`. -/
def populatedFields (p : ConfigParams) : List (String × GoString) :=
  [("sourceUidInputName", p.sourceUidInputName), ("targetUidInputName", p.targetUidInputName),
    ("originUidInputName", p.originUidInputName), ("sourcePrefix", p.sourcePrefix),
    ("targetPrefix", p.targetPrefix), ("originPrefix", p.originPrefix),
    ("labelsValueName", p.labelsValueName), ("podIpValueName", p.podIpValueName),
    ("podNameValueName", p.podNameValueName), ("hostIpValueName", p.hostIpValueName),
    ("namespaceValueName", p.namespaceValueName),
    ("serviceAccountValueName", p.serviceAccountValueName),
    ("serviceValueName", p.serviceValueName), ("podLabelName", p.podLabelForService),
    ("targetServiceInputName", p.targetServiceInputName)]

/-- `ValidateConfig`. -/
def validateConfig (p : ConfigParams) : ConfigErrors :=
  validateFields (populatedFields p) p.clusterDomainName

/-- `conf`: the later defaults with `targetService` and without `podLabelForIstioService`. -/
def conf : ConfigParams :=
  { Kubernetes.conf with
    targetServiceInputName := "targetService".toList
    podLabelForIstioService := [] }

/-- The default parameters pass their own check. -/
theorem validateConfig_conf : validateConfig conf = [] := by decide

/-- No error of the earlier check names `podLabelForService`: an empty one is reported under
`podLabelName`. -/
theorem validateConfig_podLabelName (p : ConfigParams) :
    (∀ e ∈ validateConfig p, e.1 ≠ "podLabelForService") ∧
      (("podLabelName", "field must be populated") ∈ validateConfig p ↔
        p.podLabelForService = []) := by
  refine ⟨fun e he hname => ?_, ?_⟩
  · have := validateFields_sublist.subset (List.mem_map_of_mem Prod.fst he)
    simp [populatedFields, hname] at this
  · simp [validateConfig, mem_validateFields, populatedFields]

/-- The panic of the unchecked assertion `x.(string)` on a value of another dynamic type. -/
def stringAssertion (typeName : String) : String :=
  "interface conversion: interface \x7b\x7d is " ++ typeName ++ ", not string"

/-- `keyFromUID`: the uid without `kubernetes://`, where `name.namespace` becomes
`namespace/name`. -/
def keyFromUID (uid : GoString) : GoString :=
  let fullname := trimPrefix kubePrefix uid
  if '.' ∈ fullname then
    let parts := split '.' fullname
    if parts.length = 2 then parts.getD 1 [] ++ '/' :: parts.getD 0 [] else fullname
  else fullname

section Generate

variable (parseIPv6 : GoString → Bool)

/-- `addPodValues`: nothing for a nil pod. -/
def addPodValues (m : Values) (valPrefix : GoString) (params : ConfigParams) :
    Option Pod → Values
  | none => m
  | some p =>
    let m := setPodFields m valPrefix params p
    match p.labels.lookup params.podLabelForService with
    | none => m
    | some app =>
      match canonicalName parseIPv6 app p.«namespace» params.clusterDomainName with
      | .ok n => m.insert (valueName valPrefix params.serviceValueName) (.string n)
      | .error _ => m

/-- `addValues`, on the generator's controller `pods`. -/
def addValues (pods : Option CacheController) (params : ConfigParams) (vals : Values)
    (uid valPrefix : GoString) : Except String Values :=
  match pods with
  | none => .error nilControllerCall
  | some pods => .ok (addPodValues parseIPv6 vals valPrefix params (pods.getPod (keyFromUID uid)))

/-- One of `Generate`'s three uid blocks. -/
def generateFrom (pods : Option CacheController) (params : ConfigParams) (inputs : Inputs)
    (values : Values) (inputName valPrefix : GoString) : Except String Values :=
  match inputs.lookup inputName with
  | none => .ok values
  | some (.other t) => .error (stringAssertion t)
  | some (.string uidstr) =>
    if 0 < uidstr.length then addValues parseIPv6 pods params values uidstr valPrefix
    else .ok values

/-- `Generate`, on the generator's `pods` and `params`. -/
def generate (pods : Option CacheController) (params : ConfigParams) (inputs : Inputs) :
    Except String Values := do
  let values ← generateFrom parseIPv6 pods params inputs ∅ params.sourceUidInputName
    params.sourcePrefix
  let values ← generateFrom parseIPv6 pods params inputs values params.targetUidInputName
    params.targetPrefix
  let values ← generateFrom parseIPv6 pods params inputs values params.originUidInputName
    params.originPrefix
  match inputs.lookup params.targetServiceInputName with
  | none => .ok values
  | some (.other t) => .error (stringAssertion t)
  | some (.string svc) =>
    if 0 < svc.length then
      match canonicalName parseIPv6 svc defaultNamespace params.clusterDomainName with
      | .error _ => .ok values
      | .ok n => .ok (values.insert (valueName params.targetPrefix params.serviceValueName) (.string n))
    else .ok values

variable {params : ConfigParams} {inputs : Inputs}

/-- On a nil controller, `Generate` panics at the source uid when it is a non-empty string. -/
theorem generate_none_of_source {uid : GoString}
    (hl : inputs.lookup params.sourceUidInputName = some (.string uid)) (hu : uid ≠ []) :
    generate parseIPv6 none params inputs = .error nilControllerCall := by
  simp [generate, generateFrom, hl, addValues, List.length_pos.mpr hu, bind, Except.bind]

end Generate

end Earlier

/-- The `ParseIP` check the later `keyFromUID` added changes no key of a uid with no `':'`,
when `key` is the earlier `namespace/name`: an IPv4 address has three dots, so the earlier
version also returns it as it is. -/
theorem keyFromUID_eq_earlier (parseIPv6 : GoString → Bool) {uid : GoString} (hu : ':' ∉ uid) :
    keyFromUID parseIPv6 slashKey uid = Earlier.keyFromUID uid := by
  unfold keyFromUID
  split_ifs with hip
  · have h4 : (split '.' uid).length = 4 := by
      rw [length_split]
      rw [parseIP_of_no_colon parseIPv6 hu, Option.isSome_iff_exists] at hip
      obtain ⟨a, ha⟩ := hip
      rw [parseIPv4_count ha]
    simp [Earlier.keyFromUID, trimPrefix_kubePrefix_of_not_mem hu, h4]
  · rfl

/-- After a first call whose factory fails, every generator the `sync.Once` builder of
`part_001` serves, whatever the world answers later, panics in `Generate` as soon as the
source uid is a non-empty string: the builder hands out its nil controller for good. -/
theorem newOnceBuilder_generate_panics (parseIPv6 : GoString → Bool) {env : CallEnv CacheController}
    {paramsProto : Params} (later : List (CallEnv CacheController × Params))
    (hfail : (env.newCacheControllerFn paramsProto.kubeconfigPath
      paramsProto.cacheRefreshDuration).isOk = false)
    {params : ConfigParams} {inputs : Inputs} {uid : GoString}
    (hl : inputs.lookup params.sourceUidInputName = some (.string uid)) (hu : uid ≠ []) :
    ∀ r ∈ (newOnceBuilder.run ((env, paramsProto) :: later)).1.tail, ∀ kg, r = .ok kg →
      Earlier.generate parseIPv6 kg.pods params inputs = .error nilControllerCall := by
  rw [newOnceBuilder_run_of_failure hfail]
  intro r hr kg hkg
  obtain ⟨c, -, rfl⟩ := List.mem_map.mp hr
  cases hkg
  exact Earlier.generate_none_of_source parseIPv6 hl hu

/-! ## Samples -/

/-- A pod `hello-1` in namespace `default`, labelled `app: hello`. -/
def helloPod : Pod where
  labels := AList.insert "app".toList "hello".toList ∅
  name := "hello-1".toList
  «namespace» := "default".toList
  serviceAccountName := "default".toList
  podIP := "10.0.0.1".toList
  hostIP := "192.168.0.1".toList

/-- A cache holding `helloPod` under `default/hello-1`, with the service `hello` for it. -/
def helloCache : CacheController where
  getPod k := if k = "default/hello-1".toList then some helloPod else none
  getServiceForPod k :=
    if k = "default/hello-1".toList then some ⟨"hello".toList, "default".toList⟩ else none

/-- A request whose source is the pod `hello-1` of `default`. -/
def helloInputs : Inputs :=
  AList.insert conf.sourceUidInputName (.string "kubernetes://hello-1.default".toList) ∅

/-- What `Generate` returns for it. -/
def helloValues : Values :=
  match generate (fun _ => false) slashKey (some helloCache) conf helloInputs with
  | .ok v => v
  | .error _ => ∅

/-- A call during which the factory returns `helloCache` and the cache syncs. -/
def helloCluster : CallEnv CacheController := ⟨fun _ _ => .ok helloCache, none, true⟩

/-- A call during which the factory cannot reach the cluster. -/
def unreachableCache : CallEnv CacheController :=
  ⟨fun _ _ => .error "could not retrieve kubeconfig", none, true⟩

example : helloValues.lookup "sourceService".toList =
    some (.string "hello.default.svc.cluster.local".toList) := by decide

theorem generate_keys_hello :
    generate (fun _ => false) slashKey (some helloCache) conf helloInputs = .ok helloValues ∧
      "sourceService".toList ∈ helloValues ∧
      Generated (fun _ => false) slashKey helloCache conf helloInputs "sourceService".toList :=
  have h : generate (fun _ => false) slashKey (some helloCache) conf helloInputs =
      .ok helloValues := rfl
  have hk : "sourceService".toList ∈ helloValues := by decide
  ⟨h, hk, generate_keys _ _ h hk⟩

theorem newBuilder_generate_ok_hello :
    Except.ok (.ok ⟨some helloCache, defaultParams⟩) ∈
        (newBuilder.run [(helloCluster, defaultParams)]).1 ∧
      (generate (fun _ => false) slashKey
        (⟨some helloCache, defaultParams⟩ : Kubegen CacheController).pods conf helloInputs).isOk :=
  have hm : Except.ok (.ok ⟨some helloCache, defaultParams⟩) ∈
      (newBuilder.run [(helloCluster, defaultParams)]).1 := .head _
  ⟨hm, newBuilder_generate_ok _ _ _ _ hm _ rfl⟩

theorem newOnceBuilder_generate_panics_unreachable :
    (unreachableCache.newCacheControllerFn defaultParams.kubeconfigPath
      defaultParams.cacheRefreshDuration).isOk = false ∧
    helloInputs.lookup Earlier.conf.sourceUidInputName =
      some (.string "kubernetes://hello-1.default".toList) ∧
    "kubernetes://hello-1.default".toList ≠ [] ∧
    Except.ok ⟨none, defaultParams⟩ ∈
      (newOnceBuilder.run [(unreachableCache, defaultParams), (helloCluster, defaultParams)]).1.tail ∧
    Earlier.generate (fun _ => false) (⟨none, defaultParams⟩ : Kubegen CacheController).pods
      Earlier.conf helloInputs = .error nilControllerCall :=
  have hl : helloInputs.lookup Earlier.conf.sourceUidInputName =
      some (.string "kubernetes://hello-1.default".toList) := by decide
  have hm : Except.ok ⟨none, defaultParams⟩ ∈
      (newOnceBuilder.run [(unreachableCache, defaultParams), (helloCluster, defaultParams)]).1.tail :=
    .head _
  have hf : (unreachableCache.newCacheControllerFn defaultParams.kubeconfigPath
      defaultParams.cacheRefreshDuration).isOk = false := rfl
  ⟨hf, hl, by decide, hm, newOnceBuilder_generate_panics _ _ hf hl (by decide) _ hm _ rfl⟩

theorem keyFromUID_pod_hello :
    ('.' ∉ "hello-1".toList ∧ ':' ∉ "hello-1".toList) ∧
      ('.' ∉ "default".toList ∧ ':' ∉ "default".toList) ∧
      (fun _ => false : GoString → Bool) (kubePrefix ++ "hello-1".toList ++ '.' :: "default".toList) =
        false ∧
      keyFromUID (fun _ => false) slashKey ("hello-1".toList ++ '.' :: "default".toList) =
        slashKey "default".toList "hello-1".toList ∧
      keyFromUID (fun _ => false) slashKey (kubePrefix ++ "hello-1".toList ++ '.' :: "default".toList) =
        slashKey "default".toList "hello-1".toList :=
  ⟨by decide, by decide, rfl, (keyFromUID_pod _ _ (by decide) (by decide)).1,
    (keyFromUID_pod _ _ (by decide) (by decide)).2 rfl⟩

theorem keyFromUID_eq_earlier_ip :
    ':' ∉ "10.0.0.1".toList ∧
      keyFromUID (fun _ => false) slashKey "10.0.0.1".toList = Earlier.keyFromUID "10.0.0.1".toList :=
  ⟨by decide, keyFromUID_eq_earlier _ (by decide)⟩

end Mixer.Kubernetes
