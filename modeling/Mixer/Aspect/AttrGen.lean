import Mixer.Api.Unary
import Mixer.Config.InferTypes
import Mixer.Kubernetes.Generate

/-!
# The attribute-generation aspect: `evalAll` and `attrGenExec.Execute`

A preprocessing aspect evaluates its label expressions over the request's attributes
(`evalAll`), hands the values to an attributes generator, and keeps, of what the
generator returns, the attributes its config declares. The results:

- `evalAll_spec`: the labels `evalAll` returns are exactly the expressions that evaluate,
  with their values; it reports an error exactly when some expression fails, and then
  one message per failing label. All of this for every iteration order of the map.
- `execute_spec`: `Execute` fails with the evaluation message when some label fails,
  with the generation message when the generator fails, and otherwise succeeds with a
  bag that holds exactly the generated attributes that are declared.

Mirroring notes:
- Both loops range over Go maps; `RangeOrder` is the runtime's order, any permutation.
  The maps' keys are distinct, so each loop writes each key once and the order never
  shows in a lookup (`lookup_foldl_insertSome_perm`).
- The expression evaluator, the bag of request attributes and the generator are
  parameters. The bag `Execute` builds is the map of the values `Set` on it.
- A `multierror.Error` is the list of its messages; `ErrorOrNil` is `none` for the empty
  list. Logging (`glog.Error`) is not modelled.
-/

namespace Mixer.Aspect

open Mixer.Config (GoMap RangeOrder)
open Mixer.Api (Status)
open Mixer.Api.Unary (withInternal)
open Mixer.Kubernetes (ConfigErrors)

/-! ## `evalAll` -/

/-- `fmt.Errorf("failed to construct value for label '%s': %v", label, err)`. -/
def labelError (label err : String) : String :=
  "failed to construct value for label '" ++ label ++ "': " ++ err

/-- `multierror.Error.ErrorOrNil`: no error when nothing was appended. -/
def errorOrNil (errs : List String) : Option (List String) :=
  if errs.isEmpty then none else some errs

section EvalAll

variable {B V : Type} (eval : String → B → Except String V) (attrs : B)

/-- One turn of `evalAll`'s loop: store the label's value, or append its error and
`continue`. -/
def evalStep (acc : GoMap V × List String) (e : (_ : String) × String) :
    GoMap V × List String :=
  match eval e.2 attrs with
  | .error err => (acc.1, acc.2 ++ [labelError e.1 err])
  | .ok val => (acc.1.insert e.1 val, acc.2)

/-- `evalAll`: the value of each label's expression over `attrs`, and the errors of the
labels that have none. -/
def evalAll (order : RangeOrder String) (expressions : GoMap String) :
    GoMap V × Option (List String) :=
  let acc := (order.visit expressions.entries).foldl (evalStep eval attrs) (∅, [])
  (acc.1, errorOrNil acc.2)

/-- The message `evalAll` appends for one label, if its expression fails. -/
def labelFailure (e : (_ : String) × String) : Option String :=
  match eval e.2 attrs with
  | .error err => some (labelError e.1 err)
  | .ok _ => none

end EvalAll

/-! ## Maps built by one insert per entry -/

/-- One turn of a loop that inserts an entry's value when `f` keeps one. -/
def insertSome {α V : Type} (f : String → α → Option V) (m : GoMap V)
    (e : (_ : String) × α) : GoMap V :=
  match f e.1 e.2 with
  | some v => m.insert e.1 v
  | none => m

/-- The loop is the one that inserts every entry, run over the entries `f` keeps. -/
theorem foldl_insertSome {α V : Type} (f : String → α → Option V) :
    ∀ (xs : List ((_ : String) × α)) (m : GoMap V),
      xs.foldl (insertSome f) m = (xs.filterMap fun e => (f e.1 e.2).map (e.1, ·)).foldl
        (fun m (e : String × V) => m.insert e.1 e.2) m
  | [], _ => rfl
  | e :: xs, m => by
    cases hf : f e.1 e.2 <;> simp [insertSome, hf, List.filterMap_cons, foldl_insertSome f xs]

theorem any_map_pair {V : Type} (o : Option V) (a k : String) :
    (o.map (a, ·)).any (fun x => x.1 = k) ↔ o.isSome ∧ a = k := by
  cases o <;> simp

/-- A loop over a permutation of a map's entries, from the empty map, leaves at each key what
`f` keeps of that key's entry: the map's keys are distinct, so the last entry of a key, which
`lookup_foldl_insert` picks, is its only one. -/
theorem lookup_foldl_insertSome_perm {α V : Type} (f : String → α → Option V) (k : String)
    {xs : List ((_ : String) × α)} (m : AList fun _ : String => α) (hperm : xs.Perm m.entries) :
    (xs.foldl (insertSome f) ∅).lookup k = (m.lookup k).bind (f k) := by
  have hkey : ∀ e ∈ xs.reverse, e.1 = k → m.lookup k = some e.2 := fun e he hk => by
    rw [← hk]; exact AList.mem_lookup_iff.mpr (hperm.subset (List.mem_reverse.mp he))
  rw [foldl_insertSome]
  refine (lookup_foldl_insert Prod.fst Prod.snd k _ ∅).trans ?_
  rw [← List.filterMap_reverse, List.find?_filterMap]
  cases hres : (m.lookup k).bind (f k) with
  | none =>
    rw [List.find?_eq_none.mpr fun e he hp => by
      obtain ⟨hs, hk⟩ := (any_map_pair _ _ _).mp hp
      rw [hkey e he hk, Option.some_bind, ← hk] at hres
      simp [hres] at hs]
    rfl
  | some v =>
    obtain ⟨b, hb, hf⟩ := Option.bind_eq_some.mp hres
    have hu : ∀ e ∈ xs.reverse, e.1 = k → e = ⟨k, b⟩ := fun ⟨a, c⟩ he hk => by
      subst hk; cases (hkey _ he rfl).symm.trans hb; rfl
    have hmem : ⟨k, b⟩ ∈ xs.reverse :=
      List.mem_reverse.mpr (hperm.symm.subset (AList.mem_lookup_iff.mp hb))
    rw [find?_eq_some_of_unique (fun e he hp => hu e he ((any_map_pair _ _ _).mp hp).2) hmem
      (by simp [hf])]
    simp [hf]

section EvalAll

variable {B V : Type} (eval : String → B → Except String V) (attrs : B)

/-- `evalAll`'s loop is two loops: the inserts of the values, and the messages of the
failures, in order. -/
theorem foldl_evalStep :
    ∀ (xs : List ((_ : String) × String)) (m : GoMap V) (errs : List String),
      xs.foldl (evalStep eval attrs) (m, errs) =
        (xs.foldl (insertSome fun _ t => (eval t attrs).toOption) m,
          errs ++ xs.filterMap (labelFailure eval attrs))
  | [], _, _ => by simp
  | x :: xs, m, errs => by
    cases h : eval x.2 attrs <;>
      simp [evalStep, insertSome, labelFailure, h, foldl_evalStep xs, Except.toOption]

theorem errorOrNil_getD (errs : List String) : (errorOrNil errs).getD [] = errs := by
  cases errs <;> rfl

theorem errorOrNil_eq_none (errs : List String) : errorOrNil errs = none ↔ errs = [] := by
  cases errs <;> simp [errorOrNil]

section
variable (order : RangeOrder String) (expressions : GoMap String)

/-- The labels `evalAll` returns are the expressions that evaluate, with their values. -/
theorem evalAll_lookup (l : String) :
    (evalAll eval attrs order expressions).1.lookup l =
      (expressions.lookup l).bind fun t => (eval t attrs).toOption := by
  simp only [evalAll, foldl_evalStep]
  exact lookup_foldl_insertSome_perm _ l expressions (order.visit_perm _)

/-- `evalAll` reports no error exactly when every expression evaluates. -/
theorem evalAll_eq_none_iff :
    (evalAll eval attrs order expressions).2 = none ↔
      ∀ e ∈ expressions.entries, (eval e.2 attrs).isOk := by
  have hperm := order.visit_perm expressions.entries
  have hfail : ∀ e : (_ : String) × String,
      labelFailure eval attrs e = none ↔ (eval e.2 attrs).isOk := by
    intro e
    simp only [labelFailure]
    split <;> simp_all [Except.isOk, Except.toBool]
  simp only [evalAll, foldl_evalStep, List.nil_append, errorOrNil_eq_none,
    List.filterMap_eq_nil_iff, hfail]
  exact ⟨fun h e he => h e (hperm.mem_iff.mpr he), fun h e he => h e (hperm.mem_iff.mp he)⟩

/-- The error `evalAll` reports holds one message per failing label, in some order. -/
theorem evalAll_errors_perm :
    ((evalAll eval attrs order expressions).2.getD []).Perm
      (expressions.entries.filterMap (labelFailure eval attrs)) := by
  simp only [evalAll, foldl_evalStep, List.nil_append, errorOrNil_getD]
  exact (order.visit_perm _).filterMap _

/-- `evalAll` for every iteration order: its labels are exactly the expressions that
evaluate, with their values; it reports an error exactly when some expression fails; and
the error holds one message per failing label, in some order. -/
theorem evalAll_spec :
    (∀ l, (evalAll eval attrs order expressions).1.lookup l =
        (expressions.lookup l).bind fun t => (eval t attrs).toOption) ∧
      ((evalAll eval attrs order expressions).2 = none ↔
        ∀ e ∈ expressions.entries, (eval e.2 attrs).isOk) ∧
      ((evalAll eval attrs order expressions).2.getD []).Perm
        (expressions.entries.filterMap (labelFailure eval attrs)) :=
  ⟨evalAll_lookup eval attrs order expressions, evalAll_eq_none_iff eval attrs order expressions,
    evalAll_errors_perm eval attrs order expressions⟩

end

end EvalAll

/-! ## `attrGenExec.Execute` -/

/-- `dpb.AttributeDescriptor`, of which the aspect reads the name. -/
structure AttributeDescriptor where
  name : String

/-- `apb.AttributeGeneratorsParams`. -/
structure AttributeGeneratorsParams where
  labels : GoMap String := ∅
  generatedAttributes : List AttributeDescriptor := []

/-- `attributeDescriptorList.contains`. -/
def contains : List AttributeDescriptor → String → Bool
  | [], _ => false
  | d :: l, name => if d.name = name then true else contains l name

/-- `attrGenExec`: the generator's `Generate` and the aspect's params. -/
structure AttrGenExec (V : Type) where
  aspect : GoMap V → Except String (GoMap V)
  params : AttributeGeneratorsParams

/-- `PreprocessResult`, with its bag as the map of the values `Set` on it. -/
structure PreprocessResult (V : Type) where
  attrs : GoMap V

/-- The message of a failed evaluation. -/
def couldNotEvaluate : String := "Could not evaluate label expressions for attribute generation."

/-- The message of a failed generation. -/
def generationFailed : String := "Attribute generation failed."

/-- One turn of `Execute`'s last loop: `if adl.contains(key) { bag.Set(key, val) }`. -/
def setDeclared {V : Type} (adl : List AttributeDescriptor) (bag : GoMap V)
    (e : (_ : String) × V) : GoMap V :=
  if contains adl e.1 then bag.insert e.1 e.2 else bag

/-- `attrGenExec.Execute`. -/
def AttrGenExec.execute {B V : Type} (ex : AttrGenExec V) (attrs : B)
    (mapper : String → B → Except String V) (labelOrder : RangeOrder String)
    (outOrder : RangeOrder V) : Option (PreprocessResult V) × Status :=
  match evalAll mapper attrs labelOrder ex.params.labels with
  | (_, some _) => (none, withInternal couldNotEvaluate)
  | (inp, none) =>
    match ex.aspect inp with
    | .error _ => (none, withInternal generationFailed)
    | .ok out =>
      let bag := (outOrder.visit out.entries).foldl (setDeclared ex.params.generatedAttributes) ∅
      (some ⟨bag⟩, {})

theorem setDeclared_eq {V : Type} (adl : List AttributeDescriptor) :
    setDeclared (V := V) adl = insertSome fun k v => if contains adl k then some v else none := by
  funext bag e
  by_cases h : contains adl e.1 <;> simp [setDeclared, insertSome, h]

/-- The bag of a successful `Execute` holds exactly the declared attributes that the
generator returned, whatever order the loop visits them in. -/
theorem lookup_bag {V : Type} (adl : List AttributeDescriptor) (outOrder : RangeOrder V)
    (out : GoMap V) (k : String) :
    ((outOrder.visit out.entries).foldl (setDeclared adl) ∅).lookup k =
      if contains adl k then out.lookup k else none := by
  rw [setDeclared_eq, lookup_foldl_insertSome_perm _ k out (outOrder.visit_perm _)]
  cases out.lookup k <;> by_cases h : contains adl k <;> simp [h]

/-- `Execute` for every iteration order of its two loops: it fails with the evaluation
message when some label's expression fails; otherwise the generator is called on the
evaluated labels, and `Execute` fails with the generation message when it fails, and
else succeeds with `OK` and a bag holding exactly the generated attributes the config
declares. -/
theorem execute_spec {B V : Type} (ex : AttrGenExec V) (attrs : B)
    (mapper : String → B → Except String V) (labelOrder : RangeOrder String)
    (outOrder : RangeOrder V) :
    ((∃ e ∈ ex.params.labels.entries, (mapper e.2 attrs).isOk = false) ∧
        ex.execute attrs mapper labelOrder outOrder = (none, withInternal couldNotEvaluate)) ∨
      ∃ inp : GoMap V, (∀ e ∈ ex.params.labels.entries, (mapper e.2 attrs).isOk) ∧
        (∀ l, inp.lookup l = (ex.params.labels.lookup l).bind fun t => (mapper t attrs).toOption) ∧
        ((∃ err, ex.aspect inp = .error err ∧
            ex.execute attrs mapper labelOrder outOrder = (none, withInternal generationFailed)) ∨
          ∃ out bag, ex.aspect inp = .ok out ∧
            ex.execute attrs mapper labelOrder outOrder = (some ⟨bag⟩, {}) ∧
            ∀ k, bag.lookup k = if contains ex.params.generatedAttributes k then out.lookup k
              else none) := by
  have hlookup := evalAll_lookup mapper attrs labelOrder ex.params.labels
  have hnone := evalAll_eq_none_iff mapper attrs labelOrder ex.params.labels
  unfold AttrGenExec.execute
  cases hev : evalAll mapper attrs labelOrder ex.params.labels with
  | mk inp errs =>
    rw [hev] at hlookup hnone
    cases errs with
    | some errs =>
      refine .inl ⟨?_, rfl⟩
      simpa using mt hnone.mpr (by simp)
    | none =>
      refine .inr ⟨inp, hnone.mp rfl, hlookup, ?_⟩
      dsimp only
      cases hgen : ex.aspect inp with
      | error err => exact .inl ⟨err, rfl, rfl⟩
      | ok out => exact .inr ⟨out, _, rfl, rfl, lookup_bag _ outOrder out⟩

/-! ## `attrGenMgr`'s config -/

/-- `attrGenMgr.DefaultConfig`: no labels, no generated attributes. -/
def AttrGenMgr.defaultConfig : AttributeGeneratorsParams := {}

/-- `attrGenMgr.ValidateConfig`: an error on `generated_attributes` for each generated
attribute that the descriptor finder `df` already knows, in the config's order. -/
def AttrGenMgr.validateConfig {D : Type} (df : String → Option D)
    (params : AttributeGeneratorsParams) : ConfigErrors :=
  let attrs := params.generatedAttributes.map (·.name)
  attrs.foldl (fun cerrs name =>
    match df name with
    | some _ => cerrs ++ [("generated_attributes",
        "Attribute '" ++ name ++ "' is already configured. It may not be re-generated.")]
    | none => cerrs) []

theorem foldl_validate {D : Type} (df : String → Option D) :
    ∀ (names : List String) (cerrs : ConfigErrors),
      names.foldl (fun cerrs name =>
        match df name with
        | some _ => cerrs ++ [("generated_attributes",
            "Attribute '" ++ name ++ "' is already configured. It may not be re-generated.")]
        | none => cerrs) cerrs =
      cerrs ++ (names.filter fun name => (df name).isSome).map fun name =>
        ("generated_attributes",
          "Attribute '" ++ name ++ "' is already configured. It may not be re-generated.")
  | [], _ => by simp
  | name :: names, cerrs => by
    cases h : df name <;> simp [h, foldl_validate df names]

/-- `ValidateConfig` accepts a config exactly when the finder knows none of its generated
attributes. -/
theorem AttrGenMgr.validateConfig_eq_nil_iff {D : Type} (df : String → Option D)
    (params : AttributeGeneratorsParams) :
    validateConfig df params = [] ↔ ∀ d ∈ params.generatedAttributes, df d.name = none := by
  simp [validateConfig, foldl_validate, List.filter_eq_nil_iff]

/-- The default config passes its own check. -/
theorem AttrGenMgr.validateConfig_default {D : Type} (df : String → Option D) :
    validateConfig df defaultConfig = [] :=
  (validateConfig_eq_nil_iff df _).mpr fun _ h => absurd h (List.not_mem_nil _)

end Mixer.Aspect
