import Mixer.Kubernetes.GoStrings

/-!
# `canonicalName`: a service name made fully qualified

`src/adapter/kubernetes/kubernetes.go` (and its earlier copy in `src/unnamed/part_001`, the
same function). `canonicalName(service, namespace, clusterDomain)` drops a `:port` suffix,
refuses IP addresses, and completes `name`, `name.ns` or `name.ns.<prefix of the domain>` to
`name.ns.<clusterDomain>`, taking the default namespace when the name has none.

The model follows the function line by line, over Go strings as lists of characters, with
the standard library functions it calls from `GoStrings.lean`. `canonicalName` only ever asks
`ParseIP` about a string with no `':'`, so `parseIPv6` is left a parameter.

The main result, `canonicalName_qualifies`, covers the formats the source's comment lists,
for every name, namespace, port and domain length: `n`, `n.ns` and `n.ns.d₁.….dⱼ` all
become `n.ns.d₁.….dₖ`. It rests on `split_eq_splitOn` (Go's `Split` is the standard
library's `List.splitOn`), so that splitting the domain on `'.'` gives back its segments.
-/

namespace Mixer.Kubernetes

/-! ## The code -/

/-- `canonicalName`, with its three errors. -/
def canonicalName (parseIPv6 : GoString → Bool) (service ns clusterDomain : GoString) :
    Except String GoString :=
  if service.length = 0 then .error "invalid service name: cannot be empty"
  else
    -- `SplitN` with `n = 2` returns at least one piece
    let s := (splitN ':' 2 service).headD []
    if s.length = 0 then
      .error ("invalid service name '" ++ String.mk service ++ "': starts with ':'")
    else if parseIP parseIPv6 s then
      .error "invalid service name: cannot canonicalize ip addresses at this time"
    else
      let parts := splitN '.' 3 s
      if parts.length = 1 then .ok (parts.headD [] ++ '.' :: ns ++ '.' :: clusterDomain)
      else if parts.length = 2 then .ok (s ++ '.' :: clusterDomain)
      else
        let domParts := split '.' clusterDomain
        let nameParts := split '.' (parts.getD 2 [])
        if domParts.length ≤ nameParts.length then .ok s
        else .ok ((domParts.drop nameParts.length).foldl (fun s d => s ++ '.' :: d) s)

/-! ## What `canonicalName` computes -/

/-- A name followed by the port suffix `:p`, if any. -/
def withPort (s : GoString) : Option GoString → GoString
  | none => s
  | some p => s ++ ':' :: p

section Qualify

variable (parseIPv6 : GoString → Bool) (ns₀ d : GoString)

/-- `SplitN(service, ":", 2)[0]` is the name before the port. -/
theorem headD_splitN_withPort {s : GoString} (hs : ':' ∉ s) (port : Option GoString) :
    (splitN ':' 2 (withPort s port)).headD [] = s := by
  cases port with
  | none => rw [withPort, splitN_word hs]; rfl
  | some p => rw [withPort, splitN_sep hs]; rfl

/-- The port suffix changes nothing. -/
theorem canonicalName_withPort {s : GoString} (hs : ':' ∉ s) (hne : s ≠ [])
    (port : Option GoString) :
    canonicalName parseIPv6 (withPort s port) ns₀ d = canonicalName parseIPv6 s ns₀ d := by
  have hlen : ∀ port, (withPort s port).length ≠ 0 := by
    intro port; cases port <;> simp [withPort, hne]
  have h₀ : (splitN ':' 2 s).headD [] = s := headD_splitN_withPort hs none
  have hs₀ : s.length ≠ 0 := hlen none
  simp only [canonicalName, headD_splitN_withPort hs port, h₀, if_neg (hlen port), if_neg hs₀]

variable {n ns : GoString}

/-- `n` becomes `n.ns₀.d`. -/
theorem canonicalName_name (hn : '.' ∉ n ∧ ':' ∉ n) (hne : n ≠ [])
    (hip : parseIP parseIPv6 n = false) :
    canonicalName parseIPv6 n ns₀ d = .ok (n ++ '.' :: ns₀ ++ '.' :: d) := by
  have h₀ : (splitN ':' 2 n).headD [] = n := headD_splitN_withPort hn.2 none
  simp only [canonicalName, h₀, hip, splitN_word hn.1]
  simp [hne]

/-- `n.ns` becomes `n.ns.d`. -/
theorem canonicalName_name_ns (hn : '.' ∉ n ∧ ':' ∉ n) (hns : '.' ∉ ns ∧ ':' ∉ ns)
    (hip : parseIP parseIPv6 (n ++ '.' :: ns) = false) :
    canonicalName parseIPv6 (n ++ '.' :: ns) ns₀ d = .ok (n ++ '.' :: ns ++ '.' :: d) := by
  have h₀ : (splitN ':' 2 (n ++ '.' :: ns)).headD [] = n ++ '.' :: ns :=
    headD_splitN_withPort (by simp [hn.2, hns.2]) none
  have hparts : splitN '.' 3 (n ++ '.' :: ns) = [n, ns] := by
    rw [splitN_sep hn.1, splitN_word hns.1]
  simp only [canonicalName, h₀, hip, hparts]
  simp

/-- `n.ns.t` becomes `n.ns.t` followed by the segments of the domain past as many as `t`
has: the loop's `foldl`, which adds nothing when `t` has at least as many segments. -/
theorem canonicalName_name_ns_rest (hn : '.' ∉ n ∧ ':' ∉ n) (hns : '.' ∉ ns ∧ ':' ∉ ns)
    {t : GoString} (ht : ':' ∉ t) (hip : parseIP parseIPv6 (n ++ '.' :: ns ++ '.' :: t) = false) :
    canonicalName parseIPv6 (n ++ '.' :: ns ++ '.' :: t) ns₀ d =
      .ok (n ++ '.' :: ns ++ '.' :: t ++
        ((split '.' d).drop (split '.' t).length).flatMap ('.' :: ·)) := by
  have h₀ : (splitN ':' 2 (n ++ '.' :: ns ++ '.' :: t)).headD [] = n ++ '.' :: ns ++ '.' :: t :=
    headD_splitN_withPort (by simp [hn.2, hns.2, ht]) none
  have hparts : splitN '.' 3 (n ++ '.' :: ns ++ '.' :: t) = [n, ns, t] := by
    rw [List.append_assoc, List.cons_append, splitN_sep hn.1, splitN_sep hns.1]; rfl
  simp only [canonicalName, h₀, hip, hparts]
  simp
  split_ifs with hk
  · rw [List.drop_of_length_le hk]; simp
  · simp [foldl_append_sep]

/-- `n.ns.d₁.….dⱼ` becomes `n.ns.d₁.….dₖ`. -/
theorem canonicalName_name_ns_domain (hn : '.' ∉ n ∧ ':' ∉ n) (hns : '.' ∉ ns ∧ ':' ∉ ns)
    {ds : List GoString} (hne : ds ≠ []) (hd : ∀ e ∈ ds, '.' ∉ e ∧ ':' ∉ e) {j : Nat} (hj : 0 < j)
    (hip : parseIP parseIPv6 (n ++ '.' :: ns ++ '.' :: ['.'].intercalate (ds.take j)) = false) :
    canonicalName parseIPv6 (n ++ '.' :: ns ++ '.' :: ['.'].intercalate (ds.take j)) ns₀
      (['.'].intercalate ds) = .ok (n ++ '.' :: ns ++ '.' :: ['.'].intercalate ds) := by
  have hcolon : ':' ∉ ['.'].intercalate (ds.take j) :=
    not_mem_intercalate (by decide) fun e he => (hd e (List.mem_of_mem_take he)).2
  have hdom : split '.' (['.'].intercalate ds) = ds := split_intercalate hne fun e he => (hd e he).1
  have hname : split '.' (['.'].intercalate (ds.take j)) = ds.take j :=
    split_intercalate (by simp [hne]; omega) fun e he => (hd e (List.mem_of_mem_take he)).1
  have hdrop : ds.drop (ds.take j).length = ds.drop j := by
    rw [List.length_take]
    rcases Nat.le_total j ds.length with h | h
    · rw [Nat.min_eq_left h]
    · rw [Nat.min_eq_right h, List.drop_of_length_le h, List.drop_length]
  rw [canonicalName_name_ns_rest _ _ _ hn hns hcolon hip, hdom, hname, hdrop, List.append_assoc,
    List.cons_append, intercalate_take_append ds hj]

end Qualify

/-- Every format the source's comment lists: a name starting with a character other than a
digit, a letter among them, with or without its namespace and a prefix of the cluster
domain, with or without a port, becomes the name qualified by its namespace, or the default
one, and the whole domain. -/
theorem canonicalName_qualifies (parseIPv6 : GoString → Bool) {x : Char} {r ns ns₀ : GoString}
    {ds : List GoString} (port : Option GoString) (hx : x.isDigit = false)
    (hn : '.' ∉ x :: r ∧ ':' ∉ x :: r) (hns : '.' ∉ ns ∧ ':' ∉ ns) (hne : ds ≠ [])
    (hd : ∀ e ∈ ds, '.' ∉ e ∧ ':' ∉ e) :
    canonicalName parseIPv6 (withPort (x :: r) port) ns₀ (['.'].intercalate ds) =
        .ok (x :: r ++ '.' :: ns₀ ++ '.' :: ['.'].intercalate ds) ∧
      canonicalName parseIPv6 (withPort (x :: r ++ '.' :: ns) port) ns₀ (['.'].intercalate ds) =
        .ok (x :: r ++ '.' :: ns ++ '.' :: ['.'].intercalate ds) ∧
      ∀ j, 1 ≤ j → j ≤ ds.length →
        canonicalName parseIPv6
            (withPort (x :: r ++ '.' :: ns ++ '.' :: ['.'].intercalate (ds.take j)) port) ns₀
            (['.'].intercalate ds) =
          .ok (x :: r ++ '.' :: ns ++ '.' :: ['.'].intercalate ds) := by
  have hns' : ':' ∉ x :: r ++ '.' :: ns := not_mem_append_sep (by decide) hn.2 hns.2
  refine ⟨?_, ?_, fun j hj _ => ?_⟩
  · rw [canonicalName_withPort _ _ _ hn.2 (List.cons_ne_nil _ _)]
    exact canonicalName_name _ _ _ hn (List.cons_ne_nil _ _) (parseIP_of_not_digit _ hx hn.2)
  · rw [canonicalName_withPort _ _ _ hns' (by simp)]
    exact canonicalName_name_ns _ _ _ hn hns (parseIP_of_not_digit _ hx hns')
  · have hdom : ':' ∉ x :: r ++ '.' :: ns ++ '.' :: ['.'].intercalate (ds.take j) :=
      not_mem_append_sep (by decide) hns' <|
        not_mem_intercalate (by decide) fun e he => (hd e (List.mem_of_mem_take he)).2
    rw [canonicalName_withPort _ _ _ hdom (by simp)]
    exact canonicalName_name_ns_domain _ _ hn hns hne hd hj (parseIP_of_not_digit _ hx hdom)

/-- The domain `svc.cluster.local`, as its segments. -/
def clusterLocal : List GoString := ["svc".toList, "cluster".toList, "local".toList]

theorem canonicalName_qualifies_hello :
    canonicalName (fun _ => false) (withPort "hello".toList (some "80".toList)) "default".toList
        (['.'].intercalate clusterLocal) =
        .ok ("hello".toList ++ '.' :: "default".toList ++ '.' :: ['.'].intercalate clusterLocal) ∧
      canonicalName (fun _ => false) (withPort ("hello".toList ++ '.' :: "ns".toList)
          (some "80".toList)) "default".toList (['.'].intercalate clusterLocal) =
        .ok ("hello".toList ++ '.' :: "ns".toList ++ '.' :: ['.'].intercalate clusterLocal) ∧
      ∀ j, 1 ≤ j → j ≤ clusterLocal.length →
        canonicalName (fun _ => false) (withPort ("hello".toList ++ '.' :: "ns".toList ++ '.' ::
            ['.'].intercalate (clusterLocal.take j)) (some "80".toList)) "default".toList
            (['.'].intercalate clusterLocal) =
          .ok ("hello".toList ++ '.' :: "ns".toList ++ '.' :: ['.'].intercalate clusterLocal) :=
  canonicalName_qualifies _ _ (by decide) (by decide) (by decide) (by decide) (by decide)

example : canonicalName (fun _ => false) "hello.default.svc:80".toList "default".toList
    "svc.cluster.local".toList = .ok "hello.default.svc.cluster.local".toList := rfl

example : canonicalName (fun _ => false) "10.0.0.1:80".toList "default".toList
    "svc.cluster.local".toList =
      .error "invalid service name: cannot canonicalize ip addresses at this time" := rfl

/-! ## A second call changes nothing -/

section Fixed

variable (parseIPv6 : GoString → Bool) {ns₀ d : GoString}

/-- A call that returns looked at a name that is no IP address. -/
theorem canonicalName_ok_host {s r : GoString} (hs : ':' ∉ s)
    (h : canonicalName parseIPv6 s ns₀ d = .ok r) : s ≠ [] ∧ parseIP parseIPv6 s = false := by
  have h₀ : (splitN ':' 2 s).headD [] = s := headD_splitN_withPort hs none
  refine ⟨fun he => by simp [canonicalName, he] at h, ?_⟩
  cases hip : parseIP parseIPv6 s
  · rfl
  · simp only [canonicalName, h₀, hip, ↓reduceIte] at h
    split_ifs at h

/-- A call that returns gives what it gives for the name before the port. -/
theorem canonicalName_port {s r : GoString} (h : canonicalName parseIPv6 s ns₀ d = .ok r) :
    ∃ h' : GoString, ':' ∉ h' ∧ canonicalName parseIPv6 h' ns₀ d = .ok r := by
  rcases not_mem_or_first_sep (c := ':') s with hs | ⟨w, rest, hw, rfl⟩
  · exact ⟨s, hs, h⟩
  · have hw₀ : w ≠ [] := by
      rintro rfl
      have h₀ := headD_splitN_withPort (s := []) (List.not_mem_nil ':') (some rest)
      simp [canonicalName, withPort] at h₀ h
      simp [h₀] at h
    rw [show w ++ ':' :: rest = withPort w (some rest) from rfl,
      canonicalName_withPort _ _ _ hw hw₀] at h
    exact ⟨w, hw, h⟩

/-- A name with no `':'` and at least four dots is returned as it is, when the domain has
three segments: the part after its second dot already has as many. -/
theorem canonicalName_fixed {r : GoString} (hr : ':' ∉ r) (h4 : 4 ≤ r.count '.')
    (hd : (split '.' d).length = 3) : canonicalName parseIPv6 r ns₀ d = .ok r := by
  rcases not_mem_or_first_sep (c := '.') r with h0 | ⟨a, r₁, ha, rfl⟩
  · simp [List.count_eq_zero_of_not_mem h0] at h4
  rcases not_mem_or_first_sep (c := '.') r₁ with h1 | ⟨b, t, hb, rfl⟩
  · simp [List.count_append, List.count_eq_zero_of_not_mem h1,
      List.count_eq_zero_of_not_mem ha] at h4
  have hr' : a ++ '.' :: (b ++ '.' :: t) = a ++ '.' :: b ++ '.' :: t := by simp
  simp only [List.mem_append, List.mem_cons, not_or] at hr
  have hct : 2 ≤ t.count '.' := by
    simp [List.count_append, List.count_eq_zero_of_not_mem ha,
      List.count_eq_zero_of_not_mem hb] at h4
    omega
  have hip := parseIP_of_count parseIPv6 (s := a ++ '.' :: b ++ '.' :: t)
    (by simp [hr.1, hr.2.2.1, hr.2.2.2.2]) (by simp [List.count_append,
      List.count_eq_zero_of_not_mem ha, List.count_eq_zero_of_not_mem hb]; omega)
  rw [hr', canonicalName_name_ns_rest _ _ _ ⟨ha, hr.1⟩ ⟨hb, hr.2.2.1⟩ hr.2.2.2.2 hip,
    List.drop_of_length_le (by rw [hd, length_split]; omega)]
  simp

/-- What a call on a name with no `':'` returns: the name itself, or a name with no `':'` and
at least four dots. -/
theorem canonicalName_result {s r : GoString} (hs : ':' ∉ s) (hns : ':' ∉ ns₀) (hd : ':' ∉ d)
    (h3 : (split '.' d).length = 3) (h : canonicalName parseIPv6 s ns₀ d = .ok r) :
    r = s ∨ ':' ∉ r ∧ 4 ≤ r.count '.' := by
  obtain ⟨hne, hip⟩ := canonicalName_ok_host parseIPv6 hs h
  have hcd : d.count '.' = 2 := by rw [length_split] at h3; omega
  rcases not_mem_or_first_sep (c := '.') s with h0 | ⟨a, s₁, ha, rfl⟩
  · rw [canonicalName_name _ _ _ ⟨h0, hs⟩ hne hip] at h
    cases h
    refine .inr ⟨by simp [hs, hns, hd], ?_⟩
    simp [List.count_append, List.count_eq_zero_of_not_mem h0, hcd]
  simp only [List.mem_append, List.mem_cons, not_or] at hs
  rcases not_mem_or_first_sep (c := '.') s₁ with h1 | ⟨b, t, hb, rfl⟩
  · rw [canonicalName_name_ns _ _ _ ⟨ha, hs.1⟩ ⟨h1, hs.2.2⟩ hip] at h
    cases h
    refine .inr ⟨by simp [hs.1, hs.2.2, hd], ?_⟩
    simp [List.count_append, List.count_eq_zero_of_not_mem ha, List.count_eq_zero_of_not_mem h1,
      hcd]
  simp only [List.mem_append, List.mem_cons, not_or] at hs
  have hr' : a ++ '.' :: (b ++ '.' :: t) = a ++ '.' :: b ++ '.' :: t := by simp
  rw [hr'] at hip ⊢
  rw [hr', canonicalName_name_ns_rest _ _ _ ⟨ha, hs.1⟩ ⟨hb, hs.2.2.1⟩ hs.2.2.2.2 hip] at h
  cases h
  rcases Nat.lt_or_ge (t.count '.') 2 with hct | hct
  · have hseg : ∀ e ∈ (split '.' d).drop (split '.' t).length, '.' ∉ e ∧ ':' ∉ e :=
      fun e he => have he' := List.mem_of_mem_drop he
        ⟨not_mem_of_mem_split he', fun hx => hd (mem_of_mem_split he' hx)⟩
    refine .inr ⟨?_, ?_⟩
    · have hext : ':' ∉ ((split '.' d).drop (split '.' t).length).flatMap ('.' :: ·) := by
        simp only [List.mem_flatMap, List.mem_cons, not_exists, not_and, not_or]
        exact fun e he => ⟨by decide, (hseg e he).2⟩
      simp [hs.1, hs.2.2.1, hs.2.2.2.2, hext]
    · rw [List.count_append, count_flatMap_sep fun e he => (hseg e he).1, List.length_drop, h3,
        length_split]
      simp [List.count_append, List.count_eq_zero_of_not_mem ha, List.count_eq_zero_of_not_mem hb]
      omega
  · left
    rw [List.drop_of_length_le (by rw [h3, length_split]; omega)]
    simp

end Fixed

/-- `canonicalName` is idempotent for a namespace and a three-segment domain with no `':'`:
what one call returns, a second call returns unchanged. -/
theorem canonicalName_idempotent (parseIPv6 : GoString → Bool) {s ns₀ d r : GoString}
    (hns : ':' ∉ ns₀) (hd : ':' ∉ d) (h3 : (split '.' d).length = 3)
    (h : canonicalName parseIPv6 s ns₀ d = .ok r) : canonicalName parseIPv6 r ns₀ d = .ok r := by
  obtain ⟨s', hs', h'⟩ := canonicalName_port parseIPv6 h
  rcases canonicalName_result parseIPv6 hs' hns hd h3 h' with rfl | ⟨hr, h4⟩
  · exact h'
  · exact canonicalName_fixed parseIPv6 hr h4 h3

theorem canonicalName_idempotent_hello :
    canonicalName (fun _ => false) "hello.default.svc.cluster.local".toList "default".toList
      "svc.cluster.local".toList = .ok "hello.default.svc.cluster.local".toList :=
  canonicalName_idempotent _ (s := "hello:80".toList) (by decide) (by decide) (by decide) rfl

end Mixer.Kubernetes
