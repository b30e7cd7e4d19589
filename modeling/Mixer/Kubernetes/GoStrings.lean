import Mathlib.Data.List.Basic

/-!
# Go strings: `strings.SplitN`, `strings.Split` and `net.ParseIP`

The standard library functions `canonicalName` calls, modelled from their Go sources over
strings as lists of characters: every separator they are called with is a one-byte ASCII
character, so splitting bytes and splitting characters agree, and `dtoi` only compares bytes
with ASCII digits. `ParseIP` hands a string whose first separator is `':'` to `parseIPv6`,
which is left a parameter.

What the rest of the development uses: `split_eq_splitOn` (Go's `Split` is the standard
library's `List.splitOn`), so that splitting segments joined by a separator gives them back
(`split_intercalate`) and a string splits into one piece more than it has separators
(`length_split`); and two reasons a string is no IP address: it starts with no digit
(`parseIP_of_not_digit`), or it has no `':'` and not exactly three dots
(`parseIP_of_count`), since an IPv4 address has exactly three (`parseIPv4_count`).
-/

namespace Mixer.Kubernetes

/-- A Go string, as the characters it holds. -/
abbrev GoString := List Char

/-- `strings.SplitN(s, string(c), n)` for `n ≥ 0`: at most `n` pieces, the last one the rest of
`s` unsplit; none for `n = 0`. -/
def splitN (c : Char) : Nat → GoString → List GoString
  | 0, _ => []
  | 1, s => [s]
  | n + 2, s =>
    match s.span (· ≠ c) with
    | (w, []) => [w]
    | (w, _ :: rest) => w :: splitN c (n + 1) rest

/-- `strings.Split(s, string(c))`: every piece. A string has at most `length + 1` of them. -/
def split (c : Char) (s : GoString) : List GoString := splitN c (s.length + 1) s

/-- `big`: `dtoi`'s overflow bound, `0xFFFFFF`. -/
def big : Nat := 0xFFFFFF

/-- `dtoi`: the decimal number at the front of `s`, the digits read, and whether there was at
least one digit and no overflow. -/
def dtoi (s : GoString) : Nat × Nat × Bool := go s 0 0
where
  /-- The loop, with the number `n` and count `i` so far. -/
  go : GoString → Nat → Nat → Nat × Nat × Bool
    | c :: s, n, i =>
      if c.isDigit then
        let n := n * 10 + (c.toNat - '0'.toNat)
        if big ≤ n then (big, i, false) else go s n (i + 1)
      else if i = 0 then (0, 0, false) else (n, i, true)
    | [], n, i => if i = 0 then (0, 0, false) else (n, i, true)

/-- One octet of `parseIPv4`: after the first, a `'.'` must come first; then a number no
larger than `0xFF`. -/
def ipv4Field (first : Bool) (s : GoString) : Option (Nat × GoString) :=
  if s = [] then none
  else
    let rest := if first then some s else match s with
      | '.' :: r => some r
      | _ => none
    rest.bind fun s =>
      match dtoi s with
      | (n, c, true) => if n ≤ 0xFF then some (n, s.drop c) else none
      | (_, _, false) => none

/-- `parseIPv4`: four octets `d.d.d.d` and nothing after them. -/
def parseIPv4 (s : GoString) : Option (List Nat) := do
  let (a, s) ← ipv4Field true s
  let (b, s) ← ipv4Field false s
  let (c, s) ← ipv4Field false s
  let (d, s) ← ipv4Field false s
  if s = [] then some [a, b, c, d] else none

/-- `net.ParseIP(s) != nil`: the first `'.'` or `':'` decides between the IPv4 and the IPv6
parser; a string with neither is no address. -/
def parseIP (parseIPv6 : GoString → Bool) (s : GoString) : Bool :=
  match s.find? (fun c => c = '.' ∨ c = ':') with
  | some '.' => (parseIPv4 s).isSome
  | some _ => parseIPv6 s
  | none => false

/-! ## Splitting on a separator -/

section Split

variable {c : Char}

/-- `span` stops at the first separator: a word free of `c`, followed by nothing or by `c`,
splits into the word and the rest. -/
theorem span_word {w r : GoString} (hw : c ∉ w) (hr : ∀ x ∈ r.head?, x = c) :
    (w ++ r).span (· ≠ c) = (w, r) := by
  rw [List.span_eq_take_drop, Prod.mk.injEq]
  induction w with
  | nil => cases r <;> simp_all
  | cons x w ih =>
    simp only [List.mem_cons, not_or] at hw
    simpa [Ne.symm hw.1] using ih hw.2

theorem splitN_sep {w : GoString} (hw : c ∉ w) (n : Nat) (r : GoString) :
    splitN c (n + 2) (w ++ c :: r) = w :: splitN c (n + 1) r := by
  simp only [splitN]
  rw [span_word hw (by simp)]

theorem splitN_word {w : GoString} (hw : c ∉ w) : ∀ n, splitN c (n + 1) w = [w]
  | 0 => rfl
  | n + 1 => by
    have hspan := span_word hw (r := []) (by simp)
    rw [List.append_nil] at hspan
    simp only [splitN, hspan]

/-- A string either has no `c`, or a first `c` after a word free of it. -/
theorem not_mem_or_first_sep : ∀ s : GoString, c ∉ s ∨ ∃ w r, c ∉ w ∧ s = w ++ c :: r
  | [] => .inl (List.not_mem_nil c)
  | x :: s => by
    by_cases hx : x = c
    · exact .inr ⟨[], s, List.not_mem_nil c, by simp [hx]⟩
    rcases not_mem_or_first_sep s with h | ⟨w, r, hw, rfl⟩
    · exact .inl (by simp [Ne.symm hx, h])
    · exact .inr ⟨x :: w, r, by simp [Ne.symm hx, hw], rfl⟩

theorem not_beq_of_not_mem {w : GoString} (hw : c ∉ w) : ∀ x ∈ w, ¬(x == c) = true :=
  fun _ hx h => hw (beq_iff_eq.mp h ▸ hx)

/-- With fuel for every piece, `SplitN` is the standard library's `splitOn`. -/
theorem splitN_eq_splitOn : ∀ (n : Nat) (s : GoString), s.length < n → splitN c n s = s.splitOn c
  | 0, _, h => absurd h (Nat.not_lt_zero _)
  | n + 1, s, h => by
    rcases not_mem_or_first_sep (c := c) s with hs | ⟨w, r, hw, rfl⟩
    · rw [splitN_word hs]
      exact (List.splitOnP_eq_single _ s (not_beq_of_not_mem hs)).symm
    · have hr : r.length + 1 ≤ (w ++ c :: r).length := by simp
      cases n with
      | zero => exact absurd (Nat.lt_of_le_of_lt hr h) (by simp)
      | succ n =>
        have hr' : r.length < n + 1 := Nat.lt_of_succ_lt_succ (Nat.lt_of_le_of_lt hr h)
        rw [splitN_sep hw, splitN_eq_splitOn (n + 1) r hr']
        exact (List.splitOnP_first _ w (not_beq_of_not_mem hw) c (by simp) r).symm

/-- `strings.Split` is the standard library's `splitOn`. -/
theorem split_eq_splitOn (s : GoString) : split c s = s.splitOn c :=
  splitN_eq_splitOn _ s (Nat.lt_succ_self _)

/-- Splitting the segments joined by `c` gives them back, when none holds `c`. -/
theorem split_intercalate {ds : List GoString} (hne : ds ≠ []) (hd : ∀ d ∈ ds, c ∉ d) :
    split c ([c].intercalate ds) = ds := by
  rw [split_eq_splitOn, List.splitOn_intercalate ds c hd hne]

/-- `splitOn` gives one piece more than there are separators. -/
theorem length_splitOn (s : GoString) : (s.splitOn c).length = s.count c + 1 := by
  induction s with
  | nil => rfl
  | cons x s ih =>
    obtain ⟨p, ps, hps⟩ := List.exists_cons_of_ne_nil (List.splitOnP_ne_nil (· == c) s)
    simp only [List.splitOn] at ih ⊢
    rw [List.splitOnP_cons, List.count_cons]
    split_ifs with hx <;> simp_all

/-- No piece of `splitOn` holds the separator. -/
theorem not_mem_of_mem_splitOn {s p : GoString} (h : p ∈ s.splitOn c) : c ∉ p := by
  induction s generalizing p with
  | nil => simp_all [List.splitOn_nil]
  | cons x s ih =>
    obtain ⟨q, qs, hqs⟩ := List.exists_cons_of_ne_nil (List.splitOnP_ne_nil (· == c) s)
    simp only [List.splitOn] at ih h
    rw [List.splitOnP_cons] at h
    split_ifs at h with hx
    · rcases List.mem_cons.mp h with rfl | h
      · exact List.not_mem_nil c
      · exact ih h
    · rw [hqs, List.modifyHead_cons] at h
      rcases List.mem_cons.mp h with rfl | h
      · have hq := ih (hqs ▸ List.mem_cons_self q qs)
        simp only [beq_iff_eq] at hx
        simp [Ne.symm hx, hq]
      · exact ih (hqs ▸ List.mem_cons_of_mem q h)

/-- `Split` gives one piece more than there are separators. -/
theorem length_split (s : GoString) : (split c s).length = s.count c + 1 := by
  rw [split_eq_splitOn, length_splitOn]

theorem not_mem_of_mem_split {s p : GoString} (h : p ∈ split c s) : c ∉ p :=
  not_mem_of_mem_splitOn (split_eq_splitOn (c := c) s ▸ h)

end Split

/-! ## Joining segments -/

section Join

variable {c : Char}

/-- `intercalate` as the first segment followed by every other one after a separator. -/
theorem intercalate_cons (d : GoString) (ds : List GoString) :
    [c].intercalate (d :: ds) = d ++ ds.flatMap (c :: ·) := by
  induction ds generalizing d with
  | nil => simp [List.intercalate]
  | cons e ds ih => simp [List.intercalate, List.intersperse] at ih ⊢; simp [ih]

theorem intercalate_take_append (ds : List GoString) {j : Nat} (hj : 0 < j) :
    [c].intercalate (ds.take j) ++ (ds.drop j).flatMap (c :: ·) = [c].intercalate ds := by
  obtain ⟨j, rfl⟩ : ∃ i, j = i + 1 := ⟨j - 1, by omega⟩
  cases ds with
  | nil => simp
  | cons d ds =>
    simp only [List.take_succ_cons, List.drop_succ_cons, intercalate_cons, List.append_assoc,
      ← List.flatMap_append, List.take_append_drop]

theorem not_mem_intercalate {x : Char} (hx : x ≠ c) {ds : List GoString} (hd : ∀ d ∈ ds, x ∉ d) :
    x ∉ [c].intercalate ds := by
  cases ds with
  | nil => simp [List.intercalate]
  | cons d ds =>
    simp only [intercalate_cons, List.mem_append, List.mem_flatMap, List.mem_cons, not_or,
      not_exists, not_and]
    exact ⟨hd d (by simp), fun e he => ⟨hx, hd e (by simp [he])⟩⟩

theorem mem_intercalate {x : Char} {p : GoString} {ps : List GoString} (hp : p ∈ ps)
    (hx : x ∈ p) : x ∈ [c].intercalate ps := by
  cases ps with
  | nil => cases hp
  | cons q qs =>
    rw [intercalate_cons, List.mem_append, List.mem_flatMap]
    rcases List.mem_cons.mp hp with rfl | hp
    · exact .inl hx
    · exact .inr ⟨p, hp, .tail _ hx⟩

/-- Every piece of `Split` is part of the string. -/
theorem mem_of_mem_split {s p : GoString} {x : Char} (hp : p ∈ split c s) (hx : x ∈ p) :
    x ∈ s := by
  rw [split_eq_splitOn] at hp
  rw [← List.intercalate_splitOn s c]
  exact mem_intercalate hp hx

/-- The separators a `flatMap (c :: ·)` adds, over pieces free of `c`. -/
theorem count_flatMap_sep {ds : List GoString} (hd : ∀ d ∈ ds, c ∉ d) :
    (ds.flatMap (c :: ·)).count c = ds.length := by
  induction ds with
  | nil => rfl
  | cons d ds ih =>
    simp only [List.flatMap_cons, List.count_append, List.count_cons_self,
      List.count_eq_zero_of_not_mem (hd d (.head _)), ih fun e he => hd e (.tail _ he),
      List.length_cons]
    omega

/-- The loop that appends the missing domain segments. -/
theorem foldl_append_sep (l : List GoString) (acc : GoString) :
    l.foldl (fun s d => s ++ c :: d) acc = acc ++ l.flatMap (c :: ·) := by
  induction l generalizing acc <;> simp [*]

end Join

/-! ## Names that are no address -/

/-- `dtoi` reads no number from a string that starts with no digit. -/
theorem dtoi_of_not_digit {x : Char} (hx : x.isDigit = false) (r : GoString) :
    dtoi (x :: r) = (0, 0, false) := by
  simp [dtoi, dtoi.go, hx]

/-- A string that starts with no digit is no IPv4 address: its first octet has no digit. -/
theorem parseIPv4_of_not_digit {x : Char} (hx : x.isDigit = false) (r : GoString) :
    parseIPv4 (x :: r) = none := by
  have h : ipv4Field true (x :: r) = none := by simp [ipv4Field, dtoi_of_not_digit hx]
  simp [parseIPv4, h]

/-- `dtoi`'s loop, from count `i`, reads digits only. -/
theorem dtoi_go_digits : ∀ (s : GoString) (n i : Nat) {m j : Nat},
    dtoi.go s n i = (m, j, true) → i ≤ j ∧ ∀ x ∈ s.take (j - i), x.isDigit
  | [], n, i, m, j, h => by
    simp only [dtoi.go] at h
    split_ifs at h <;> simp_all
  | x :: s, n, i, m, j, h => by
    simp only [dtoi.go] at h
    split_ifs at h with hx hb hi
    · simp at h
    · obtain ⟨hij, hd⟩ := dtoi_go_digits s _ (i + 1) h
      refine ⟨by omega, ?_⟩
      rw [show j - i = j - (i + 1) + 1 by omega, List.take_succ_cons]
      exact List.forall_mem_cons.mpr ⟨hx, hd⟩
    · simp at h
    · simp only [Prod.mk.injEq] at h
      obtain ⟨-, rfl, -⟩ := h
      simp

/-- The digits `dtoi` reads hold no dot. -/
theorem count_drop_dtoi {s : GoString} {m j : Nat} (h : dtoi s = (m, j, true)) :
    (s.drop j).count '.' = s.count '.' := by
  have hd := (dtoi_go_digits s 0 0 h).2
  have h0 : (s.take j).count '.' = 0 :=
    List.count_eq_zero_of_not_mem fun hm => by simpa using hd _ hm
  conv_rhs => rw [← List.take_append_drop j s, List.count_append, h0, Nat.zero_add]

/-- An octet takes no dot, and a later octet one before it. -/
theorem ipv4Field_count {first : Bool} {s s' : GoString} {n : Nat}
    (h : ipv4Field first s = some (n, s')) :
    s.count '.' = s'.count '.' + if first then 0 else 1 := by
  have octet : ∀ t : GoString, (match dtoi t with
      | (n, c, true) => if n ≤ 0xFF then some (n, t.drop c) else none
      | (_, _, false) => none) = some (n, s') → t.count '.' = s'.count '.' := by
    intro t ht
    split at ht
    · next m c hd =>
      split_ifs at ht
      cases ht
      exact (count_drop_dtoi hd).symm
    · cases ht
  simp only [ipv4Field] at h
  split_ifs at h with hs hf
  · rw [if_pos hf]; exact octet s h
  · obtain ⟨r, hr, h⟩ := Option.bind_eq_some.mp h
    rw [if_neg hf]
    split at hr
    · cases hr; simp [octet _ h]
    · cases hr

/-- An IPv4 address has exactly three dots. -/
theorem parseIPv4_count {s : GoString} {a : List Nat} (h : parseIPv4 s = some a) :
    s.count '.' = 3 := by
  simp only [parseIPv4, bind, Option.bind_eq_some] at h
  obtain ⟨f₁, h₁, f₂, h₂, f₃, h₃, f₄, h₄, h₅⟩ := h
  split_ifs at h₅ with he
  have c₁ := ipv4Field_count h₁
  have c₂ := ipv4Field_count h₂
  have c₃ := ipv4Field_count h₃
  have c₄ := ipv4Field_count h₄
  simp only [he, if_true, if_false, Bool.false_eq_true, List.count_nil] at c₁ c₂ c₃ c₄
  omega

/-- With no `':'`, `ParseIP` is the IPv4 parser. -/
theorem parseIP_of_no_colon (parseIPv6 : GoString → Bool) {s : GoString} (hs : ':' ∉ s) :
    parseIP parseIPv6 s = (parseIPv4 s).isSome := by
  unfold parseIP
  split
  · rfl
  · next y hy hfind =>
    have hsep := List.find?_some hfind
    simp only [decide_eq_true_eq] at hsep
    rcases hsep with rfl | rfl
    · exact absurd rfl hy
    · exact absurd (List.mem_of_find?_eq_some hfind) hs
  · next hfind =>
    have hdot : '.' ∉ s := fun hm => by simpa using List.find?_eq_none.mp hfind '.' hm
    cases h : parseIPv4 s with
    | none => rfl
    | some a => simpa [List.count_eq_zero_of_not_mem hdot] using parseIPv4_count h

/-- A string with no `':'` that starts with no digit is no IP address. -/
theorem parseIP_of_not_digit (parseIPv6 : GoString → Bool) {x : Char} (hx : x.isDigit = false)
    {r : GoString} (hr : ':' ∉ x :: r) : parseIP parseIPv6 (x :: r) = false := by
  rw [parseIP_of_no_colon parseIPv6 hr, parseIPv4_of_not_digit hx]; rfl

/-- A string with no `':'` and not exactly three dots is no IP address. -/
theorem parseIP_of_count (parseIPv6 : GoString → Bool) {s : GoString} (hs : ':' ∉ s)
    (h3 : s.count '.' ≠ 3) : parseIP parseIPv6 s = false := by
  rw [parseIP_of_no_colon parseIPv6 hs]
  cases h : parseIPv4 s with
  | none => rfl
  | some a => exact absurd (parseIPv4_count h) h3

theorem not_mem_append_sep {x c : Char} (hxc : x ≠ c) {s t : GoString} (hs : x ∉ s)
    (ht : x ∉ t) : x ∉ s ++ c :: t := by
  simp [hs, ht, hxc]

end Mixer.Kubernetes
