import Mathlib.Data.List.Perm.Basic
import Mathlib.Data.List.AList

/-!
# Shared lemmas: one entry replaced, a map built by inserts, and the first failure of a fold

The models keep one record per goroutine in a list and let a step replace one entry
(`List.set`). These lemmas say what such a replacement does to a count (`countP`), to
membership and lookups, and what two entries satisfying one predicate say about the count.

Several loops of the source fill a Go map with one `m[k] = v` per element;
`lookup_foldl_insert` says once what such a map holds at each key. Several loops stop at the
first element that fails, with an error that depends on that element alone;
`foldlM_eq_error_iff` says once what such a loop returns.
-/

namespace Mixer

theorem countP_set {γ : Type} (p : γ → Bool) :
    ∀ (l : List γ) (k : Nat) (a b : γ), l[k]? = some b →
      (l.set k a).countP p + (p b).toNat = l.countP p + (p a).toNat
  | [], _, _, _, h => by simp at h
  | x :: l, 0, a, b, h => by
    obtain rfl : x = b := by simpa using h
    simp only [List.set_cons_zero, List.countP_cons]
    cases p a <;> cases p x <;> simp
  | x :: l, k + 1, a, b, h => by
    have := countP_set p l k a b (by simpa using h)
    simp only [List.set_cons_succ, List.countP_cons]
    omega

theorem mem_set_of_mem {γ : Type} {l : List γ} {k : Nat} {a x : γ} (h : x ∈ l.set k a) :
    x ∈ l ∨ x = a := by
  obtain ⟨i, hi⟩ := List.mem_iff_getElem?.mp h
  rw [List.getElem?_set] at hi
  split at hi
  · split at hi
    · exact .inr (Option.some.inj hi).symm
    · cases hi
  · exact .inl (List.mem_iff_getElem?.mpr ⟨i, hi⟩)

theorem countP_pos_of_get {γ : Type} {p : γ → Bool} {l : List γ} {k : Nat} {b : γ}
    (h : l[k]? = some b) (hp : p b = true) : 0 < l.countP p :=
  List.countP_pos_iff.mpr ⟨b, List.mem_iff_getElem?.mpr ⟨k, h⟩, hp⟩

theorem countP_ge_two {γ : Type} {p : γ → Bool} :
    ∀ {l : List γ} {j k : Nat} {a b : γ}, l[j]? = some a → l[k]? = some b → j ≠ k →
      p a = true → p b = true → 2 ≤ l.countP p
  | [], _, _, _, _, hj, _, _, _, _ => by simp at hj
  | x :: l, 0, 0, _, _, _, _, hjk, _, _ => absurd rfl hjk
  | x :: l, 0, k + 1, a, b, hj, hk, _, ha, hb => by
    obtain rfl : x = a := by simpa using hj
    have := countP_pos_of_get (p := p) (by simpa using hk) hb
    rw [List.countP_cons, if_pos ha]; omega
  | x :: l, j + 1, 0, a, b, hj, hk, _, ha, hb => by
    obtain rfl : x = b := by simpa using hk
    have := countP_pos_of_get (p := p) (by simpa using hj) ha
    rw [List.countP_cons, if_pos hb]; omega
  | x :: l, j + 1, k + 1, a, b, hj, hk, hjk, ha, hb => by
    have := countP_ge_two (l := l) (by simpa using hj) (by simpa using hk) (by omega) ha hb
    simp only [List.countP_cons]; omega

theorem getElem?_set_cases {γ : Type} {l : List γ} {k j : Nat} {a x : γ}
    (h : (l.set k a)[j]? = some x) : (j = k ∧ x = a) ∨ (j ≠ k ∧ l[j]? = some x) := by
  rw [List.getElem?_set] at h
  split at h
  · split at h
    · exact .inl ⟨by omega, (Option.some.inj h).symm⟩
    · cases h
  · exact .inr ⟨by omega, h⟩

theorem getElem?_concat_of_some {γ : Type} {l : List γ} {x c : γ} {j : Nat}
    (h : l[j]? = some c) : (l ++ [x])[j]? = some c := by
  rw [List.getElem?_append_left (List.getElem?_eq_some_iff.mp h).1, h]

/-- A property of every entry after replacing entry `k`: the other entries have it, and so
does the new one. -/
theorem forall_set {γ : Type} {l : List γ} {k : Nat} {a : γ} {P : Nat → γ → Prop}
    (ho : ∀ j c, l[j]? = some c → j ≠ k → P j c) (hk : P k a) :
    ∀ j c, (l.set k a)[j]? = some c → P j c := by
  intro j c h
  rcases getElem?_set_cases h with ⟨rfl, rfl⟩ | ⟨hj, h⟩
  · exact hk
  · exact ho j c h hj

theorem getElem?_concat_cases {γ : Type} {l : List γ} {x c : γ} {j : Nat}
    (h : (l ++ [x])[j]? = some c) : l[j]? = some c ∨ (j = l.length ∧ c = x) := by
  rcases Nat.lt_or_ge j l.length with hj | hj
  · rw [List.getElem?_append_left hj] at h
    exact .inl h
  · rw [List.getElem?_append_right hj] at h
    cases hn : j - l.length with
    | zero => rw [hn] at h; exact .inr ⟨by omega, by simpa using h.symm⟩
    | succ n => rw [hn] at h; simp at h

/-- Replacing entry `k`, `b`, by `a` trades `f b` for `f a` in the concatenation of `f` over
the list, up to order. -/
theorem flatMap_set_perm {γ δ : Type} (f : γ → List δ) :
    ∀ (l : List γ) (k : Nat) (a b : γ), l[k]? = some b →
      ((l.set k a).flatMap f ++ f b).Perm (l.flatMap f ++ f a)
  | [], _, _, _, h => by simp at h
  | x :: l, 0, a, b, h => by
    obtain rfl : x = b := by simpa using h
    show ((f a ++ l.flatMap f) ++ f x).Perm ((f x ++ l.flatMap f) ++ f a)
    calc List.Perm ((f a ++ l.flatMap f) ++ f x) (f x ++ (f a ++ l.flatMap f)) :=
          List.perm_append_comm
      List.Perm _ (f x ++ (l.flatMap f ++ f a)) := List.perm_append_comm.append_left _
      _ = (f x ++ l.flatMap f) ++ f a := (List.append_assoc ..).symm
  | x :: l, k + 1, a, b, h => by
    simp only [List.set_cons_succ, List.flatMap_cons, List.append_assoc]
    exact (flatMap_set_perm f l k a b (by simpa using h)).append_left (f x)

/-- The lookup of `k` after a left fold that inserts one entry per element (`m[key] = val`):
the value of the last element whose key is `k`, else the start map's value. -/
theorem lookup_foldl_insert {γ κ V : Type} [DecidableEq κ] (key : γ → κ) (val : γ → V) (k : κ) :
    ∀ (l : List γ) (m : AList fun _ : κ => V),
      (l.foldl (fun m x => m.insert (key x) (val x)) m).lookup k =
        ((l.reverse.find? (key · = k)).map val).or (m.lookup k)
  | [], m => by simp
  | x :: l, m => by
    rw [List.foldl_cons, lookup_foldl_insert key val k l, List.reverse_cons, List.find?_append]
    by_cases h : key x = k
    · subst h; cases List.find? (key · = key x) l.reverse <;> simp
    · cases List.find? (key · = k) l.reverse <;> simp [h, AList.lookup_insert_ne (Ne.symm h)]

/-- When exactly one element of a list satisfies `p`, `find?` returns it, in whatever order
the list is. -/
theorem find?_eq_some_of_unique {γ : Type} {p : γ → Bool} {l : List γ} {a : γ}
    (hu : ∀ b ∈ l, p b → b = a) (ha : a ∈ l) (hp : p a) : l.find? p = some a := by
  cases h : l.find? p with
  | none => exact absurd hp (List.find?_eq_none.mp h a ha)
  | some b => rw [hu b (List.mem_of_find?_eq_some h) (List.find?_some h)]

theorem except_bind_eq_ok {ε α β : Type} {x : Except ε α} {f : α → Except ε β} {b : β} :
    x >>= f = .ok b ↔ ∃ a, x = .ok a ∧ f a = .ok b := by
  cases x <;> simp [bind, Except.bind]

theorem except_map_eq_ok {ε α β : Type} {x : Except ε α} {f : α → β} {b : β} :
    x.map f = .ok b ↔ ∃ a, x = .ok a ∧ f a = b := by
  cases x <;> simp [Except.map]

/-- A fold in `Except` whose step fails on an element whatever the accumulator, with an
error that depends on the element alone, fails exactly with the first failing element's
error. -/
theorem foldlM_eq_error_iff {σ α ε : Type} {f : σ → α → Except ε σ} (err : α → Option ε)
    (hf : ∀ s a e, f s a = .error e ↔ err a = some e) :
    ∀ (l : List α) (s : σ) (e : ε), l.foldlM f s = .error e ↔ l.findSome? err = some e
  | [], s, e => by simp [pure, Except.pure]
  | a :: l, s, e => by
    rw [List.foldlM_cons, List.findSome?_cons]
    rcases h : f s a with e' | s'
    · rw [(hf s a e').mp h]
      simp [bind, Except.bind]
    · have hnone : err a = none := Option.eq_none_iff_forall_not_mem.mpr fun e' he' => by
        have := (hf s a e').mpr he'
        rw [h] at this
        cases this
      rw [hnone]
      exact foldlM_eq_error_iff err hf l s' e

end Mixer
