import Mixer.Lists

/-!
# Log severities: `Severity.String` and `SeverityByName`

`pkg/adapter` names the nine levels of a log entry in `severityMap`, prints a
level with `Severity.String` (its name, or its number when it has none) and reads
one back with `SeverityByName`, which upper-cases the text and then searches the
map. The result here is the round trip, `severityByName_string`: reading back a
printed level gives the level and `true` when it is one of the nine, and
`Default` with `false` otherwise, whatever order the runtime walks the map in and
whatever the Unicode case tables beyond ASCII say.

Mirroring notes:
- `SeverityByName` ranges over a Go map, whose iteration order the runtime chooses;
  `SeverityOrder` is that choice, any permutation of the entries. The names are
  distinct (`names_inj`), so the first match is the only one and the order never
  shows (`severityByName_of_lookup`).
- `strings.ToUpper` is `strings.Map(unicode.ToUpper, s)`; `unicode.ToUpper` is
  written out on ASCII and is the parameter `upperTable` on every other rune.
  Strings are sequences of Unicode scalar values: the invalid UTF-8 that a Go
  string may hold is not modelled.
- `fmt.Sprintf("%d", s)` prints the integer (`%d` does not call `String`), which is
  Lean's decimal `toString` of an `Int`.
-/

namespace Mixer.Adapter

/-- `adapter.Severity`, a Go `int`. -/
structure Severity where
  val : Int
  deriving DecidableEq, Repr

namespace Severity

/-- `Default`, the zero level. -/
def default : Severity := ⟨0⟩
/-- `Debug`. -/
def debug : Severity := ⟨1⟩
/-- `Info`. -/
def info : Severity := ⟨2⟩
/-- `Notice`. -/
def notice : Severity := ⟨3⟩
/-- `Warning`. -/
def warning : Severity := ⟨4⟩
/-- `Error`. -/
def error : Severity := ⟨5⟩
/-- `Critical`. -/
def critical : Severity := ⟨6⟩
/-- `Alert`. -/
def alert : Severity := ⟨7⟩
/-- `Emergency`. -/
def emergency : Severity := ⟨8⟩

end Severity

/-- `severityMap`, the Go map literal from level to name. -/
def severityMap : AList fun _ : Severity => String :=
  ⟨[⟨.default, "DEFAULT"⟩, ⟨.debug, "DEBUG"⟩, ⟨.info, "INFO"⟩, ⟨.notice, "NOTICE"⟩,
    ⟨.warning, "WARNING"⟩, ⟨.error, "ERROR"⟩, ⟨.critical, "CRITICAL"⟩, ⟨.alert, "ALERT"⟩,
    ⟨.emergency, "EMERGENCY"⟩], by unfold List.NodupKeys; decide⟩

/-- `Severity.String`: the level's name, else `fmt.Sprintf("%d", s)`. -/
def Severity.string (s : Severity) : String :=
  match severityMap.lookup s with
  | some str => str
  | none => toString s.val

/-- `unicode.ToUpper`: its ASCII branch as the source writes it, and the Unicode case
tables (`upperTable`) for every rune beyond `MaxASCII`. -/
def unicodeToUpper (upperTable : Char → Char) (r : Char) : Char :=
  if r.toNat ≤ 127 then r.toUpper else upperTable r

/-- `strings.ToUpper`, that is `strings.Map(unicode.ToUpper, s)`. -/
def toUpper (upperTable : Char → Char) (s : String) : String :=
  ⟨s.data.map (unicodeToUpper upperTable)⟩

/-- The order in which the runtime ranges over `severityMap`. -/
structure SeverityOrder where
  visit : List ((_ : Severity) × String) → List ((_ : Severity) × String)
  visit_perm : ∀ l, (visit l).Perm l

/-- `SeverityByName`: upper-case the name, return the first level whose name it is in
the map's iteration order, else `Default` and `false`. -/
def severityByName (order : SeverityOrder) (upperTable : Char → Char) (s : String) :
    Severity × Bool :=
  let s := toUpper upperTable s
  match (order.visit severityMap.entries).find? (fun e => e.2 == s) with
  | some e => (e.1, true)
  | none => (.default, false)

/-! ## The map's names -/

/-- No two levels share a name. -/
theorem names_inj :
    ∀ a ∈ severityMap.entries, ∀ b ∈ severityMap.entries, a.2 = b.2 → a = b := by
  decide

/-- The runes of a Go decimal numeral. -/
def numeralChars : List Char := ['0', '1', '2', '3', '4', '5', '6', '7', '8', '9', '-']

/-- Every name has a rune that no numeral has. -/
theorem names_not_numeral :
    ∀ a ∈ severityMap.entries, ∃ c ∈ a.2.data, c ∉ numeralChars := by
  decide

/-- Upper-casing leaves a string alone when its runes are ASCII and not lower-case. -/
theorem toUpper_of_forall (upperTable : Char → Char) {s : String}
    (h : ∀ c ∈ s.data, c.toNat ≤ 127 ∧ c.toUpper = c) : toUpper upperTable s = s := by
  refine String.ext ((List.map_congr_left fun c hc => ?_).trans (List.map_id _))
  simp [unicodeToUpper, h c hc]

/-- Every name is upper-case ASCII. -/
theorem names_upper :
    ∀ a ∈ severityMap.entries, ∀ c ∈ a.2.data, c.toNat ≤ 127 ∧ c.toUpper = c := by
  decide

/-- So is every numeral. -/
theorem numeralChars_upper : ∀ c ∈ numeralChars, c.toNat ≤ 127 ∧ c.toUpper = c := by
  decide

/-! ## Decimal numerals -/

theorem toDigitsCore_decimal (fuel : Nat) :
    ∀ (n : Nat) (ds : List Char), (∀ c ∈ ds, c ∈ numeralChars) →
      ∀ c ∈ Nat.toDigitsCore 10 fuel n ds, c ∈ numeralChars := by
  have digit : ∀ k < 10, Nat.digitChar k ∈ numeralChars := by decide
  induction fuel with
  | zero => intro _ _ hds; exact hds
  | succ fuel ih =>
    intro n ds hds
    have hd := List.forall_mem_cons.mpr ⟨digit _ (Nat.mod_lt n (by decide)), hds⟩
    show ∀ c ∈ (if n / 10 = 0 then Nat.digitChar (n % 10) :: ds
      else Nat.toDigitsCore 10 fuel (n / 10) (Nat.digitChar (n % 10) :: ds)), c ∈ numeralChars
    split
    · exact hd
    · exact ih _ _ hd

/-- The runes of a printed integer are digits and minus signs. -/
theorem toString_int_chars (v : Int) : ∀ c ∈ (toString v).data, c ∈ numeralChars := by
  have digits : ∀ n : Nat, ∀ c ∈ (toString n).data, c ∈ numeralChars := fun n =>
    toDigitsCore_decimal _ n [] (by simp)
  rcases v with n | n
  · exact digits n
  · intro c hc
    change c ∈ '-' :: (toString (n + 1)).data at hc
    rcases List.mem_cons.mp hc with rfl | hc
    · decide
    · exact digits _ c hc

/-- A printed integer is no level's name. -/
theorem toString_int_not_name (v : Int) : ∀ a ∈ severityMap.entries, a.2 ≠ toString v := by
  intro a ha heq
  obtain ⟨c, hc, hnot⟩ := names_not_numeral a ha
  exact hnot (toString_int_chars v c (heq ▸ hc))

/-- The named levels are `0` to `8`. -/
theorem levels_range : ∀ a ∈ severityMap.entries, 0 ≤ a.1.val ∧ a.1.val ≤ 8 := by
  decide

/-! ## `SeverityByName` does not depend on the iteration order -/

section
variable (order : SeverityOrder) (upperTable : Char → Char) (n : String)

/-- A name that upper-cases to a level's name reads back as that level. -/
theorem severityByName_of_lookup {s : Severity}
    (h : severityMap.lookup s = some (toUpper upperTable n)) :
    severityByName order upperTable n = (s, true) := by
  have hmem : (⟨s, toUpper upperTable n⟩ : (_ : Severity) × String) ∈ severityMap.entries :=
    AList.mem_lookup_iff.mp h
  have hfind : (order.visit severityMap.entries).find? (fun e => e.2 == toUpper upperTable n)
      = some ⟨s, toUpper upperTable n⟩ := by
    refine find?_eq_some_of_unique (fun b hb hp => ?_) ((order.visit_perm _).mem_iff.mpr hmem)
      (by simp)
    exact names_inj b ((order.visit_perm _).mem_iff.mp hb) _ hmem (by simpa using hp)
  simp only [severityByName, hfind]

/-- A name that upper-cases to no level's name reads back as `Default` and `false`. -/
theorem severityByName_of_not_name (h : ∀ a ∈ severityMap.entries, a.2 ≠ toUpper upperTable n) :
    severityByName order upperTable n = (.default, false) := by
  have hfind : (order.visit severityMap.entries).find? (fun e => e.2 == toUpper upperTable n)
      = none :=
    List.find?_eq_none.mpr fun a ha => by
      simpa using h a ((order.visit_perm _).mem_iff.mp ha)
  simp only [severityByName, hfind]

end

/-- The round trip of `Severity.String` and `SeverityByName`: a printed level reads back
as itself with `true` exactly when it is one of the nine named levels; any other value
prints as a numeral, which reads back as `Default` with `false`. This holds for every
iteration order of `severityMap` and every Unicode case table. -/
theorem severityByName_string (order : SeverityOrder) (upperTable : Char → Char)
    (s : Severity) :
    severityByName order upperTable s.string =
      if 0 ≤ s.val ∧ s.val ≤ 8 then (s, true) else (.default, false) := by
  cases hs : severityMap.lookup s with
  | some name =>
    have hmem := AList.mem_lookup_iff.mp hs
    have hup : toUpper upperTable name = name :=
      toUpper_of_forall upperTable (names_upper _ hmem)
    rw [if_pos (levels_range _ hmem), Severity.string, hs]
    exact severityByName_of_lookup order upperTable name (hs.trans (congrArg some hup.symm))
  | none =>
    have hrange : ¬ (0 ≤ s.val ∧ s.val ≤ 8) := by
      rintro ⟨h0, h8⟩
      rcases s with ⟨v⟩
      dsimp only at h0 h8
      have : v = 0 ∨ v = 1 ∨ v = 2 ∨ v = 3 ∨ v = 4 ∨ v = 5 ∨ v = 6 ∨ v = 7 ∨ v = 8 := by omega
      rcases this with rfl | rfl | rfl | rfl | rfl | rfl | rfl | rfl | rfl <;> cases hs
    have hup : toUpper upperTable (toString s.val) = toString s.val :=
      toUpper_of_forall upperTable fun c hc => numeralChars_upper c (toString_int_chars _ c hc)
    rw [if_neg hrange, Severity.string, hs]
    exact severityByName_of_not_name order upperTable _ (hup.symm ▸ toString_int_not_name s.val)

end Mixer.Adapter
