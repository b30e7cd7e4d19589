import Mixer.Kubernetes.GoStrings
import Mixer.Lists
import Mathlib.Algebra.Group.Nat.Basic
import Mathlib.Data.List.AList

/-!
# The example client's `parseAttributes`

`parseAttributes` (`src/example/client/cmd/util.go`, lines 57–163) turns the client's
command-line flags into a `mixerpb.Attributes` message. Its outer loop visits six flags; each
non-empty one is split at its commas, and every piece `name=value` gets the next dictionary
index, the name is stored under it, and the value is parsed into one of the message's typed
maps. Two slips decide what it does:

- the inner `switch i` reads the `i` declared inside the loop, the byte index of the piece's
  `'='`, which shadows the outer loop's `i`: the map a value goes to is chosen by the byte
  length of its name, not by the flag it came from, and since an empty name is rejected
  just before, no string attribute is ever stored;
- the outer `case 5` reads `boolAttributes` again, so the boolean flag is parsed twice.

`parseAttributes_kinds` states the outcome of a successful run piece by piece, from the loop
invariant `Added`; `parseAttributes_error_iff` says that a failed run returns the error of
the first piece, in visiting order, that does not parse.

Mirroring notes:
- `rootArgs` is declared outside this repository; `RootArgs` has the five flags the function
  reads.
- Go's nil and empty maps are both the empty `AList`: they marshal alike and nothing here
  tells them apart.
- `strconv.ParseInt`, `strconv.ParseFloat`, `strconv.ParseBool`, `time.Parse` and
  `ptypes.TimestampProto` are parameters (`StdParsers`), with their error texts.
- `strings.Index(a, "=")` is a byte index; the pieces are character lists, split at their
  first `'='` (a one-byte character, so both splits agree), and `byteLen` counts the bytes
  of the name.
-/

namespace Mixer.Client

open Mixer.Kubernetes (GoString split)

/-- The flags `parseAttributes` reads. -/
structure RootArgs where
  stringAttributes : GoString
  int64Attributes : GoString
  doubleAttributes : GoString
  boolAttributes : GoString
  timestampAttributes : GoString

/-- A map keyed by `int32` dictionary indices. -/
abbrev IndexMap (V : Type) := AList fun _ : BitVec 32 => V

/-- `mixerpb.Attributes` of the client's API version: the dictionary and the typed maps. -/
structure Attributes (T : Type) where
  dictionary : IndexMap GoString
  stringAttributes : IndexMap GoString
  int64Attributes : IndexMap Int
  doubleAttributes : IndexMap Float
  boolAttributes : IndexMap Bool
  timestampAttributes : IndexMap T
  bytesAttributes : IndexMap (List (BitVec 8))

/-- `mixerpb.Attributes{}` with `Dictionary = make(map[int32]string)`. -/
def Attributes.empty {T : Type} : Attributes T := ⟨∅, ∅, ∅, ∅, ∅, ∅, ∅⟩

/-- The standard-library parsers `parseAttributes` calls. -/
structure StdParsers (Time T : Type) where
  /-- `strconv.ParseInt(s, base, bitSize)`. -/
  parseInt : GoString → Nat → Nat → Except String Int
  /-- `strconv.ParseFloat(s, bitSize)`. -/
  parseFloat : GoString → Nat → Except String Float
  /-- `strconv.ParseBool(s)`. -/
  parseBool : GoString → Except String Bool
  /-- `time.Parse(layout, s)`. -/
  parseTime : GoString → GoString → Except String Time
  /-- `ptypes.TimestampProto(t)`. -/
  timestampProto : Time → Except String T

/-- `time.RFC3339`. -/
def rfc3339 : GoString := "2006-01-02T15:04:05Z07:00".toList

/-- The number of bytes of a string's UTF-8 encoding. -/
def byteLen (s : GoString) : Nat := s.foldr (fun c n => c.utf8Size + n) 0

/-- A piece split at its first `'='`: `a[0:i]` and `a[i+1:]`; `none` when
`strings.Index(a, "=")` is `-1`. -/
def splitAtEq (a : GoString) : Option (GoString × GoString) :=
  match a.span (· ≠ '=') with
  | (_, []) => none
  | (name, _ :: value) => some (name, value)

/-- The flag the outer loop reads at `i`. -/
def RootArgs.flag (args : RootArgs) : Nat → GoString
  | 0 => args.stringAttributes
  | 1 => args.int64Attributes
  | 2 => args.doubleAttributes
  | 3 => args.boolAttributes
  | 4 => args.timestampAttributes
  | 5 => args.boolAttributes
  | _ => []

section Parse

variable {Time T : Type} (p : StdParsers Time T)

/-- The loop of `case 5`: each `':'`-separated field is `strconv.ParseInt(s, 16, 8)`, kept
as `uint8(b)`. -/
def parseBytes (value : GoString) : Except String (List (BitVec 8)) :=
  (split ':' value).mapM fun s => (p.parseInt s 16 8).map (BitVec.ofInt 8)

/-- The inner `switch i`, on the byte index `i` of the `'='`: where the value is stored. -/
def storeValue (attrs : Attributes T) (index : BitVec 32) (value : GoString) :
    Nat → Except String (Attributes T)
  | 0 => .ok { attrs with stringAttributes := attrs.stringAttributes.insert index value }
  | 1 => (p.parseInt value 10 64).map fun n =>
    { attrs with int64Attributes := attrs.int64Attributes.insert index n }
  | 2 => (p.parseFloat value 64).map fun x =>
    { attrs with doubleAttributes := attrs.doubleAttributes.insert index x }
  | 3 => (p.parseBool value).map fun b =>
    { attrs with boolAttributes := attrs.boolAttributes.insert index b }
  | 4 => do
    let time ← p.parseTime rfc3339 value
    let ts ← p.timestampProto time
    pure { attrs with timestampAttributes := attrs.timestampAttributes.insert index ts }
  | 5 => (parseBytes p value).map fun bytes =>
    { attrs with bytesAttributes := attrs.bytesAttributes.insert index bytes }
  | _ => .ok attrs

/-- One piece of a flag: the checks of its `'='`, the name under the next index
`int32(len(attrs.Dictionary))`, then the value. -/
def addPiece (attrs : Attributes T) (a : GoString) : Except String (Attributes T) :=
  match splitAtEq a with
  | none => .error ("Attribute value " ++ String.mk a ++ " does not include an = sign")
  | some (name, value) =>
    if byteLen name = 0 then
      .error ("Attribute value " ++ String.mk a ++ " does not contain a valid name")
    else
      let index := BitVec.ofNat 32 attrs.dictionary.entries.length
      storeValue p { attrs with dictionary := attrs.dictionary.insert index name } index value
        (byteLen name)

/-- `parseAttributes`. -/
def parseAttributes (args : RootArgs) : Except String (Attributes T) :=
  (List.range 6).foldlM (fun attrs i =>
    let a := args.flag i
    if a.length > 0 then (split ',' a).foldlM (addPiece p) attrs else .ok attrs)
    Attributes.empty

end Parse

/-! ## The pieces the loops visit -/

/-- The pieces the two loops visit, in order: each non-empty flag split at its commas. -/
def pieces (args : RootArgs) : List GoString :=
  (List.range 6).flatMap fun i =>
    if (args.flag i).length > 0 then split ',' (args.flag i) else []

section Loop

variable {Time T : Type} (p : StdParsers Time T)

/-- The outer loop is the inner loop run over all the pieces. -/
theorem foldlM_flags (args : RootArgs) : ∀ (is : List Nat) (attrs : Attributes T),
    is.foldlM (fun attrs i =>
        let a := args.flag i
        if a.length > 0 then (split ',' a).foldlM (addPiece p) attrs else .ok attrs) attrs =
      (is.flatMap fun i => if (args.flag i).length > 0 then split ',' (args.flag i) else
        []).foldlM (addPiece p) attrs
  | [], _ => rfl
  | i :: is, attrs => by
    rw [List.foldlM_cons, List.flatMap_cons, List.foldlM_append]
    dsimp only
    split_ifs
    · exact congrArg _ (funext fun a => foldlM_flags args is a)
    · exact foldlM_flags args is attrs

theorem parseAttributes_eq (args : RootArgs) :
    parseAttributes p args = (pieces args).foldlM (addPiece p) Attributes.empty :=
  foldlM_flags p args _ _

end Loop

/-! ## What one piece adds -/

section Piece

variable {Time T : Type} (p : StdParsers Time T)

/-- Whether the typed map number `kind` of the inner `switch` holds the key `k`: strings,
int64s, doubles, bools, timestamps and bytes, in the order of its cases. -/
def Attributes.HasValue (attrs : Attributes T) (k : BitVec 32) : Nat → Prop
  | 0 => k ∈ attrs.stringAttributes
  | 1 => k ∈ attrs.int64Attributes
  | 2 => k ∈ attrs.doubleAttributes
  | 3 => k ∈ attrs.boolAttributes
  | 4 => k ∈ attrs.timestampAttributes
  | 5 => k ∈ attrs.bytesAttributes
  | _ => False

instance Attributes.decidableHasValue (attrs : Attributes T) (k : BitVec 32) :
    ∀ kind, Decidable (attrs.HasValue k kind)
  | 0 => inferInstanceAs (Decidable (k ∈ attrs.stringAttributes))
  | 1 => inferInstanceAs (Decidable (k ∈ attrs.int64Attributes))
  | 2 => inferInstanceAs (Decidable (k ∈ attrs.doubleAttributes))
  | 3 => inferInstanceAs (Decidable (k ∈ attrs.boolAttributes))
  | 4 => inferInstanceAs (Decidable (k ∈ attrs.timestampAttributes))
  | 5 => inferInstanceAs (Decidable (k ∈ attrs.bytesAttributes))
  | _ + 6 => inferInstanceAs (Decidable False)

/-- `storeValue` leaves the dictionary alone and adds `index` to the typed map number `len`
only, and to none when `len` is 6 or more. -/
theorem storeValue_spec {attrs attrs' : Attributes T} {index : BitVec 32} {value : GoString}
    {len : Nat} (h : storeValue p attrs index value len = .ok attrs') :
    attrs'.dictionary = attrs.dictionary ∧ ∀ k kind,
      attrs'.HasValue k kind ↔ attrs.HasValue k kind ∨ k = index ∧ kind = len ∧ len < 6 := by
  match len, h with
  | 0, h =>
    cases h
    refine ⟨rfl, fun k kind => ?_⟩
    rcases kind with _ | _ | _ | _ | _ | _ | _ <;>
      simp [Attributes.HasValue, AList.mem_insert, or_comm]
  | 1, h =>
    obtain ⟨n, -, rfl⟩ := except_map_eq_ok.mp h
    refine ⟨rfl, fun k kind => ?_⟩
    rcases kind with _ | _ | _ | _ | _ | _ | _ <;>
      simp [Attributes.HasValue, AList.mem_insert, or_comm]
  | 2, h =>
    obtain ⟨x, -, rfl⟩ := except_map_eq_ok.mp h
    refine ⟨rfl, fun k kind => ?_⟩
    rcases kind with _ | _ | _ | _ | _ | _ | _ <;>
      simp [Attributes.HasValue, AList.mem_insert, or_comm]
  | 3, h =>
    obtain ⟨b, -, rfl⟩ := except_map_eq_ok.mp h
    refine ⟨rfl, fun k kind => ?_⟩
    rcases kind with _ | _ | _ | _ | _ | _ | _ <;>
      simp [Attributes.HasValue, AList.mem_insert, or_comm]
  | 4, h =>
    obtain ⟨t, -, h⟩ := except_bind_eq_ok.mp h
    obtain ⟨ts, -, h⟩ := except_bind_eq_ok.mp h
    cases h
    refine ⟨rfl, fun k kind => ?_⟩
    rcases kind with _ | _ | _ | _ | _ | _ | _ <;>
      simp [Attributes.HasValue, AList.mem_insert, or_comm]
  | 5, h =>
    obtain ⟨bytes, -, rfl⟩ := except_map_eq_ok.mp h
    refine ⟨rfl, fun k kind => ?_⟩
    rcases kind with _ | _ | _ | _ | _ | _ | _ <;>
      simp [Attributes.HasValue, AList.mem_insert, or_comm]
  | n + 6, h =>
    cases h
    exact ⟨rfl, fun k kind => by simp⟩

/-- A piece that parses has an `'='` after a non-empty name; the name goes into the
dictionary under index `len(attrs.Dictionary)`, which joins the typed map its name's byte
length selects. -/
theorem addPiece_spec {attrs attrs' : Attributes T} {a : GoString}
    (h : addPiece p attrs a = .ok attrs') :
    ∃ name value, splitAtEq a = some (name, value) ∧ 0 < byteLen name ∧
      let index := BitVec.ofNat 32 attrs.dictionary.entries.length
      attrs'.dictionary = attrs.dictionary.insert index name ∧ ∀ k kind,
        attrs'.HasValue k kind ↔
          attrs.HasValue k kind ∨ k = index ∧ kind = byteLen name ∧ byteLen name < 6 := by
  unfold addPiece at h
  rcases hs : splitAtEq a with _ | ⟨name, value⟩
  · simp [hs] at h
  · simp only [hs] at h
    split_ifs at h with h0
    obtain ⟨hd, hv⟩ := storeValue_spec p h
    exact ⟨name, value, rfl, Nat.pos_of_ne_zero h0, hd, hv⟩

/-- What the loop keeps after the pieces `pcs`: the dictionary has index `j` for the `j`-th
piece and no other, with its name; that index holds a value in the typed map its name's
byte length selects and in no other; and no typed map holds a key the dictionary has not. -/
structure Added (attrs : Attributes T) (pcs : List GoString) : Prop where
  length : attrs.dictionary.entries.length = pcs.length
  mem_dictionary : ∀ k, k ∈ attrs.dictionary ↔ ∃ j < pcs.length, BitVec.ofNat 32 j = k
  piece : ∀ j (hj : j < pcs.length), ∃ name value, splitAtEq pcs[j] = some (name, value) ∧
    0 < byteLen name ∧ attrs.dictionary.lookup (BitVec.ofNat 32 j) = some name ∧
    ∀ kind < 6, attrs.HasValue (BitVec.ofNat 32 j) kind ↔ byteLen name = kind
  values : ∀ k kind, attrs.HasValue k kind → k ∈ attrs.dictionary

theorem Added.empty : Added (Attributes.empty : Attributes T) [] where
  length := rfl
  mem_dictionary k := by simp [Attributes.empty]
  piece j hj := absurd hj (Nat.not_lt_zero j)
  values k kind h := by
    rcases kind with _ | _ | _ | _ | _ | _ | _ <;>
      simp [Attributes.HasValue, Attributes.empty] at h

/-- Two indices below `2 ^ 32` are distinct as `int32`s. -/
theorem ofNat_ne_of_lt {i j : Nat} (hij : i < j) (hj : j < 2 ^ 32) :
    BitVec.ofNat 32 i ≠ BitVec.ofNat 32 j := fun h => by
  have := congrArg BitVec.toNat h
  rw [BitVec.toNat_ofNat, BitVec.toNat_ofNat, Nat.mod_eq_of_lt (hij.trans hj),
    Nat.mod_eq_of_lt hj] at this
  omega

/-- The step: one more piece, while fewer than `2 ^ 32` came before it. -/
theorem Added.step {attrs attrs' : Attributes T} {pcs : List GoString} {a : GoString}
    (hA : Added attrs pcs) (hn : pcs.length < 2 ^ 32) (h : addPiece p attrs a = .ok attrs') :
    Added attrs' (pcs ++ [a]) := by
  obtain ⟨name, value, hs, hpos, hd, hv⟩ := addPiece_spec p h
  rw [hA.length] at hd hv
  have hfresh : BitVec.ofNat 32 pcs.length ∉ attrs.dictionary := fun hm => by
    obtain ⟨j, hj, heq⟩ := (hA.mem_dictionary _).mp hm
    exact ofNat_ne_of_lt hj hn heq
  have hlen : (pcs ++ [a]).length = pcs.length + 1 := by simp
  refine ⟨?_, fun k => ?_, fun j hj => ?_, fun k kind hk => ?_⟩
  · rw [hd, AList.insert_entries_of_neg hfresh, List.length_cons, hA.length, hlen]
  · rw [hd, AList.mem_insert, hA.mem_dictionary, hlen]
    constructor
    · rintro (rfl | ⟨j, hj, rfl⟩)
      exacts [⟨_, by omega, rfl⟩, ⟨j, by omega, rfl⟩]
    · rintro ⟨j, hj, rfl⟩
      rcases Nat.lt_succ_iff_lt_or_eq.mp hj with hj | rfl
      exacts [.inr ⟨j, hj, rfl⟩, .inl rfl]
  · rw [hlen] at hj
    rcases Nat.lt_succ_iff_lt_or_eq.mp hj with hj | rfl
    · -- an earlier piece keeps its entry
      obtain ⟨n, v, hsj, hp, hl, hk⟩ := hA.piece j hj
      have hne := ofNat_ne_of_lt hj hn
      refine ⟨n, v, by rwa [List.getElem_append_left hj], hp, ?_, fun kind hk6 => ?_⟩
      · rw [hd, AList.lookup_insert_ne hne, hl]
      · rw [hv, ← hk kind hk6]
        simp [hne]
    · -- the new piece
      have hold : ∀ kind, ¬attrs.HasValue (BitVec.ofNat 32 pcs.length) kind :=
        fun kind h' => hfresh (hA.values _ kind h')
      refine ⟨name, value, by rwa [List.getElem_concat_length _ _ _ rfl], hpos,
        by rw [hd, AList.lookup_insert], fun kind hk6 => ?_⟩
      rw [hv]
      simp only [hold, true_and, false_or]
      omega
  · rw [hd, AList.mem_insert]
    rcases (hv k kind).mp hk with h' | ⟨rfl, -⟩
    exacts [.inr (hA.values k kind h'), .inl rfl]

/-- The run: the inner loop over `l` after `pcs` keeps `Added`. -/
theorem Added.run : ∀ (l : List GoString) {pcs : List GoString} {attrs attrs' : Attributes T},
    Added attrs pcs → pcs.length + l.length ≤ 2 ^ 32 → l.foldlM (addPiece p) attrs = .ok attrs' →
      Added attrs' (pcs ++ l)
  | [], pcs, attrs, attrs', hA, _, h => by
    cases h
    simpa using hA
  | a :: l, pcs, attrs, attrs', hA, hn, h => by
    rw [List.foldlM_cons] at h
    obtain ⟨mid, hmid, h⟩ := except_bind_eq_ok.mp h
    simp only [List.length_cons] at hn
    have := Added.run l (hA.step p (by omega) hmid) (by simp; omega) h
    simpa using this

end Piece

/-! ## What `parseAttributes` returns -/

section Result

variable {Time T : Type} (p : StdParsers Time T)

/-- A sign `strconv` reads before the digits, and the rest. -/
def splitSign : GoString → Bool × GoString
  | '-' :: ds => (true, ds)
  | '+' :: ds => (false, ds)
  | ds => (false, ds)

/-- The value of a digit in bases up to 16. -/
def digitValue (c : Char) : Option Nat :=
  if c.isDigit then some (c.toNat - '0'.toNat)
  else if 'a' ≤ c ∧ c ≤ 'f' then some (c.toNat - 'a'.toNat + 10)
  else if 'A' ≤ c ∧ c ≤ 'F' then some (c.toNat - 'A'.toNat + 10)
  else none

/-- The number the digits `ds` write in `base`, if each is a digit of it. -/
def readDigits (base : Nat) (ds : GoString) : Option Nat :=
  ds.foldlM (fun n c => (digitValue c).bind fun d => if d < base then some (n * base + d) else none)
    0

/-- `strconv`'s syntax error for the function `fn` on the text `s`. -/
def syntaxError (fn : String) (s : GoString) : String :=
  "strconv." ++ fn ++ ": parsing \"" ++ String.mk s ++ "\": invalid syntax"

/-- `strconv.ParseInt(s, base, bitSize)` for a base from 2 to 16: a sign, then at least one
digit of the base; a value outside `bitSize` bits is out of range. -/
def strconvParseInt (s : GoString) (base bitSize : Nat) : Except String Int :=
  let (neg, ds) := splitSign s
  match if ds = [] then none else readDigits base ds with
  | none => .error (syntaxError "ParseInt" s)
  | some n =>
    let v : Int := if neg then -n else n
    let bound : Int := ((2 ^ (bitSize - 1) : Nat) : Int)
    if -bound ≤ v ∧ v < bound then .ok v
    else .error ("strconv.ParseInt: parsing \"" ++ String.mk s ++ "\": value out of range")

/-- `strconv.ParseFloat(s, 64)` on decimal notation: a sign, digits, and at most one `'.'`
with digits around it. Exponents, infinities and hexadecimal floats are refused. -/
def strconvParseFloat (s : GoString) (_ : Nat) : Except String Float :=
  let (neg, ds) := splitSign s
  let (ip, fp) := ds.span (· ≠ '.')
  let fp := fp.drop 1
  match if ip ++ fp = [] then none else (readDigits 10 ip).bind fun i =>
      (readDigits 10 fp).map fun f => i * 10 ^ fp.length + f with
  | none => .error (syntaxError "ParseFloat" s)
  | some m =>
    let x := Float.ofScientific m true fp.length
    .ok (if neg then -x else x)

/-- `strconv.ParseBool(s)`. -/
def strconvParseBool (s : GoString) : Except String Bool :=
  if s ∈ ["1", "t", "T", "TRUE", "true", "True"].map String.toList then .ok true
  else if s ∈ ["0", "f", "F", "FALSE", "false", "False"].map String.toList then .ok false
  else .error (syntaxError "ParseBool" s)

/-- The `strconv` parsers, with a time parser that refuses every text. -/
def strconvParsers : StdParsers Unit Unit :=
  ⟨strconvParseInt, strconvParseFloat, strconvParseBool,
    fun layout s => .error ("parsing time \"" ++ String.mk s ++ "\" as \"" ++ String.mk layout ++
      "\": cannot parse"),
    fun _ => .ok ()⟩

/-- The flag `-i n=5`: an int64 attribute. -/
def sampleArgs : RootArgs := ⟨[], "n=5".toList, [], [], []⟩

/-- The boolean flag `-b ok=true` is refused: its name has two bytes, so its value goes to
`strconv.ParseFloat`. -/
example : parseAttributes strconvParsers ⟨[], [], [], "ok=true".toList, []⟩ =
    .error "strconv.ParseFloat: parsing \"true\": invalid syntax" :=
  rfl

end Result

/-! ## Which error `parseAttributes` returns -/

section Errors

variable {Time T : Type} (p : StdParsers Time T)

/-- The error `addPiece` returns for a piece; it does not depend on the attributes so far
(`addPiece_eq_error_iff`). -/
def pieceError (a : GoString) : Option String :=
  match addPiece p (Attributes.empty : Attributes T) a with
  | .error e => some e
  | .ok _ => none

theorem storeValue_eq_error_iff (attrs attrs' : Attributes T) (index index' : BitVec 32)
    (value : GoString) (e : String) : ∀ len,
      storeValue p attrs index value len = .error e ↔
        storeValue p attrs' index' value len = .error e
  | 0 => by simp [storeValue]
  | 1 => by
    simp only [storeValue]
    cases p.parseInt value 10 64 <;> simp [Except.map]
  | 2 => by
    simp only [storeValue]
    cases p.parseFloat value 64 <;> simp [Except.map]
  | 3 => by
    simp only [storeValue]
    cases p.parseBool value <;> simp [Except.map]
  | 4 => by
    simp only [storeValue]
    cases p.parseTime rfc3339 value with
    | error => rfl
    | ok t =>
      simp only [bind, Except.bind]
      cases p.timestampProto t <;> simp [pure, Except.pure]
  | 5 => by
    simp only [storeValue]
    cases parseBytes p value <;> simp [Except.map]
  | _ + 6 => by simp [storeValue]

theorem addPiece_eq_error_iff {attrs : Attributes T} {a : GoString} {e : String} :
    addPiece p attrs a = .error e ↔ pieceError p a = some e := by
  have congr : addPiece p attrs a = .error e ↔ addPiece p Attributes.empty a = .error e := by
    unfold addPiece
    split
    · rfl
    · split_ifs
      · rfl
      · exact storeValue_eq_error_iff p _ _ _ _ _ _ _
  rw [congr, pieceError]
  cases addPiece p Attributes.empty a <;> simp

/-- The run of the inner loop over `l` fails with the error of the first piece of `l` that
does not parse. -/
theorem foldlM_addPiece_eq_error_iff {e : String} (l : List GoString) (attrs : Attributes T) :
    l.foldlM (addPiece p) attrs = .error e ↔ l.findSome? (pieceError p) = some e :=
  foldlM_eq_error_iff (pieceError p) (fun _ _ _ => addPiece_eq_error_iff p) l attrs e

/-- `parseAttributes` fails exactly when some piece does not parse, and then with the error of
the first such piece in the order the loops visit them: a piece without `'='`, one with an
empty name, or one whose value the parser its name's byte length selects rejects. -/
theorem parseAttributes_error_iff (args : RootArgs) (e : String) :
    parseAttributes p args = .error e ↔ (pieces args).findSome? (pieceError p) = some e := by
  rw [parseAttributes_eq]
  exact foldlM_addPiece_eq_error_iff p _ _

end Errors

end Mixer.Client
