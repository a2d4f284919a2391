import Mathlib.Data.Int.Range
import FrpXtcp.Lib.Decimal

/-!
# Lists of numbers and ranges

`ParseRangeNumbers` (`pkg/util/util/util.go`) reads texts such as `1000-2000,2001` into the list
of the numbers they stand for, and `pkg/config/template.go` uses it for one range and for two in
parallel. The loop that appends the numbers of a range counts in an `int64`, so it does not end
when the range goes up to the largest one. The loop is modelled with a number of rounds that it
may make at most, and without a result if these do not suffice.
-/
namespace FrpXtcp.Util

open FrpXtcp.Lib

/-- `unicode.IsSpace` -/
def isSpace (c : Char) : Bool :=
  let n := c.toNat
  (9 ≤ n && n ≤ 13) || n = 32 || n = 0x85 || n = 0xa0 || n = 0x1680 ||
    (0x2000 ≤ n && n ≤ 0x200a) || n = 0x2028 || n = 0x2029 || n = 0x202f || n = 0x205f ||
    n = 0x3000

/-- `strings.TrimSpace` -/
def trimSpace (s : List Char) : List Char :=
  ((s.dropWhile isSpace).reverse.dropWhile isSpace).reverse

/-- What a part between commas is, once its numbers are read. -/
inductive RangePart where
  | single (singleNum : Int64)
  | range (minValue maxValue : Int64)
  deriving DecidableEq

/-- `strconv.ParseInt` of a trimmed text, with the error of `ParseRangeNumbers`. -/
def parseNumber (s : List Char) : Except String Int64 :=
  match parseInt (String.ofList (trimSpace s)) with
  | .error errRet => .error s!"range number is invalid, {errRet}"
  | .ok n => .ok n

/-- The `switch` of `ParseRangeNumbers`, up to the loop over a range. -/
def readPart (numRangeStr : List Char) : Except String RangePart :=
  match numRangeStr.splitOn '-' with
  | [single] => do
    let singleNum ← parseNumber single
    .ok (.single singleNum)
  | [first, last] => do
    let minValue ← parseNumber first
    let maxValue ← parseNumber last
    if maxValue < minValue then .error "range number is invalid"
    else .ok (.range minValue maxValue)
  | _ => .error "range number is invalid"

/-- `for i := minValue; i <= maxValue; i++`, from a value of `i` on. -/
def appendRange (maxValue : Int64) : Nat → Int64 → List Int64 → Option (List Int64)
  | 0, _, _ => none
  | fuel + 1, i, numbers =>
    if i ≤ maxValue then appendRange maxValue fuel (i + 1) (numbers ++ [i]) else some numbers

def appendPart (fuel : Nat) (numbers : List Int64) : RangePart → Option (List Int64)
  | .single singleNum => some (numbers ++ [singleNum])
  | .range minValue maxValue => appendRange maxValue fuel minValue numbers

/-- The loop over the parts. On an error the numbers read before are returned with it. -/
def parseParts (fuel : Nat) :
    List (List Char) → List Int64 → Option (List Int64 × Option String)
  | [], numbers => some (numbers, none)
  | numRangeStr :: numRanges, numbers =>
    match readPart numRangeStr with
    | .error err => some (numbers, some err)
    | .ok part =>
      match appendPart fuel numbers part with
      | none => none
      | some numbers => parseParts fuel numRanges numbers

/-- The parts of a text: between commas, after `strings.TrimSpace`. -/
def numRanges (rangeStr : String) : List (List Char) := (trimSpace rangeStr.toList).splitOn ','

def parseRangeNumbers (fuel : Nat) (rangeStr : String) : Option (List Int64 × Option String) :=
  parseParts fuel (numRanges rangeStr) []

example : parseRangeNumbers 4 " 3-5,8, 10-12 " = some ([3, 4, 5, 8, 10, 11, 12], none) := by
  decide +kernel

example : (parseRangeNumbers 4 "3-a").map (·.2) =
    some (some "range number is invalid, strconv.ParseInt: parsing \"a\": invalid syntax") := by
  decide +kernel

structure NumberPair where
  first : Int64
  second : Int64
  deriving DecidableEq

/-- `if err != nil { return nil, err }` after a call of `ParseRangeNumbers`. -/
def parseNumberRange (fuel : Nat) (firstRangeStr : String) :
    Option (Except String (List Int64)) :=
  match parseRangeNumbers fuel firstRangeStr with
  | none => none
  | some (_, some err) => some (.error err)
  | some (numbers, none) => some (.ok numbers)

def parseNumberRangePair (fuel : Nat) (firstRangeStr secondRangeStr : String) :
    Option (Except String (List NumberPair)) :=
  match parseNumberRange fuel firstRangeStr with
  | none => none
  | some (.error err) => some (.error err)
  | some (.ok firstRangeNumbers) =>
    match parseNumberRange fuel secondRangeStr with
    | none => none
    | some (.error err) => some (.error err)
    | some (.ok secondRangeNumbers) =>
      if firstRangeNumbers.length ≠ secondRangeNumbers.length then
        some (.error "first and second range numbers are not in pairs")
      else some (.ok (List.zipWith NumberPair.mk firstRangeNumbers secondRangeNumbers))

section Grammar

/-- A text, trimmed, is a decimal number of 64 bits. -/
def IsNumber (s : List Char) (n : Int64) : Prop := IsDecimal (trimSpace s) n.toInt

/-- One number, or two with a single `-` between them of which the first is not the larger
one; there is no other `-`. -/
inductive Reads : List Char → RangePart → Prop
  | single {s : List Char} {n : Int64} : '-' ∉ s → IsNumber s n → Reads s (.single n)
  | range {a b : List Char} {lo hi : Int64} : '-' ∉ a → '-' ∉ b → IsNumber a lo → IsNumber b hi →
      lo ≤ hi → Reads (a ++ '-' :: b) (.range lo hi)

/-- All integers from `lo` to `hi`. -/
def between (lo hi : Int64) : List Int64 :=
  (Int.range lo.toInt (hi.toInt + 1)).map Int64.ofInt

def RangePart.numbers : RangePart → List Int64
  | .single n => [n]
  | .range lo hi => between lo hi

/-- Every part of the text can be read, and these are its numbers in order. -/
def Denotes (rangeStr : String) (numbers : List Int64) : Prop :=
  ∃ parts, List.Forall₂ Reads (numRanges rangeStr) parts ∧ numbers = parts.flatMap RangePart.numbers

/-- A range up to the largest `int64` comes before every part that cannot be read. -/
inductive RunsAway : List (List Char) → Prop
  | here {s : List Char} {rest : List (List Char)} {lo : Int64} :
      Reads s (.range lo Int64.maxValue) → RunsAway (s :: rest)
  | later {s : List Char} {rest : List (List Char)} {part : RangePart} :
      Reads s part → RunsAway rest → RunsAway (s :: rest)

/-- The call comes to an end, with this result. -/
def Returns (rangeStr : String) (result : List Int64 × Option String) : Prop :=
  ∃ n, ∀ fuel ≥ n, parseRangeNumbers fuel rangeStr = some result

/-- What a call is to do: end, without an error exactly if every part can be read, and with the
numbers of the text if so. -/
def ParsesRight (rangeStr : String) : Prop :=
  ∃ result, Returns rangeStr result ∧
    (result.2 = none ↔ ∃ numbers, Denotes rangeStr numbers) ∧
    ∀ numbers, Denotes rangeStr numbers → result.1 = numbers

end Grammar

section Reading

theorem parseNumber_ok_iff {s : List Char} {n : Int64} :
    parseNumber s = .ok n ↔ IsNumber s n := by
  rw [parseNumber, IsNumber]
  have hparse := parseInt_ok_iff (s := String.ofList (trimSpace s)) (n := n)
  rw [String.toList_ofList] at hparse
  rw [← hparse]
  cases parseInt (String.ofList (trimSpace s)) with
  | error err => simp
  | ok m => simp

theorem splitOn_pair {a b : List Char} (ha : '-' ∉ a) (hb : '-' ∉ b) :
    (a ++ '-' :: b).splitOn '-' = [a, b] := by
  rw [List.splitOn_append_cons_self_of_not_mem ha, List.splitOn_eq_singleton hb]

/-- No, one or more than one `-`. -/
theorem dash_cases (s : List Char) :
    '-' ∉ s ∨ (∃ a b, s = a ++ '-' :: b ∧ '-' ∉ a ∧ '-' ∉ b) ∨
      ∃ a b c rest, s.splitOn '-' = a :: b :: c :: rest := by
  by_cases hs : '-' ∈ s
  · obtain ⟨a, t, rfl, ha⟩ := List.eq_append_cons_of_mem hs
    right
    by_cases ht : '-' ∈ t
    · obtain ⟨b, u, rfl, hb⟩ := List.eq_append_cons_of_mem ht
      right
      obtain ⟨c, rest, hu⟩ := List.exists_cons_of_ne_nil (List.splitOn_ne_nil '-' u)
      refine ⟨a, b, c, rest, ?_⟩
      rw [List.splitOn_append_cons_self_of_not_mem ha,
        List.splitOn_append_cons_self_of_not_mem hb, hu]
    · exact Or.inl ⟨a, t, rfl, ha, ht⟩
  · exact Or.inl hs

theorem readPart_single {s : List Char} (hs : '-' ∉ s) {part : RangePart} :
    readPart s = .ok part ↔ ∃ n, IsNumber s n ∧ part = .single n := by
  rw [readPart, List.splitOn_eq_singleton hs]
  simp only [← parseNumber_ok_iff]
  cases parseNumber s with
  | error err => simp [bind, Except.bind]
  | ok n => simp [bind, Except.bind, eq_comm]

theorem readPart_pair {a b : List Char} (ha : '-' ∉ a) (hb : '-' ∉ b) {part : RangePart} :
    readPart (a ++ '-' :: b) = .ok part ↔
      ∃ lo hi, IsNumber a lo ∧ IsNumber b hi ∧ lo ≤ hi ∧ part = .range lo hi := by
  rw [readPart, splitOn_pair ha hb]
  simp only [← parseNumber_ok_iff]
  cases parseNumber a with
  | error err => simp [bind, Except.bind]
  | ok lo =>
    cases parseNumber b with
    | error err => simp [bind, Except.bind]
    | ok hi =>
      by_cases hlt : hi < lo
      · simp [bind, Except.bind, hlt]
      · simp [bind, Except.bind, hlt, Int64.not_lt.mp hlt, eq_comm]

/-- A part is accepted exactly if it is one of the grammar. -/
theorem readPart_ok_iff {s : List Char} {part : RangePart} :
    readPart s = .ok part ↔ Reads s part := by
  constructor
  · intro h
    rcases dash_cases s with hs | ⟨a, b, rfl, ha, hb⟩ | ⟨a, b, c, rest, hs⟩
    · obtain ⟨n, hn, rfl⟩ := (readPart_single hs).mp h
      exact .single hs hn
    · obtain ⟨lo, hi, hlo, hhi, hle, rfl⟩ := (readPart_pair ha hb).mp h
      exact .range ha hb hlo hhi hle
    · rw [readPart, hs] at h
      cases h
  · rintro (⟨hs, hn⟩ | ⟨ha, hb, hlo, hhi, hle⟩)
    · exact (readPart_single hs).mpr ⟨_, hn, rfl⟩
    · exact (readPart_pair ha hb).mpr ⟨_, _, hlo, hhi, hle, rfl⟩

theorem Reads.unique {s : List Char} {part part' : RangePart} (h : Reads s part)
    (h' : Reads s part') : part = part' := by
  rw [← readPart_ok_iff] at h h'
  exact Except.ok.inj (h.symm.trans h')

end Reading

section Loop

theorem intRange_cons {m n : Int} (h : m < n) : Int.range m n = m :: Int.range (m + 1) n := by
  have hlength : (n - m).toNat = (n - (m + 1)).toNat + 1 := by omega
  simp only [Int.range, hlength, List.range_succ_eq_map, List.map_cons, List.map_map]
  refine congrArg₂ List.cons (by simp) (List.map_congr_left fun k _ => ?_)
  simp
  omega

theorem intRange_nil {m n : Int} (h : n ≤ m) : Int.range m n = [] := by
  have hlength : (n - m).toNat = 0 := by omega
  rw [Int.range, hlength]
  rfl

/-- The loop over a range that ends below the largest `int64`: its counter does not wrap. -/
theorem appendRange_eq {hi : Int64} (hhi : hi ≠ Int64.maxValue) {fuel : Nat} {i : Int64}
    (hfuel : (hi.toInt + 1 - i.toInt).toNat < fuel) (numbers : List Int64) :
    appendRange hi fuel i numbers = some (numbers ++ between i hi) := by
  have hlt : hi.toInt < 2 ^ 63 - 1 := by
    have hne : hi.toInt ≠ 2 ^ 63 - 1 := fun h => hhi (Int64.toInt_inj.mp h)
    have := Word.bounds hi
    omega
  induction fuel generalizing i numbers with
  | zero => omega
  | succ fuel ih =>
    rw [appendRange]
    by_cases hle : i ≤ hi
    · have hle' := Int64.le_iff_toInt_le.mp hle
      have hi' := Word.bounds i
      have hnext : (i + 1).toInt = i.toInt + 1 := (Word.toInt_add_eq_iff i 1).mpr (by
        rw [show (1 : Int64).toInt = 1 by decide]
        omega)
      rw [if_pos hle, ih (by omega), between, between, hnext,
        intRange_cons (m := i.toInt) (by omega)]
      simp
    · have hle' := mt Int64.le_iff_toInt_le.mpr hle
      rw [if_neg hle, between, intRange_nil (by omega)]
      simp

/-- Up to the largest `int64` no value of the counter ends the loop. -/
theorem appendRange_maxValue (fuel : Nat) (i : Int64) (numbers : List Int64) :
    appendRange Int64.maxValue fuel i numbers = none := by
  induction fuel generalizing i numbers with
  | zero => rfl
  | succ fuel ih =>
    have hle : i ≤ Int64.maxValue := Int64.le_iff_toInt_le.mpr i.toInt_le
    rw [appendRange, if_pos hle]
    exact ih _ _

end Loop

section Parts

/-- More rounds than a loop makes that ends. -/
def enoughRounds : Nat := 2 ^ 64

theorem appendPart_eq {part : RangePart} (h : ∀ lo, part ≠ .range lo Int64.maxValue) {fuel : Nat}
    (hfuel : fuel ≥ enoughRounds) (numbers : List Int64) :
    appendPart fuel numbers part = some (numbers ++ part.numbers) := by
  cases part with
  | single n => rfl
  | range lo hi =>
    have hhi : hi ≠ Int64.maxValue := by
      rintro rfl
      exact h lo rfl
    apply appendRange_eq hhi
    have hlo := Word.bounds lo
    have hhi' := Word.bounds hi
    have hne : hi.toInt ≠ 2 ^ 63 - 1 := fun h => hhi (Int64.toInt_inj.mp h)
    rw [enoughRounds] at hfuel
    omega

theorem parseParts_cons {fuel : Nat} {s : List Char} {part : RangePart} (h : Reads s part)
    (rest : List (List Char)) (numbers : List Int64) :
    parseParts fuel (s :: rest) numbers =
      (appendPart fuel numbers part).bind (parseParts fuel rest) := by
  rw [parseParts, readPart_ok_iff.mpr h]
  dsimp only
  cases appendPart fuel numbers part with
  | none => rfl
  | some numbers => rfl

theorem RunsAway.parseParts {parts : List (List Char)} (h : RunsAway parts) (fuel : Nat)
    (numbers : List Int64) : parseParts fuel parts numbers = none := by
  induction h generalizing numbers with
  | here hs =>
    rw [parseParts_cons hs, appendPart, appendRange_maxValue]
    rfl
  | later hs _ ih =>
    rw [parseParts_cons hs, Option.bind_eq_none_iff]
    intro numbers' _
    exact ih numbers'

/-- Otherwise the loop over the parts ends: with the numbers of all parts, or with an error at
the first one that cannot be read. -/
theorem parseParts_spec {parts : List (List Char)} (h : ¬ RunsAway parts) (numbers : List Int64) :
    ∃ result, (∀ fuel ≥ enoughRounds, parseParts fuel parts numbers = some result) ∧
      (result.2 = none ↔ ∃ ps, List.Forall₂ Reads parts ps) ∧
      ∀ ps, List.Forall₂ Reads parts ps → result.1 = numbers ++ ps.flatMap RangePart.numbers := by
  induction parts generalizing numbers with
  | nil =>
    refine ⟨(numbers, none), fun _ _ => rfl, ?_, ?_⟩
    · exact ⟨fun _ => ⟨[], .nil⟩, fun _ => rfl⟩
    · rintro ps ⟨⟩
      simp
  | cons s rest ih =>
    cases hread : readPart s with
    | error err =>
      have hnone : ∀ ps, ¬ List.Forall₂ Reads (s :: rest) ps := by
        rintro _ (⟨⟩ | ⟨hs, -⟩)
        rw [readPart_ok_iff.mpr hs] at hread
        cases hread
      refine ⟨(numbers, some err), ?_, ?_, fun ps hps => absurd hps (hnone ps)⟩
      · intro fuel _
        rw [parseParts, hread]
      · constructor
        · exact fun h => absurd h (Option.some_ne_none err)
        · rintro ⟨ps, hps⟩
          exact absurd hps (hnone ps)
    | ok part =>
      have hs : Reads s part := readPart_ok_iff.mp hread
      have hpart : ∀ lo, part ≠ .range lo Int64.maxValue := by
        rintro lo rfl
        exact h (.here hs)
      obtain ⟨result, hresult, hok, hnumbers⟩ :=
        ih (fun hrest => h (.later hs hrest)) (numbers ++ part.numbers)
      refine ⟨result, ?_, ?_, ?_⟩
      · intro fuel hfuel
        rw [parseParts_cons hs, appendPart_eq hpart hfuel]
        exact hresult fuel hfuel
      · rw [hok]
        constructor
        · rintro ⟨ps, hps⟩
          exact ⟨part :: ps, .cons hs hps⟩
        · rintro ⟨_, _ | ⟨-, hps⟩⟩
          exact ⟨_, hps⟩
      · rintro _ (_ | ⟨hs', hps⟩)
        rw [hnumbers _ hps, hs.unique hs', List.flatMap_cons, List.append_assoc]

end Parts

/-- A call does what it is to do exactly if no range up to the largest `int64` comes before
every part that cannot be read. -/
theorem parses_right_iff (rangeStr : String) :
    ParsesRight rangeStr ↔ ¬ RunsAway (numRanges rangeStr) := by
  constructor
  · rintro ⟨result, ⟨n, hn⟩, -⟩ haway
    have hend := hn n (Nat.le_refl n)
    rw [parseRangeNumbers, haway.parseParts] at hend
    cases hend
  · intro h
    obtain ⟨result, hresult, hok, hnumbers⟩ := parseParts_spec h []
    refine ⟨result, ⟨enoughRounds, hresult⟩, ?_, ?_⟩
    · rw [hok]
      constructor
      · rintro ⟨ps, hps⟩
        exact ⟨_, ps, hps, rfl⟩
      · rintro ⟨_, ps, hps, -⟩
        exact ⟨ps, hps⟩
    · rintro _ ⟨ps, hps, rfl⟩
      rw [hnumbers ps hps, List.nil_append]

/-- A text for two numbers, and a call that does not end. -/
theorem parses_right_fails :
    let rangeStr := "9223372036854775806-9223372036854775807"
    Denotes rangeStr [9223372036854775806, 9223372036854775807] ∧
      (∀ fuel, parseRangeNumbers fuel rangeStr = none) ∧ ¬ ParsesRight rangeStr := by
  intro rangeStr
  have hparts : numRanges rangeStr = [rangeStr.toList] := by decide +kernel
  have hread : Reads rangeStr.toList (.range 9223372036854775806 Int64.maxValue) :=
    readPart_ok_iff.mp (by decide +kernel)
  have haway : ∀ fuel, parseRangeNumbers fuel rangeStr = none := by
    intro fuel
    rw [parseRangeNumbers, hparts, (RunsAway.here hread).parseParts]
  refine ⟨⟨[.range 9223372036854775806 Int64.maxValue], ?_, by decide +kernel⟩, haway, ?_⟩
  · rw [hparts]
    exact .cons hread .nil
  · rintro ⟨result, ⟨n, hn⟩, -⟩
    have hend := hn n (Nat.le_refl n)
    rw [haway] at hend
    cases hend

section Template

/-- The number ranges of a template: an error exactly for a text that denotes no numbers. -/
theorem parseNumberRange_spec {rangeStr : String} (h : ¬ RunsAway (numRanges rangeStr)) :
    ∃ result, (∀ fuel ≥ enoughRounds, parseNumberRange fuel rangeStr = some result) ∧
      ∀ numbers, result = .ok numbers ↔ Denotes rangeStr numbers := by
  obtain ⟨⟨numbers, err⟩, hresult, hok, hnumbers⟩ := parseParts_spec h []
  cases err with
  | some err =>
    refine ⟨.error err, ?_, ?_⟩
    · intro fuel hfuel
      rw [parseNumberRange, parseRangeNumbers, hresult fuel hfuel]
    · intro numbers
      constructor
      · simp
      · rintro ⟨ps, hps, -⟩
        exact absurd (hok.mpr ⟨ps, hps⟩) (Option.some_ne_none err)
  | none =>
    obtain ⟨ps, hps⟩ := hok.mp rfl
    refine ⟨.ok numbers, ?_, ?_⟩
    · intro fuel hfuel
      rw [parseNumberRange, parseRangeNumbers, hresult fuel hfuel]
    · intro numbers'
      constructor
      · rintro ⟨⟩
        exact ⟨ps, hps, hnumbers ps hps⟩
      · rintro ⟨ps', hps', rfl⟩
        exact congrArg Except.ok (hnumbers ps' hps')

theorem parseNumberRangePair_ok {fuel : Nat} {first second : String} {l l' : List Int64}
    (h : parseNumberRange fuel first = some (.ok l))
    (h' : parseNumberRange fuel second = some (.ok l')) :
    parseNumberRangePair fuel first second =
      if l.length ≠ l'.length then some (.error "first and second range numbers are not in pairs")
      else some (.ok (List.zipWith NumberPair.mk l l')) := by
  rw [parseNumberRangePair, h]
  dsimp only
  rw [h']

/-- Two ranges in parallel: an error exactly if one denotes no numbers or not as many as the
other. -/
theorem parseNumberRangePair_spec {first second : String} (h : ¬ RunsAway (numRanges first))
    (h' : ¬ RunsAway (numRanges second)) :
    ∃ result, (∀ fuel ≥ enoughRounds, parseNumberRangePair fuel first second = some result) ∧
      ∀ pairs, result = .ok pairs ↔ ∃ l l', Denotes first l ∧ Denotes second l' ∧
        l.length = l'.length ∧ pairs = List.zipWith NumberPair.mk l l' := by
  obtain ⟨r, hr, hok⟩ := parseNumberRange_spec h
  obtain ⟨r', hr', hok'⟩ := parseNumberRange_spec h'
  simp only [← hok, ← hok']
  cases r with
  | error err =>
    refine ⟨.error err, ?_, by simp⟩
    intro fuel hfuel
    rw [parseNumberRangePair, hr fuel hfuel]
  | ok l =>
    cases r' with
    | error err =>
      refine ⟨.error err, ?_, by simp⟩
      intro fuel hfuel
      rw [parseNumberRangePair, hr fuel hfuel]
      dsimp only
      rw [hr' fuel hfuel]
    | ok l' =>
      by_cases hlength : l.length = l'.length
      · refine ⟨.ok (List.zipWith NumberPair.mk l l'), ?_, by simp [hlength, eq_comm]⟩
        intro fuel hfuel
        rw [parseNumberRangePair_ok (hr fuel hfuel) (hr' fuel hfuel),
          if_neg (not_not.mpr hlength)]
      · refine ⟨.error "first and second range numbers are not in pairs", ?_, by simp [hlength]⟩
        intro fuel hfuel
        rw [parseNumberRangePair_ok (hr fuel hfuel) (hr' fuel hfuel), if_pos hlength]

end Template

end FrpXtcp.Util
