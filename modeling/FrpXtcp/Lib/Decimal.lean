import FrpXtcp.Lib.HostPort
import FrpXtcp.Lib.Word

/-!
# Decimal numbers of 64 bits

`strconv.ParseInt` in base 10 for 64 bits, and the texts it accepts: digits after an optional
sign, with a value that fits.
-/
namespace FrpXtcp.Lib

/-- `NumError.Error` for `ParseInt`. -/
def parseIntError (s why : String) : String := s!"strconv.ParseInt: parsing {quote s}: {why}"

/-- `strconv.ParseInt(s, 10, 64)` -/
def parseInt (s : String) : Except String Int64 :=
  let (neg, digits) := splitSign s.toList
  match parseUint digits with
  | .error why => .error (parseIntError s why)
  | .ok n =>
    if neg then
      if n ≤ 2 ^ 63 then .ok (Int64.ofInt (-n)) else .error (parseIntError s "value out of range")
    else if n < 2 ^ 63 then .ok (Int64.ofNat n)
    else .error (parseIntError s "value out of range")

/-- The value of digits that follow ones of value `n`. -/
def decimalFrom (n : Nat) (l : List Char) : Nat := l.foldl (fun n c => 10 * n + (c.toNat - 48)) n

structure Digits (l : List Char) : Prop where
  ne_nil : l ≠ []
  isDigit : ∀ c ∈ l, c.isDigit = true

/-- Digits after an optional sign, and their value. -/
inductive IsDecimal : List Char → Int → Prop
  | unsigned {l : List Char} : Digits l → IsDecimal l (decimalFrom 0 l)
  | plus {l : List Char} : Digits l → IsDecimal ('+' :: l) (decimalFrom 0 l)
  | minus {l : List Char} : Digits l → IsDecimal ('-' :: l) (-(decimalFrom 0 l))

theorem le_decimalFrom (n : Nat) (l : List Char) : n ≤ decimalFrom n l := by
  induction l generalizing n with
  | nil => exact Nat.le_refl n
  | cons c l ih =>
    have h := ih (10 * n + (c.toNat - 48))
    rw [decimalFrom, List.foldl_cons]
    rw [decimalFrom] at h
    omega

theorem parseDigits_ok_iff {n m : Nat} {l : List Char} (hn : n < 2 ^ 64) :
    parseDigits n l = .ok m ↔
      (∀ c ∈ l, c.isDigit = true) ∧ decimalFrom n l = m ∧ m < 2 ^ 64 := by
  induction l generalizing n with
  | nil =>
    simp only [parseDigits, Except.ok.injEq, List.not_mem_nil, false_implies, implies_true,
      true_and, decimalFrom, List.foldl_nil]
    constructor
    · rintro rfl
      exact ⟨rfl, hn⟩
    · exact fun h => h.1
  | cons c l ih =>
    rw [parseDigits]
    dsimp only
    by_cases hc : c.isDigit = true
    · rw [if_pos hc]
      by_cases hfits : 10 * n + (c.toNat - 48) < 2 ^ 64
      · rw [if_pos hfits, ih hfits, List.forall_mem_cons, decimalFrom, decimalFrom,
          List.foldl_cons]
        simp only [hc, true_and]
      · rw [if_neg hfits]
        constructor
        · simp
        · rintro ⟨-, rfl, hlt⟩
          have hle := le_decimalFrom (10 * n + (c.toNat - 48)) l
          rw [decimalFrom, List.foldl_cons, ← decimalFrom] at hlt
          omega
    · rw [if_neg hc]
      constructor
      · simp
      · exact fun h => absurd (h.1 c List.mem_cons_self) hc

theorem parseUint_ok_iff {n : Nat} {l : List Char} :
    parseUint l = .ok n ↔ Digits l ∧ decimalFrom 0 l = n ∧ n < 2 ^ 64 := by
  rw [parseUint]
  by_cases hl : l = []
  · rw [if_pos hl]
    constructor
    · simp
    · exact fun h => absurd hl h.1.ne_nil
  · rw [if_neg hl, parseDigits_ok_iff (by decide)]
    constructor
    · exact fun h => ⟨⟨hl, h.1⟩, h.2⟩
    · exact fun h => ⟨h.1.isDigit, h.2⟩

theorem Digits.head_ne {c d : Char} {l : List Char} (h : Digits (c :: l)) (hd : d.isDigit = false) :
    c ≠ d := by
  rintro rfl
  rw [h.isDigit c List.mem_cons_self] at hd
  cases hd

theorem splitSign_digits {l : List Char} (h : Digits l) : splitSign l = (false, l) := by
  cases l with
  | nil => rfl
  | cons c l =>
    have hminus := h.head_ne (d := '-') (by decide)
    have hplus := h.head_ne (d := '+') (by decide)
    unfold splitSign
    split
    · rename_i heq
      exact absurd (List.cons.inj heq).1 hminus
    · rename_i heq
      exact absurd (List.cons.inj heq).1 hplus
    · rfl

theorem isDecimal_iff {l : List Char} {x : Int} :
    IsDecimal l x ↔ Digits (splitSign l).2 ∧
      x = if (splitSign l).1 then -(decimalFrom 0 (splitSign l).2 : Int)
        else decimalFrom 0 (splitSign l).2 := by
  constructor
  · rintro (hl | hl | hl)
    · rw [splitSign_digits hl]
      exact ⟨hl, rfl⟩
    · exact ⟨hl, rfl⟩
    · exact ⟨hl, rfl⟩
  · rintro ⟨hl, rfl⟩
    unfold splitSign at hl ⊢
    split at hl
    · exact .minus hl
    · exact .plus hl
    · exact .unsigned hl

/-- A text is accepted exactly if it is a decimal number that fits. -/
theorem parseInt_ok_iff {s : String} {n : Int64} :
    parseInt s = .ok n ↔ IsDecimal s.toList n.toInt := by
  have hbounds := Word.bounds n
  rw [isDecimal_iff, parseInt]
  generalize splitSign s.toList = p
  obtain ⟨neg, digits⟩ := p
  dsimp only
  cases hu : parseUint digits with
  | error why =>
    -- digits are refused only for a value that no sign makes fit
    constructor
    · simp
    · rintro ⟨hdigits, hvalue⟩
      have hfits : decimalFrom 0 digits < 2 ^ 64 := by
        split at hvalue <;> omega
      rw [parseUint_ok_iff.mpr ⟨hdigits, rfl, hfits⟩] at hu
      cases hu
  | ok m =>
    obtain ⟨hdigits, hm, -⟩ := parseUint_ok_iff.mp hu
    rw [hm]
    simp only [hdigits, true_and]
    cases neg with
    | true =>
      simp only [if_true]
      by_cases hfits : m ≤ 2 ^ 63
      · rw [if_pos hfits, Except.ok.injEq, Word.ofInt_eq_iff (by omega)]
      · rw [if_neg hfits]
        constructor
        · simp
        · intro h
          omega
    | false =>
      simp only [Bool.false_eq_true, if_false]
      by_cases hfits : m < 2 ^ 63
      · rw [if_pos hfits, Except.ok.injEq, ← Int64.ofInt_eq_ofNat, Word.ofInt_eq_iff (by omega)]
      · rw [if_neg hfits]
        constructor
        · simp
        · intro h
          omega

end FrpXtcp.Lib
