import Mathlib.Algebra.Group.Nat.Defs
import Mathlib.Data.List.Induction
import Mathlib.Tactic.Common

/-!
# Big-endian numbers

A number of fixed width as bytes, most significant first, and back.
-/
namespace FrpXtcp.Lib.BigEndian

/-- The last `n` bytes of `x`. -/
def toBytes : Nat → Nat → List UInt8
  | 0, _ => []
  | n + 1, x => toBytes n (x / 256) ++ [UInt8.ofNat x]

def ofBytes (l : List UInt8) : Nat := l.foldl (fun acc b => acc * 256 + b.toNat) 0

@[simp] theorem length_toBytes (n x : Nat) : (toBytes n x).length = n := by
  induction n generalizing x with
  | zero => rfl
  | succ n ih => simp [toBytes, ih]

@[simp] theorem ofBytes_append_singleton (l : List UInt8) (b : UInt8) :
    ofBytes (l ++ [b]) = ofBytes l * 256 + b.toNat := by
  simp [ofBytes]

theorem ofBytes_lt (l : List UInt8) : ofBytes l < 256 ^ l.length := by
  induction l using List.reverseRecOn with
  | nil => simp [ofBytes]
  | append_singleton l b ih =>
    have hb : b.toNat < 256 := b.toNat_lt
    rw [ofBytes_append_singleton, List.length_append, List.length_singleton, Nat.pow_succ]
    omega

/-- Every byte string is the encoding of its number. -/
theorem toBytes_ofBytes (l : List UInt8) : toBytes l.length (ofBytes l) = l := by
  induction l using List.reverseRecOn with
  | nil => rfl
  | append_singleton l b ih =>
    have hb : b.toNat < 256 := b.toNat_lt
    have hdiv : (ofBytes l * 256 + b.toNat) / 256 = ofBytes l := by omega
    have hmod : UInt8.ofNat (ofBytes l * 256 + b.toNat) = b := by
      apply UInt8.toNat_inj.mp
      rw [UInt8.toNat_ofNat']
      omega
    rw [ofBytes_append_singleton, List.length_append, List.length_singleton, toBytes, hdiv, hmod,
      ih]

/-- A number that fits is read back from its bytes. -/
theorem ofBytes_toBytes {n x : Nat} (h : x < 256 ^ n) : ofBytes (toBytes n x) = x := by
  induction n generalizing x with
  | zero =>
    have hx : x = 0 := by simpa using h
    simp [hx, toBytes, ofBytes]
  | succ n ih =>
    have hdiv : x / 256 < 256 ^ n := by
      rw [Nat.pow_succ] at h
      exact Nat.div_lt_of_lt_mul (by omega)
    rw [toBytes, ofBytes_append_singleton, ih hdiv, UInt8.toNat_ofNat']
    omega

/-- Behind its length a byte string can be told from what follows. -/
theorem lengthPrefixed_inj {n : Nat} {p p' rest rest' : List UInt8} (hp : p.length < 256 ^ n)
    (hp' : p'.length < 256 ^ n)
    (h : toBytes n p.length ++ (p ++ rest) = toBytes n p'.length ++ (p' ++ rest')) :
    p = p' ∧ rest = rest' := by
  obtain ⟨hlength, hbody⟩ := List.append_inj h (by simp)
  have hlen : p.length = p'.length := by
    rw [← ofBytes_toBytes hp, ← ofBytes_toBytes hp', hlength]
  exact List.append_inj hbody hlen

/-- Both ways through a machine word of two bytes. -/
theorem ofBytes_uint16 (x : UInt16) : UInt16.ofNat (ofBytes (toBytes 2 x.toNat)) = x := by
  rw [ofBytes_toBytes (by simpa using x.toNat_lt), UInt16.ofNat_toNat]

theorem toBytes_uint16 {l : List UInt8} (h : l.length = 2) :
    toBytes 2 (UInt16.ofNat (ofBytes l)).toNat = l := by
  have hlt := ofBytes_lt l
  have he := toBytes_ofBytes l
  rw [h] at hlt he
  rw [UInt16.toNat_ofNat_of_lt' hlt, he]

end FrpXtcp.Lib.BigEndian
