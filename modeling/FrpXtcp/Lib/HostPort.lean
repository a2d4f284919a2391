import Mathlib.Algebra.Group.Nat.Defs
import Mathlib.Data.List.Basic
import Mathlib.Tactic.Common

/-!
# Addresses and decimal numbers as text

`net.SplitHostPort` and `strconv.Atoi` with the texts of their errors. The quoted input in
an error of `atoi` follows `strconv.Quote`, with every character from 0x80 on printable.
-/
namespace FrpXtcp.Lib

/-- `strings.LastIndexByte` on characters. -/
def lastIndexOf? (c : Char) (s : List Char) : Option Nat :=
  (s.reverse.idxOf? c).map fun k => s.length - 1 - k

/-- `AddrError.Error` -/
def addrError (addr why : String) : String :=
  if addr = "" then why else s!"address {addr}: {why}"

/-- The last part of `SplitHostPort`: `j` and `k` are the positions before which no
opening and no closing bracket can stand, and the last colon is at `i`. -/
def splitAt (addr : String) (host : List Char) (i j k : Nat) : Except String (String × String) :=
  let s := addr.toList
  if '[' ∈ s.drop j then .error (addrError addr "unexpected '[' in address")
  else if ']' ∈ s.drop k then .error (addrError addr "unexpected ']' in address")
  else .ok (String.ofList host, String.ofList (s.drop (i + 1)))

/-- `net.SplitHostPort` -/
def splitHostPort (addr : String) : Except String (String × String) :=
  let s := addr.toList
  match lastIndexOf? ':' s with
  | none => .error (addrError addr "missing port in address")
  | some i =>
    if s.head? = some '[' then
      match s.idxOf? ']' with
      | none => .error (addrError addr "missing ']' in address")
      | some close =>
        if close + 1 = s.length then .error (addrError addr "missing port in address")
        else if close + 1 = i then splitAt addr ((s.take close).drop 1) i 1 (close + 1)
        else if s[close + 1]? = some ':' then .error (addrError addr "too many colons in address")
        else .error (addrError addr "missing port in address")
    else if ':' ∈ s.take i then .error (addrError addr "too many colons in address")
    else splitAt addr (s.take i) i 0 0

theorem splitAt_ok {addr host' port : String} {host : List Char} {i j k : Nat}
    (h : splitAt addr host i j k = .ok (host', port)) :
    host'.toList = host ∧ '[' ∉ addr.toList.drop j ∧ ']' ∉ addr.toList.drop k := by
  unfold splitAt at h
  dsimp only at h
  split_ifs at h with hopen hclose
  cases h
  exact ⟨by simp, hopen, hclose⟩

/-- A host is free of brackets. -/
theorem splitHostPort_host {addr host port : String} (h : splitHostPort addr = .ok (host, port)) :
    '[' ∉ host.toList ∧ ']' ∉ host.toList := by
  unfold splitHostPort at h
  dsimp only at h
  split at h
  · cases h
  · split_ifs at h
    · split at h
      · cases h
      · rename_i close hclose
        split_ifs at h
        obtain ⟨hhost, hopen, -⟩ := splitAt_ok h
        rw [hhost]
        constructor
        · intro hmem
          rw [List.drop_take] at hmem
          exact hopen (List.mem_of_mem_take hmem)
        · intro hmem
          have hbefore := List.mem_of_mem_drop hmem
          obtain ⟨hlt, -, hfirst⟩ := List.idxOf?_eq_some_iff.mp hclose
          obtain ⟨m, hm, heq⟩ := List.getElem_of_mem hbefore
          rw [List.getElem_take] at heq
          have hm' : m < close := by
            rw [List.length_take] at hm
            omega
          exact hfirst m hm' (by simpa using heq)
    · obtain ⟨hhost, hopen, hclose⟩ := splitAt_ok h
      rw [hhost]
      exact ⟨fun hmem => hopen (List.mem_of_mem_take hmem),
        fun hmem => hclose (List.mem_of_mem_take hmem)⟩

theorem idxOf?_append_cons {c : Char} {l : List Char} (h : c ∉ l) (rest : List Char) :
    (l ++ c :: rest).idxOf? c = some l.length := by
  induction l with
  | nil => simp [List.idxOf?_cons]
  | cons a l ih =>
    rw [List.mem_cons, not_or] at h
    obtain ⟨hne, hl⟩ := h
    rw [List.cons_append, List.idxOf?_cons, ih hl]
    simp [Ne.symm hne]

/-- Every text without brackets is the host of an address. -/
theorem splitHostPort_bracketed (host port : String) (hopen : '[' ∉ host.toList)
    (hclose : ']' ∉ host.toList) (hport : ':' ∉ port.toList) (hport' : '[' ∉ port.toList)
    (hport'' : ']' ∉ port.toList) :
    splitHostPort ("[" ++ host ++ "]:" ++ port) = .ok (host, port) := by
  have hs : ("[" ++ host ++ "]:" ++ port).toList =
      '[' :: (host.toList ++ ']' :: ':' :: port.toList) := by simp
  have hlast : lastIndexOf? ':' ("[" ++ host ++ "]:" ++ port).toList =
      some (host.toList.length + 2) := by
    have hreverse : ("[" ++ host ++ "]:" ++ port).toList.reverse =
        port.toList.reverse ++ ':' :: ']' :: (host.toList.reverse ++ ['[']) := by
      rw [hs]
      simp
    rw [lastIndexOf?, hreverse, idxOf?_append_cons (by simpa using hport), hs]
    simp
    omega
  have hfirst : ("[" ++ host ++ "]:" ++ port).toList.idxOf? ']' =
      some (host.toList.length + 1) := by
    rw [hs, ← List.cons_append, idxOf?_append_cons (by simpa using hclose)]
    simp
  have hsplit : splitAt ("[" ++ host ++ "]:" ++ port) host.toList (host.toList.length + 2) 1
      (host.toList.length + 2) = .ok (host, port) := by
    have h1 : '[' ∉ ("[" ++ host ++ "]:" ++ port).toList.drop 1 := by
      rw [hs]
      simp [hopen, hport']
    have h2 : ("[" ++ host ++ "]:" ++ port).toList.drop (host.toList.length + 2) =
        ':' :: port.toList := by
      rw [hs, List.drop_succ_cons, List.drop_append]
      simp
    have h3 : ("[" ++ host ++ "]:" ++ port).toList.drop (host.toList.length + 2 + 1) =
        port.toList := by
      rw [← List.drop_drop, h2]
      rfl
    unfold splitAt
    dsimp only
    rw [if_neg h1, if_neg (by rw [h2]; simpa using hport''), h3]
    simp
  have hhost : (('[' :: (host.toList ++ ']' :: ':' :: port.toList)).take
      (host.toList.length + 1)).drop 1 = host.toList := by simp
  unfold splitHostPort
  dsimp only
  rw [hlast, hfirst, hs]
  simp only [List.head?_cons, if_true]
  rw [if_neg (by simp), hhost, hsplit]

def hexDigits : List Char := "0123456789abcdef".toList

def quoteChar (c : Char) : List Char :=
  if c = '"' ∨ c = '\\' then ['\\', c]
  else
    match c.toNat with
    | 7 => ['\\', 'a']
    | 8 => ['\\', 'b']
    | 9 => ['\\', 't']
    | 10 => ['\\', 'n']
    | 11 => ['\\', 'v']
    | 12 => ['\\', 'f']
    | 13 => ['\\', 'r']
    | n =>
      if n < 32 ∨ n = 127 then
        ['\\', 'x', hexDigits.getD (n / 16) '0', hexDigits.getD (n % 16) '0']
      else [c]

/-- `strconv.Quote`, for texts whose characters from `0x80` on are all printable; those that are
not it would escape as well. -/
def quote (s : String) : String := String.ofList ('"' :: s.toList.flatMap quoteChar ++ ['"'])

/-- `NumError.Error` for `Atoi`. -/
def numError (s why : String) : String := s!"strconv.Atoi: parsing {quote s}: {why}"

/-- The loop of `ParseUint` in base 10 for 64 bits. -/
def parseDigits (n : Nat) : List Char → Except String Nat
  | [] => .ok n
  | c :: l =>
    if c.isDigit then
      let m := 10 * n + (c.toNat - 48)
      if m < 2 ^ 64 then parseDigits m l else .error "value out of range"
    else .error "invalid syntax"

/-- `ParseUint` refuses the empty string. -/
def parseUint (l : List Char) : Except String Nat :=
  if l = [] then .error "invalid syntax" else parseDigits 0 l

/-- The optional sign and the characters after it. -/
def splitSign : List Char → Bool × List Char
  | '-' :: l => (true, l)
  | '+' :: l => (false, l)
  | l => (false, l)

/-- `strconv.Atoi` with a 64-bit `int`. -/
def atoi (s : String) : Except String Int64 :=
  let (neg, digits) := splitSign s.toList
  match parseUint digits with
  | .error why => .error (numError s why)
  | .ok n =>
    if neg then
      if n ≤ 2 ^ 63 then .ok (Int64.ofInt (-n)) else .error (numError s "value out of range")
    else if n < 2 ^ 63 then .ok (Int64.ofNat n)
    else .error (numError s "value out of range")

end FrpXtcp.Lib
