import Mathlib.Data.List.Perm.Basic
import Mathlib.Data.List.TakeWhile
import FrpXtcp.Lib.Word
import FrpXtcp.Nathole.Classify

/-!
# What a NAT feature says about the addresses

`ClassifyNATFeature` compares every address with a base, and takes an empty `baseIP` for a
base not yet chosen. An address with an empty host therefore never becomes the base: all
addresses before the first one with a host are left out of the comparison. The specification
speaks about all pairs of addresses; `Comparable` says when the two agree.
-/
namespace FrpXtcp.Nathole

open FrpXtcp.Lib

/-- What `SplitHostPort` and `Atoi` make of an address. -/
structure Endpoint where
  host : String
  port : String
  portNum : Int64
  deriving DecidableEq

def endpoint (addr : String) : Except String Endpoint := do
  let (host, port) ← splitHostPort addr
  let portNum ← atoi port
  return ⟨host, port, portNum⟩

theorem endpoint_ok_iff {addr : String} {e : Endpoint} :
    endpoint addr = .ok e ↔
      splitHostPort addr = .ok (e.host, e.port) ∧ atoi e.port = .ok e.portNum := by
  unfold endpoint
  cases hs : splitHostPort addr with
  | error why => simp [bind, Except.bind]
  | ok hp =>
    obtain ⟨host, port⟩ := hp
    cases ha : atoi port with
    | error why =>
      simp only [ha, bind, Except.bind, reduceCtorEq, Except.ok.injEq, Prod.mk.injEq, false_iff,
        not_and, and_imp]
      rintro rfl rfl
      simp [ha]
    | ok n =>
      obtain ⟨h, p, m⟩ := e
      simp only [ha, bind, Except.bind, pure, Except.pure, Except.ok.injEq, Endpoint.mk.injEq,
        Prod.mk.injEq]
      constructor
      · rintro ⟨rfl, rfl, rfl⟩
        exact ⟨⟨rfl, rfl⟩, ha⟩
      · rintro ⟨⟨rfl, rfl⟩, hm⟩
        exact ⟨rfl, rfl, Except.ok.inj (ha.symm.trans hm)⟩

/-- Two of the addresses have different hosts. -/
def HostsDiffer (l : List Endpoint) : Prop := ∃ a ∈ l, ∃ b ∈ l, a.host ≠ b.host

/-- Two of the addresses have different port strings. -/
def PortsDiffer (l : List Endpoint) : Prop := ∃ a ∈ l, ∃ b ∈ l, a.port ≠ b.port

instance (l : List Endpoint) : Decidable (HostsDiffer l) :=
  inferInstanceAs (Decidable (∃ a ∈ l, ∃ b ∈ l, a.host ≠ b.host))

instance (l : List Endpoint) : Decidable (PortsDiffer l) :=
  inferInstanceAs (Decidable (∃ a ∈ l, ∃ b ∈ l, a.port ≠ b.port))

/-- `d` is the largest port number minus the smallest. -/
def IsSpread (l : List Endpoint) (d : Int) : Prop :=
  ∃ a ∈ l, ∃ b ∈ l, d = a.portNum.toInt - b.portNum.toInt ∧
    ∀ e ∈ l, b.portNum.toInt ≤ e.portNum.toInt ∧ e.portNum.toInt ≤ a.portNum.toInt

/-- The specification of `ClassifyNATFeature`. -/
structure Classified (l : List Endpoint) (localIPs : List String) (f : NatFeature) : Prop where
  bothChanged : f.behavior = .bothChanged ↔ HostsDiffer l ∧ PortsDiffer l
  ipChanged : f.behavior = .ipChanged ↔ HostsDiffer l ∧ ¬ PortsDiffer l
  portChanged : f.behavior = .portChanged ↔ ¬ HostsDiffer l ∧ PortsDiffer l
  noChange : f.behavior = .noChange ↔ ¬ HostsDiffer l ∧ ¬ PortsDiffer l
  easyNAT : f.natType = .easyNAT ↔ f.behavior = .noChange
  difference : f.behavior = .portChanged → ∃ d, IsSpread l d ∧ f.portsDifference.toInt = d ∧
    (f.regularPortsChange = true ↔ 1 ≤ d ∧ d ≤ 5)
  otherwise : f.behavior ≠ .portChanged → f.portsDifference = 0 ∧ f.regularPortsChange = false
  publicNetwork : f.publicNetwork = true ↔ ∃ e ∈ l, e.host ∈ localIPs

/-- The addresses before the first one with a host. -/
def skipped (l : List Endpoint) : List Endpoint := l.takeWhile fun e => e.host = ""

/-- The addresses that the loop compares. -/
def compared (l : List Endpoint) : List Endpoint := l.dropWhile fun e => e.host = ""

/-- The addresses left out of the comparison make no difference to it, and a difference of
ports fits in an `int`. -/
structure Comparable (l : List Endpoint) : Prop where
  hosts : HostsDiffer l → HostsDiffer (compared l)
  ports : PortsDiffer l → PortsDiffer (compared l)
  fits : ¬ HostsDiffer l → PortsDiffer l → ∀ d, IsSpread l d → d < 2 ^ 63

theorem skipped_append_compared (l : List Endpoint) : skipped l ++ compared l = l :=
  List.takeWhile_append_dropWhile

theorem host_of_mem_skipped {l : List Endpoint} {e : Endpoint} (h : e ∈ skipped l) :
    e.host = "" := by
  simpa using List.mem_takeWhile_imp h

theorem host_of_compared {l rest : List Endpoint} {b : Endpoint} (h : compared l = b :: rest) :
    b.host ≠ "" := by
  have hne : compared l ≠ [] := by simp [h]
  have hnot := List.head_dropWhile_not (fun e : Endpoint => decide (e.host = "")) hne
  simpa [show l.dropWhile _ = b :: rest from h] using hnot

theorem mem_of_mem_compared {l : List Endpoint} {e : Endpoint} (h : e ∈ compared l) : e ∈ l :=
  (List.dropWhile_sublist _).mem h

section Order

variable {l l' : List Endpoint}

theorem hostsDiffer_perm (h : l'.Perm l) : HostsDiffer l' ↔ HostsDiffer l := by
  simp only [HostsDiffer, h.mem_iff]

theorem portsDiffer_perm (h : l'.Perm l) : PortsDiffer l' ↔ PortsDiffer l := by
  simp only [PortsDiffer, h.mem_iff]

theorem isSpread_perm (h : l'.Perm l) (d : Int) : IsSpread l' d ↔ IsSpread l d := by
  simp only [IsSpread, h.mem_iff]

theorem IsSpread.unique {d d' : Int} (h : IsSpread l d) (h' : IsSpread l d') : d = d' := by
  obtain ⟨a, ha, b, hb, rfl, hall⟩ := h
  obtain ⟨a', ha', b', hb', rfl, hall'⟩ := h'
  have h1 := hall a' ha'
  have h2 := hall b' hb'
  have h3 := hall' a ha
  have h4 := hall' b hb
  omega

/-- The specification does not look at the order of the addresses. -/
theorem Classified.perm {localIPs : List String} {f : NatFeature} (hp : l'.Perm l)
    (h : Classified l localIPs f) : Classified l' localIPs f := by
  constructor
  · rw [hostsDiffer_perm hp, portsDiffer_perm hp]
    exact h.bothChanged
  · rw [hostsDiffer_perm hp, portsDiffer_perm hp]
    exact h.ipChanged
  · rw [hostsDiffer_perm hp, portsDiffer_perm hp]
    exact h.portChanged
  · rw [hostsDiffer_perm hp, portsDiffer_perm hp]
    exact h.noChange
  · exact h.easyNAT
  · simp only [isSpread_perm hp]
    exact h.difference
  · exact h.otherwise
  · simp only [hp.mem_iff]
    exact h.publicNetwork

theorem Classified.behavior_eq {localIPs : List String} {f f' : NatFeature}
    (h : Classified l localIPs f) (h' : Classified l localIPs f') : f.behavior = f'.behavior := by
  by_cases hh : HostsDiffer l
  · by_cases hp : PortsDiffer l
    · rw [h.bothChanged.mpr ⟨hh, hp⟩, h'.bothChanged.mpr ⟨hh, hp⟩]
    · rw [h.ipChanged.mpr ⟨hh, hp⟩, h'.ipChanged.mpr ⟨hh, hp⟩]
  · by_cases hp : PortsDiffer l
    · rw [h.portChanged.mpr ⟨hh, hp⟩, h'.portChanged.mpr ⟨hh, hp⟩]
    · rw [h.noChange.mpr ⟨hh, hp⟩, h'.noChange.mpr ⟨hh, hp⟩]

/-- It leaves one feature. -/
theorem Classified.unique {localIPs : List String} {f f' : NatFeature}
    (h : Classified l localIPs f) (h' : Classified l localIPs f') : f = f' := by
  have hbehavior := h.behavior_eq h'
  have htype : f.natType = f'.natType := by
    have heasy := h.easyNAT
    rw [hbehavior, ← h'.easyNAT] at heasy
    revert heasy
    cases f.natType <;> cases f'.natType <;> simp
  have hpublic : f.publicNetwork = f'.publicNetwork :=
    Bool.eq_iff_iff.mpr (h.publicNetwork.trans h'.publicNetwork.symm)
  have hports : f.portsDifference = f'.portsDifference ∧
      f.regularPortsChange = f'.regularPortsChange := by
    by_cases hc : f.behavior = .portChanged
    · obtain ⟨d, hd, heq, hreg⟩ := h.difference hc
      obtain ⟨d', hd', heq', hreg'⟩ := h'.difference (hbehavior ▸ hc)
      obtain rfl := hd.unique hd'
      exact ⟨Int64.toInt_inj.mp (heq.trans heq'.symm), Bool.eq_iff_iff.mpr (hreg.trans hreg'.symm)⟩
    · obtain ⟨h1, h2⟩ := h.otherwise hc
      obtain ⟨h1', h2'⟩ := h'.otherwise (hbehavior ▸ hc)
      exact ⟨h1.trans h1'.symm, h2.trans h2'.symm⟩
  cases f
  cases f'
  simp_all

end Order

section Loop

variable {localIPs : List String}

/-- One turn of the loop on an address that has been taken apart. -/
def Scan.visit (localIPs : List String) (s : Scan) (e : Endpoint) : Scan :=
  let publicNetwork := s.publicNetwork || localIPs.contains e.host
  if s.baseIP = "" then
    { s with
      baseIP := e.host, basePort := e.port, portMax := e.portNum, portMin := e.portNum
      publicNetwork := publicNetwork }
  else
    { s with
      portMax := max s.portMax e.portNum
      portMin := min s.portMin e.portNum
      ipChanged := s.ipChanged || s.baseIP != e.host
      portChanged := s.portChanged || s.basePort != e.port
      publicNetwork := publicNetwork }

theorem Scan.addr_eq (s : Scan) (addr : String) :
    s.addr localIPs addr = (endpoint addr).map (s.visit localIPs) := by
  unfold Scan.addr endpoint
  cases splitHostPort addr with
  | error why => rfl
  | ok hp =>
    obtain ⟨host, port⟩ := hp
    cases ha : atoi port with
    | error why => simp [ha, bind, Except.bind, Except.map]
    | ok n =>
      simp only [ha, bind, Except.bind, pure, Except.pure, Except.map, Scan.visit]
      split <;> rfl

/-- The addresses are taken apart into `l`. -/
def Parsed (addresses : List String) (l : List Endpoint) : Prop :=
  List.Forall₂ (fun addr e => endpoint addr = .ok e) addresses l

theorem foldlM_addr {addresses : List String} {l : List Endpoint} (h : Parsed addresses l)
    (s : Scan) :
    addresses.foldlM (Scan.addr localIPs) s = .ok (l.foldl (Scan.visit localIPs) s) := by
  induction h generalizing s with
  | nil => rfl
  | cons he _ ih =>
    rw [List.foldlM_cons, Scan.addr_eq, he, List.foldl_cons]
    exact ih _

/-- The loop ends only if every address could be taken apart. -/
theorem parsed_of_foldlM {addresses : List String} {s t : Scan}
    (h : addresses.foldlM (Scan.addr localIPs) s = .ok t) : ∃ l, Parsed addresses l := by
  induction addresses generalizing s with
  | nil => exact ⟨[], .nil⟩
  | cons addr addresses ih =>
    rw [List.foldlM_cons, Scan.addr_eq] at h
    cases he : endpoint addr with
    | error why =>
      rw [he] at h
      cases h
    | ok e =>
      rw [he] at h
      obtain ⟨l, hl⟩ := ih h
      exact ⟨e :: l, .cons he hl⟩

theorem foldl_publicNetwork (l : List Endpoint) (s : Scan) :
    (l.foldl (Scan.visit localIPs) s).publicNetwork = true ↔
      s.publicNetwork = true ∨ ∃ e ∈ l, e.host ∈ localIPs := by
  induction l generalizing s with
  | nil => simp
  | cons e l ih =>
    have hvisit : (s.visit localIPs e).publicNetwork = true ↔
        s.publicNetwork = true ∨ e.host ∈ localIPs := by
      unfold Scan.visit
      split <;> simp
    rw [List.foldl_cons, ih, hvisit, or_assoc]
    simp

/-- Addresses without a host leave the base unset. -/
theorem foldl_skipped (localIPs : List String) {l : List Endpoint}
    (hl : ∀ e ∈ l, e.host = "") {s : Scan} (hs : s.baseIP = "") :
    (l.foldl (Scan.visit localIPs) s).baseIP = "" ∧
      (l.foldl (Scan.visit localIPs) s).ipChanged = s.ipChanged ∧
      (l.foldl (Scan.visit localIPs) s).portChanged = s.portChanged := by
  induction l generalizing s with
  | nil => exact ⟨hs, rfl, rfl⟩
  | cons e l ih =>
    have hbase : (s.visit localIPs e).baseIP = "" := by
      simp [Scan.visit, hs, hl e List.mem_cons_self]
    have h := ih (fun e' he' => hl e' (List.mem_cons_of_mem _ he')) hbase
    rw [List.foldl_cons]
    simpa [Scan.visit, hs] using h

/-- What the turns on `l` make of a state `s` with a base. -/
structure Against (s : Scan) (l : List Endpoint) (t : Scan) : Prop where
  ip : t.ipChanged = true ↔ s.ipChanged = true ∨ ∃ e ∈ l, s.baseIP ≠ e.host
  port : t.portChanged = true ↔ s.portChanged = true ∨ ∃ e ∈ l, s.basePort ≠ e.port
  max_mem : t.portMax = s.portMax ∨ ∃ e ∈ l, t.portMax = e.portNum
  min_mem : t.portMin = s.portMin ∨ ∃ e ∈ l, t.portMin = e.portNum
  le_max : s.portMax.toInt ≤ t.portMax.toInt ∧ ∀ e ∈ l, e.portNum.toInt ≤ t.portMax.toInt
  min_le : t.portMin.toInt ≤ s.portMin.toInt ∧ ∀ e ∈ l, t.portMin.toInt ≤ e.portNum.toInt

theorem foldl_against (localIPs : List String) {s : Scan} (hs : s.baseIP ≠ "") (l : List Endpoint) :
    Against s l (l.foldl (Scan.visit localIPs) s) := by
  induction l generalizing s with
  | nil => exact ⟨by simp, by simp, by simp, by simp, by simp, by simp⟩
  | cons e l ih =>
    have h := ih (s := s.visit localIPs e) (by simp [Scan.visit, hs])
    generalize ht : l.foldl (Scan.visit localIPs) (s.visit localIPs e) = t at h
    simp only [Scan.visit, hs, if_false] at h
    rw [List.foldl_cons, ht]
    obtain ⟨hip, hport, hmax, hmin, hlemax, hminle⟩ := h
    rw [Word.toInt_max] at hlemax
    rw [Word.toInt_min] at hminle
    constructor
    · rw [hip]
      simp [or_assoc]
    · rw [hport]
      simp [or_assoc]
    · rcases hmax with hmax | ⟨e', he', hmax⟩
      · rcases Word.max_eq_or s.portMax e.portNum with heq | heq
        · exact Or.inl (hmax.trans heq)
        · exact Or.inr ⟨e, List.mem_cons_self, hmax.trans heq⟩
      · exact Or.inr ⟨e', List.mem_cons_of_mem _ he', hmax⟩
    · rcases hmin with hmin | ⟨e', he', hmin⟩
      · rcases Word.min_eq_or s.portMin e.portNum with heq | heq
        · exact Or.inl (hmin.trans heq)
        · exact Or.inr ⟨e, List.mem_cons_self, hmin.trans heq⟩
      · exact Or.inr ⟨e', List.mem_cons_of_mem _ he', hmin⟩
    · refine ⟨by omega, ?_⟩
      intro e' he'
      rcases List.mem_cons.mp he' with rfl | he'
      · omega
      · exact hlemax.2 e' he'
    · refine ⟨by omega, ?_⟩
      intro e' he'
      rcases List.mem_cons.mp he' with rfl | he'
      · omega
      · exact hminle.2 e' he'

/-- The variables after the loop, in terms of the addresses that it compares. -/
structure Scanned (localIPs : List String) (l : List Endpoint) (s : Scan) : Prop where
  ip : s.ipChanged = true ↔ HostsDiffer (compared l)
  port : s.portChanged = true ↔ PortsDiffer (compared l)
  spread : compared l ≠ [] → IsSpread (compared l) (s.portMax.toInt - s.portMin.toInt)
  publicNetwork : s.publicNetwork = true ↔ ∃ e ∈ l, e.host ∈ localIPs

/-- Whether two entries differ can be seen by comparing all with one of them. -/
theorem differ_cons_iff {α : Type} (f : Endpoint → α) (b : Endpoint) (rest : List Endpoint) :
    (∃ x ∈ b :: rest, ∃ y ∈ b :: rest, f x ≠ f y) ↔ ∃ e ∈ rest, f b ≠ f e := by
  constructor
  · rintro ⟨x, hx, y, hy, hne⟩
    by_contra hnone
    push Not at hnone
    have heq : ∀ z ∈ b :: rest, f z = f b := by
      intro z hz
      rcases List.mem_cons.mp hz with rfl | hz
      · rfl
      · exact (hnone z hz).symm
    exact hne ((heq x hx).trans (heq y hy).symm)
  · rintro ⟨e, he, hne⟩
    exact ⟨b, List.mem_cons_self, e, List.mem_cons_of_mem _ he, hne⟩

theorem scanned_foldl (localIPs : List String) (l : List Endpoint) :
    Scanned localIPs l (l.foldl (Scan.visit localIPs) {}) := by
  have hpublic : (l.foldl (Scan.visit localIPs) {}).publicNetwork = true ↔
      ∃ e ∈ l, e.host ∈ localIPs := by
    rw [foldl_publicNetwork]
    simp
  obtain ⟨hbase, hip, hport⟩ := foldl_skipped localIPs (s := {})
    (fun e he => host_of_mem_skipped (l := l) he) rfl
  -- the loop passes the addresses without a host, and takes the next one as its base
  have hsplit : l.foldl (Scan.visit localIPs) {} =
      (compared l).foldl (Scan.visit localIPs) ((skipped l).foldl (Scan.visit localIPs) {}) := by
    rw [← List.foldl_append, skipped_append_compared]
  generalize (skipped l).foldl (Scan.visit localIPs) {} = s at hbase hip hport hsplit
  cases hc : compared l with
  | nil =>
    rw [hc, List.foldl_nil] at hsplit
    refine ⟨?_, ?_, fun h => absurd hc h, hpublic⟩
    · rw [hsplit, hip, hc]
      simp [HostsDiffer]
    · rw [hsplit, hport, hc]
      simp [PortsDiffer]
  | cons b rest =>
    have hb := host_of_compared hc
    have hvisit : (s.visit localIPs b).baseIP = b.host ∧ (s.visit localIPs b).basePort = b.port ∧
        (s.visit localIPs b).portMax = b.portNum ∧ (s.visit localIPs b).portMin = b.portNum ∧
        (s.visit localIPs b).ipChanged = false ∧ (s.visit localIPs b).portChanged = false := by
      simp [Scan.visit, hbase, hip, hport]
    obtain ⟨hIP, hPort, hMax, hMin, hipC, hportC⟩ := hvisit
    have h := foldl_against localIPs (s := s.visit localIPs b) (by rwa [hIP]) rest
    rw [hc, List.foldl_cons] at hsplit
    rw [← hsplit] at h
    refine ⟨?_, ?_, fun _ => ?_, hpublic⟩
    · rw [h.ip, hipC, hIP, hc, HostsDiffer, differ_cons_iff Endpoint.host]
      simp
    · rw [h.port, hportC, hPort, hc, PortsDiffer, differ_cons_iff Endpoint.port]
      simp
    · have hmax : ∃ a ∈ b :: rest, (l.foldl (Scan.visit localIPs) {}).portMax = a.portNum := by
        rcases h.max_mem with hm | ⟨e, he, hm⟩
        · exact ⟨b, List.mem_cons_self, hm.trans hMax⟩
        · exact ⟨e, List.mem_cons_of_mem _ he, hm⟩
      have hmin : ∃ a ∈ b :: rest, (l.foldl (Scan.visit localIPs) {}).portMin = a.portNum := by
        rcases h.min_mem with hm | ⟨e, he, hm⟩
        · exact ⟨b, List.mem_cons_self, hm.trans hMin⟩
        · exact ⟨e, List.mem_cons_of_mem _ he, hm⟩
      obtain ⟨a, ha, hmax⟩ := hmax
      obtain ⟨a', ha', hmin⟩ := hmin
      have hlemax := h.le_max
      have hminle := h.min_le
      rw [hMax, hmax] at hlemax
      rw [hMin, hmin] at hminle
      rw [hc, hmax, hmin]
      refine ⟨a, ha, a', ha', rfl, ?_⟩
      intro e he
      rcases List.mem_cons.mp he with rfl | he
      · exact ⟨hminle.1, hlemax.1⟩
      · exact ⟨hminle.2 e he, hlemax.2 e he⟩

end Loop

theorem Parsed.map_eq {addresses : List String} {l : List Endpoint} (h : Parsed addresses l) :
    addresses.map endpoint = l.map Except.ok := by
  induction h with
  | nil => rfl
  | cons he _ ih => rw [List.map_cons, List.map_cons, he, ih]

/-- Addresses in another order are taken apart into the same parts in another order. -/
theorem Parsed.perm {addresses addresses' : List String} {l l' : List Endpoint}
    (hp : addresses'.Perm addresses) (h' : Parsed addresses' l') (h : Parsed addresses l) :
    l'.Perm l := by
  have hmap := hp.map endpoint
  rw [h'.map_eq, h.map_eq] at hmap
  exact (List.map_perm_map_iff fun _ _ => Except.ok.inj).mp hmap

theorem classifyNATFeature_eq {addresses localIPs : List String} {l : List Endpoint}
    (hlen : 2 ≤ addresses.length) (hl : Parsed addresses l) :
    classifyNATFeature addresses localIPs =
      .ok (l.foldl (Scan.visit localIPs) {}).feature := by
  unfold classifyNATFeature
  rw [if_neg (by omega), foldlM_addr hl]
  rfl

theorem parsed_of_classify {addresses localIPs : List String} {f : NatFeature}
    (h : classifyNATFeature addresses localIPs = .ok f) :
    2 ≤ addresses.length ∧ ∃ l, Parsed addresses l := by
  unfold classifyNATFeature at h
  split at h
  · cases h
  · refine ⟨by omega, ?_⟩
    cases hs : addresses.foldlM (Scan.addr localIPs) {} with
    | error why =>
      rw [hs] at h
      cases h
    | ok s => exact parsed_of_foldlM hs

/-- If all hosts are equal, the loop compares all addresses or none. -/
theorem compared_eq_self {l : List Endpoint} (h : ¬ HostsDiffer l) (hc : compared l ≠ []) :
    compared l = l := by
  have hskip : skipped l = [] := by
    apply List.eq_nil_iff_forall_not_mem.mpr
    intro e he
    cases hb : compared l with
    | nil => exact hc hb
    | cons b rest =>
      apply h
      refine ⟨b, mem_of_mem_compared (hb ▸ List.mem_cons_self), e, ?_, ?_⟩
      · rw [← skipped_append_compared l]
        exact List.mem_append_left _ he
      · rw [host_of_mem_skipped he]
        exact host_of_compared hb
  have hall := skipped_append_compared l
  rwa [hskip, List.nil_append] at hall

theorem PortsDiffer.ne_nil {l : List Endpoint} (h : PortsDiffer l) : l ≠ [] := by
  obtain ⟨a, ha, -⟩ := h
  exact List.ne_nil_of_mem ha

section Agreement

variable {localIPs : List String} {l : List Endpoint} {s : Scan}

/-- The flags mean what the specification says, where the comparison is not misled. -/
theorem Scanned.flags (h : Scanned localIPs l s) (hc : Comparable l) :
    (s.ipChanged = true ↔ HostsDiffer l) ∧ (s.portChanged = true ↔ PortsDiffer l) := by
  have hhosts : HostsDiffer (compared l) → HostsDiffer l := by
    rintro ⟨a, ha, b, hb, hne⟩
    exact ⟨a, mem_of_mem_compared ha, b, mem_of_mem_compared hb, hne⟩
  have hports : PortsDiffer (compared l) → PortsDiffer l := by
    rintro ⟨a, ha, b, hb, hne⟩
    exact ⟨a, mem_of_mem_compared ha, b, mem_of_mem_compared hb, hne⟩
  exact ⟨h.ip.trans ⟨hhosts, hc.hosts⟩, h.port.trans ⟨hports, hc.ports⟩⟩

theorem Scanned.spread_self (h : Scanned localIPs l s) (hh : ¬ HostsDiffer l)
    (hp : PortsDiffer (compared l)) : IsSpread l (s.portMax.toInt - s.portMin.toInt) := by
  have hspread := h.spread hp.ne_nil
  rwa [compared_eq_self hh hp.ne_nil] at hspread

theorem IsSpread.nonneg {d : Int} (h : IsSpread l d) : 0 ≤ d := by
  obtain ⟨a, ha, b, -, rfl, hall⟩ := h
  have := hall a ha
  omega

/-- The test for a regular change, on the integers. -/
theorem regular_iff {d : Int64} {x : Int} (h : d.toInt = x) :
    (decide (d ≤ 5) && decide (1 ≤ d)) = true ↔ 1 ≤ x ∧ x ≤ 5 := by
  rw [Bool.and_eq_true, decide_eq_true_eq, decide_eq_true_eq, Int64.le_iff_toInt_le,
    Int64.le_iff_toInt_le, h]
  exact and_comm

theorem Scanned.classified (h : Scanned localIPs l s) (hc : Comparable l) :
    Classified l localIPs s.feature := by
  obtain ⟨hip, hport⟩ := h.flags hc
  have hpublic := h.publicNetwork
  cases hi : s.ipChanged <;> cases hp : s.portChanged
  all_goals
    rw [hi] at hip
    rw [hp] at hport
    simp only [Bool.false_eq_true, false_iff, true_iff] at hip hport
  · constructor <;> simp [Scan.feature, hi, hp, hip, hport, hpublic]
  · have hspread := h.spread_self hip (h.port.mp hp)
    have hfits := hc.fits hip hport _ hspread
    have hexact : (s.portMax - s.portMin).toInt = s.portMax.toInt - s.portMin.toInt := by
      have := hspread.nonneg
      exact (Word.toInt_sub_eq_iff _ _).mpr (by omega)
    constructor
    case difference =>
      intro _
      refine ⟨_, hspread, ?_, ?_⟩
      · simpa [Scan.feature, hi, hp] using hexact
      · simpa [Scan.feature, hi, hp] using regular_iff hexact
    all_goals simp [Scan.feature, hi, hp, hip, hport, hpublic]
  · constructor <;> simp [Scan.feature, hi, hp, hip, hport, hpublic]
  · constructor <;> simp [Scan.feature, hi, hp, hip, hport, hpublic]

theorem Scanned.comparable (h : Scanned localIPs l s) (hf : Classified l localIPs s.feature) :
    Comparable l := by
  constructor
  · intro hh
    rw [← h.ip]
    by_cases hp : PortsDiffer l
    · have hb := hf.bothChanged.mpr ⟨hh, hp⟩
      revert hb
      cases hi : s.ipChanged <;> cases hc : s.portChanged <;> simp [Scan.feature, hi, hc]
    · have hb := hf.ipChanged.mpr ⟨hh, hp⟩
      revert hb
      cases hi : s.ipChanged <;> cases hc : s.portChanged <;> simp [Scan.feature, hi, hc]
  · intro hp
    rw [← h.port]
    by_cases hh : HostsDiffer l
    · have hb := hf.bothChanged.mpr ⟨hh, hp⟩
      revert hb
      cases hi : s.ipChanged <;> cases hc : s.portChanged <;> simp [Scan.feature, hi, hc]
    · have hb := hf.portChanged.mpr ⟨hh, hp⟩
      revert hb
      cases hi : s.ipChanged <;> cases hc : s.portChanged <;> simp [Scan.feature, hi, hc]
  · intro hh hp d hd
    obtain ⟨d', hd', heq, -⟩ := hf.difference (hf.portChanged.mpr ⟨hh, hp⟩)
    rw [hd.unique hd', ← heq]
    exact (Word.bounds _).2

end Agreement

/-- `ClassifyNATFeature` answers every list of addresses that can be taken apart. Its answer
meets the specification exactly when the addresses before the first one with a host make no
difference to the comparison and the spread of the ports fits in an `int`; and then no order of
the same addresses for which this holds gets another answer. -/
theorem classification_meets_spec_iff (addresses localIPs : List String) (l : List Endpoint)
    (hlen : 2 ≤ addresses.length) (hl : Parsed addresses l) :
    ∃ f, classifyNATFeature addresses localIPs = .ok f ∧
      (Classified l localIPs f ↔ Comparable l) ∧
      (Comparable l → ∀ addresses' l', addresses'.Perm addresses → Parsed addresses' l' →
        Comparable l' → classifyNATFeature addresses' localIPs = .ok f) := by
  have hscan := scanned_foldl localIPs l
  refine ⟨_, classifyNATFeature_eq hlen hl, ⟨hscan.comparable, hscan.classified⟩, ?_⟩
  intro hc addresses' l' hperm hl' hc'
  have hpl : l'.Perm l := Parsed.perm hperm hl' hl
  have h := (hscan.classified hc).perm hpl
  have h' := (scanned_foldl localIPs l').classified hc'
  rw [classifyNATFeature_eq (by rwa [hperm.length_eq]) hl', h'.unique h]

/-- Addresses as NATs produce them are compared rightly: they have hosts, and no port is
negative. -/
theorem comparable_of_hosts {l : List Endpoint} (hhosts : ∀ e ∈ l, e.host ≠ "")
    (hports : ∀ e ∈ l, 0 ≤ e.portNum.toInt) : Comparable l := by
  have hself : compared l = l := by
    cases l with
    | nil => rfl
    | cons e l =>
      unfold compared
      rw [List.dropWhile_cons_of_neg (by simpa using hhosts e List.mem_cons_self)]
  constructor
  · rw [hself]
    exact id
  · rw [hself]
    exact id
  · rintro - - d ⟨a, -, b, hb, rfl, -⟩
    have ha := (Word.bounds a.portNum).2
    have hb := hports b hb
    omega

theorem classification_meets_spec_iff_regular :
    ∃ f, classifyNATFeature ["1.2.3.4:80", "1.2.3.4:83"] ["10.0.0.1"] = .ok f ∧
      Classified [⟨"1.2.3.4", "80", 80⟩, ⟨"1.2.3.4", "83", 83⟩] ["10.0.0.1"] f ∧
      f.regularPortsChange = true := by
  have hparsed : Parsed ["1.2.3.4:80", "1.2.3.4:83"]
      [⟨"1.2.3.4", "80", 80⟩, ⟨"1.2.3.4", "83", 83⟩] :=
    .cons (by decide +kernel) (.cons (by decide +kernel) .nil)
  obtain ⟨f, hf, hiff, -⟩ := classification_meets_spec_iff _ ["10.0.0.1"] _ (by decide) hparsed
  have hclassified := hiff.mpr (comparable_of_hosts (by decide) (by decide))
  refine ⟨f, hf, hclassified, ?_⟩
  rw [classifyNATFeature_eq (by decide) hparsed] at hf
  rw [← Except.ok.inj hf]
  decide +kernel

/-- A first address without a host: no change is reported although host and port differ, and
in the other order both are. -/
theorem classification_misses_spec :
    Parsed [":1", "1.2.3.4:2"] [⟨"", "1", 1⟩, ⟨"1.2.3.4", "2", 2⟩] ∧
    ∃ f f', classifyNATFeature [":1", "1.2.3.4:2"] [] = .ok f ∧
      ¬ Classified [⟨"", "1", 1⟩, ⟨"1.2.3.4", "2", 2⟩] [] f ∧
      classifyNATFeature ["1.2.3.4:2", ":1"] [] = .ok f' ∧
      f.behavior = .noChange ∧ f'.behavior = .bothChanged := by
  refine ⟨.cons (by decide +kernel) (.cons (by decide +kernel) .nil),
    ⟨.easyNAT, .noChange, 0, false, false⟩, ⟨.hardNAT, .bothChanged, 0, false, false⟩,
    by decide +kernel, ?_, by decide +kernel, rfl, rfl⟩
  intro h
  exact absurd (h.noChange.mp rfl).1 (by decide)

end FrpXtcp.Nathole
