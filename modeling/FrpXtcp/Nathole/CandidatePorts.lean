import Mathlib.Data.Int.Range
import FrpXtcp.Nathole.Classification
import FrpXtcp.Nathole.Response

/-!
# The ports that a peer is told to try

`getRangePorts` puts a range around the last mapped port of the other side. Ports come from
that side unchecked, so the sums may wrap; the bounds of the range hold all the same. What the
range is meant to be, and that it covers the ports seen before, holds only while the list of
addresses is what the range is computed from: `newNatHoleResponse` compacts the list in place
and then takes its last element.
-/
namespace FrpXtcp.Nathole

open FrpXtcp.Lib

/-- The ports that the loop of `sendSidMessageToRangePorts` goes through. -/
def PortsRange.ports (r : PortsRange) : List Int :=
  Int.range r.fromPort.toInt (r.toPort.toInt + 1)

theorem PortsRange.mem_ports_iff {r : PortsRange} {q : Int} :
    q ∈ r.ports ↔ r.fromPort.toInt ≤ q ∧ q ≤ r.toPort.toInt := by
  rw [ports, Int.mem_range_iff, Int.lt_add_one_iff]

theorem PortsRange.length_ports (r : PortsRange) :
    r.ports.length = (r.toPort.toInt + 1 - r.fromPort.toInt).toNat := by
  simp [ports, Int.range]

/-- The range that `getRangePorts` computes. -/
def rangeAround (port difference maxNumber : Int64) : PortsRange :=
  ⟨max (max (port - difference - 5) (port - maxNumber)) 1,
    min (min (port + difference + 5) (port + maxNumber)) 65535⟩

theorem getRangePorts_eq {addrs : List String} {addr : String} {e : Endpoint} {n : Int64}
    (hn : 0 < n.toInt) (hlast : addrs.getLast? = some addr) (he : endpoint addr = .ok e)
    (d : Int64) : getRangePorts addrs d n = [rangeAround e.portNum d n] := by
  obtain ⟨hs, ha⟩ := endpoint_ok_iff.mp he
  have hpos : ¬ n ≤ 0 := by
    rw [Int64.le_iff_toInt_le]
    exact Int.not_le.mpr hn
  simp [getRangePorts, hpos, hlast, hs, ha, rangeAround]

theorem eq_rangeAround {addrs : List String} {d n : Int64} {r : PortsRange}
    (h : r ∈ getRangePorts addrs d n) : ∃ p, r = rangeAround p d n := by
  unfold getRangePorts at h
  split at h
  · cases h
  · split at h
    · cases h
    · split at h
      · cases h
      · split at h
        · cases h
        · exact ⟨_, List.mem_singleton.mp h⟩

theorem rangeAround_from (p d n : Int64) :
    (rangeAround p d n).fromPort.toInt =
      max (max (p - d - 5).toInt (p - n).toInt) 1 := by
  simp [rangeAround, Word.toInt_max]

theorem rangeAround_to (p d n : Int64) :
    (rangeAround p d n).toPort.toInt =
      min (min (p + d + 5).toInt (p + n).toInt) 65535 := by
  simp [rangeAround, Word.toInt_min]

theorem mem_ports {p d n : Int64} {q : Int} :
    q ∈ (rangeAround p d n).ports ↔
      (p - d - 5).toInt ≤ q ∧ (p - n).toInt ≤ q ∧ 1 ≤ q ∧
        q ≤ (p + d + 5).toInt ∧ q ≤ (p + n).toInt ∧ q ≤ 65535 := by
  rw [PortsRange.mem_ports_iff, rangeAround_from, rangeAround_to]
  omega

section Safety

variable {p d n : Int64}

/-- A range that is not empty lies around its port: had `p - n` or `p + n` wrapped, nothing
could be between 1 and 65535. -/
theorem near_of_mem_ports (hn : 0 < n.toInt) (hn' : n.toInt ≤ 65535) {q : Int}
    (h : q ∈ (rangeAround p d n).ports) : p.toInt - n.toInt ≤ q ∧ q ≤ p.toInt + n.toInt := by
  rw [mem_ports] at h
  obtain ⟨k, hk⟩ := Word.toInt_sub p n
  obtain ⟨m, hm⟩ := Word.toInt_add p n
  have hp := Word.bounds p
  have hlow := Word.bounds (p - n)
  have hhigh := Word.bounds (p + n)
  omega

theorem length_ports_le (hn : 0 < n.toInt) (hn' : n.toInt ≤ 65535) :
    ((rangeAround p d n).ports.length : Int) ≤ 2 * n.toInt + 1 := by
  rw [PortsRange.length_ports]
  by_cases hle : (rangeAround p d n).fromPort.toInt ≤ (rangeAround p d n).toPort.toInt
  · -- both ends are in the range, hence within `n` of its port
    have hfrom := near_of_mem_ports hn hn' (PortsRange.mem_ports_iff.mpr ⟨Int.le_refl _, hle⟩)
    have hto := near_of_mem_ports hn hn' (PortsRange.mem_ports_iff.mpr ⟨hle, Int.le_refl _⟩)
    omega
  · omega

/-- For ports and differences of real networks nothing wraps. -/
theorem mem_ports_of_port (hn : 0 < n.toInt) (hn' : n.toInt ≤ 65535) (hp : 1 ≤ p.toInt)
    (hp' : p.toInt ≤ 65535) (hd : 0 ≤ d.toInt) (hd' : d.toInt ≤ 65535) {q : Int} (hq : 1 ≤ q)
    (hq' : q ≤ 65535) : q ∈ (rangeAround p d n).ports ↔
      -(min (d.toInt + 5) n.toInt) ≤ q - p.toInt ∧ q - p.toInt ≤ min (d.toInt + 5) n.toInt := by
  have hfive : (5 : Int64).toInt = 5 := by decide
  have h1 : (p - d).toInt = p.toInt - d.toInt := (Word.toInt_sub_eq_iff p d).mpr (by omega)
  have h2 : (p - d - 5).toInt = p.toInt - d.toInt - 5 := by
    rw [(Word.toInt_sub_eq_iff _ _).mpr (by omega), h1, hfive]
  have h3 : (p - n).toInt = p.toInt - n.toInt := (Word.toInt_sub_eq_iff p n).mpr (by omega)
  have h4 : (p + d).toInt = p.toInt + d.toInt := (Word.toInt_add_eq_iff p d).mpr (by omega)
  have h5 : (p + d + 5).toInt = p.toInt + d.toInt + 5 := by
    rw [(Word.toInt_add_eq_iff _ _).mpr (by omega), h4, hfive]
  have h6 : (p + n).toInt = p.toInt + n.toInt := (Word.toInt_add_eq_iff p n).mpr (by omega)
  rw [mem_ports, h2, h3, h5, h6]
  omega

end Safety

section Coverage

variable {localIPs : List String} {l : List Endpoint} {s : Scan}

theorem Scan.of_regular (h : s.feature.regularPortsChange = true) :
    s.portChanged = true ∧ s.feature.portsDifference = s.portMax - s.portMin ∧
      1 ≤ (s.portMax - s.portMin).toInt ∧ (s.portMax - s.portMin).toInt ≤ 5 := by
  revert h
  cases hi : s.ipChanged <;> cases hp : s.portChanged <;> simp only [Scan.feature, hi, hp] <;>
    intro h
  · cases h
  · exact ⟨trivial, trivial, (regular_iff rfl).mp h⟩
  · cases h
  · cases h

theorem getLast_mem_compared {last : Endpoint} (hlast : l.getLast? = some last)
    (hc : compared l ≠ []) : last ∈ compared l := by
  rw [← skipped_append_compared l, List.getLast?_append_of_ne_nil _ hc] at hlast
  exact List.mem_of_getLast? hlast

theorem Parsed.getLast {addresses : List String} {last : Endpoint} (h : Parsed addresses l)
    (hlast : l.getLast? = some last) :
    ∃ addr, addresses.getLast? = some addr ∧ endpoint addr = .ok last := by
  have hmap := congrArg List.getLast? h.map_eq
  rw [List.getLast?_map, List.getLast?_map, hlast] at hmap
  obtain ⟨addr, haddr, he⟩ := Option.map_eq_some_iff.mp hmap
  exact ⟨addr, haddr, he⟩

/-- A port that the loop compared is at most the difference away from the last one. -/
theorem Scanned.near_last (h : Scanned localIPs l s) (hreg : s.feature.regularPortsChange = true)
    (hports : ∀ e ∈ l, 1 ≤ e.portNum.toInt ∧ e.portNum.toInt ≤ 65535) {last e : Endpoint}
    (hlast : l.getLast? = some last) (he : e ∈ compared l) :
    -s.feature.portsDifference.toInt ≤ e.portNum.toInt - last.portNum.toInt ∧
      e.portNum.toInt - last.portNum.toInt ≤ s.feature.portsDifference.toInt := by
  have hne : compared l ≠ [] := List.ne_nil_of_mem he
  obtain ⟨-, hdiff, hlow, hhigh⟩ := Scan.of_regular hreg
  obtain ⟨a, ha, b, hb, hspread, hall⟩ := h.spread hne
  have h1 := hall e he
  have h2 := hall last (getLast_mem_compared hlast hne)
  have h3 := hports a (mem_of_mem_compared ha)
  have h4 := hports b (mem_of_mem_compared hb)
  have hexact : (s.portMax - s.portMin).toInt = s.portMax.toInt - s.portMin.toInt :=
    (Word.toInt_sub_eq_iff _ _).mpr (by omega)
  rw [hdiff, hexact]
  omega

end Coverage

/-- Whatever the peer sent, a range holds ports between 1 and 65535 and not more of them than
`n` allows, and it holds a last port that is one. The ports of a list classified as regular are
all in the range exactly when those that the classification passed over are near enough. -/
theorem candidate_ranges (addrs : List String) (d n : Int64) (hn : 0 < n.toInt)
    (hn' : n.toInt ≤ 65535) :
    (∀ r ∈ getRangePorts addrs d n,
      (∀ q ∈ r.ports, 1 ≤ q ∧ q ≤ 65535) ∧ (r.ports.length : Int) ≤ 2 * n.toInt + 1) ∧
    (∀ addr e, addrs.getLast? = some addr → endpoint addr = .ok e →
      1 ≤ e.portNum.toInt → e.portNum.toInt ≤ 65535 → 0 ≤ d.toInt → d.toInt ≤ 65535 →
      ∃ r, getRangePorts addrs d n = [r] ∧ e.portNum.toInt ∈ r.ports) ∧
    (∀ localIPs f l, classifyNATFeature addrs localIPs = .ok f → Parsed addrs l →
      f.regularPortsChange = true →
      (∀ e ∈ l, 1 ≤ e.portNum.toInt ∧ e.portNum.toInt ≤ 65535) →
      d = f.portsDifference → 5 ≤ n.toInt →
      ∃ r last, getRangePorts addrs d n = [r] ∧ l.getLast? = some last ∧
        ((∀ e ∈ l, e.portNum.toInt ∈ r.ports) ↔
          ∀ e ∈ skipped l, -(min (d.toInt + 5) n.toInt) ≤ e.portNum.toInt - last.portNum.toInt ∧
            e.portNum.toInt - last.portNum.toInt ≤ min (d.toInt + 5) n.toInt)) := by
  refine ⟨?_, ?_, ?_⟩
  · intro r hr
    obtain ⟨p, rfl⟩ := eq_rangeAround hr
    refine ⟨fun q hq => ?_, length_ports_le hn hn'⟩
    have := mem_ports.mp hq
    omega
  · intro addr e hlast he hp hp' hd hd'
    refine ⟨_, getRangePorts_eq hn hlast he d, ?_⟩
    rw [mem_ports_of_port hn hn' hp hp' hd hd' hp hp']
    omega
  · intro localIPs f l hf hl hreg hports hdiff hn5
    obtain ⟨hlen, -⟩ := parsed_of_classify hf
    rw [classifyNATFeature_eq hlen hl] at hf
    obtain rfl := Except.ok.inj hf
    have hscan := scanned_foldl localIPs l
    obtain ⟨hchanged, hfeature, hlow, hhigh⟩ := Scan.of_regular hreg
    have hne : l ≠ [] := fun h => (h ▸ hscan.port.mp hchanged).ne_nil rfl
    have hlast : l.getLast? = some (l.getLast hne) := List.getLast?_eq_some_getLast hne
    obtain ⟨addr, haddr, he⟩ := hl.getLast hlast
    have hp := hports _ (List.getLast_mem hne)
    rw [← hfeature, ← hdiff] at hlow hhigh
    have hmem : ∀ e ∈ l, e.portNum.toInt ∈ (rangeAround (l.getLast hne).portNum d n).ports ↔
        -(min (d.toInt + 5) n.toInt) ≤ e.portNum.toInt - (l.getLast hne).portNum.toInt ∧
          e.portNum.toInt - (l.getLast hne).portNum.toInt ≤ min (d.toInt + 5) n.toInt := by
      intro e he
      have := hports e he
      exact mem_ports_of_port hn hn' hp.1 hp.2 (by omega) (by omega) this.1 this.2
    refine ⟨_, _, getRangePorts_eq hn haddr he d, hlast, ?_, ?_⟩
    · intro hall e he
      have hel : e ∈ l := skipped_append_compared l ▸ List.mem_append_left _ he
      exact (hmem e hel).mp (hall e hel)
    · intro hskip e he
      rw [hmem e he]
      rw [← skipped_append_compared l, List.mem_append] at he
      rcases he with he | he
      · exact hskip e he
      · have hnear := hscan.near_last hreg hports hlast he
        rw [← hdiff] at hnear
        omega

theorem candidate_ranges_regular :
    ∃ r, getRangePorts ["1.1.1.1:5000", "1.1.1.1:5002"] 2 10 = [r] ∧ (r.ports.length : Int) ≤ 21 ∧
      (5000 : Int) ∈ r.ports ∧ (5002 : Int) ∈ r.ports := by
  have hparsed : Parsed ["1.1.1.1:5000", "1.1.1.1:5002"]
      [⟨"1.1.1.1", "5000", 5000⟩, ⟨"1.1.1.1", "5002", 5002⟩] :=
    .cons (by decide +kernel) (.cons (by decide +kernel) .nil)
  obtain ⟨hsafe, -, hcover⟩ := candidate_ranges ["1.1.1.1:5000", "1.1.1.1:5002"] 2 10 (by decide)
    (by decide)
  obtain ⟨r, last, hr, -, hall⟩ := hcover [] ⟨.hardNAT, .portChanged, 2, true, false⟩ _
    (by decide +kernel) hparsed rfl (by decide) rfl (by decide)
  have hskip : skipped [⟨"1.1.1.1", "5000", 5000⟩, ⟨"1.1.1.1", "5002", 5002⟩] = [] := by decide
  have hports := hall.mpr (by rw [hskip]; simp)
  refine ⟨r, hr, (hsafe r (by rw [hr]; exact List.mem_singleton_self r)).2, ?_, ?_⟩
  · exact hports ⟨"1.1.1.1", "5000", 5000⟩ (by simp)
  · exact hports ⟨"1.1.1.1", "5002", 5002⟩ (by simp)

/-- A first address without a host is classified as if it were not there, and its port is
outside the range. -/
theorem candidate_range_misses_port :
    Parsed [":1000", "1.1.1.1:5000", "1.1.1.1:5002"]
      [⟨"", "1000", 1000⟩, ⟨"1.1.1.1", "5000", 5000⟩, ⟨"1.1.1.1", "5002", 5002⟩] ∧
    ∃ f r, classifyNATFeature [":1000", "1.1.1.1:5000", "1.1.1.1:5002"] [] = .ok f ∧
      f.regularPortsChange = true ∧
      getRangePorts [":1000", "1.1.1.1:5000", "1.1.1.1:5002"] f.portsDifference 10 = [r] ∧
      (1000 : Int) ∉ r.ports := by
  refine ⟨.cons (by decide +kernel) (.cons (by decide +kernel) (.cons (by decide +kernel) .nil)),
    ⟨.hardNAT, .portChanged, 2, true, false⟩, ⟨4995, 5009⟩, by decide +kernel, rfl,
    by decide +kernel, ?_⟩
  rw [PortsRange.mem_ports_iff]
  decide

section LastPort

/-- The range that the response to one side should hold: around the port of the last address
that the other side sent, in whole numbers. -/
structure IsRangeOf (p d n : Int64) (r : PortsRange) : Prop where
  fromPort : r.fromPort.toInt = max (max (p.toInt - d.toInt - 5) (p.toInt - n.toInt)) 1
  toPort : r.toPort.toInt = min (min (p.toInt + d.toInt + 5) (p.toInt + n.toInt)) 65535

/-- No bound of the range is moved by a sum that does not fit in an `int`. -/
structure ExactBounds (p d n : Int64) : Prop where
  low : max (p - d - 5).toInt 1 = max (p.toInt - d.toInt - 5) 1
  lowest : (p - n).toInt = p.toInt - n.toInt
  high : (p + d + 5).toInt = p.toInt + d.toInt + 5
  highest : (p + n).toInt = p.toInt + n.toInt

variable {p d n : Int64}

theorem rangeAround_from_iff (hn : 0 < n.toInt) (hn' : n.toInt ≤ 65535) :
    (rangeAround p d n).fromPort.toInt =
        max (max (p.toInt - d.toInt - 5) (p.toInt - n.toInt)) 1 ↔
      max (p - d - 5).toInt 1 = max (p.toInt - d.toInt - 5) 1 ∧
        (p - n).toInt = p.toInt - n.toInt := by
  have hfive : (5 : Int64).toInt = 5 := by decide
  obtain ⟨k, hk⟩ := Word.toInt_sub p d
  obtain ⟨k', hk'⟩ := Word.toInt_sub (p - d) 5
  obtain ⟨m, hm⟩ := Word.toInt_sub p n
  have hp := Word.bounds p
  have hd := Word.bounds d
  have hA := Word.bounds (p - d - 5)
  have hB := Word.bounds (p - n)
  have hlow : (p - d - 5).toInt = p.toInt - d.toInt - 5 + 2 ^ 64 * (k + k') := by omega
  have hwrap := Word.wrapped_once hlow (by omega)
  have hwrap' := Word.wrapped_once hm (by omega)
  clear hk hk' hm hlow
  rw [rangeAround_from]
  rcases hwrap with h | h | h <;> rcases hwrap' with h' | h' | h' <;> rw [h] at hA ⊢ <;>
    rw [h'] at hB ⊢ <;> omega

theorem rangeAround_to_iff (hn : 0 < n.toInt) (hn' : n.toInt ≤ 65535) :
    (rangeAround p d n).toPort.toInt =
        min (min (p.toInt + d.toInt + 5) (p.toInt + n.toInt)) 65535 ↔
      (p + d + 5).toInt = p.toInt + d.toInt + 5 ∧ (p + n).toInt = p.toInt + n.toInt := by
  have hfive : (5 : Int64).toInt = 5 := by decide
  obtain ⟨k, hk⟩ := Word.toInt_add p d
  obtain ⟨k', hk'⟩ := Word.toInt_add (p + d) 5
  obtain ⟨m, hm⟩ := Word.toInt_add p n
  have hp := Word.bounds p
  have hd := Word.bounds d
  have hA := Word.bounds (p + d + 5)
  have hB := Word.bounds (p + n)
  have hhigh : (p + d + 5).toInt = p.toInt + d.toInt + 5 + 2 ^ 64 * (k + k') := by omega
  have hwrap := Word.wrapped_once hhigh (by omega)
  have hwrap' := Word.wrapped_once hm (by omega)
  clear hk hk' hm hhigh
  rw [rangeAround_to]
  rcases hwrap with h | h | h <;> rcases hwrap' with h' | h' | h' <;> rw [h] at hA ⊢ <;>
    rw [h'] at hB ⊢ <;> omega

theorem isRangeOf_rangeAround_iff (hn : 0 < n.toInt) (hn' : n.toInt ≤ 65535) :
    IsRangeOf p d n (rangeAround p d n) ↔ ExactBounds p d n := by
  constructor
  · rintro ⟨hfrom, hto⟩
    obtain ⟨hlow, hlowest⟩ := (rangeAround_from_iff hn hn').mp hfrom
    obtain ⟨hhigh, hhighest⟩ := (rangeAround_to_iff hn hn').mp hto
    exact ⟨hlow, hlowest, hhigh, hhighest⟩
  · rintro ⟨hlow, hlowest, hhigh, hhighest⟩
    exact ⟨(rangeAround_from_iff hn hn').mpr ⟨hlow, hlowest⟩,
      (rangeAround_to_iff hn hn').mpr ⟨hhigh, hhighest⟩⟩

end LastPort

section InPlace

theorem compacted_of_isChain {l : List String} (h : l.IsChain (· ≠ ·)) : compacted l = l := by
  have hself : compact l = l := (List.destutter_eq_self_iff _ l).mpr h
  simp [compacted, hself]

/-- Where something was removed, the last element of the slice is cleared. -/
theorem getLast_compacted {l : List String} (h : ¬ l.IsChain (· ≠ ·)) :
    (compacted l).getLast? = some "" := by
  have hsub : (compact l).Sublist l := List.destutter_sublist _ l
  have hlt : (compact l).length < l.length := by
    apply Nat.lt_of_le_of_ne hsub.length_le
    intro heq
    exact h ((List.destutter_eq_self_iff _ l).mp (hsub.eq_of_length heq))
  obtain ⟨k, hk⟩ : ∃ k, l.length - (compact l).length = k + 1 :=
    ⟨l.length - (compact l).length - 1, by omega⟩
  rw [compacted, hk, List.replicate_succ', ← List.append_assoc, List.getLast?_concat]

theorem getRangePorts_compacted {addrs : List String} {addr : String} {e : Endpoint} {n : Int64}
    (hn : 0 < n.toInt) (hlast : addrs.getLast? = some addr) (he : endpoint addr = .ok e)
    (d : Int64) :
    (addrs.IsChain (· ≠ ·) →
      getRangePorts (compacted addrs) d n = [rangeAround e.portNum d n]) ∧
    (¬ addrs.IsChain (· ≠ ·) → getRangePorts (compacted addrs) d n = []) := by
  constructor
  · intro hchain
    rw [compacted_of_isChain hchain]
    exact getRangePorts_eq hn hlast he d
  · intro hchain
    have hempty : splitHostPort "" = .error "missing port in address" := by decide +kernel
    simp [getRangePorts, getLast_compacted hchain, hempty]

end InPlace

section Responses

/-- The response to a side with a range of ports to try holds exactly the range around the last
port of the other side, whose addresses it lists without adjacent repeats. -/
def FollowsPeer (peerAddrs : List String) (difference : Int64) (behavior : RecommandBehavior)
    (resp : NatHoleResponse) : Prop :=
  0 < behavior.portsRangeNumber.toInt →
    ∃ addr e r, peerAddrs.getLast? = some addr ∧ endpoint addr = .ok e ∧
      resp.detectBehavior.candidatePorts = [r] ∧
      IsRangeOf e.portNum difference behavior.portsRangeNumber r ∧
      resp.candidateAddrs = peerAddrs.destutter (· ≠ ·)

/-- No two neighbours in the list are equal, and no bound of the range leaves an `int`. -/
def KeepsLast (peerAddrs : List String) (difference : Int64) (behavior : RecommandBehavior) :
    Prop :=
  0 < behavior.portsRangeNumber.toInt →
    peerAddrs.IsChain (· ≠ ·) ∧
      ∀ addr e, peerAddrs.getLast? = some addr → endpoint addr = .ok e →
        ExactBounds e.portNum difference behavior.portsRangeNumber

variable {peerAddrs localIPs : List String} {f : NatFeature} {behavior : RecommandBehavior}

theorem followsPeer_newNatHoleResponse_iff (hf : classifyNATFeature peerAddrs localIPs = .ok f)
    (hb : behavior.portsRangeNumber.toInt ≤ 65535) (transactionID sid protocol : String)
    (mode : Int) (assistedAddrs : List String) (readTimeoutMs : Int64) :
    FollowsPeer peerAddrs f.portsDifference behavior
        (newNatHoleResponse transactionID sid protocol mode peerAddrs assistedAddrs behavior
          readTimeoutMs f.portsDifference) ↔
      KeepsLast peerAddrs f.portsDifference behavior := by
  refine imp_congr_right fun hn => ?_
  obtain ⟨hlen, l, hl⟩ := parsed_of_classify hf
  have hne : l ≠ [] := by
    rintro rfl
    cases hl
    simp at hlen
  obtain ⟨addr, haddr, he⟩ := hl.getLast (List.getLast?_eq_some_getLast hne)
  generalize l.getLast hne = last at he
  obtain ⟨hkept, hcleared⟩ := getRangePorts_compacted hn haddr he f.portsDifference
  constructor
  · rintro ⟨addr', e, r, haddr', he', hports, hrange, -⟩
    obtain rfl := Option.some.inj (haddr.symm.trans haddr')
    obtain rfl := Except.ok.inj (he.symm.trans he')
    by_cases hchain : peerAddrs.IsChain (· ≠ ·)
    · obtain rfl := List.cons.inj (hports.symm.trans (hkept hchain)) |>.1
      refine ⟨hchain, ?_⟩
      intro addr'' e'' haddr'' he''
      obtain rfl := Option.some.inj (haddr.symm.trans haddr'')
      obtain rfl := Except.ok.inj (he.symm.trans he'')
      exact (isRangeOf_rangeAround_iff hn hb).mp hrange
    · exact absurd (hports.symm.trans (hcleared hchain)) (by simp)
  · rintro ⟨hchain, hexact⟩
    exact ⟨addr, last, _, haddr, he, hkept hchain,
      (isRangeOf_rangeAround_iff hn hb).mpr (hexact addr last haddr he), rfl⟩

/-- No row of the tables asks for more than 10 ports around the last one. -/
theorem assignBehaviors_portsRangeNumber {mode index : Int} {c : NatFeature} {row : Row}
    (h : assignBehaviors mode index c = some row) :
    row.1.portsRangeNumber.toInt ≤ 10 ∧ row.2.portsRangeNumber.toInt ≤ 10 := by
  have htable : ∀ row ∈ getBehaviorByMode mode,
      row.1.portsRangeNumber.toInt ≤ 10 ∧ row.2.portsRangeNumber.toInt ≤ 10 := by
    unfold getBehaviorByMode
    split_ifs <;> decide
  have hrow : ∀ row, getBehaviorByModeAndIndex mode index = some row →
      row.1.portsRangeNumber.toInt ≤ 10 ∧ row.2.portsRangeNumber.toInt ≤ 10 := by
    intro row hget
    unfold getBehaviorByModeAndIndex at hget
    dsimp only at hget
    split_ifs at hget
    · obtain rfl := Option.some.inj hget
      decide
    · exact htable row (List.mem_of_getElem? hget)
  unfold assignBehaviors at h
  obtain ⟨row₀, hget, rfl⟩ := Option.map_eq_some_iff.mp h
  have h₀ := hrow row₀ hget
  split_ifs
  all_goals first
    | exact h₀
    | exact ⟨h₀.2, h₀.1⟩

/-- A response follows the last port of the peer exactly when the peer's list has no adjacent
repeats and the bounds of the range fit in an `int`: a repeat makes `slices.Compact` clear the
end of the list, where `getRangePorts` then finds no port. -/
theorem candidate_ports_follow_iff {md5 : Digest} {analyzer : Analyzer} {now : Int} {sid : String}
    {vm : NatHoleVisitor} {cm : NatHoleClient} {cBehavior vBehavior : RecommandBehavior}
    {vResp cResp : NatHoleResponse}
    (h : analysis md5 analyzer now sid vm cm =
      some (.ok ((cBehavior, vBehavior), vResp, cResp))) :
    ∃ cNatFeature vNatFeature, classifyBoth vm cm = .ok (cNatFeature, vNatFeature) ∧
      (FollowsPeer cm.mappedAddrs cNatFeature.portsDifference vBehavior vResp ↔
        KeepsLast cm.mappedAddrs cNatFeature.portsDifference vBehavior) ∧
      (FollowsPeer vm.mappedAddrs vNatFeature.portsDifference cBehavior cResp ↔
        KeepsLast vm.mappedAddrs vNatFeature.portsDifference cBehavior) := by
  unfold analysis at h
  cases hboth : classifyBoth vm cm with
  | error err =>
    rw [hboth] at h
    cases h
  | ok features =>
    obtain ⟨cf, vf⟩ := features
    obtain ⟨hcf, hvf⟩ := classifyBoth_ok hboth
    simp only [hboth, Analyzer.getRecommandBehaviors, Option.map_eq_some_iff, Except.ok.injEq] at h
    obtain ⟨row, hrow, heq⟩ := h
    obtain ⟨hc, hv⟩ := assignBehaviors_portsRangeNumber hrow
    obtain ⟨c, v⟩ := row
    obtain ⟨⟨rfl, rfl⟩, rfl, rfl⟩ := by simpa [makeResponses] using heq
    refine ⟨cf, vf, rfl, ?_, ?_⟩
    · exact followsPeer_newNatHoleResponse_iff hcf (Int.le_trans hv (by decide)) ..
    · exact followsPeer_newNatHoleResponse_iff hvf (Int.le_trans hc (by decide)) ..

/-- A client behind a NAT that changes ports regularly. -/
def regularClient (mappedAddrs : List String) : NatHoleClient := ⟨"c", "p", "s", mappedAddrs, []⟩

def easyVisitor : NatHoleVisitor :=
  ⟨"v", "p", false, "quic", "", 0, ["2.2.2.2:6000", "2.2.2.2:6000"], []⟩

/-- The first decision for the two. -/
def firstAnalysis (mappedAddrs : List String) :
    Option (Except String (Row × NatHoleResponse × NatHoleResponse)) :=
  analysis (fun _ => []) (newAnalyzerWithClock 0) 0 "s" easyVisitor (regularClient mappedAddrs)

/-- The visitor is told to try ten ports around the client's last one. -/
theorem candidate_ports_follow_iff_regular :
    ∃ row vResp cResp,
      firstAnalysis ["1.1.1.1:5000", "1.1.1.1:5002"] = some (.ok (row, vResp, cResp)) ∧
      row.2.portsRangeNumber = 10 ∧
      FollowsPeer ["1.1.1.1:5000", "1.1.1.1:5002"] 2 row.2 vResp := by
  have hten : ((firstAnalysis ["1.1.1.1:5000", "1.1.1.1:5002"]).bind Except.toOption).map
      (fun r => r.1.2.portsRangeNumber) = some 10 := by decide +kernel
  obtain ⟨r, hr, hten⟩ := Option.map_eq_some_iff.mp hten
  obtain ⟨res, hres, hok⟩ := Option.bind_eq_some_iff.mp hr
  cases res with
  | error err => cases hok
  | ok r' =>
    obtain rfl := Option.some.inj hok
    obtain ⟨⟨cB, vB⟩, vResp, cResp⟩ := r'
    refine ⟨_, vResp, cResp, hres, hten, ?_⟩
    obtain ⟨cf, vf, hboth, hiff, -⟩ := candidate_ports_follow_iff hres
    have hcf : cf.portsDifference = 2 := by
      have hclass : ((classifyBoth easyVisitor (regularClient ["1.1.1.1:5000", "1.1.1.1:5002"])
          ).toOption.map fun f => f.1.portsDifference) = some 2 := by decide +kernel
      rw [hboth] at hclass
      exact Option.some.inj hclass
    rw [hcf] at hiff
    refine hiff.mpr fun _ => ⟨by decide, ?_⟩
    intro addr e haddr he
    obtain rfl := Option.some.inj haddr
    have hlast : endpoint "1.1.1.1:5002" = .ok ⟨"1.1.1.1", "5002", 5002⟩ := by decide +kernel
    obtain rfl := Except.ok.inj (hlast.symm.trans he)
    dsimp only at hten ⊢
    rw [hten]
    constructor <;> decide

/-- The client reports its last mapping twice, and the visitor gets no port to try. -/
theorem candidate_ports_lost :
    ∃ row vResp cResp,
      firstAnalysis ["1.1.1.1:5000", "1.1.1.1:5002", "1.1.1.1:5002"] =
        some (.ok (row, vResp, cResp)) ∧
      row.2.portsRangeNumber = 10 ∧ vResp.detectBehavior.candidatePorts = [] ∧
      ¬ FollowsPeer ["1.1.1.1:5000", "1.1.1.1:5002", "1.1.1.1:5002"] 2 row.2 vResp := by
  have hlost : ((firstAnalysis ["1.1.1.1:5000", "1.1.1.1:5002", "1.1.1.1:5002"]).bind
      Except.toOption).map (fun r => (r.1.2.portsRangeNumber,
        r.2.1.detectBehavior.candidatePorts)) = some (10, []) := by decide +kernel
  obtain ⟨r, hr, hlost⟩ := Option.map_eq_some_iff.mp hlost
  obtain ⟨res, hres, hok⟩ := Option.bind_eq_some_iff.mp hr
  cases res with
  | error err => cases hok
  | ok r' =>
    obtain rfl := Option.some.inj hok
    obtain ⟨row, vResp, cResp⟩ := r'
    obtain ⟨hten, hnone⟩ := Prod.mk.inj hlost
    refine ⟨row, vResp, cResp, hres, hten, hnone, ?_⟩
    intro hfollows
    obtain ⟨_, _, _, _, _, hports, _⟩ := hfollows (by rw [hten]; decide)
    rw [hnone] at hports
    cases hports

end Responses

end FrpXtcp.Nathole
