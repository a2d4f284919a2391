import FrpXtcp.Lib.Text
import FrpXtcp.Nathole.Classification
import FrpXtcp.Nathole.Response

/-!
# What an analysis key identifies

`genAnalysisKey` hashes, for the visitor and then for the client, the first mapped host and the
texts of three classification results, without separators. A host is any text without brackets,
so it may itself hold such texts; then the bytes can be cut in another place and belong to
another pair of peers as well.
-/
namespace FrpXtcp.Nathole

open FrpXtcp.Lib

/-- The part of a feature that goes into the key. -/
abbrev Kind := NatType × NatBehavior × Bool

def NatFeature.kind (f : NatFeature) : Kind := (f.natType, f.behavior, f.regularPortsChange)

/-- The kinds that `ClassifyNATFeature` can return. -/
def kinds : List Kind :=
  [(.easyNAT, .noChange, false), (.hardNAT, .ipChanged, false), (.hardNAT, .bothChanged, false),
   (.hardNAT, .portChanged, false), (.hardNAT, .portChanged, true)]

/-- What is written for a kind. -/
def tag (k : Kind) : List Char := (k.1.text ++ k.2.1.text ++ toString k.2.2).toList

def tags : List (List Char) := kinds.map tag

theorem separates_tags : Separates tags := by
  constructor <;> decide +kernel

theorem tag_inj : ∀ k ∈ kinds, ∀ k' ∈ kinds, tag k = tag k' → k = k' := by
  decide +kernel

theorem tag_mem {k : Kind} (h : k ∈ kinds) : tag k ∈ tags := List.mem_map_of_mem h

/-- The kind for two flags of the loop and a difference of ports. -/
def kindOf (ipChanged portChanged : Bool) (difference : Int64) : Kind :=
  match ipChanged, portChanged with
  | true, true => (.hardNAT, .bothChanged, false)
  | true, false => (.hardNAT, .ipChanged, false)
  | false, true =>
    (.hardNAT, .portChanged, decide (difference ≤ 5) && decide (1 ≤ difference))
  | false, false => (.easyNAT, .noChange, false)

theorem Scan.kind_eq (s : Scan) :
    s.feature.kind = kindOf s.ipChanged s.portChanged (s.portMax - s.portMin) := by
  unfold Scan.feature kindOf
  cases s.ipChanged <;> cases s.portChanged <;> rfl

theorem kindOf_mem (ipChanged portChanged : Bool) (difference : Int64) :
    kindOf ipChanged portChanged difference ∈ kinds := by
  unfold kindOf
  cases ipChanged <;> cases portChanged
  · simp [kinds]
  · cases decide (difference ≤ 5) && decide (1 ≤ difference) <;> simp [kinds]
  · simp [kinds]
  · simp [kinds]

theorem Scan.kind_mem (s : Scan) : s.feature.kind ∈ kinds := by
  rw [Scan.kind_eq]
  exact kindOf_mem _ _ _

/-- `vIPs[0]` of `genAnalysisKey`, or nothing. -/
def firstHost (mappedAddrs : List String) : String :=
  ((compact (parseIPs mappedAddrs)).head?).getD ""

theorem analysisKeyPart_toList (mappedAddrs : List String) (f : NatFeature) :
    (analysisKeyPart mappedAddrs f).toList = (firstHost mappedAddrs).toList ++ tag f.kind := by
  simp [analysisKeyPart, firstHost, tag, NatFeature.kind, String.append_assoc]

/-- A session past the two classifications of `analysis`. -/
structure Analysed where
  vm : NatHoleVisitor
  cm : NatHoleClient
  cNatFeature : NatFeature
  vNatFeature : NatFeature
  classified : classifyBoth vm cm = .ok (cNatFeature, vNatFeature)

namespace Analysed

def vHost (s : Analysed) : String := firstHost s.vm.mappedAddrs

def cHost (s : Analysed) : String := firstHost s.cm.mappedAddrs

/-- The bytes that `genAnalysisKey` feeds to MD5. -/
def keyBytes (s : Analysed) : List UInt8 :=
  (analysisKeyPart s.vm.mappedAddrs s.vNatFeature).toUTF8.toList ++
    (analysisKeyPart s.cm.mappedAddrs s.cNatFeature).toUTF8.toList

/-- The key as a text: both hosts, each before a tag. -/
def keyText (s : Analysed) : List Char :=
  s.vHost.toList ++ (tag s.vNatFeature.kind ++ (s.cHost.toList ++ tag s.cNatFeature.kind))

theorem keyBytes_eq_iff (s s' : Analysed) : s.keyBytes = s'.keyBytes ↔ s.keyText = s'.keyText := by
  have htext : ∀ s : Analysed, s.keyText =
      (analysisKeyPart s.vm.mappedAddrs s.vNatFeature ++
        analysisKeyPart s.cm.mappedAddrs s.cNatFeature).toList := by
    intro s
    rw [String.toList_append, analysisKeyPart_toList, analysisKeyPart_toList]
    simp [keyText, vHost, cHost]
  rw [htext, htext, keyBytes, keyBytes, ← toUTF8_append, ← toUTF8_append]
  constructor
  · intro h
    rw [toUTF8_inj h]
  · intro h
    rw [String.ext h]

/-- What the key is meant to identify. -/
structure SameInputs (s s' : Analysed) : Prop where
  vHost : s.vHost = s'.vHost
  cHost : s.cHost = s'.cHost
  visitor : s.vNatFeature.kind = s'.vNatFeature.kind
  client : s.cNatFeature.kind = s'.cNatFeature.kind

theorem kinds_mem (s : Analysed) : s.vNatFeature.kind ∈ kinds ∧ s.cNatFeature.kind ∈ kinds := by
  obtain ⟨hc, hv⟩ := classifyBoth_ok s.classified
  obtain ⟨hclen, lc, hlc⟩ := parsed_of_classify hc
  obtain ⟨hvlen, lv, hlv⟩ := parsed_of_classify hv
  rw [classifyNATFeature_eq hclen hlc] at hc
  rw [classifyNATFeature_eq hvlen hlv] at hv
  rw [← Except.ok.inj hc, ← Except.ok.inj hv]
  exact ⟨Scan.kind_mem _, Scan.kind_mem _⟩

end Analysed

/-- One of the texts that follow a host in the key stands in the host. -/
def HoldsTag (host : String) : Prop := ∃ t ∈ tags, t <:+: host.toList

/-- If neither host holds a tag, the key can be cut in one way only. -/
theorem Analysed.sameInputs_of_keyText {s s' : Analysed} (hv : ¬ HoldsTag s.vHost)
    (hc : ¬ HoldsTag s.cHost) (h : s.keyText = s'.keyText) : s.SameInputs s' := by
  obtain ⟨hvk, hck⟩ := s.kinds_mem
  obtain ⟨hvk', hck'⟩ := s'.kinds_mem
  -- the client's tag ends the text
  have hlast : (s.vHost.toList ++ (tag s.vNatFeature.kind ++ s.cHost.toList)) ++
        tag s.cNatFeature.kind =
      (s'.vHost.toList ++ (tag s'.vNatFeature.kind ++ s'.cHost.toList)) ++
        tag s'.cNatFeature.kind := by
    simpa [keyText] using h
  obtain ⟨hrest, hctag⟩ := separates_tags.split_last (tag_mem hck) (tag_mem hck') hlast
  rcases separates_tags.split (tag_mem hvk) (tag_mem hvk') hrest with
    ⟨hhost, hvtag, hhost'⟩ | ⟨z, -, hz⟩ | ⟨z, hz, -⟩
  · exact ⟨String.ext hhost, String.ext hhost', tag_inj _ hvk _ hvk' hvtag,
      tag_inj _ hck _ hck' hctag⟩
  · exact absurd ⟨_, tag_mem hvk', z, s'.cHost.toList, by simp [hz]⟩ hc
  · exact absurd ⟨_, tag_mem hvk', s'.vHost.toList, z, by simp [hz]⟩ hv

section Realised

/-- A text that `SplitHostPort` can return as a host. -/
def IsHost (l : List Char) : Prop := '[' ∉ l ∧ ']' ∉ l

def addrOf (host : List Char) (port : String) : String :=
  "[" ++ String.ofList host ++ "]:" ++ port

theorem endpoint_addrOf {host : List Char} (hhost : IsHost host) {port : String} {n : Int64}
    (hport : ':' ∉ port.toList ∧ '[' ∉ port.toList ∧ ']' ∉ port.toList) (hn : atoi port = .ok n) :
    endpoint (addrOf host port) = .ok ⟨String.ofList host, port, n⟩ := by
  have hsplit := splitHostPort_bracketed (String.ofList host) port (by simpa using hhost.1)
    (by simpa using hhost.2) hport.1 hport.2.1 hport.2.2
  exact endpoint_ok_iff.mpr ⟨hsplit, hn⟩

theorem parseIPs_of_parsed {addresses : List String} {l : List Endpoint}
    (h : Parsed addresses l) : parseIPs addresses = l.map Endpoint.host := by
  unfold parseIPs
  induction h with
  | nil => rfl
  | cons he _ ih =>
    rw [List.filterMap_cons, List.map_cons, ih, (endpoint_ok_iff.mp he).1]
    rfl

theorem head?_destutter' (a : String) (l : List String) :
    (l.destutter' (· ≠ ·) a).head? = some a := by
  induction l with
  | nil => rfl
  | cons b l ih =>
    rw [List.destutter']
    split
    · rfl
    · exact ih

theorem firstHost_of_parsed {addresses : List String} {e : Endpoint} {l : List Endpoint}
    (h : Parsed addresses (e :: l)) : firstHost addresses = e.host := by
  rw [firstHost, parseIPs_of_parsed h, List.map_cons, compact, List.destutter_cons',
    head?_destutter']
  rfl

/-- The first host of a classified side comes from `SplitHostPort`. -/
theorem isHost_firstHost {addresses localIPs : List String} {f : NatFeature}
    (h : classifyNATFeature addresses localIPs = .ok f) : IsHost (firstHost addresses).toList := by
  obtain ⟨hlen, l, hl⟩ := parsed_of_classify h
  cases l with
  | nil =>
    cases hl
    simp at hlen
  | cons e l =>
    rw [firstHost_of_parsed hl]
    cases hl with
    | cons he _ => exact splitHostPort_host (endpoint_ok_iff.mp he).1

/-- The state of the loop after two addresses of one host `b` with port 1, the first of them
possibly without a host, and a third address. -/
theorem foldl_three {h b : String} (hb : b ≠ "") (hh : h = "" ∨ h = b) (e : Endpoint) :
    ([⟨h, "1", 1⟩, ⟨b, "1", 1⟩, e] : List Endpoint).foldl (Scan.visit []) {} =
      { baseIP := b, basePort := "1", portMax := max 1 e.portNum, portMin := min 1 e.portNum
        ipChanged := b != e.host, portChanged := "1" != e.port, publicNetwork := false } := by
  have hsecond : ([⟨h, "1", 1⟩, ⟨b, "1", 1⟩] : List Endpoint).foldl (Scan.visit []) {} =
      { baseIP := b, basePort := "1", portMax := 1, portMin := 1 } := by
    rcases hh with rfl | rfl
    · simp [Scan.visit]
    · simp only [List.foldl_cons, List.foldl_nil, Scan.visit, hb, if_true, if_false]
      simp
      decide
  have happend : ([⟨h, "1", 1⟩, ⟨b, "1", 1⟩, e] : List Endpoint) =
      [⟨h, "1", 1⟩, ⟨b, "1", 1⟩] ++ [e] := rfl
  rw [happend, List.foldl_append, hsecond]
  simp [Scan.visit, hb]

/-- Every kind is that of some list of addresses, whatever the first host. -/
theorem exists_addresses {host : List Char} (hhost : IsHost host) {k : Kind} (hk : k ∈ kinds) :
    ∃ addrs f, classifyNATFeature addrs [] = .ok f ∧ f.kind = k ∧
      firstHost addrs = String.ofList host := by
  obtain ⟨base, hbase, hne, hor⟩ : ∃ base, IsHost base ∧ String.ofList base ≠ "" ∧
      (String.ofList host = "" ∨ String.ofList host = String.ofList base) := by
    by_cases hnil : host = []
    · exact ⟨['a'], ⟨by decide, by decide⟩, by decide, Or.inl (by rw [hnil])⟩
    · refine ⟨host, hhost, fun h => hnil ?_, Or.inr rfl⟩
      simpa using congrArg String.toList h
  have hother : IsHost (base ++ ['a']) := by
    obtain ⟨h1, h2⟩ := hbase
    exact ⟨by simpa using h1, by simpa using h2⟩
  have hdiffer : (String.ofList base != String.ofList (base ++ ['a'])) = true := by
    rw [bne_iff_ne]
    intro h
    simpa using congrArg String.toList h
  have hsame : (String.ofList base != String.ofList base) = false := bne_self_eq_false _
  -- a third address with the right host and port
  have hmake : ∀ (third : List Char) (port : String) (n : Int64), IsHost third →
      (':' ∉ port.toList ∧ '[' ∉ port.toList ∧ ']' ∉ port.toList) → atoi port = .ok n →
      ∃ addrs f, classifyNATFeature addrs [] = .ok f ∧
        f.kind = kindOf (String.ofList base != String.ofList third) ("1" != port)
          (max 1 n - min 1 n) ∧ firstHost addrs = String.ofList host := by
    intro third port n hthird hport hn
    have hone : atoi "1" = .ok 1 := by decide +kernel
    have hparsed : Parsed [addrOf host "1", addrOf base "1", addrOf third port]
        [⟨String.ofList host, "1", 1⟩, ⟨String.ofList base, "1", 1⟩,
          ⟨String.ofList third, port, n⟩] :=
      .cons (endpoint_addrOf hhost (by decide) hone)
        (.cons (endpoint_addrOf hbase (by decide) hone)
          (.cons (endpoint_addrOf hthird hport hn) .nil))
    refine ⟨_, _, classifyNATFeature_eq (by simp) hparsed, ?_, firstHost_of_parsed hparsed⟩
    rw [Scan.kind_eq, foldl_three hne hor]
  simp only [kinds, List.mem_cons, List.not_mem_nil, or_false] at hk
  rcases hk with rfl | rfl | rfl | rfl | rfl
  · have h := hmake base "1" 1 hbase (by decide) (by decide +kernel)
    rwa [hsame] at h
  · have h := hmake (base ++ ['a']) "1" 1 hother (by decide) (by decide +kernel)
    rwa [hdiffer] at h
  · have h := hmake (base ++ ['a']) "2" 2 hother (by decide) (by decide +kernel)
    rwa [hdiffer] at h
  · have h := hmake base "10" 10 hbase (by decide) (by decide +kernel)
    rwa [hsame] at h
  · have h := hmake base "2" 2 hbase (by decide) (by decide +kernel)
    rwa [hsame] at h

/-- Any two hosts and any two kinds are those of a session. -/
theorem exists_analysed {vHost cHost : List Char} (hv : IsHost vHost) (hc : IsHost cHost)
    {v c : Kind} (hvk : v ∈ kinds) (hck : c ∈ kinds) :
    ∃ s : Analysed, s.vHost = String.ofList vHost ∧ s.cHost = String.ofList cHost ∧
      s.vNatFeature.kind = v ∧ s.cNatFeature.kind = c := by
  obtain ⟨vAddrs, vf, hvf, hvkind, hvfirst⟩ := exists_addresses hv hvk
  obtain ⟨cAddrs, cf, hcf, hckind, hcfirst⟩ := exists_addresses hc hck
  refine ⟨⟨⟨"", "", false, "", "", 0, vAddrs, []⟩, ⟨"", "", "", cAddrs, []⟩, cf, vf, ?_⟩,
    hvfirst, hcfirst, hvkind, hckind⟩
  simp [classifyBoth, parseIPs, hvf, hcf]

end Realised

theorem isHost_append {a b : List Char} : IsHost (a ++ b) ↔ IsHost a ∧ IsHost b := by
  simp only [IsHost, List.mem_append, not_or]
  tauto

theorem isHost_tag : ∀ t ∈ tags, IsHost t := by
  intro t ht
  have hall : ∀ t ∈ tags, '[' ∉ t ∧ ']' ∉ t := by decide +kernel
  exact hall t ht

theorem Analysed.isHost (s : Analysed) : IsHost s.vHost.toList ∧ IsHost s.cHost.toList := by
  obtain ⟨hc, hv⟩ := classifyBoth_ok s.classified
  exact ⟨isHost_firstHost hv, isHost_firstHost hc⟩

/-- Another place to cut the key, with hosts on both sides, gives another session. -/
theorem Analysed.collides_of_cut {s : Analysed} {x y : List Char} {k : Kind} (hk : k ∈ kinds)
    (hx : IsHost x) (hy : IsHost y) (hne : String.ofList x ≠ s.vHost)
    (hcut : x ++ (tag k ++ y) = s.vHost.toList ++ (tag s.vNatFeature.kind ++ s.cHost.toList)) :
    ∃ s' : Analysed, s.keyText = s'.keyText ∧ ¬ s.SameInputs s' := by
  obtain ⟨s', hv, hc, hvk, hck⟩ := exists_analysed hx hy hk s.kinds_mem.2
  refine ⟨s', ?_, fun hsame => hne ?_⟩
  · have h := congrArg (· ++ tag s.cNatFeature.kind) hcut
    simpa [keyText, hv, hc, hvk, hck] using h.symm
  · rw [← hv, hsame.vHost]

/-- A tag in one of the hosts is such a place. -/
theorem Analysed.collides_of_holdsTag {s : Analysed} (h : HoldsTag s.vHost ∨ HoldsTag s.cHost) :
    ∃ s' : Analysed, s.keyText = s'.keyText ∧ ¬ s.SameInputs s' := by
  obtain ⟨hv, hc⟩ := s.isHost
  have hvtag := isHost_tag _ (tag_mem s.kinds_mem.1)
  -- the visitor's host of the other session has another length
  have hlength : ∀ x : List Char, x.length ≠ s.vHost.toList.length → String.ofList x ≠ s.vHost := by
    intro x hx heq
    rw [← heq, String.toList_ofList] at hx
    exact hx rfl
  rcases h with ⟨t, ht, x, z, hhost⟩ | ⟨t, ht, x, z, hhost⟩
  · obtain ⟨k, hk, rfl⟩ := List.mem_map.mp ht
    have hpos := List.length_pos_of_ne_nil (separates_tags.ne_nil _ ht)
    rw [← hhost, isHost_append, isHost_append] at hv
    obtain ⟨⟨hx, -⟩, hz⟩ := hv
    apply collides_of_cut hk hx (isHost_append.mpr ⟨hz, isHost_append.mpr ⟨hvtag, hc⟩⟩)
    · apply hlength
      rw [← hhost]
      simp only [List.length_append]
      omega
    · rw [← hhost]
      simp only [List.append_assoc]
  · obtain ⟨k, hk, rfl⟩ := List.mem_map.mp ht
    have hpos := List.length_pos_of_ne_nil (separates_tags.ne_nil _ (tag_mem s.kinds_mem.1))
    rw [← hhost, isHost_append, isHost_append] at hc
    obtain ⟨⟨hx, -⟩, hz⟩ := hc
    apply collides_of_cut hk (isHost_append.mpr ⟨hv, isHost_append.mpr ⟨hvtag, hx⟩⟩) hz
    · apply hlength
      simp only [List.length_append]
      omega
    · rw [← hhost]
      simp only [List.append_assoc]

/-- The bytes of a session's key belong to no session with other inputs exactly when neither
of its first hosts holds one of the texts that follow a host in the key. -/
theorem analysis_key_identifies_iff (s : Analysed) :
    (∀ s' : Analysed, s.keyBytes = s'.keyBytes → s.SameInputs s') ↔
      ¬ HoldsTag s.vHost ∧ ¬ HoldsTag s.cHost := by
  simp only [Analysed.keyBytes_eq_iff]
  constructor
  · intro h
    rw [← not_or]
    intro hholds
    obtain ⟨s', htext, hne⟩ := Analysed.collides_of_holdsTag hholds
    exact hne (h s' htext)
  · intro ⟨hv, hc⟩ s' htext
    exact Analysed.sameInputs_of_keyText hv hc htext

/-- A client whose host holds the text for an easy NAT shares its key with another pair. -/
theorem analysis_keys_mixed :
    ∃ s s' : Analysed,
      s.vm.mappedAddrs = ["a:1", "a:1"] ∧
      s.cm.mappedAddrs =
        ["bEasyNATBehaviorNoChangefalsec:1", "bEasyNATBehaviorNoChangefalsec:1"] ∧
      s'.vm.mappedAddrs =
        ["aEasyNATBehaviorNoChangefalseb:1", "aEasyNATBehaviorNoChangefalseb:1"] ∧
      s'.cm.mappedAddrs = ["c:1", "c:1"] ∧
      s.keyBytes = s'.keyBytes ∧ ¬ s.SameInputs s' := by
  let easy : NatFeature := ⟨.easyNAT, .noChange, 0, false, false⟩
  let s : Analysed :=
    { vm := ⟨"", "", false, "", "", 0, ["a:1", "a:1"], []⟩
      cm := ⟨"", "", "", ["bEasyNATBehaviorNoChangefalsec:1",
        "bEasyNATBehaviorNoChangefalsec:1"], []⟩
      cNatFeature := easy
      vNatFeature := easy
      classified := by decide +kernel }
  let s' : Analysed :=
    { vm := ⟨"", "", false, "", "", 0, ["aEasyNATBehaviorNoChangefalseb:1",
        "aEasyNATBehaviorNoChangefalseb:1"], []⟩
      cm := ⟨"", "", "", ["c:1", "c:1"], []⟩
      cNatFeature := easy
      vNatFeature := easy
      classified := by decide +kernel }
  refine ⟨s, s', rfl, rfl, rfl, rfl, ?_, ?_⟩
  · apply (Analysed.keyBytes_eq_iff s s').mpr
    decide +kernel
  · intro h
    have hne : s.vHost ≠ s'.vHost := by decide +kernel
    exact hne h.vHost

end FrpXtcp.Nathole
