import OneInfra.Component.ControlPlaneIngress

/-!
# The names of the VPN servers of clusters

The VPN server of a cluster has a network namespace, a systemd unit and an interface on
the host of the ingress.  Their names are built in
`internal/pkg/component/components/wireguard.go` from the namespace and the name of the
cluster, with a dash between them.  Both may contain dashes, and so the dash does not tell
where the namespace ends.

`isolated_iff` says when two clusters have different names: unless a part of the one name,
between dashes, has moved over to the namespace of the other.
-/

namespace OneInfra.Components.ControlPlaneIngress

open Lib

/-- The text whose sum is in the name of the interface. -/
def wireguardInterfaceText (cluster : Cluster) : String :=
  cluster.namespace ++ "-" ++ cluster.name

example {σ : Type} (outside : Outside σ) (cluster : Cluster) :
    wireguardInterfaceName outside cluster = String.ofList
      (("wg-" ++ outside.sha1Sum (wireguardInterfaceText cluster)).toList.take 15) := rfl

/-- The VPN servers of the two clusters share nothing. -/
structure Isolated (cluster cluster' : Cluster) : Prop where
  netNSName : netNSName cluster ≠ netNSName cluster'
  serviceName : wireguardSystemdServiceName cluster ≠ wireguardSystemdServiceName cluster'
  servicePath : wireguardSystemdServicePath cluster ≠ wireguardSystemdServicePath cluster'
  interfaceText : wireguardInterfaceText cluster ≠ wireguardInterfaceText cluster'

/-- The namespace of the first is that of the second and a part of its name. -/
def Shifted (cluster cluster' : Cluster) : Prop :=
  ∃ middle, cluster.namespace = cluster'.namespace ++ "-" ++ middle ∧
    cluster'.name = middle ++ "-" ++ cluster.name

theorem toList_append_dash (a b : String) :
    (a ++ "-" ++ b).toList = a.toList ++ '-' :: b.toList := by
  simp

/-- Where two texts with dashes agree, the dashes are at the same place or one of them
belongs to a part of the other text. -/
theorem append_dash_eq {a b a' b' : String} (h : a ++ "-" ++ b = a' ++ "-" ++ b') :
    (a = a' ∧ b = b') ∨ (∃ m, a' = a ++ "-" ++ m ∧ b = m ++ "-" ++ b') ∨
      ∃ m, a = a' ++ "-" ++ m ∧ b' = m ++ "-" ++ b := by
  have hchars : a.toList ++ '-' :: b.toList = a'.toList ++ '-' :: b'.toList := by
    rw [← toList_append_dash, ← toList_append_dash, h]
  have hshift : ∀ {c d c' d' : String} {t : List Char}, c'.toList = c.toList ++ '-' :: t →
      d.toList = t ++ '-' :: d'.toList → ∃ m, c' = c ++ "-" ++ m ∧ d = m ++ "-" ++ d' := by
    intro c d c' d' t hc hd
    refine ⟨String.ofList t, ?_, ?_⟩
    · rw [← String.toList_inj, hc, toList_append_dash, String.toList_ofList]
    · rw [← String.toList_inj, hd, toList_append_dash, String.toList_ofList]
  rcases List.append_eq_append_iff.mp hchars with ⟨t, ha, hb⟩ | ⟨t, ha, hb⟩
  · cases t with
    | nil =>
      rw [List.append_nil] at ha
      rw [List.nil_append, List.cons.injEq] at hb
      exact .inl ⟨String.toList_inj.mp ha.symm, String.toList_inj.mp hb.2⟩
    | cons char t =>
      rw [List.cons_append, List.cons.injEq] at hb
      obtain ⟨rfl, hb⟩ := hb
      exact .inr (.inl (hshift ha hb))
  · cases t with
    | nil =>
      rw [List.append_nil] at ha
      rw [List.nil_append, List.cons.injEq] at hb
      exact .inl ⟨String.toList_inj.mp ha, String.toList_inj.mp hb.2.symm⟩
    | cons char t =>
      rw [List.cons_append, List.cons.injEq] at hb
      obtain ⟨rfl, hb⟩ := hb
      exact .inr (.inr (hshift ha hb))

theorem wireguardInterfaceText_eq_iff {cluster cluster' : Cluster}
    (hne : (cluster.namespace, cluster.name) ≠ (cluster'.namespace, cluster'.name)) :
    wireguardInterfaceText cluster = wireguardInterfaceText cluster' ↔
      Shifted cluster cluster' ∨ Shifted cluster' cluster := by
  constructor
  · intro h
    rcases append_dash_eq h with ⟨hns, hname⟩ | hshifted | hshifted
    · exact absurd (Prod.ext hns hname) hne
    · exact .inr hshifted
    · exact .inl hshifted
  · unfold wireguardInterfaceText
    rintro (⟨middle, hns, hname⟩ | ⟨middle, hns, hname⟩)
    · rw [hns, hname]
      simp only [String.append_assoc]
    · rw [hns, hname]
      simp only [String.append_assoc]

theorem netNSName_eq_iff {cluster cluster' : Cluster} :
    netNSName cluster = netNSName cluster' ↔
      wireguardInterfaceText cluster = wireguardInterfaceText cluster' := by
  unfold netNSName wireguardInterfaceText
  simp only [String.append_assoc, String.append_right_inj]

theorem wireguardSystemdServiceName_eq_iff {cluster cluster' : Cluster} :
    wireguardSystemdServiceName cluster = wireguardSystemdServiceName cluster' ↔
      wireguardInterfaceText cluster = wireguardInterfaceText cluster' := by
  unfold wireguardSystemdServiceName wireguardInterfaceText
  rw [String.append_left_inj]
  simp only [String.append_assoc, String.append_right_inj]

/-- Both names are names of stored objects. -/
def ValidNames (cluster : Cluster) : Prop :=
  DNSName.isDNS1123Subdomain cluster.namespace = true ∧
    DNSName.isDNS1123Subdomain cluster.name = true

/-- A text that starts with more than dots is a part of a path if nothing in it is a
slash. -/
theorem plain_append_of_length {first rest : String} (hlen : 2 < first.length)
    (hfirst : '/' ∉ first.toList) (hrest : '/' ∉ rest.toList) : FilePath.Plain (first ++ rest) := by
  have hne : ∀ text : String, text.length ≤ 2 → first ++ rest ≠ text := by
    intro text htext heq
    rw [← heq, String.length_append] at htext
    omega
  refine ⟨hne "" (by decide), hne "." (by decide), hne ".." (by decide), ?_⟩
  rw [String.toList_append, List.mem_append, not_or]
  exact ⟨hfirst, hrest⟩

/-- The name of the unit is one part of its path. -/
theorem plain_wireguardSystemdServiceName {cluster : Cluster} (h : ValidNames cluster) :
    FilePath.Plain (wireguardSystemdServiceName cluster) := by
  have hrest : '/' ∉ (cluster.namespace ++ "-" ++ cluster.name ++ ".service").toList := by
    rw [String.toList_append, toList_append_dash, List.mem_append, List.mem_append, List.mem_cons,
      not_or, not_or, not_or]
    exact ⟨⟨DNSName.no_slash h.1, by decide, DNSName.no_slash h.2⟩, by decide⟩
  have hplain := plain_append_of_length (by decide : 2 < "oneinfra-wireguard-".length)
    (by decide) hrest
  rwa [← String.append_assoc, ← String.append_assoc, ← String.append_assoc] at hplain

theorem wireguardSystemdServicePath_eq_iff {cluster cluster' : Cluster} (h : ValidNames cluster)
    (h' : ValidNames cluster') :
    wireguardSystemdServicePath cluster = wireguardSystemdServicePath cluster' ↔
      wireguardSystemdServiceName cluster = wireguardSystemdServiceName cluster' := by
  constructor
  · intro heq
    have hdir : ∀ p ∈ ["etc", "systemd", "system"], FilePath.Plain p := by decide
    have hplain := plain_wireguardSystemdServiceName h
    have hplain' := plain_wireguardSystemdServiceName h'
    have hparts : ["etc", "systemd", "system"] ++ [wireguardSystemdServiceName cluster] =
        ["etc", "systemd", "system"] ++ [wireguardSystemdServiceName cluster'] := by
      refine FilePath.rooted_injective (plain_append hdir hplain) (plain_append hdir hplain') ?_
      rw [← FilePath.join_rooted_of_plain hdir hplain, ← FilePath.join_rooted_of_plain hdir hplain']
      exact heq
    exact List.singleton_inj.mp (List.append_cancel_left hparts)
  · intro heq
    unfold wireguardSystemdServicePath
    rw [heq]

/-- **Clusters on one host.**  The VPN servers of two clusters have different names in all
four places unless the namespace of one is that of the other followed by a part of its
name.  Otherwise they have the same names in all four. -/
theorem isolated_iff {cluster cluster' : Cluster} (h : ValidNames cluster)
    (h' : ValidNames cluster')
    (hne : (cluster.namespace, cluster.name) ≠ (cluster'.namespace, cluster'.name)) :
    Isolated cluster cluster' ↔ ¬ Shifted cluster cluster' ∧ ¬ Shifted cluster' cluster := by
  rw [← not_or, ← wireguardInterfaceText_eq_iff hne]
  constructor
  · exact fun hisolated => hisolated.interfaceText
  · intro htext
    refine ⟨?_, ?_, ?_, htext⟩
    · rwa [Ne, netNSName_eq_iff]
    · rwa [Ne, wireguardSystemdServiceName_eq_iff]
    · rwa [Ne, wireguardSystemdServicePath_eq_iff h h', wireguardSystemdServiceName_eq_iff]

/-- The cluster `b-c` of the namespace `a`, and the cluster `c` of the namespace `a-b`. -/
theorem not_isolated_dashes : ∃ cluster cluster' : Cluster,
    ValidNames cluster ∧ ValidNames cluster' ∧
    (cluster.namespace, cluster.name) ≠ (cluster'.namespace, cluster'.name) ∧
    netNSName cluster = netNSName cluster' ∧
    wireguardSystemdServiceName cluster = wireguardSystemdServiceName cluster' ∧
    wireguardSystemdServicePath cluster = wireguardSystemdServicePath cluster' ∧
    wireguardInterfaceText cluster = wireguardInterfaceText cluster' := by
  refine ⟨{ name := "b-c", «namespace» := "a" }, { name := "c", «namespace» := "a-b" }, ?_⟩
  unfold ValidNames
  decide +kernel

theorem isolated_iff_other_names : ∃ cluster cluster' : Cluster,
    ValidNames cluster ∧ ValidNames cluster' ∧ Isolated cluster cluster' := by
  have hvalid : ValidNames { name := "b", «namespace» := "a" } := by
    unfold ValidNames
    decide +kernel
  have hvalid' : ValidNames { name := "c", «namespace» := "a" } := by
    unfold ValidNames
    decide +kernel
  have hshort : ∀ middle, "a" ≠ "a" ++ "-" ++ middle := by
    intro middle h
    have hchars := congrArg String.toList h
    simp at hchars
  refine ⟨_, _, hvalid, hvalid', (isolated_iff hvalid hvalid' (by decide)).mpr ⟨?_, ?_⟩⟩
  · rintro ⟨middle, hns, -⟩
    exact hshort middle hns
  · rintro ⟨middle, hns, -⟩
    exact hshort middle hns

end OneInfra.Components.ControlPlaneIngress
