import OneInfra.Infra.V1alpha1
import OneInfra.Lib.Reach

/-!
# Edits of the port range

A user can edit the port range of a stored hypervisor at any time, and nothing
checks the new range against the ports that are allocated or freed already.  The
hypervisor that is imported afterwards goes on with the new range and the old
ports.  Its next port is computed from the new lower end and the number of
allocated ports, and a freed port is handed out as it is.

`KeepsPorts` is the condition on an edit under which the ports stay unique and in
range: the lower end moves only while there are no ports, and the upper end not
below one and not to the largest integer, where the sum wraps around.  The
invariant is still that of `OneInfra.Infra.Ports`.
-/

namespace OneInfra.Infra

open OneInfra.Lib

/-- What happens to a hypervisor: the two calls, and an import of the exported
hypervisor with another port range. -/
inductive PortEvent
  | request (clusterNamespace clusterName componentName : String)
  | free (clusterNamespace clusterName componentName : String)
  | reimport (low high : Int64) (connectionPool : HypervisorConnectionPool)

namespace ImportedHypervisor

/-- The exported hypervisor with an edited port range. -/
def edited (hypervisor : ImportedHypervisor) (low high : Int64) : V1alpha1.Hypervisor :=
  { hypervisor.export with spec.portRange := ⟨low, high⟩ }

/-- The hypervisor after an event. -/
def step (hypervisor : ImportedHypervisor) : PortEvent → ImportedHypervisor
  | .request clusterNamespace clusterName componentName =>
    { hypervisor with toHypervisor :=
        (hypervisor.requestPort clusterNamespace clusterName componentName).2 }
  | .free clusterNamespace clusterName componentName =>
    { hypervisor with toHypervisor :=
        hypervisor.freePort clusterNamespace clusterName componentName }
  | .reimport low high connectionPool =>
    match (newHypervisorFromv1alpha1 (hypervisor.edited low high) connectionPool).1 with
    | .ok imported => imported
    | .error _ => hypervisor

/-- An import of an edited hypervisor changes the port range and perhaps the
endpoint. -/
theorem toHypervisor_reimport (hypervisor : ImportedHypervisor) (low high : Int64)
    (connectionPool : HypervisorConnectionPool) :
    (hypervisor.step (.reimport low high connectionPool)).toHypervisor =
      { hypervisor.toHypervisor with portRangeLow := low, portRangeHigh := high } := by
  simp only [step, newHypervisorFromv1alpha1, specEndpoint]
  cases hep : hypervisor.endpoint <;> simp [edited, ImportedHypervisor.export, hep,
    HypervisorEndpoint.export]

/-- An edit moves the lower end only while there are no ports, and the upper end neither
below a port nor to the largest integer. -/
def KeepsPorts (hypervisor : ImportedHypervisor) : PortEvent → Prop
  | .reimport low high _ =>
    (hypervisor.ports = [] ∨ low = hypervisor.portRangeLow) ∧
      (∀ p ∈ hypervisor.ports, p ≤ high) ∧ high < Int64.maxValue
  | .request _ _ _ | .free _ _ _ => True

end ImportedHypervisor

namespace Hypervisor

/-- The invariant for another range. -/
theorem PortInv.withRange {hypervisor : Hypervisor} (h : hypervisor.PortInv)
    (hrange : hypervisor.portRangeHigh < Int64.maxValue)
    {low high : Int64} (hlow : hypervisor.ports = [] ∨ low = hypervisor.portRangeLow)
    (hports : ∀ p ∈ hypervisor.ports, p ≤ high) (hhigh : high < Int64.maxValue) :
    ({ hypervisor with portRangeLow := low, portRangeHigh := high }).PortInv := by
  rcases hlow with hnone | rfl
  · obtain ⟨halloc, hfreed⟩ := List.append_eq_nil_iff.mp hnone
    exact portInv_of_empty (List.map_eq_nil_iff.mp halloc) hfreed
  · obtain ⟨a, ha⟩ := h
    refine ⟨⟨capacity { hypervisor with portRangeHigh := high }, a.slots, a.freed, a.keys_nodup,
      a.tiles, ?_⟩, rfl, ha.slots, ha.freed⟩
    rw [capacity, if_pos hhigh]
    -- the last port is below the new upper end
    cases hlen : a.slots.length + a.freed.length with
    | zero => exact Nat.zero_le _
    | succ i =>
      have hi : i ∈ a.slots.map Prod.snd ++ a.freed := (a.mem_iff i).mpr (by omega)
      have hle := hports (hypervisor.portAt i) (ha.ports_eq ▸ List.mem_map_of_mem hi)
      rw [Int64.le_iff_toInt_le, toInt_portAt_of_le hrange (ha.lt_of_mem hi).le] at hle
      dsimp only
      omega

/-- A port that is newly allocated is in the range. -/
theorem PortInv.requestPort_mem_range {hypervisor : Hypervisor}
    (h : hypervisor.PortInv) (hrange : hypervisor.portRangeHigh < Int64.maxValue)
    {ns cluster comp : String} {p : Int64}
    (hnew : hypervisor.hasPort ns cluster comp = none)
    (hreq : (hypervisor.requestPort ns cluster comp).1 = .ok p) :
    hypervisor.portRangeLow ≤ p ∧ p ≤ hypervisor.portRangeHigh := by
  have hafter := portInv_requestPort h ns cluster comp
  rcases hypervisor.requestPort_cases ns cluster comp with
    ⟨q, hhas, -⟩ | ⟨-, q, heq⟩ | ⟨-, message, heq⟩
  · rw [hnew] at hhas
    cases hhas
  · rw [heq] at hreq hafter
    cases hreq
    exact hafter.mem_ports hrange (by simp [ports])
  · rw [heq] at hreq
    cases hreq

end Hypervisor

namespace ImportedHypervisor

/-- The invariant of runs. -/
structure InRange (hypervisor : ImportedHypervisor) : Prop where
  portInv : hypervisor.PortInv
  high : hypervisor.portRangeHigh < Int64.maxValue

theorem InRange.step {hypervisor : ImportedHypervisor} (h : hypervisor.InRange)
    {event : PortEvent} (hevent : hypervisor.KeepsPorts event) :
    (hypervisor.step event).InRange := by
  obtain ⟨hinv, hhigh⟩ := h
  cases event with
  | request ns cluster component =>
    refine ⟨Hypervisor.portInv_requestPort hinv ns cluster component, ?_⟩
    have hrange := (hypervisor.stepPorts_range (.request ns cluster component)).2
    exact Eq.trans_lt hrange hhigh
  | free ns cluster component =>
    refine ⟨Hypervisor.portInv_freePort hinv ns cluster component, ?_⟩
    have hrange := (hypervisor.stepPorts_range (.free ns cluster component)).2
    exact Eq.trans_lt hrange hhigh
  | reimport low high connectionPool =>
    obtain ⟨hlow, hports, hmax⟩ := hevent
    refine ⟨?_, ?_⟩
    · rw [toHypervisor_reimport]
      exact hinv.withRange hhigh hlow hports hmax
    · rw [toHypervisor_reimport]
      exact hmax

/-- Ports over any sequence of calls and edits of the range that keep the ports.  The
hypervisor at the start may have ports already. -/
theorem ports_of_reaches {start hypervisor : ImportedHypervisor} (hstart : start.PortInv)
    (hrange : start.portRangeHigh < Int64.maxValue)
    (hrun : Reaches step KeepsPorts start hypervisor) :
    (hypervisor.allocatedPorts.map (·.port)).Nodup ∧
      ∀ ns cluster comp p,
        hypervisor.hasPort ns cluster comp = none →
        (hypervisor.requestPort ns cluster comp).1 = .ok p →
        hypervisor.portRangeLow ≤ p ∧ p ≤ hypervisor.portRangeHigh := by
  obtain ⟨hinv, hhigh⟩ : hypervisor.InRange :=
    hrun.invariant (P := InRange) (fun s event hs hevent => hs.step hevent) ⟨hstart, hrange⟩
  exact ⟨List.Nodup.of_append_left hinv.nodup_ports,
    fun _ _ _ _ hnew hreq => hinv.requestPort_mem_range hhigh hnew hreq⟩

/-- A hypervisor without ports. -/
def withoutPorts : ImportedHypervisor :=
  { name := "private", resourceVersion := 0, ipAddress := "10.0.0.1", files := ∅
    portRangeLow := 30000, portRangeHigh := 30010, freedPorts := [], allocatedPorts := []
    labels := ∅, annotations := ∅, «public» := false
    endpoint := .localHypervisorEndpoint "/run/containerd.sock" }

/-- Two requests, an edit that raises the upper end, and a third request. -/
def raisedRange : List PortEvent :=
  [.request "default" "c" "a-apiserver", .request "default" "c" "b-apiserver",
    .reimport 30000 30020 ∅, .request "default" "c" "d-apiserver"]

theorem ports_raisedRange :
    (raisedRange.foldl step withoutPorts).allocatedPorts.map (·.port) = [30000, 30001, 30002] ∧
      ((raisedRange.foldl step withoutPorts).allocatedPorts.map (·.port)).Nodup := by
  have hstart : withoutPorts.PortInv := Hypervisor.portInv_of_empty rfl rfl
  refine ⟨by decide, (ports_of_reaches hstart (by decide) (reaches_foldl ?_)).1⟩
  have hports : ∀ p ∈ [30000, 30001], p ≤ (30020 : Int64) := by simp
  exact ⟨trivial, trivial, ⟨.inr rfl, hports, by decide⟩, trivial, trivial⟩

/-- Two requests, an edit that lowers the lower end by one, and a third request. -/
def loweredRange : List PortEvent :=
  [.request "default" "c" "a-apiserver", .request "default" "c" "b-apiserver",
    .reimport 29999 30010 ∅, .request "default" "c" "d-apiserver"]

/-- A port is freed, and then the range moves away from it. -/
def movedRange : List PortEvent :=
  [.request "default" "c" "a-apiserver", .free "default" "c" "a-apiserver",
    .reimport 40000 40010 ∅]

/-- After the first edit the third request gets the port of the second.  After the
other edit a request gets the freed port, which is out of the new range. -/
theorem ports_editedRange :
    (loweredRange.foldl step withoutPorts).allocatedPorts.map (·.port) = [30000, 30001, 30001] ∧
      (movedRange.foldl step withoutPorts).hasPort "default" "c" "b-apiserver" = none ∧
      ((movedRange.foldl step withoutPorts).requestPort "default" "c" "b-apiserver").1 =
        .ok 30000 ∧
      (movedRange.foldl step withoutPorts).portRangeLow = 40000 := by
  decide

end ImportedHypervisor

end OneInfra.Infra
