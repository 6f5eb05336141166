import OneInfra.Infra.Hypervisor

/-!
# The port allocator of a hypervisor

`Hypervisor.Represents` reads a hypervisor as a `Lib.SlotAllocator` over the
keys `(namespace, cluster, component)`, whose number `i` is the port
`portRangeLow + i`.  The two operations of the source are simulated by those
of the allocator (`requestPort_simulates`, `freePort_simulates`), so every
hypervisor that starts without ports is the image of an allocator after any
sequence of calls (`portInv_runPorts`).  What the allocator carries as fields
is then true of the hypervisor.

The sum wraps around, and no port is above a range that ends with the largest
integer.  On such a hypervisor no request ever fails.  Below that, the capacity
is the size of the range.
-/

namespace OneInfra.Infra.Hypervisor

open OneInfra.Lib

/-- The port with a number. -/
def portAt (hypervisor : Hypervisor) (i : Nat) : Int64 :=
  hypervisor.portRangeLow + Int64.ofNat i

/-- How many ports can be allocated: those of the range, or all integers if the
range ends with the largest one. -/
def capacity (hypervisor : Hypervisor) : Nat :=
  if hypervisor.portRangeHigh < Int64.maxValue then
    (hypervisor.portRangeHigh.toInt - hypervisor.portRangeLow.toInt + 1).toNat
  else 2 ^ 64

/-- The hypervisor holds the slots of the allocator `a`. -/
structure Represents (hypervisor : Hypervisor) (a : SlotAllocator PortKey) : Prop where
  capacity : a.capacity = hypervisor.capacity
  slots : hypervisor.allocatedPorts.map (fun p => (p.key, p.port)) =
    a.slots.map fun slot => (slot.1, hypervisor.portAt slot.2)
  freed : hypervisor.freedPorts = a.freed.map hypervisor.portAt

/-- The allocated and the freed ports. -/
def ports (hypervisor : Hypervisor) : List Int64 :=
  hypervisor.allocatedPorts.map (·.port) ++ hypervisor.freedPorts

/-- What one `RequestPort` can do: find the port, append a new allocation, or
fail. -/
theorem requestPort_cases (hypervisor : Hypervisor)
    (clusterNamespace clusterName componentName : String) :
    (∃ p, hypervisor.hasPort clusterNamespace clusterName componentName = some p ∧
        hypervisor.requestPort clusterNamespace clusterName componentName = (.ok p, hypervisor)) ∨
      (hypervisor.hasPort clusterNamespace clusterName componentName = none ∧
        ∃ p, hypervisor.requestPort clusterNamespace clusterName componentName =
          (.ok p, { hypervisor with
            freedPorts := hypervisor.freedPorts.tail
            allocatedPorts := hypervisor.allocatedPorts ++
              [⟨clusterNamespace, clusterName, componentName, p⟩] })) ∨
      (hypervisor.hasPort clusterNamespace clusterName componentName = none ∧
        ∃ msg, hypervisor.requestPort clusterNamespace clusterName componentName =
          (.error msg, hypervisor)) := by
  unfold requestPort
  cases hport : hypervisor.hasPort clusterNamespace clusterName componentName with
  | some p => exact .inl ⟨p, rfl, rfl⟩
  | none =>
    cases hfreed : hypervisor.freedPorts with
    | cons p freed => exact .inr (.inl ⟨rfl, p, rfl⟩)
    | nil =>
      dsimp only
      split_ifs with hp
      · exact .inr (.inr ⟨rfl, _, rfl⟩)
      · exact .inr (.inl ⟨rfl, _, rfl⟩)

section Request

variable {hypervisor : Hypervisor} {ns cl comp : String}
  (hnew : hypervisor.hasPort ns cl comp = none)

include hnew

theorem requestPort_of_freed {p : Int64} {freed : List Int64}
    (hfreed : hypervisor.freedPorts = p :: freed) :
    hypervisor.requestPort ns cl comp =
      (.ok p, { hypervisor with
        freedPorts := freed
        allocatedPorts := hypervisor.allocatedPorts ++
          [⟨ns, cl, comp, p⟩] }) := by
  simp only [requestPort, hnew, hfreed]

theorem requestPort_of_nil (hfreed : hypervisor.freedPorts = []) :
    hypervisor.requestPort ns cl comp =
      let p := hypervisor.portAt hypervisor.allocatedPorts.length
      if p > hypervisor.portRangeHigh ∨ 2 ^ 64 ≤ hypervisor.allocatedPorts.length then
        (.error ("no available ports on hypervisor \"" ++ hypervisor.name ++ "\""), hypervisor)
      else
        (.ok p, { hypervisor with
          allocatedPorts := hypervisor.allocatedPorts ++
            [⟨ns, cl, comp, p⟩] }) := by
  simp only [requestPort, hnew, hfreed]
  rfl

end Request

/-! ## Ports and their numbers -/

section Numbers

variable {hypervisor : Hypervisor} {i j : Nat}

theorem portAt_inj (hi : i < 2 ^ 64) (hj : j < 2 ^ 64)
    (h : hypervisor.portAt i = hypervisor.portAt j) : i = j := by
  have hsame := congrArg Int64.toBitVec ((Int64.add_right_inj _).mp h)
  rw [Int64.toBitVec_ofNat', Int64.toBitVec_ofNat'] at hsame
  have hmod := congrArg BitVec.toNat hsame
  simp only [BitVec.toNat_ofNat] at hmod
  omega

/-- The sum does not wrap around up to the largest integer. -/
theorem toInt_portAt (h : hypervisor.portRangeLow.toInt + i < 2 ^ 63) :
    (hypervisor.portAt i).toInt = hypervisor.portRangeLow.toInt + i := by
  have hlow := hypervisor.portRangeLow.le_toInt
  rw [portAt, Int64.toInt_add, Int64.toInt_ofNat', Int64.size, Int.add_bmod_bmod]
  exact Int.bmod_eq_of_le (by omega) (by omega)

theorem capacity_le (hypervisor : Hypervisor) : hypervisor.capacity ≤ 2 ^ 64 := by
  have hlow := hypervisor.portRangeLow.le_toInt
  have hhigh := hypervisor.portRangeHigh.toInt_lt
  unfold capacity
  split_ifs <;> omega

theorem lt_maxValue_iff {high : Int64} : high < Int64.maxValue ↔ high.toInt < 2 ^ 63 - 1 := by
  rw [Int64.lt_iff_toInt_lt, Int64.toInt_maxValue]

/-- The ports of a range that does not end with the largest integer. -/
theorem toInt_portAt_of_le (hhigh : hypervisor.portRangeHigh < Int64.maxValue)
    (hi : i ≤ hypervisor.capacity) :
    (hypervisor.portAt i).toInt = hypervisor.portRangeLow.toInt + i := by
  have hlow := hypervisor.portRangeLow.toInt_lt
  rw [capacity, if_pos hhigh] at hi
  rw [lt_maxValue_iff] at hhigh
  exact toInt_portAt (by omega)

/-- The test of `RequestPort` for a new port. -/
theorem lt_capacity_iff (hi : i ≤ hypervisor.capacity) :
    i < hypervisor.capacity ↔
      ¬ (hypervisor.portAt i > hypervisor.portRangeHigh ∨ 2 ^ 64 ≤ i) := by
  have hbnd := hypervisor.capacity_le
  by_cases hhigh : hypervisor.portRangeHigh < Int64.maxValue
  · have hport := toInt_portAt_of_le hhigh hi
    rw [gt_iff_lt, Int64.lt_iff_toInt_lt, hport]
    rw [capacity, if_pos hhigh] at hi hbnd ⊢
    omega
  · have hle : ¬ hypervisor.portAt i > hypervisor.portRangeHigh := fun hgt =>
      hhigh (Int64.lt_of_lt_of_le hgt (Int64.le_maxValue _))
    rw [capacity, if_neg hhigh]
    simp [hle]

end Numbers

section Simulation

variable {hypervisor : Hypervisor} {a : SlotAllocator PortKey}

theorem Represents.ports_eq (h : hypervisor.Represents a) :
    hypervisor.ports = (a.slots.map Prod.snd ++ a.freed).map hypervisor.portAt := by
  have hslots := congrArg (List.map Prod.snd) h.slots
  simp only [List.map_map] at hslots
  rw [ports, h.freed, List.map_append, List.map_map]
  exact congrArg (· ++ _) hslots

theorem Represents.keys_eq (h : hypervisor.Represents a) :
    hypervisor.allocatedPorts.map (·.key) = a.slots.map Prod.fst := by
  have hslots := congrArg (List.map Prod.fst) h.slots
  simp only [List.map_map] at hslots
  exact hslots

theorem Represents.length_eq (h : hypervisor.Represents a) :
    hypervisor.allocatedPorts.length = a.slots.length := by
  simpa using congrArg List.length h.slots

theorem Represents.lt_of_mem (h : hypervisor.Represents a) {i : Nat}
    (hi : i ∈ a.slots.map Prod.snd ++ a.freed) : i < hypervisor.capacity := by
  have hlt := (a.mem_iff i).mp hi
  have hle := a.length_le
  rw [h.capacity] at hle
  omega

/-- `HasPort` compares the three names one by one.  That is the comparison
of the keys. -/
theorem hasPort_eq_lookupKey (hypervisor : Hypervisor)
    (ns cl comp : String) :
    hypervisor.hasPort ns cl comp =
      (lookupKey HypervisorPortAllocation.key
        (ns, cl, comp)
        hypervisor.allocatedPorts).map (·.port) := by
  simp only [hasPort, lookupKey, HypervisorPortAllocation.key, Prod.mk.injEq]

theorem Represents.held_eq (h : hypervisor.Represents a)
    (ns cl comp : String) :
    hypervisor.hasPort ns cl comp = (a.held (ns, cl, comp)).map hypervisor.portAt := by
  have hfind := congrArg (fun l => (lookupKey Prod.fst
    (ns, cl, comp) l).map Prod.snd) h.slots
  simp only [lookupKey, List.find?_map, Option.map_map] at hfind
  rw [hasPort_eq_lookupKey, SlotAllocator.held, Option.map_map]
  exact hfind

/-- One `RequestPort` is one request of the allocator. -/
theorem requestPort_simulates (h : hypervisor.Represents a)
    (ns cl comp : String) :
    (a.request (ns, cl, comp) = none ∧
        ∃ msg, hypervisor.requestPort ns cl comp = (.error msg, hypervisor)) ∨
      ∃ i a' hyp',
        a.request (ns, cl, comp) = some (i, a') ∧
          hypervisor.requestPort ns cl comp = (.ok (hypervisor.portAt i), hyp') ∧
          hyp'.Represents a' := by
  have hhas := h.held_eq ns cl comp
  cases hheld : a.held (ns, cl, comp) with
  | some i =>
    rw [hheld] at hhas
    refine .inr ⟨i, a, hypervisor, SlotAllocator.request_of_held hheld, ?_, h⟩
    rw [requestPort, hhas]
    rfl
  | none =>
    rw [hheld] at hhas
    have hslots := h.slots
    have hports := h.freed
    cases hfreed : a.freed with
    | cons i freed =>
      rw [hfreed] at hports
      obtain ⟨a', hreq, hcapacity, hslots', hfreed'⟩ :=
        SlotAllocator.request_of_freed hheld hfreed
      refine .inr ⟨i, a', _, hreq, requestPort_of_freed hhas hports,
        hcapacity.trans h.capacity, ?_, ?_⟩
      · simp only [List.map_append, hslots, hslots', List.map_cons, List.map_nil]
        rfl
      · rw [hfreed']
        rfl
    | nil =>
      rw [hfreed] at hports
      have hle := a.length_le
      rw [hfreed, h.capacity] at hle
      have htest := lt_capacity_iff hle
      rw [List.length_nil, Nat.add_zero, ← h.capacity] at htest
      rw [requestPort_of_nil hhas hports, h.length_eq]
      dsimp only
      rcases SlotAllocator.request_of_nil hheld hfreed with
        ⟨hroom, a', hreq, hcapacity, hslots', hfreed'⟩ | ⟨hfull, hreq⟩
      · rw [if_neg (htest.mp hroom)]
        refine .inr ⟨_, a', _, hreq, rfl, hcapacity.trans h.capacity, ?_, ?_⟩
        · simp only [List.map_append, hslots, hslots', List.map_cons, List.map_nil]
          rfl
        · rw [hfreed']
          exact hports
      · rw [if_pos (Classical.not_not.mp (mt htest.mpr hfull))]
        exact .inl ⟨hreq, _, rfl⟩

/-- One `FreePort` is one release of the allocator. -/
theorem freePort_simulates (h : hypervisor.Represents a)
    (ns cl comp : String) :
    (hypervisor.freePort ns cl comp).Represents
      (a.release (ns, cl, comp)) := by
  have hhas := h.held_eq ns cl comp
  rw [hasPort_eq_lookupKey] at hhas
  have hfilter := filter_key_eq_toList HypervisorPortAllocation.key
    (ns, cl, comp) (h.keys_eq ▸ a.keys_nodup)
  simp only [HypervisorPortAllocation.key, Prod.mk.injEq] at hfilter
  unfold freePort
  simp only [hfilter]
  cases hheld : a.held (ns, cl, comp) with
  | none =>
    rw [hheld, Option.map_none, Option.map_eq_none_iff] at hhas
    rw [hhas, SlotAllocator.release_of_not_held hheld]
    exact h
  | some i =>
    rw [hheld] at hhas
    obtain ⟨allocation, hlk, hport⟩ := Option.map_eq_some_iff.mp hhas
    obtain ⟨hcapacity, hslots, hfreed⟩ := SlotAllocator.release_of_held hheld
    rw [hlk]
    refine ⟨hcapacity.trans h.capacity, ?_, ?_⟩
    · have hkept := congrArg (List.filter fun slot =>
        slot.1 ≠ (ns, cl, comp)) h.slots
      rw [List.filter_map, List.filter_map] at hkept
      rw [hslots]
      refine Eq.trans ?_ hkept
      refine congrArg (List.map _) (List.filter_congr fun x _ => ?_)
      simp [HypervisorPortAllocation.key]
    · rw [hfreed, List.map_append]
      exact congrArg₂ (· ++ [·]) h.freed hport

end Simulation

/-! ## Runs of the two operations -/

/-- One call on the port allocator. -/
inductive PortCall where
  | request (ns cl comp : String)
  | free (ns cl comp : String)
deriving DecidableEq, Repr

/-- The hypervisor after one call. -/
def stepPorts (hypervisor : Hypervisor) : PortCall → Hypervisor
  | .request ns cluster component => (hypervisor.requestPort ns cluster component).2
  | .free ns cluster component => hypervisor.freePort ns cluster component

/-- The hypervisor after a sequence of calls. -/
def runPorts (hypervisor : Hypervisor) (calls : List PortCall) : Hypervisor :=
  calls.foldl stepPorts hypervisor

/-- The hypervisor is the image of an allocator. -/
def PortInv (hypervisor : Hypervisor) : Prop :=
  ∃ a, hypervisor.Represents a

/-- A hypervisor without allocated or freed ports is the empty allocator. -/
theorem portInv_of_empty {hypervisor : Hypervisor} (halloc : hypervisor.allocatedPorts = [])
    (hfreed : hypervisor.freedPorts = []) : hypervisor.PortInv := by
  refine ⟨SlotAllocator.empty hypervisor.capacity, rfl, ?_, hfreed⟩
  rw [halloc]
  rfl

theorem portInv_requestPort {hypervisor : Hypervisor} (h : hypervisor.PortInv)
    (ns cl comp : String) :
    (hypervisor.requestPort ns cl comp).2.PortInv := by
  obtain ⟨a, ha⟩ := h
  rcases requestPort_simulates ha ns cl comp with
    ⟨-, msg, heq⟩ | ⟨p, a', hyp', -, heq, ha'⟩
  · rw [heq]
    exact ⟨a, ha⟩
  · rw [heq]
    exact ⟨a', ha'⟩

theorem portInv_freePort {hypervisor : Hypervisor} (h : hypervisor.PortInv)
    (ns cl comp : String) :
    (hypervisor.freePort ns cl comp).PortInv := by
  obtain ⟨a, ha⟩ := h
  exact ⟨_, freePort_simulates ha ns cl comp⟩

/-- The invariant is about the range and the ports only. -/
theorem PortInv.congr {hypervisor hyp' : Hypervisor} (h : hypervisor.PortInv)
    (hlow : hyp'.portRangeLow = hypervisor.portRangeLow)
    (hhigh : hyp'.portRangeHigh = hypervisor.portRangeHigh)
    (halloc : hyp'.allocatedPorts = hypervisor.allocatedPorts)
    (hfreed : hyp'.freedPorts = hypervisor.freedPorts) : hyp'.PortInv := by
  obtain ⟨a, ha⟩ := h
  have hport : hyp'.portAt = hypervisor.portAt := by
    funext i
    rw [portAt, portAt, hlow]
  refine ⟨a, ?_, ?_, ?_⟩
  · rw [ha.capacity, capacity, capacity, hlow, hhigh]
  · rw [halloc, hport]
    exact ha.slots
  · rw [hfreed, hport]
    exact ha.freed

theorem portInv_runPorts {hypervisor : Hypervisor} (h : hypervisor.PortInv)
    (calls : List PortCall) : (hypervisor.runPorts calls).PortInv := by
  induction calls generalizing hypervisor with
  | nil => exact h
  | cons call calls ih =>
    rw [runPorts, List.foldl_cons]
    apply ih
    cases call with
    | request ns cluster component => exact portInv_requestPort h ns cluster component
    | free ns cluster component => exact portInv_freePort h ns cluster component

/-- No call moves the port range. -/
theorem stepPorts_range (hypervisor : Hypervisor) (call : PortCall) :
    (hypervisor.stepPorts call).portRangeLow = hypervisor.portRangeLow ∧
      (hypervisor.stepPorts call).portRangeHigh = hypervisor.portRangeHigh := by
  cases call with
  | request ns cluster component =>
    simp only [stepPorts]
    rcases hypervisor.requestPort_cases ns cluster component with
      ⟨p, -, heq⟩ | ⟨-, p, heq⟩ | ⟨-, msg, heq⟩ <;> rw [heq] <;> exact ⟨rfl, rfl⟩
  | free ns cluster component =>
    simp only [stepPorts, freePort]
    split <;> exact ⟨rfl, rfl⟩

theorem runPorts_range (hypervisor : Hypervisor) (calls : List PortCall) :
    (hypervisor.runPorts calls).portRangeLow = hypervisor.portRangeLow ∧
      (hypervisor.runPorts calls).portRangeHigh = hypervisor.portRangeHigh := by
  induction calls generalizing hypervisor with
  | nil => exact ⟨rfl, rfl⟩
  | cons call calls ih =>
    have hstep := hypervisor.stepPorts_range call
    have hrest := ih (hypervisor.stepPorts call)
    exact ⟨hrest.1.trans hstep.1, hrest.2.trans hstep.2⟩

/-! ## What the invariant says -/

section Consequences

variable {hypervisor : Hypervisor}

theorem PortInv.nodup_ports (h : hypervisor.PortInv) : hypervisor.ports.Nodup := by
  obtain ⟨a, ha⟩ := h
  rw [ha.ports_eq]
  refine a.tiles.nodup.map_on fun i hi j hj hsame => ?_
  have hbnd := hypervisor.capacity_le
  exact portAt_inj (Nat.lt_of_lt_of_le (ha.lt_of_mem hi) hbnd)
    (Nat.lt_of_lt_of_le (ha.lt_of_mem hj) hbnd) hsame

/-- The ports are an initial segment of a range below the largest integer. -/
theorem PortInv.mem_ports_iff (h : hypervisor.PortInv)
    (hhigh : hypervisor.portRangeHigh < Int64.maxValue) (p : Int64) :
    p ∈ hypervisor.ports ↔ hypervisor.portRangeLow.toInt ≤ p.toInt ∧
      p.toInt < hypervisor.portRangeLow.toInt + hypervisor.allocatedPorts.length +
        hypervisor.freedPorts.length := by
  obtain ⟨a, ha⟩ := h
  have hlen : hypervisor.freedPorts.length = a.freed.length := by
    rw [ha.freed, List.length_map]
  have hle := a.length_le
  rw [ha.capacity] at hle
  rw [ha.ports_eq, List.mem_map, ha.length_eq, hlen]
  constructor
  · rintro ⟨i, hi, rfl⟩
    have hlt := (a.mem_iff i).mp hi
    rw [toInt_portAt_of_le hhigh (ha.lt_of_mem hi).le]
    omega
  · rintro ⟨hlow, hlt⟩
    refine ⟨(p.toInt - hypervisor.portRangeLow.toInt).toNat, (a.mem_iff _).mpr (by omega), ?_⟩
    rw [← Int64.toInt_inj, toInt_portAt_of_le hhigh (by omega)]
    omega

theorem PortInv.count_ports (h : hypervisor.PortInv)
    (hhigh : hypervisor.portRangeHigh < Int64.maxValue) (p : Int64) :
    hypervisor.ports.count p =
      if hypervisor.portRangeLow.toInt ≤ p.toInt ∧ p.toInt < hypervisor.portRangeLow.toInt +
          hypervisor.allocatedPorts.length + hypervisor.freedPorts.length then 1 else 0 := by
  split_ifs with hp
  · exact List.count_eq_one_of_mem h.nodup_ports ((h.mem_ports_iff hhigh p).mpr hp)
  · exact List.count_eq_zero_of_not_mem fun hmem => hp ((h.mem_ports_iff hhigh p).mp hmem)

theorem PortInv.mem_ports (h : hypervisor.PortInv)
    (hhigh : hypervisor.portRangeHigh < Int64.maxValue) {p : Int64} (hp : p ∈ hypervisor.ports) :
    hypervisor.portRangeLow ≤ p ∧ p ≤ hypervisor.portRangeHigh := by
  obtain ⟨a, ha⟩ := h
  rw [ha.ports_eq] at hp
  obtain ⟨i, hi, rfl⟩ := List.mem_map.mp hp
  have hlt := ha.lt_of_mem hi
  rw [Int64.le_iff_toInt_le, Int64.le_iff_toInt_le, toInt_portAt_of_le hhigh hlt.le]
  rw [capacity, if_pos hhigh] at hlt
  omega

theorem PortInv.keys_nodup (h : hypervisor.PortInv) :
    (hypervisor.allocatedPorts.map (·.key)).Nodup := by
  obtain ⟨a, ha⟩ := h
  exact ha.keys_eq ▸ a.keys_nodup

/-- An allocation is what `HasPort` finds. -/
theorem PortInv.hasPort_eq_some_iff (h : hypervisor.PortInv)
    {ns cl comp : String} {p : Int64} :
    hypervisor.hasPort ns cl comp = some p ↔
      ⟨ns, cl, comp, p⟩ ∈ hypervisor.allocatedPorts := by
  rw [hasPort_eq_lookupKey, Option.map_eq_some_iff]
  constructor
  · rintro ⟨⟨ns, cluster, component, port⟩, hlk, rfl⟩
    obtain ⟨hmem, hkey⟩ := lookupKey_some_mem hlk
    simp only [HypervisorPortAllocation.key, Prod.mk.injEq] at hkey
    obtain ⟨rfl, rfl, rfl⟩ := hkey
    exact hmem
  · intro hmem
    exact ⟨_, (lookupKey_eq_some_iff h.keys_nodup).mpr ⟨hmem, rfl⟩, rfl⟩

theorem PortInv.hasPort_eq_none_iff (h : hypervisor.PortInv)
    {ns cl comp : String} :
    hypervisor.hasPort ns cl comp = none ↔
      ∀ p, ⟨ns, cl, comp, p⟩ ∉ hypervisor.allocatedPorts := by
  rw [Option.eq_none_iff_forall_not_mem]
  simp only [Option.mem_def, h.hasPort_eq_some_iff]

/-- A port is allocated to one owner. -/
theorem PortInv.key_eq_of_port_eq (h : hypervisor.PortInv)
    {x y : HypervisorPortAllocation} (hx : x ∈ hypervisor.allocatedPorts)
    (hy : y ∈ hypervisor.allocatedPorts) (hport : x.port = y.port) : x = y := by
  exact List.inj_on_of_nodup_map (List.Nodup.of_append_left h.nodup_ports) hx hy hport

/-- A request for a key that has a port gives that port and changes
nothing. -/
theorem PortInv.requestPort_of_mem (h : hypervisor.PortInv)
    {ns cl comp : String} {p : Int64}
    (hmem : ⟨ns, cl, comp, p⟩ ∈ hypervisor.allocatedPorts) :
    hypervisor.requestPort ns cl comp = (.ok p, hypervisor) := by
  rw [requestPort, h.hasPort_eq_some_iff.mpr hmem]

/-- A request fails exactly when the key has no port and no port of the
range is left. -/
theorem PortInv.requestPort_error_iff (h : hypervisor.PortInv)
    (hhigh : hypervisor.portRangeHigh < Int64.maxValue)
    (ns cl comp : String) :
    (∃ msg, (hypervisor.requestPort ns cl comp).1 = .error msg) ↔
      (∀ p, ⟨ns, cl, comp, p⟩ ∉
          hypervisor.allocatedPorts) ∧
        ∀ p, hypervisor.portRangeLow ≤ p → p ≤ hypervisor.portRangeHigh →
          p ∈ hypervisor.allocatedPorts.map (·.port) := by
  rw [← h.hasPort_eq_none_iff]
  obtain ⟨a, ha⟩ := h
  have hslots := congrArg (List.map Prod.snd) ha.slots
  simp only [List.map_map] at hslots
  have hrange : (∀ p, hypervisor.portRangeLow ≤ p → p ≤ hypervisor.portRangeHigh →
      p ∈ hypervisor.allocatedPorts.map (·.port)) ↔
      ∀ i < a.capacity, i ∈ a.slots.map Prod.snd := by
    have hbnd := hypervisor.capacity_le
    have hcapacity : hypervisor.capacity = _ := if_pos hhigh
    rw [ha.capacity]
    constructor
    · intro hall i hi
      have hport := toInt_portAt_of_le hhigh hi.le
      have hmem := hall (hypervisor.portAt i) (by rw [Int64.le_iff_toInt_le]; omega)
        (by rw [Int64.le_iff_toInt_le]; omega)
      rw [show hypervisor.allocatedPorts.map (·.port) = _ from hslots] at hmem
      obtain ⟨slot, hslot, hsame⟩ := List.mem_map.mp hmem
      have hlt := ha.lt_of_mem (List.mem_append_left _ (List.mem_map_of_mem hslot))
      exact portAt_inj (by omega) (by omega) hsame ▸ List.mem_map_of_mem hslot
    · intro hall p hlow hle
      rw [Int64.le_iff_toInt_le] at hlow hle
      have hi := hall (p.toInt - hypervisor.portRangeLow.toInt).toNat (by omega)
      obtain ⟨slot, hslot, hsame⟩ := List.mem_map.mp hi
      rw [show hypervisor.allocatedPorts.map (·.port) = _ from hslots]
      refine List.mem_map.mpr ⟨slot, hslot, ?_⟩
      rw [Function.comp_apply, hsame, ← Int64.toInt_inj, toInt_portAt_of_le hhigh (by omega)]
      omega
  rw [ha.held_eq, Option.map_eq_none_iff, hrange, ← SlotAllocator.request_eq_none_iff]
  rcases requestPort_simulates ha ns cl comp with
    ⟨hnone, msg, heq⟩ | ⟨i, a', hyp', hsome, heq, -⟩
  · simp [heq, hnone]
  · simp [heq, hsome]

/-- A failed request changes nothing. -/
theorem requestPort_error (hypervisor : Hypervisor)
    (ns cl comp : String) {msg : String}
    (herr : (hypervisor.requestPort ns cl comp).1 = .error msg) :
    (hypervisor.requestPort ns cl comp).2 = hypervisor := by
  rcases hypervisor.requestPort_cases ns cl comp with
    ⟨p, -, heq⟩ | ⟨-, p, heq⟩ | ⟨-, msg', heq⟩
  · rw [heq]
  · rw [heq] at herr
    cases herr
  · rw [heq]

/-- What is left after a key was freed. -/
theorem mem_allocatedPorts_freePort (hypervisor : Hypervisor)
    (ns cl comp : String) {x : HypervisorPortAllocation} :
    x ∈ (hypervisor.freePort ns cl comp).allocatedPorts ↔
      x ∈ hypervisor.allocatedPorts ∧ x.key ≠ (ns, cl, comp) := by
  have hkey : x.key = (ns, cl, comp) ↔
      x.clusterNamespace = ns ∧ x.cluster = cl ∧
        x.component = comp := by simp [HypervisorPortAllocation.key]
  simp only [freePort]
  split
  · next hnone =>
    rw [List.getLast?_eq_none_iff, List.filter_eq_nil_iff] at hnone
    refine (and_iff_left_of_imp fun hx hmatch => hnone x hx ?_).symm
    exact decide_eq_true (hkey.mp hmatch)
  · rw [List.mem_filter, ne_eq, hkey, Bool.not_eq_true', decide_eq_false_iff_not]

/-- To free a key that has no port changes nothing. -/
theorem freePort_of_not_mem (hypervisor : Hypervisor)
    (ns cl comp : String)
    (hnot : ∀ p, ⟨ns, cl, comp, p⟩ ∉
      hypervisor.allocatedPorts) :
    hypervisor.freePort ns cl comp = hypervisor := by
  have hfilter : hypervisor.allocatedPorts.filter (fun p =>
      p.clusterNamespace = ns ∧ p.cluster = cl ∧
        p.component = comp) = [] := by
    rw [List.filter_eq_nil_iff]
    intro x hx hmatch
    simp only [decide_eq_true_eq] at hmatch
    obtain ⟨rfl, rfl, rfl⟩ := hmatch
    exact hnot x.port hx
  simp only [freePort, hfilter, List.getLast?_nil]

end Consequences

/-- The port allocator over any sequence of calls.  The calls start from a
hypervisor without allocated and freed ports, on any port range that does not end
with the largest integer. -/
theorem runPorts_spec (hypervisor : Hypervisor)
    (hrange : hypervisor.portRangeHigh < Int64.maxValue)
    (halloc : hypervisor.allocatedPorts = []) (hfreed : hypervisor.freedPorts = [])
    (calls : List PortCall) :
    let low := hypervisor.portRangeLow
    let high := hypervisor.portRangeHigh
    let s := hypervisor.runPorts calls
    (∀ p, (s.allocatedPorts.map (·.port) ++ s.freedPorts).count p =
        if low.toInt ≤ p.toInt ∧
          p.toInt < low.toInt + s.allocatedPorts.length + s.freedPorts.length
        then 1 else 0) ∧
      (∀ p ∈ s.allocatedPorts.map (·.port) ++ s.freedPorts, low ≤ p ∧ p ≤ high) ∧
      (s.allocatedPorts.map (·.key)).Nodup ∧
      ∀ ns cl comp,
        (∀ p, ⟨ns, cl, comp, p⟩ ∈ s.allocatedPorts →
          s.requestPort ns cl comp = (.ok p, s)) ∧
        ((∃ msg, (s.requestPort ns cl comp).1 = .error msg) ↔
          (∀ p, ⟨ns, cl, comp, p⟩ ∉ s.allocatedPorts) ∧
            ∀ p, low ≤ p → p ≤ high → p ∈ s.allocatedPorts.map (·.port)) ∧
        (∀ msg, (s.requestPort ns cl comp).1 = .error msg →
          (s.requestPort ns cl comp).2 = s) ∧
        ((∀ p, ⟨ns, cl, comp, p⟩ ∉ s.allocatedPorts) →
          s.freePort ns cl comp = s) := by
  intro low high s
  have hinv : s.PortInv := portInv_runPorts (portInv_of_empty halloc hfreed) calls
  obtain ⟨hlow, hhigh⟩ : s.portRangeLow = low ∧ s.portRangeHigh = high :=
    hypervisor.runPorts_range calls
  have hbelow : s.portRangeHigh < Int64.maxValue := hhigh ▸ hrange
  refine ⟨?_, ?_, hinv.keys_nodup, ?_⟩
  · intro p
    exact hlow ▸ hinv.count_ports hbelow p
  · intro p hp
    exact hlow ▸ hhigh ▸ hinv.mem_ports hbelow hp
  · intro ns cluster component
    refine ⟨fun p hp => hinv.requestPort_of_mem hp, ?_,
      fun msg hmsg => s.requestPort_error ns cluster component hmsg,
      s.freePort_of_not_mem ns cluster component⟩
    exact hlow ▸ hhigh ▸ hinv.requestPort_error_iff hbelow ns cluster component

/-- Two requests, a free and a request that takes the freed port over. -/
theorem runPorts_spec_reuse :
    let hypervisor : Hypervisor := ⟨"private", 0, "10.0.0.1", ∅, 30000, 30001, [], []⟩
    let calls : List PortCall :=
      [.request "default" "c" "a-apiserver", .request "default" "c" "b-apiserver",
        .free "default" "c" "a-apiserver", .request "default" "c" "d-apiserver"]
    (hypervisor.runPorts calls).allocatedPorts =
        [⟨"default", "c", "b-apiserver", 30001⟩, ⟨"default", "c", "d-apiserver", 30000⟩] ∧
      ((hypervisor.runPorts calls).allocatedPorts.map (·.key)).Nodup := by
  intro hypervisor calls
  exact ⟨by decide, (runPorts_spec hypervisor (by decide) rfl rfl calls).2.2.1⟩

/-- The range has one port, the largest integer.  A second request is answered with the
smallest one, although the only port of the range is allocated. -/
theorem runPorts_wraps :
    let hypervisor : Hypervisor :=
      ⟨"private", 0, "10.0.0.1", ∅, Int64.maxValue, Int64.maxValue, [], []⟩
    let s := hypervisor.runPorts [.request "default" "c" "a-apiserver"]
    s.allocatedPorts.map (·.port) = [Int64.maxValue] ∧
      (s.requestPort "default" "c" "b-apiserver").1 = .ok Int64.minValue ∧
      Int64.minValue < hypervisor.portRangeLow := by
  decide

end OneInfra.Infra.Hypervisor
