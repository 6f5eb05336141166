import OneInfra.Component.Performs

/-!
# What steps do to ports

A port is recorded twice, in the component that has it and in its hypervisor.  This
file follows both records through the steps of `OneInfra.Component.Steps`.

`hypervisor_cases` and `component_cases` say where a hypervisor and a component of
the world after a step come from.  Over a sequence of steps, the allocations of a
hypervisor are those from before and those of requests by the components of the
world, each on its own hypervisor, and a component has no port that its hypervisor
does not know, unless it had it before.
-/

namespace OneInfra

open Lib Infra

/-- The allocation of a port to a component. -/
def Component.allocation (component : Component) (pname : String) (port : Int64) :
    HypervisorPortAllocation :=
  ⟨component.namespace, component.clusterName, component.withSubcomponentName pname, port⟩

/-- Only the frozen part of a component matters for its allocations. -/
theorem Component.allocation_eq_of_frozen {component component' : Component}
    (hfrz : component'.frozen = component.frozen) (pname : String) (port : Int64) :
    component'.allocation pname port = component.allocation pname port :=
  (congrArg (fun c => c.allocation pname port) hfrz :
    component'.frozen.allocation pname port = component.frozen.allocation pname port)

/-- The hypervisor of a component has the port allocated to it. -/
def Allocated (hypervisors : List Hypervisor) (component : Component) (pname : String)
    (port : Int64) : Prop :=
  ∃ hypervisor ∈ hypervisors, hypervisor.name = component.hypervisorName ∧
    component.allocation pname port ∈ hypervisor.allocatedPorts

namespace Component

variable {component component' : Component} {hypervisor hypervisor' : Hypervisor}
  {pname : String} {port : Int64}

/-- After a request that succeeds, the hypervisor has the allocations from before and
maybe the new one. -/
theorem mem_allocatedPorts_requestPort
    (h : component.requestPort hypervisor pname = (.ok port, component', hypervisor'))
    {allocation : HypervisorPortAllocation} :
    allocation ∈ hypervisor'.allocatedPorts → allocation ∈ hypervisor.allocatedPorts ∨
      allocation = component.allocation pname port := by
  intro hmem
  rcases requestPort_cases h with ⟨-, -, rfl⟩ | ⟨-, -, hreq⟩
  · exact .inl hmem
  rcases hypervisor.requestPort_cases component.namespace component.clusterName
      (component.withSubcomponentName pname) with
    ⟨p, -, heq⟩ | ⟨-, p, heq⟩ | ⟨-, message, heq⟩ <;> rw [heq] at hreq <;> cases hreq
  · exact .inl hmem
  · rcases List.mem_append.mp hmem with hold | hnew
    · exact .inl hold
    · exact .inr (List.mem_singleton.mp hnew)

/-- A request keeps the allocations. -/
theorem allocatedPorts_subset_requestPort
    (h : component.requestPort hypervisor pname = (.ok port, component', hypervisor')) :
    hypervisor.allocatedPorts ⊆ hypervisor'.allocatedPorts := by
  rcases requestPort_cases h with ⟨-, -, rfl⟩ | ⟨-, -, hreq⟩
  · exact fun _ => id
  rcases hypervisor.requestPort_cases component.namespace component.clusterName
      (component.withSubcomponentName pname) with
    ⟨p, -, heq⟩ | ⟨-, p, heq⟩ | ⟨-, message, heq⟩ <;> rw [heq] at hreq <;> cases hreq
  · exact fun _ => id
  · exact List.subset_append_left _ _

/-- The port that a component did not have before is allocated to it. -/
theorem allocation_mem_requestPort (hinv : hypervisor.PortInv)
    (h : component.requestPort hypervisor pname = (.ok port, component', hypervisor'))
    (hnew : component.allocatedHostPorts.lookup pname = none) :
    component.allocation pname port ∈ hypervisor'.allocatedPorts := by
  rcases requestPort_cases h with ⟨hheld, -, -⟩ | ⟨-, -, hreq⟩
  · rw [hnew] at hheld
    cases hheld
  rcases hypervisor.requestPort_cases component.namespace component.clusterName
      (component.withSubcomponentName pname) with
    ⟨p, hport, heq⟩ | ⟨-, p, heq⟩ | ⟨-, message, heq⟩ <;> rw [heq] at hreq <;> cases hreq
  · exact hinv.hasPort_eq_some_iff.mp hport
  · exact List.mem_append_right _ (List.mem_singleton.mpr rfl)

theorem portInv_requestPort (hinv : hypervisor.PortInv)
    (h : component.requestPort hypervisor pname = (.ok port, component', hypervisor')) :
    hypervisor'.PortInv := by
  rcases requestPort_cases h with ⟨-, -, rfl⟩ | ⟨-, -, hreq⟩
  · exact hinv
  · have := Hypervisor.portInv_requestPort hinv component.namespace component.clusterName
      (component.withSubcomponentName pname)
    rwa [hreq] at this

/-- The ports of a component after a request. -/
theorem lookup_requestPort
    (h : component.requestPort hypervisor pname = (.ok port, component', hypervisor'))
    (other : String) :
    component'.allocatedHostPorts.lookup other =
      if other = pname then some port else component.allocatedHostPorts.lookup other := by
  rcases requestPort_cases h with ⟨hheld, rfl, -⟩ | ⟨-, rfl, -⟩
  · split_ifs with hother
    · rw [hother, hheld]
    · rfl
  · exact GoMap.lookup_insert_eq _ _ _ _

theorem files_requestPort
    (h : component.requestPort hypervisor pname = (.ok port, component', hypervisor')) :
    hypervisor'.files = hypervisor.files := by
  rcases requestPort_cases h with ⟨-, -, rfl⟩ | ⟨-, -, hreq⟩
  · rfl
  rcases hypervisor.requestPort_cases component.namespace component.clusterName
      (component.withSubcomponentName pname) with
    ⟨p, -, heq⟩ | ⟨-, p, heq⟩ | ⟨-, message, heq⟩ <;> rw [heq] at hreq <;> cases hreq <;>
    rfl

theorem files_freePort (component : Component) (hypervisor : Hypervisor) (pname : String) :
    (component.freePort hypervisor pname).2.files = hypervisor.files := by
  unfold freePort
  split
  · rfl
  · dsimp only [Hypervisor.freePort]
    split <;> rfl

/-- The allocations that are left after a port was freed. -/
theorem mem_allocatedPorts_freePort {allocation : HypervisorPortAllocation} :
    allocation ∈ (component.freePort hypervisor pname).2.allocatedPorts ↔
      allocation ∈ hypervisor.allocatedPorts ∧
        (component.allocatedHostPorts.lookup pname = none ∨
          ∀ port, allocation ≠ component.allocation pname port) := by
  unfold freePort
  cases hheld : component.allocatedHostPorts.lookup pname with
  | none => simp
  | some held =>
    dsimp only
    rw [Hypervisor.mem_allocatedPorts_freePort]
    refine and_congr_right fun _ => ?_
    rw [or_iff_right (by simp)]
    constructor
    · rintro hkey port rfl
      exact hkey rfl
    · intro hne hkey
      refine hne allocation.port ?_
      simp only [HypervisorPortAllocation.key, Prod.mk.injEq] at hkey
      obtain ⟨hns, hcl, hcomp⟩ := hkey
      cases allocation
      simp only at hns hcl hcomp
      subst hns hcl hcomp
      rfl

theorem lookup_freePort (other : String) :
    (component.freePort hypervisor pname).1.allocatedHostPorts.lookup other =
      if other = pname then none else component.allocatedHostPorts.lookup other := by
  unfold freePort
  cases hheld : component.allocatedHostPorts.lookup pname with
  | none =>
    split_ifs with hother
    · rw [hother]
      exact hheld
    · rfl
  | some held => exact GoMap.lookup_erase_eq _ _ _

theorem portInv_freePort (hinv : hypervisor.PortInv) (component : Component) (pname : String) :
    (component.freePort hypervisor pname).2.PortInv := by
  unfold freePort
  split
  · exact hinv
  · exact Hypervisor.portInv_freePort hinv _ _ _

end Component

namespace Components

variable {σ : Type} {p : Permissions} {world world' : World σ}

/-- Where a hypervisor comes from. -/
theorem WorldStep.hypervisor_cases (hstep : WorldStep p world world') {hypervisor' : Hypervisor}
    (hmem : hypervisor' ∈ world'.hypervisors) :
    hypervisor' ∈ world.hypervisors ∨
      ∃ component ∈ world.components, ∃ hypervisor ∈ world.hypervisors,
        hypervisor.name = component.hypervisorName ∧
        ((∃ pname port component', p.requests component.name pname ∧
            component.requestPort hypervisor pname = (.ok port, component', hypervisor')) ∨
          (∃ pname, p.frees component.name pname ∧
            hypervisor' = (component.freePort hypervisor pname).2) ∨
          (∃ sums, hypervisor' = hypervisor.recordFiles world.cluster.namespace
            world.cluster.name component.name sums) ∨
          hypervisor' = hypervisor.cleanupHypervisorFileMap world.cluster.namespace
            world.cluster.name component.name) := by
  -- a step that sets a hypervisor leaves the others
  have hset : ∀ {world : World σ} {component : Component} {hypervisor replaced : Hypervisor},
      world.componentHypervisor component = some hypervisor →
      hypervisor' ∈ (world.setHypervisor replaced).hypervisors →
      hypervisor' ∈ world.hypervisors ∨ hypervisor' = replaced := by
    intro world component hypervisor replaced _ hmem
    rcases mem_modifyKey.mp hmem with ⟨hold, -⟩ | ⟨-, -, -, rfl⟩
    · exact .inl hold
    · exact .inr rfl
  cases hstep with
  | requestPort hcomp hhyp hallowed hreq =>
    rcases hset hhyp hmem with hold | rfl
    · exact .inl hold
    · exact .inr ⟨_, (lookupKey_some_mem hcomp).1, _, (lookupKey_some_mem hhyp).1,
        (lookupKey_some_mem hhyp).2, .inl ⟨_, _, _, hallowed, hreq⟩⟩
  | freePort hcomp hhyp hallowed =>
    rcases hset hhyp hmem with hold | rfl
    · exact .inl hold
    · exact .inr ⟨_, (lookupKey_some_mem hcomp).1, _, (lookupKey_some_mem hhyp).1,
        (lookupKey_some_mem hhyp).2, .inr (.inl ⟨_, hallowed, rfl⟩)⟩
  | data hcomp hfrz hports => exact .inl hmem
  | recordFiles sums hcomp hhyp =>
    rcases hset hhyp hmem with hold | rfl
    · exact .inl hold
    · exact .inr ⟨_, (lookupKey_some_mem hcomp).1, _, (lookupKey_some_mem hhyp).1,
        (lookupKey_some_mem hhyp).2, .inr (.inr (.inl ⟨sums, rfl⟩))⟩
  | cleanup hcomp hhyp =>
    rcases hset hhyp hmem with hold | rfl
    · exact .inl hold
    · exact .inr ⟨_, (lookupKey_some_mem hcomp).1, _, (lookupKey_some_mem hhyp).1,
        (lookupKey_some_mem hhyp).2, .inr (.inr (.inr rfl))⟩
  | outside outside etcdContainers => exact .inl hmem

/-- Where a component comes from. -/
theorem WorldStep.component_cases (hstep : WorldStep p world world') {component' : Component}
    (hmem : component' ∈ world'.components) :
    component' ∈ world.components ∨
      ∃ component ∈ world.components, component'.frozen = component.frozen ∧
        ((∃ hypervisor pname port hypervisor',
            world.componentHypervisor component = some hypervisor ∧
            p.requests component.name pname ∧
            component.requestPort hypervisor pname = (.ok port, component', hypervisor') ∧
            hypervisor' ∈ world'.hypervisors) ∨
          (∃ hypervisor pname, world.componentHypervisor component = some hypervisor ∧
            p.frees component.name pname ∧
            component' = (component.freePort hypervisor pname).1) ∨
          component'.allocatedHostPorts = component.allocatedHostPorts) := by
  cases hstep with
  | requestPort hcomp hhyp hallowed hreq =>
    rcases mem_modifyKey.mp hmem with ⟨hold, -⟩ | ⟨-, -, -, rfl⟩
    · exact .inl hold
    · have hfrz := Component.frozen_requestPort hreq
      have hname : _ = _ := congrArg Hypervisor.name hfrz.2
      refine .inr ⟨_, (lookupKey_some_mem hcomp).1, hfrz.1,
        .inl ⟨_, _, _, _, hhyp, hallowed, hreq, ?_⟩⟩
      obtain ⟨hfound, -⟩ := lookupKey_some_mem hhyp
      exact mem_modifyKey.mpr (.inr ⟨_, hfound, hname.symm, rfl⟩)
  | freePort hcomp hhyp hallowed =>
    rcases mem_modifyKey.mp hmem with ⟨hold, -⟩ | ⟨-, -, -, rfl⟩
    · exact .inl hold
    · exact .inr ⟨_, (lookupKey_some_mem hcomp).1, (Component.frozen_freePort _ _ _).1,
        .inr (.inl ⟨_, _, hhyp, hallowed, rfl⟩)⟩
  | data hcomp hfrz hports =>
    rcases mem_modifyKey.mp hmem with ⟨hold, -⟩ | ⟨-, -, -, rfl⟩
    · exact .inl hold
    · exact .inr ⟨_, (lookupKey_some_mem hcomp).1, hfrz, .inr (.inr hports)⟩
  | recordFiles sums hcomp hhyp => exact .inl hmem
  | cleanup hcomp hhyp => exact .inl hmem
  | outside outside etcdContainers => exact .inl hmem

/-! ## Sequences of steps -/

/-- Every component comes from one with the same frozen part. -/
theorem WorldStep.component_origin (hstep : WorldStep p world world') {component' : Component}
    (hmem : component' ∈ world'.components) :
    ∃ component ∈ world.components, component'.frozen = component.frozen := by
  rcases hstep.component_cases hmem with hold | ⟨component, hcomp, hfrz, -⟩
  · exact ⟨component', hold, rfl⟩
  · exact ⟨component, hcomp, hfrz⟩

theorem Steps.component_origin (hsteps : Steps p world world') {component' : Component}
    (hmem : component' ∈ world'.components) :
    ∃ component ∈ world.components, component'.frozen = component.frozen := by
  induction hsteps generalizing component' with
  | refl => exact ⟨component', hmem, rfl⟩
  | tail _ hstep ih =>
    obtain ⟨between, hbtw, hlast⟩ := hstep.component_origin hmem
    obtain ⟨component, hcomp, hfirst⟩ := ih hbtw
    exact ⟨component, hcomp, hlast.trans hfirst⟩

/-- A component of the world, a port name that it may use in one way or another, and
the allocation of a port under that name. -/
def IsAllocationOf (world : World σ) (allowed : String → String → Prop)
    (hypervisorName : String) (allocation : HypervisorPortAllocation) : Prop :=
  ∃ component ∈ world.components, component.hypervisorName = hypervisorName ∧
    ∃ pname port, allowed component.name pname ∧
      allocation = component.allocation pname port

/-- What a hypervisor after steps has in common with the one before them. -/
structure HypervisorOrigin (p : Permissions) (world : World σ)
    (hypervisor hypervisor' : Hypervisor) :
    Prop where
  frozen : hypervisor'.frozen = hypervisor.frozen
  portInv : hypervisor.PortInv → hypervisor'.PortInv
  added : ∀ allocation ∈ hypervisor'.allocatedPorts, allocation ∈ hypervisor.allocatedPorts ∨
    IsAllocationOf world p.requests hypervisor.name allocation
  kept : ∀ allocation ∈ hypervisor.allocatedPorts, allocation ∈ hypervisor'.allocatedPorts ∨
    IsAllocationOf world p.frees hypervisor.name allocation
  files : ∀ clusterNamespace clusterName componentName,
    hypervisor'.fileMap clusterNamespace clusterName componentName ≠ none →
    hypervisor.fileMap clusterNamespace clusterName componentName ≠ none ∨
      (clusterNamespace = world.cluster.namespace ∧ clusterName = world.cluster.name ∧
        ∃ component ∈ world.components, component.hypervisorName = hypervisor.name ∧
          component.name = componentName)

namespace HypervisorOrigin

theorem refl (p : Permissions) (world : World σ) (hypervisor : Hypervisor) :
    HypervisorOrigin p world hypervisor hypervisor :=
  ⟨rfl, id, fun _ => .inl, fun _ => .inl, fun _ _ _ => .inl⟩

theorem name_eq {hypervisor hypervisor' : Hypervisor}
    (h : HypervisorOrigin p world hypervisor hypervisor') : hypervisor'.name = hypervisor.name :=
  (congrArg Hypervisor.name h.frozen : hypervisor'.frozen.name = hypervisor.frozen.name)

end HypervisorOrigin

/-- The frozen parts decide what is an allocation of the components of a world. -/
theorem IsAllocationOf.of_steps {allowed : String → String → Prop} {hyp : String}
    {allocation : HypervisorPortAllocation} (hsteps : Steps p world world')
    (h : IsAllocationOf world' allowed hyp allocation) :
    IsAllocationOf world allowed hyp allocation := by
  obtain ⟨component', hmem, hhyp, pname, port, hallowed, rfl⟩ := h
  obtain ⟨component, hcomp, hfrz⟩ := Steps.component_origin hsteps hmem
  have hname := Component.name_eq_of_frozen hfrz
  have hhypName := Component.hypervisorName_eq_of_frozen hfrz
  refine ⟨component, hcomp, hhypName.symm.trans hhyp, pname, port, ?_,
    Component.allocation_eq_of_frozen hfrz _ _⟩
  exact (congrArg (allowed · pname) hname).mp hallowed

theorem WorldStep.hypervisor_origin (hstep : WorldStep p world world') {hypervisor' : Hypervisor}
    (hmem : hypervisor' ∈ world'.hypervisors) :
    ∃ hypervisor ∈ world.hypervisors, HypervisorOrigin p world hypervisor hypervisor' := by
  rcases hstep.hypervisor_cases hmem with hold | ⟨component, hcomp, hypervisor, hhyp,
    hname, ⟨pname, port, component', hallowed, hreq⟩ | ⟨pname, hallowed, rfl⟩ |
    ⟨sums, rfl⟩ | rfl⟩
  · exact ⟨hypervisor', hold, .refl _ _ _⟩
  · refine ⟨hypervisor, hhyp, (Component.frozen_requestPort hreq).2,
      fun hinv => Component.portInv_requestPort hinv hreq, ?_,
      fun _ h => .inl (Component.allocatedPorts_subset_requestPort hreq h), ?_⟩
    · intro allocation halloc
      rcases Component.mem_allocatedPorts_requestPort hreq halloc with hold | rfl
      · exact .inl hold
      · exact .inr ⟨component, hcomp, hname.symm, pname, port, hallowed, rfl⟩
    · intro ns cl comp hfs
      refine .inl ?_
      have heq : hypervisor'.files = hypervisor.files :=
        Component.files_requestPort hreq
      simpa only [Hypervisor.fileMap, heq] using hfs
  · refine ⟨hypervisor, hhyp, (Component.frozen_freePort _ _ _).2,
      fun hinv => Component.portInv_freePort hinv _ _, ?_, ?_, ?_⟩
    · intro allocation halloc
      exact .inl (Component.mem_allocatedPorts_freePort.mp halloc).1
    · intro allocation halloc
      by_cases hfreed : ∃ port, allocation = component.allocation pname port
      · obtain ⟨port, rfl⟩ := hfreed
        exact .inr ⟨component, hcomp, hname.symm, pname, port, hallowed, rfl⟩
      · refine .inl (Component.mem_allocatedPorts_freePort.mpr ⟨halloc, .inr ?_⟩)
        exact fun port heq => hfreed ⟨port, heq⟩
    · intro ns cl comp hfs
      refine .inl ?_
      have heq : (component.freePort hypervisor pname).2.files = hypervisor.files :=
        Component.files_freePort _ _ _
      simpa only [Hypervisor.fileMap, heq] using hfs
  · refine ⟨hypervisor, hhyp, rfl, fun hinv => hinv.congr rfl rfl rfl rfl, fun _ => .inl,
      fun _ => .inl, ?_⟩
    intro ns cl comp hfs
    rw [Hypervisor.fileMap_recordFiles] at hfs
    split_ifs at hfs with hkey
    · exact .inr ⟨hkey.1, hkey.2.1, component, hcomp, hname.symm, hkey.2.2.symm⟩
    · exact .inl hfs
  · obtain ⟨files, heq⟩ := hypervisor.cleanupHypervisorFileMap_eq world.cluster.namespace
      world.cluster.name component.name
    refine ⟨hypervisor, hhyp, Hypervisor.frozen_cleanupHypervisorFileMap _ _ _ _,
      fun hinv => heq ▸ hinv.congr rfl rfl rfl rfl, fun allocation => ?_, fun allocation => ?_, ?_⟩
    · rw [heq]
      exact .inl
    · rw [heq]
      exact .inl
    · intro ns cl comp hfs
      rw [Hypervisor.fileMap_cleanupHypervisorFileMap] at hfs
      split_ifs at hfs with hkey
      · exact absurd rfl hfs
      · exact .inl hfs

/-- Every hypervisor after steps comes from one before them. -/
theorem Steps.hypervisor_origin (hsteps : Steps p world world') {hypervisor' : Hypervisor}
    (hmem : hypervisor' ∈ world'.hypervisors) :
    ∃ hypervisor ∈ world.hypervisors, HypervisorOrigin p world hypervisor hypervisor' := by
  induction hsteps generalizing hypervisor' with
  | refl => exact ⟨hypervisor', hmem, .refl _ _ _⟩
  | @tail between after hfirst hstep ih =>
    obtain ⟨middle, hmiddle, hlast⟩ := hstep.hypervisor_origin hmem
    obtain ⟨hypervisor, hhyp, horigin⟩ := ih hmiddle
    have hname := horigin.name_eq
    refine ⟨hypervisor, hhyp, hlast.frozen.trans horigin.frozen,
      fun hinv => hlast.portInv (horigin.portInv hinv), ?_, ?_, ?_⟩
    · intro allocation halloc
      rcases hlast.added allocation halloc with hold | hnew
      · exact horigin.added allocation hold
      · exact .inr (hname ▸ hnew.of_steps hfirst)
    · intro allocation halloc
      rcases horigin.kept allocation halloc with hkept | hfreed
      · rcases hlast.kept allocation hkept with hkept | hfreed
        · exact .inl hkept
        · exact .inr (hname ▸ hfreed.of_steps hfirst)
      · exact .inr hfreed
    · intro ns cluster comp hfs
      rcases hlast.files _ _ _ hfs with hold | ⟨hns, hcl, component', hcomp', hon, hcname⟩
      · exact horigin.files _ _ _ hold
      · obtain ⟨component, hcomp, hfrz⟩ := Steps.component_origin hfirst hcomp'
        have heq := Steps.cluster_eq hfirst
        refine .inr ⟨heq ▸ hns, heq ▸ hcl, component, hcomp, ?_, ?_⟩
        · have hhypName := Component.hypervisorName_eq_of_frozen hfrz
          exact hhypName.symm.trans (hon.trans hname)
        · have hcompName := Component.name_eq_of_frozen hfrz
          exact hcompName.symm.trans hcname

/-- Every hypervisor before steps has an image after them. -/
theorem Steps.hypervisor_image (hkeyed : Keyed world) (hsteps : Steps p world world')
    {hypervisor : Hypervisor} (hmem : hypervisor ∈ world.hypervisors) :
    ∃ hypervisor' ∈ world'.hypervisors, HypervisorOrigin p world hypervisor hypervisor' := by
  have hnames := (Steps.sameFrozen hkeyed hsteps).map_hypervisors Hypervisor.name fun _ => rfl
  have hname : hypervisor.name ∈ world'.hypervisors.map Hypervisor.name := by
    rw [hnames]
    exact List.mem_map_of_mem hmem
  obtain ⟨hypervisor', hmem', hname'⟩ := List.mem_map.mp hname
  obtain ⟨other, hother, horigin⟩ := Steps.hypervisor_origin hsteps hmem'
  have heq : other = hypervisor :=
    List.inj_on_of_nodup_map hkeyed.hypervisors hother hmem (horigin.name_eq.symm.trans hname')
  exact ⟨hypervisor', hmem', heq ▸ horigin⟩

/-- An allocation stays until it is freed. -/
theorem Steps.allocated (hkeyed : Keyed world) (hsteps : Steps p world world')
    {component : Component} {pname : String} {port : Int64}
    (hallocated : Allocated world.hypervisors component pname port) :
    Allocated world'.hypervisors component pname port ∨
      IsAllocationOf world p.frees component.hypervisorName
        (component.allocation pname port) := by
  obtain ⟨hypervisor, hmem, hname, halloc⟩ := hallocated
  obtain ⟨hypervisor', hmem', horigin⟩ := Steps.hypervisor_image hkeyed hsteps hmem
  rcases horigin.kept _ halloc with hkept | hfreed
  · exact .inl ⟨hypervisor', hmem', horigin.name_eq.trans hname, hkept⟩
  · exact .inr (hname ▸ hfreed)

theorem Allocated.congr {hypervisors : List Hypervisor} {component component' : Component}
    {pname : String} {port : Int64} (hfrz : component'.frozen = component.frozen)
    (h : Allocated hypervisors component' pname port) :
    Allocated hypervisors component pname port := by
  obtain ⟨hypervisor, hmem, hname, halloc⟩ := h
  have hhypName := Component.hypervisorName_eq_of_frozen hfrz
  refine ⟨hypervisor, hmem, hname.trans hhypName, ?_⟩
  rw [← Component.allocation_eq_of_frozen hfrz]
  exact halloc

/-- If nothing is freed, a port of a component was its port before, or its hypervisor
has it allocated. -/
theorem Steps.ports_origin (hkeyed : Keyed world)
    (hinv : ∀ hypervisor ∈ world.hypervisors, hypervisor.PortInv)
    (hfrees : ∀ name pname, ¬ p.frees name pname) (hsteps : Steps p world world')
    {component' : Component} (hmem : component' ∈ world'.components) :
    ∃ component ∈ world.components, component'.frozen = component.frozen ∧
      ∀ pname port, component'.allocatedHostPorts.lookup pname = some port →
        component.allocatedHostPorts.lookup pname = some port ∨
          (p.requests component.name pname ∧
            Allocated world'.hypervisors component pname port) := by
  induction hsteps generalizing component' with
  | refl => exact ⟨component', hmem, rfl, fun _ _ => .inl⟩
  | @tail between after hfirst hstep ih =>
    have hkeyed' := (Steps.sameFrozen hkeyed hfirst).keyed hkeyed
    have hstays : ∀ {component : Component} {pname : String} {port : Int64},
        Allocated between.hypervisors component pname port →
        Allocated after.hypervisors component pname port := by
      intro component pname port hallocated
      rcases Steps.allocated hkeyed' (.single hstep) hallocated with h | ⟨_, -, -, _, _, hfree, -⟩
      · exact h
      · exact absurd hfree (hfrees _ _)
    -- the origin of the component before the last step, with its ports
    have horigin : ∀ {middle : Component}, middle ∈ between.components →
        ∃ component ∈ world.components, middle.frozen = component.frozen ∧
          ∀ pname port, middle.allocatedHostPorts.lookup pname = some port →
            component.allocatedHostPorts.lookup pname = some port ∨
              (p.requests component.name pname ∧
                Allocated after.hypervisors component pname port) := by
      intro middle hmiddle
      obtain ⟨component, hcomp, hfrz, hports⟩ := ih hmiddle
      refine ⟨component, hcomp, hfrz, fun pname port hport => ?_⟩
      exact (hports pname port hport).imp_right fun h => ⟨h.1, hstays h.2⟩
    rcases hstep.component_cases hmem with hold | ⟨middle, hmiddle, hfrz',
      ⟨hypervisor, requested, newPort, hypervisor', hhyp, hallowed, hreq, hmem'⟩ |
      ⟨_, _, -, hfree, -⟩ | hports'⟩
    · exact horigin hold
    · obtain ⟨component, hcomp, hfrz, hports⟩ := horigin hmiddle
      refine ⟨component, hcomp, hfrz'.trans hfrz, fun pname port hport => ?_⟩
      rw [Component.lookup_requestPort hreq] at hport
      split_ifs at hport with hname
      · subst hname
        cases hport
        cases hheld : middle.allocatedHostPorts.lookup pname with
        | some held =>
          rcases Component.requestPort_cases hreq with ⟨hlk, -, -⟩ | ⟨hnone, -, -⟩
          · exact hports pname _ hlk
          · rw [hheld] at hnone
            cases hnone
        | none =>
          -- the request went to the hypervisor
          have hmiddleName := Component.name_eq_of_frozen hfrz
          obtain ⟨hfound, hfoundName⟩ := lookupKey_some_mem hhyp
          obtain ⟨first, hfirstMem, hfirstOrigin⟩ := Steps.hypervisor_origin hfirst hfound
          have halloc := Component.allocation_mem_requestPort
            (hfirstOrigin.portInv (hinv first hfirstMem)) hreq hheld
          have hsame := (Component.frozen_requestPort hreq).2
          have hname' := Hypervisor.name_eq_of_frozen hsame
          refine .inr ⟨(congrArg (p.requests · pname) hmiddleName).mp hallowed, ?_⟩
          exact Allocated.congr hfrz
            ⟨hypervisor', hmem', hname'.trans hfoundName, halloc⟩
      · exact hports pname port hport
    · exact absurd hfree (hfrees _ _)
    · obtain ⟨component, hcomp, hfrz, hports⟩ := horigin hmiddle
      refine ⟨component, hcomp, hfrz'.trans hfrz, fun pname port hport => ?_⟩
      exact hports pname port (hports' ▸ hport)

/-! ## The names of the ports -/

/-- No port name ends another, with the dash before them. -/
theorem suffix_hostPortNames : ∀ pname ∈ hostPortNames, ∀ portName' ∈ hostPortNames,
    ("-" ++ pname).toList <:+ ("-" ++ portName').toList → pname = portName' := by
  decide

end Components

/-- The key of an allocation says for which component and which port it is. -/
theorem Component.withSubcomponentName_inj {component component' : Component}
    {pname portName' : String} (hportName : pname ∈ Components.hostPortNames)
    (hportName' : portName' ∈ Components.hostPortNames)
    (h : component.withSubcomponentName pname = component'.withSubcomponentName portName') :
    component.name = component'.name ∧ pname = portName' := by
  have hlists : component.name.toList ++ ("-" ++ pname).toList =
      component'.name.toList ++ ("-" ++ portName').toList := by
    simpa [withSubcomponentName, String.append_assoc] using congrArg String.toList h
  have hsuf : ("-" ++ pname).toList <:+
      component'.name.toList ++ ("-" ++ portName').toList := ⟨_, hlists⟩
  have hsuf' : ("-" ++ portName').toList <:+
      component'.name.toList ++ ("-" ++ portName').toList := ⟨_, rfl⟩
  have heq : pname = portName' := by
    rcases Nat.le_total ("-" ++ pname).toList.length ("-" ++ portName').toList.length with
      hle | hle
    · exact Components.suffix_hostPortNames _ hportName _ hportName'
        (List.suffix_of_suffix_length_le hsuf hsuf' hle)
    · exact (Components.suffix_hostPortNames _ hportName' _ hportName
        (List.suffix_of_suffix_length_le hsuf' hsuf hle)).symm
  subst heq
  exact ⟨String.toList_inj.mp (List.append_cancel_right hlists), rfl⟩

theorem Component.eq_of_allocation_eq {component component' : Component}
    {pname portName' : String} {port port' : Int64}
    (hportName : pname ∈ Components.hostPortNames)
    (hportName' : portName' ∈ Components.hostPortNames)
    (h : component.allocation pname port = component'.allocation portName' port') :
    component.namespace = component'.namespace ∧ component.clusterName = component'.clusterName ∧
      component.name = component'.name ∧ pname = portName' ∧ port = port' := by
  simp only [allocation, HypervisorPortAllocation.mk.injEq] at h
  obtain ⟨hname, heq⟩ := withSubcomponentName_inj hportName hportName' h.2.2.1
  exact ⟨h.1, h.2.1, hname, heq, h.2.2.2⟩

end OneInfra
