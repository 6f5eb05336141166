import OneInfra.Component.PortSteps
import OneInfra.Component.Records
import OneInfra.Lib.Triple

/-!
# What the deletion of a component releases

A hypervisor has ports allocated to components and files recorded for them.  `Keeps` says
that it has something of a component.  Deleting a component frees the ports that the
component knows of, on the hypervisor that it is assigned to, and only those that its role
and the VPN of the cluster call for.

* `Accounted` says that this is everything: each port that a hypervisor has allocated to
  the component is held by the component, is on its own hypervisor, and is one that the
  deletion frees.  Steps keep it (`Releasing.step`).
* `Releasing` adds the ports that are gone already.  A deletion that returns without an
  error leaves nothing (`releases_controlPlane`, `releases_ingress`).
-/

namespace OneInfra

open Lib Infra

/-- The component with its cluster, as the hypervisors name it. -/
def Component.ref (component : Component) : ComponentRef :=
  ⟨component.namespace, component.clusterName, component.name⟩

theorem Component.ref_eq_of_frozen {component component' : Component}
    (hfrz : component'.frozen = component.frozen) : component'.ref = component.ref :=
  (congrArg Component.ref hfrz : component'.frozen.ref = component.frozen.ref)

namespace Infra.Hypervisor

/-- A port is allocated to the component under that name. -/
def HasPortOf (hypervisor : Hypervisor) (ref : ComponentRef) (pname : String) : Prop :=
  ∃ allocation ∈ hypervisor.allocatedPorts,
    allocation.clusterNamespace = ref.clusterNamespace ∧ allocation.cluster = ref.clusterName ∧
      allocation.component = ref.componentName ++ "-" ++ pname

/-- The file map has an entry for the component. -/
def HasFilesOf (hypervisor : Hypervisor) (ref : ComponentRef) : Prop :=
  hypervisor.fileMap ref.clusterNamespace ref.clusterName ref.componentName ≠ none

/-- The hypervisor has something of the component. -/
def Keeps (hypervisor : Hypervisor) (ref : ComponentRef) : Prop :=
  (∃ pname ∈ Components.hostPortNames, hypervisor.HasPortOf ref pname) ∨
    hypervisor.HasFilesOf ref

instance (hypervisor : Hypervisor) (ref : ComponentRef) (pname : String) :
    Decidable (hypervisor.HasPortOf ref pname) :=
  inferInstanceAs (Decidable (∃ allocation ∈ hypervisor.allocatedPorts, _))

instance (hypervisor : Hypervisor) (ref : ComponentRef) : Decidable (hypervisor.HasFilesOf ref) :=
  inferInstanceAs (Decidable (_ ≠ none))

instance (hypervisor : Hypervisor) (ref : ComponentRef) : Decidable (hypervisor.Keeps ref) :=
  inferInstanceAs (Decidable ((∃ pname ∈ Components.hostPortNames, _) ∨ _))

variable {hypervisor hypervisor' : Hypervisor} {ref : ComponentRef}

theorem hasPortOf_ref_iff {component : Component} {pname : String} :
    hypervisor.HasPortOf component.ref pname ↔
      ∃ port, component.allocation pname port ∈ hypervisor.allocatedPorts := by
  constructor
  · rintro ⟨⟨ns, cluster, name, port⟩, hmem, rfl, rfl, rfl⟩
    exact ⟨port, hmem⟩
  · rintro ⟨port, hmem⟩
    exact ⟨_, hmem, rfl, rfl, rfl⟩

theorem HasPortOf.mono {pname : String} (h : hypervisor.HasPortOf ref pname)
    (hports : hypervisor.allocatedPorts ⊆ hypervisor'.allocatedPorts) :
    hypervisor'.HasPortOf ref pname := by
  obtain ⟨allocation, hmem, heq⟩ := h
  exact ⟨allocation, hports hmem, heq⟩

theorem hasFilesOf_congr (hfs : hypervisor'.files = hypervisor.files) :
    hypervisor'.HasFilesOf ref ↔ hypervisor.HasFilesOf ref := by
  unfold HasFilesOf fileMap
  rw [hfs]

/-- What a hypervisor keeps is in its ports and its files. -/
theorem keeps_congr (hports : hypervisor'.allocatedPorts = hypervisor.allocatedPorts)
    (hfs : hypervisor'.files = hypervisor.files) :
    hypervisor'.Keeps ref ↔ hypervisor.Keeps ref := by
  unfold Keeps HasPortOf
  rw [hports, hasFilesOf_congr hfs]

end Infra.Hypervisor

namespace Components

variable {σ : Type}

/-! ## Everything is accounted for -/

/-- What the hypervisor has of the component is on the hypervisor of the component, and
the component holds each of the ports, which is one of `freed`. -/
structure AccountedOn (freed : List String) (component : Component) (hypervisor : Hypervisor) :
    Prop where
  ports : ∀ pname ∈ hostPortNames, hypervisor.HasPortOf component.ref pname →
    hypervisor.name = component.hypervisorName ∧
      (component.allocatedHostPorts.lookup pname).isSome ∧ pname ∈ freed
  files : hypervisor.HasFilesOf component.ref → hypervisor.name = component.hypervisorName

/-- The same on all hypervisors. -/
def Accounted (freed : List String) (component : Component) (hypervisors : List Hypervisor) :
    Prop :=
  ∀ hypervisor ∈ hypervisors, AccountedOn freed component hypervisor

instance (freed : List String) (component : Component) (hypervisor : Hypervisor) :
    Decidable (AccountedOn freed component hypervisor) :=
  decidable_of_iff ((∀ pname ∈ hostPortNames, hypervisor.HasPortOf component.ref pname →
      hypervisor.name = component.hypervisorName ∧
        (component.allocatedHostPorts.lookup pname).isSome ∧ pname ∈ freed) ∧
      (hypervisor.HasFilesOf component.ref → hypervisor.name = component.hypervisorName))
    ⟨fun h => ⟨h.1, h.2⟩, fun h => ⟨h.ports, h.files⟩⟩

instance (freed : List String) (component : Component) (hypervisors : List Hypervisor) :
    Decidable (Accounted freed component hypervisors) :=
  inferInstanceAs (Decidable (∀ hypervisor ∈ hypervisors, AccountedOn freed component hypervisor))

namespace AccountedOn

variable {freed : List String} {component component' other : Component}
  {hypervisor hypervisor' : Hypervisor} {pname : String} {port : Int64}

/-- A component that holds no less. -/
theorem congr (h : AccountedOn freed component hypervisor)
    (hfrz : component'.frozen = component.frozen)
    (hheld : ∀ pname, (component.allocatedHostPorts.lookup pname).isSome →
      (component'.allocatedHostPorts.lookup pname).isSome) :
    AccountedOn freed component' hypervisor := by
  have href := Component.ref_eq_of_frozen hfrz
  have hname := Component.hypervisorName_eq_of_frozen hfrz
  constructor
  · intro pname hportName hport
    rw [href] at hport
    obtain ⟨hhyp, hholds, hfreed⟩ := h.ports pname hportName hport
    exact ⟨hhyp.trans hname.symm, hheld pname hholds, hfreed⟩
  · intro hfs
    rw [href] at hfs
    exact (h.files hfs).trans hname.symm

/-- A hypervisor that has no more of the component. -/
theorem shrink (h : AccountedOn freed component hypervisor)
    (hname : hypervisor'.name = hypervisor.name)
    (hports : ∀ pname ∈ hostPortNames, hypervisor'.HasPortOf component.ref pname →
      hypervisor.HasPortOf component.ref pname)
    (hfs : hypervisor'.HasFilesOf component.ref → hypervisor.HasFilesOf component.ref) :
    AccountedOn freed component hypervisor' := by
  constructor
  · intro pname hportName hport
    obtain ⟨hhyp, hrest⟩ := h.ports pname hportName (hports pname hportName hport)
    exact ⟨hname.trans hhyp, hrest⟩
  · intro hfs'
    exact hname.trans (h.files (hfs hfs'))

/-- A port that is requested for another component. -/
theorem requestPort_other (h : AccountedOn freed component hypervisor)
    (hreq : other.requestPort hypervisor pname = (.ok port, component', hypervisor'))
    (hportName : pname ∈ hostPortNames) (hne : other.name ≠ component.name) :
    AccountedOn freed component hypervisor' := by
  have hname := Hypervisor.name_eq_of_frozen (Component.frozen_requestPort hreq).2
  refine h.shrink hname ?_ (Hypervisor.hasFilesOf_congr
    (Component.files_requestPort hreq)).mp
  intro portName' hportName' hport
  obtain ⟨port', hmem⟩ := Hypervisor.hasPortOf_ref_iff.mp hport
  rcases Component.mem_allocatedPorts_requestPort hreq hmem with hold | hnew
  · exact Hypervisor.hasPortOf_ref_iff.mpr ⟨port', hold⟩
  · obtain ⟨-, -, heq, -⟩ := Component.eq_of_allocation_eq hportName' hportName hnew
    exact absurd heq.symm hne

/-- A port that is requested for the component itself. -/
theorem requestPort_self (h : AccountedOn freed component hypervisor)
    (hreq : component.requestPort hypervisor pname = (.ok port, component', hypervisor'))
    (hportName : pname ∈ hostPortNames) (hfreed : pname ∈ freed)
    (hown : hypervisor.name = component.hypervisorName) :
    AccountedOn freed component' hypervisor' := by
  have hfrz := Component.frozen_requestPort hreq
  have href := Component.ref_eq_of_frozen hfrz.1
  have hon : hypervisor'.name = component'.hypervisorName :=
    (Hypervisor.name_eq_of_frozen hfrz.2).trans
      (hown.trans (Component.hypervisorName_eq_of_frozen hfrz.1).symm)
  constructor
  · intro portName' hportName' hport
    rw [href] at hport
    rw [Component.lookup_requestPort hreq]
    by_cases hsame : portName' = pname
    · rw [if_pos hsame, hsame]
      exact ⟨hon, rfl, hfreed⟩
    · rw [if_neg hsame]
      obtain ⟨port', hmem⟩ := Hypervisor.hasPortOf_ref_iff.mp hport
      rcases Component.mem_allocatedPorts_requestPort hreq hmem with hold | hnew
      · exact ⟨hon, (h.ports portName' hportName'
          (Hypervisor.hasPortOf_ref_iff.mpr ⟨port', hold⟩)).2⟩
      · obtain ⟨-, -, -, heq, -⟩ := Component.eq_of_allocation_eq hportName' hportName hnew
        exact absurd heq hsame
  · intro _
    exact hon

/-- A port that is freed for another component. -/
theorem freePort_other (h : AccountedOn freed component hypervisor) (other : Component)
    (pname : String) : AccountedOn freed component (other.freePort hypervisor pname).2 := by
  have hname := Hypervisor.name_eq_of_frozen
    (Component.frozen_freePort other hypervisor pname).2
  refine h.shrink hname ?_ (Hypervisor.hasFilesOf_congr
    (Component.files_freePort other hypervisor pname)).mp
  intro portName' _ hport
  exact hport.mono fun _ hmem => (Component.mem_allocatedPorts_freePort.mp hmem).1

/-- A port that is freed for the component itself. -/
theorem freePort_self (h : AccountedOn freed component hypervisor) (pname : String) :
    AccountedOn freed (component.freePort hypervisor pname).1
      (component.freePort hypervisor pname).2 := by
  have hfrz := (Component.frozen_freePort component hypervisor pname).1
  have hafter := h.freePort_other component pname
  have href := Component.ref_eq_of_frozen hfrz
  have hname := Component.hypervisorName_eq_of_frozen hfrz
  constructor
  · intro portName' hportName' hport
    rw [href] at hport
    obtain ⟨hhyp, hheld, hfreed⟩ := hafter.ports portName' hportName' hport
    refine ⟨hhyp.trans hname.symm, ?_, hfreed⟩
    rw [Component.lookup_freePort, if_neg]
    · exact hheld
    · -- the freed port is not on the hypervisor any more
      rintro rfl
      obtain ⟨port', hmem⟩ := Hypervisor.hasPortOf_ref_iff.mp hport
      rcases (Component.mem_allocatedPorts_freePort.mp hmem).2 with hnone | hne
      · rw [hnone] at hheld
        cases hheld
      · exact hne port' rfl
  · intro hfs
    rw [href] at hfs
    exact (hafter.files hfs).trans hname.symm

/-- On another hypervisor the component has no port. -/
theorem not_hasPortOf (h : AccountedOn freed component hypervisor)
    (hname : hypervisor.name ≠ component.hypervisorName) (hportName : pname ∈ hostPortNames) :
    ¬ hypervisor.HasPortOf component.ref pname :=
  fun hport => hname (h.ports pname hportName hport).1

/-- On another hypervisor it does not matter which ports the component holds. -/
theorem congr_of_ne (h : AccountedOn freed component hypervisor)
    (hname : hypervisor.name ≠ component.hypervisorName)
    (hfrz : component'.frozen = component.frozen) :
    AccountedOn freed component' hypervisor := by
  have href := Component.ref_eq_of_frozen hfrz
  constructor
  · intro pname hportName hport
    rw [href] at hport
    exact absurd hport (h.not_hasPortOf hname hportName)
  · intro hfs
    rw [href] at hfs
    exact absurd (h.files hfs) hname

/-- Files that are recorded for a component. -/
theorem recordFiles (h : AccountedOn freed component hypervisor)
    (ns cl : String) (sums : List (String × String))
    (hown : other.name = component.name → hypervisor.name = component.hypervisorName) :
    AccountedOn freed component
      (hypervisor.recordFiles ns cl other.name sums) := by
  refine ⟨h.ports, fun hfs => ?_⟩
  unfold Hypervisor.HasFilesOf at hfs
  rw [Hypervisor.fileMap_recordFiles] at hfs
  split_ifs at hfs with hkey
  · exact hown hkey.2.2.symm
  · exact h.files hfs

/-- Files that are forgotten. -/
theorem cleanup (h : AccountedOn freed component hypervisor)
    (ns cl comp : String) :
    AccountedOn freed component
      (hypervisor.cleanupHypervisorFileMap ns cl comp) := by
  obtain ⟨files, heq⟩ :=
    hypervisor.cleanupHypervisorFileMap_eq ns cl comp
  refine h.shrink (by rw [heq]) ?_ ?_
  · intro pname _ hport
    rw [heq] at hport
    exact hport
  · intro hfs hnone
    unfold Hypervisor.HasFilesOf at hfs
    rw [Hypervisor.fileMap_cleanupHypervisorFileMap] at hfs
    split_ifs at hfs
    · exact hfs rfl
    · exact hfs hnone

end AccountedOn

/-! ## Steps -/

/-- The component that `start` has become.  Everything of it is accounted for, and it does
not hold the ports in `gone` any more. -/
structure Releasing (known : Cluster) (start : Component) (freed gone : List String)
    (world : World σ) : Prop where
  keyed : Keyed world
  cluster_eq : world.cluster = known
  found : ∃ component, lookupKey Component.name start.name world.components = some component ∧
    component.frozen = start.frozen ∧ Accounted freed component world.hypervisors ∧
    ∀ pname ∈ gone, component.allocatedHostPorts.lookup pname = none

section Steps

variable {p : Permissions} {known : Cluster} {start component : Component}
  {freed gone : List String} {world world' : World σ}

theorem Accounted.setHypervisor {hypervisor : Hypervisor}
    (h : Accounted freed component world.hypervisors)
    (hnew : AccountedOn freed component hypervisor) :
    Accounted freed component (world.setHypervisor hypervisor).hypervisors :=
  forall_mem_modifyKey h fun _ _ _ => hnew

/-- A component that is replaced is the one that is looked for, or another one. -/
theorem lookup_setComponent_cases {found component' : Component} {name : String}
    (hfound : lookupKey Component.name name world.components = some found)
    (hcomp : lookupKey Component.name component.name world.components = some component)
    (hfrz : component'.frozen = component.frozen) :
    (component = found ∧
        lookupKey Component.name name (world.setComponent component').components =
          some component') ∨
      (component.name ≠ found.name ∧
        lookupKey Component.name name (world.setComponent component').components =
          some found) := by
  have hname := Component.name_eq_of_frozen hfrz
  obtain ⟨-, rfl⟩ := lookupKey_some_mem hfound
  unfold World.setComponent
  rw [lookupKey_modifyKey fun _ _ => rfl, hname]
  by_cases hsame : found.name = component.name
  · rw [hsame, hcomp] at hfound
    rw [if_pos hsame, hcomp]
    exact .inl ⟨Option.some_inj.mp hfound, rfl⟩
  · rw [if_neg hsame]
    exact .inr ⟨fun heq => hsame heq.symm, hfound⟩

/-- A hypervisor under the name of that of the component takes its place, and the component
is replaced by one that differs in its ports.  On the other hypervisors it has no ports. -/
theorem Accounted.replace {component' : Component} {hypervisor : Hypervisor}
    (h : Accounted freed component world.hypervisors)
    (hfrz : component'.frozen = component.frozen)
    (hname : hypervisor.name = component.hypervisorName)
    (hnew : AccountedOn freed component' hypervisor) :
    Accounted freed component' (world.setHypervisor hypervisor).hypervisors := by
  intro other hother
  rcases mem_modifyKey.mp hother with ⟨hold, hne⟩ | ⟨_, _, _, rfl⟩
  · exact (h other hold).congr_of_ne (fun heq => hne (heq.trans hname.symm)) hfrz
  · exact hnew

/-- One step. -/
theorem Releasing.step (h : Releasing known start freed gone world)
    (hnames : ∀ other pname, p.requests other pname → pname ∈ hostPortNames)
    (hown : ∀ pname, p.requests start.name pname → pname ∈ freed ∧ pname ∉ gone)
    (hstep : WorldStep p world world') : Releasing known start freed gone world' := by
  refine ⟨(hstep.sameFrozen h.keyed).keyed h.keyed, hstep.cluster_eq.trans h.cluster_eq, ?_⟩
  obtain ⟨found, hfound, hfrz, haccounted, hgone⟩ := h.found
  have hfoundName : found.name = start.name := (lookupKey_some_mem hfound).2
  cases hstep with
  | @requestPort component component' hypervisor hypervisor' pname port hcomp hhyp
      hallowed hreq =>
    have hsame := Component.frozen_requestPort hreq
    obtain ⟨hhv, hhvName⟩ := lookup_of_componentHypervisor hhyp
    have hon := haccounted hypervisor (lookupKey_some_mem hhv).1
    rcases lookup_setComponent_cases hfound hcomp hsame.1 with ⟨rfl, hlk⟩ |
      ⟨hne, hlk⟩
    · obtain ⟨hfreed, hkept⟩ := hown pname (hfoundName ▸ hallowed)
      refine ⟨component', hlk, hsame.1.trans hfrz, ?_, ?_⟩
      · refine haccounted.replace hsame.1 ?_ ?_
        · exact (Hypervisor.name_eq_of_frozen hsame.2).trans hhvName
        · exact hon.requestPort_self hreq (hnames _ _ hallowed) hfreed hhvName
      · intro other hother
        rw [Component.lookup_requestPort hreq, if_neg]
        · exact hgone other hother
        · rintro rfl
          exact hkept hother
    · refine ⟨found, hlk, hfrz, haccounted.setHypervisor ?_, hgone⟩
      exact hon.requestPort_other hreq (hnames _ _ hallowed) hne
  | @freePort component hypervisor pname hcomp hhyp hallowed =>
    have hsame := Component.frozen_freePort component hypervisor pname
    obtain ⟨hhv, hhvName⟩ := lookup_of_componentHypervisor hhyp
    have hon := haccounted hypervisor (lookupKey_some_mem hhv).1
    rcases lookup_setComponent_cases hfound hcomp hsame.1 with ⟨rfl, hlk⟩ |
      ⟨hne, hlk⟩
    · refine ⟨_, hlk, hsame.1.trans hfrz, ?_, ?_⟩
      · refine haccounted.replace hsame.1 ?_ (hon.freePort_self pname)
        exact (Hypervisor.name_eq_of_frozen hsame.2).trans hhvName
      · intro other hother
        rw [Component.lookup_freePort]
        split_ifs
        · rfl
        · exact hgone other hother
    · refine ⟨found, hlk, hfrz, haccounted.setHypervisor ?_, hgone⟩
      exact hon.freePort_other component pname
  | @data component component' hcomp hsame hports =>
    rcases lookup_setComponent_cases hfound hcomp hsame with ⟨rfl, hlk⟩ |
      ⟨hne, hlk⟩
    · refine ⟨component', hlk, hsame.trans hfrz, ?_, fun pname hmem => ?_⟩
      · intro hypervisor hhyp
        exact (haccounted hypervisor hhyp).congr hsame fun _ hheld => hports ▸ hheld
      · rw [hports]
        exact hgone pname hmem
    · exact ⟨found, hlk, hfrz, haccounted, hgone⟩
  | @recordFiles component hypervisor sums hcomp hhyp =>
    obtain ⟨hhv, hhvName⟩ := lookup_of_componentHypervisor hhyp
    refine ⟨found, hfound, hfrz, haccounted.setHypervisor ?_, hgone⟩
    refine (haccounted hypervisor (lookupKey_some_mem hhv).1).recordFiles _ _ _ fun heq => ?_
    rw [heq, hfoundName, hfound] at hcomp
    rw [hhvName, Option.some_inj.mp hcomp]
  | @cleanup component hypervisor hcomp hhyp =>
    obtain ⟨hhv, hhvName⟩ := lookup_of_componentHypervisor hhyp
    refine ⟨found, hfound, hfrz, haccounted.setHypervisor ?_, hgone⟩
    exact (haccounted hypervisor (lookupKey_some_mem hhv).1).cleanup _ _ _
  | outside outside etcdContainers => exact ⟨found, hfound, hfrz, haccounted, hgone⟩

/-- A sequence of steps. -/
theorem Releasing.steps (h : Releasing known start freed gone world)
    (hnames : ∀ other pname, p.requests other pname → pname ∈ hostPortNames)
    (hown : ∀ pname, p.requests start.name pname → pname ∈ freed ∧ pname ∉ gone)
    (hsteps : Steps p world world') : Releasing known start freed gone world' := by
  induction hsteps with
  | refl => exact h
  | tail _ hstep ih => exact ih.step hnames hown hstep

end Steps

/-! ## Deletions -/

/-- No hypervisor has anything of the component. -/
def Released (start : Component) (world : World σ) : Prop :=
  ∀ hypervisor ∈ world.hypervisors, ¬ hypervisor.Keeps start.ref

namespace Releasing

variable {p : Permissions} {known : Cluster} {start : Component} {freed gone : List String}
  {world world' : World σ} {α : Type} {x : ReconcileM σ α}

/-- What is kept is on the hypervisor of the component. -/
theorem name_eq_of_keeps (h : Releasing known start freed gone world) {hypervisor : Hypervisor}
    (hmem : hypervisor ∈ world.hypervisors) (hkeeps : hypervisor.Keeps start.ref) :
    hypervisor.name = start.hypervisorName := by
  obtain ⟨found, -, hfrz, haccounted, -⟩ := h.found
  rw [← Component.ref_eq_of_frozen hfrz] at hkeeps
  rw [← Component.hypervisorName_eq_of_frozen hfrz]
  rcases hkeeps with ⟨pname, hportName, hport⟩ | hfs
  · exact ((haccounted hypervisor hmem).ports pname hportName hport).1
  · exact (haccounted hypervisor hmem).files hfs

/-- Without a hypervisor there is nothing to release. -/
theorem released_of_none (h : Releasing known start freed gone world) {found : Component}
    (hfound : lookupKey Component.name start.name world.components = some found)
    (hnone : world.componentHypervisor found = none) : Released start world := by
  intro hypervisor hmem hkeeps
  obtain ⟨other, hother, hfrz, -⟩ := h.found
  rw [hfound, Option.some_inj] at hother
  subst hother
  have hname := h.name_eq_of_keeps hmem hkeeps
  rw [← Component.hypervisorName_eq_of_frozen hfrz] at hname
  exact lookupKey_eq_none_iff.mp hnone (hname ▸ List.mem_map_of_mem hmem)

/-- When all ports and the files are gone, nothing is left. -/
theorem released (h : Releasing known start freed gone world) (hall : freed ⊆ gone)
    (hfs : ∀ hypervisor ∈ world.hypervisors, hypervisor.name = start.hypervisorName →
      ¬ hypervisor.HasFilesOf start.ref) : Released start world := by
  intro hypervisor hmem hkeeps
  have hname := h.name_eq_of_keeps hmem hkeeps
  rcases hkeeps with ⟨pname, hportName, hport⟩ | hhas
  · obtain ⟨found, -, hfrz, haccounted, hgone⟩ := h.found
    rw [← Component.ref_eq_of_frozen hfrz] at hport
    obtain ⟨-, hheld, hfreed⟩ := (haccounted hypervisor hmem).ports pname hportName hport
    rw [hgone pname (hall hfreed)] at hheld
    cases hheld
  · exact hfs hypervisor hmem hname hhas

end Releasing

/-- The ports in `gone` are gone before `x`, and those in `gone'` after it. -/
abbrev Frees (known : Cluster) (start : Component) (freed gone gone' : List String) {α : Type}
    (x : ReconcileM σ α) : Prop :=
  Triple (Releasing known start freed gone) x (fun _ => Releasing known start freed gone')
    fun _ => True

namespace Frees

variable {p : Permissions} {known : Cluster} {start : Component} {freed gone : List String}
  {α : Type} {x : ReconcileM σ α}

/-- A program that requests no port that is gone. -/
theorem of_performs (hx : Performs p x)
    (hnames : ∀ other pname, p.requests other pname → pname ∈ hostPortNames)
    (hown : ∀ pname, p.requests start.name pname → pname ∈ freed ∧ pname ∉ gone) :
    Frees known start freed gone gone x := by
  intro world h
  refine ⟨fun a world' hrun => ?_, fun _ _ _ => trivial⟩
  exact h.steps hnames hown (hx.of_run hrun)

/-- A program that requests no port. -/
theorem of_noRequests (hx : Performs ⟨fun _ _ => False, fun _ _ => True⟩ x) :
    Frees known start freed gone gone x :=
  of_performs hx (fun _ _ => False.elim) fun _ => False.elim

theorem host (outside : Outside σ) (call : HostCall) :
    Frees known start freed gone gone (host outside start.name call) :=
  of_noRequests (performs_host _ outside start.name call)

theorem cluster : Triple (Releasing known start freed gone) (cluster : ReconcileM σ Cluster)
    (fun found world => found = known ∧ Releasing known start freed gone world) fun _ => True := by
  intro world h
  refine ⟨fun found world' hrun => ?_, fun _ _ _ => trivial⟩
  cases hrun
  exact ⟨h.cluster_eq, h⟩

theorem bind_cluster {f : Cluster → ReconcileM σ α} {Q : α → World σ → Prop}
    (hf : Triple (Releasing known start freed gone) (f known) Q fun _ => True) :
    Triple (Releasing known start freed gone) (Components.cluster >>= f) Q fun _ => True := by
  refine .bind cluster fun found => ?_
  rintro world ⟨rfl, h⟩
  exact hf world h

theorem freePort (pname : String) : Frees known start freed gone (pname :: gone)
    (freePort start.name pname : ReconcileM σ Unit) := by
  intro world h
  refine ⟨fun _ world' hrun => ?_, fun _ _ _ => trivial⟩
  have hperforms : Performs ⟨fun _ _ => False, fun _ _ => True⟩
      (Components.freePort start.name pname : ReconcileM σ Unit) :=
    performs_freePort _ _ trivial
  have hafter := h.steps (fun _ _ => False.elim) (fun _ => False.elim) (hperforms.of_run hrun)
  refine ⟨hafter.keyed, hafter.cluster_eq, ?_⟩
  obtain ⟨found', hfound', hfrz', haccounted', hgone'⟩ := hafter.found
  refine ⟨found', hfound', hfrz', haccounted', List.forall_mem_cons.mpr ⟨?_, hgone'⟩⟩
  obtain ⟨found, hfound, hfrz, -, -⟩ := h.found
  have hname : found.name = start.name := (lookupKey_some_mem hfound).2
  rw [run_freePort, hfound] at hrun
  dsimp only at hrun
  cases hhyp : world.componentHypervisor found with
  | none =>
    rw [hhyp] at hrun
    dsimp only at hrun
    cases hheld : found.allocatedHostPorts.lookup pname with
    | some port =>
      rw [hheld] at hrun
      cases hrun
    | none =>
      rw [hheld] at hrun
      cases hrun
      rw [hfound, Option.some_inj] at hfound'
      rw [← hfound', hheld]
  | some hypervisor =>
    rw [hhyp] at hrun
    cases hrun
    have hsame := Component.frozen_freePort found hypervisor pname
    rcases lookup_setComponent_cases hfound (hname ▸ hfound) hsame.1 with ⟨-, hlk⟩ | ⟨hne, -⟩
    · change lookupKey _ _ (world.setComponent _).components = _ at hfound'
      rw [hlk, Option.some_inj] at hfound'
      rw [← hfound', Component.lookup_freePort, if_pos rfl]
    · exact absurd rfl hne

/-- The files are forgotten at the end. -/
theorem hostCleanup (outside : Outside σ) (hcl : known.namespace = start.namespace ∧
    known.name = start.clusterName) (hall : freed ⊆ gone) :
    Triple (Releasing known start freed gone) (hostCleanup outside start.name)
      (fun _ => Released start) fun _ => True := by
  refine bind_cluster (.bind (host outside _) fun _ => ?_)
  intro world h
  refine ⟨fun _ world' hrun => ?_, fun _ _ _ => trivial⟩
  obtain ⟨hypervisor, between, hderef, hmodify⟩ := run_bind_eq_ok.mp hrun
  obtain ⟨rfl, found, hfound, hhyp⟩ := derefHypervisor_ok hderef
  obtain ⟨hhv, hhvName⟩ := lookup_of_componentHypervisor hhyp
  obtain ⟨-, hname⟩ := lookupKey_some_mem hfound
  cases hmodify
  rw [← hname] at hfound
  have hstep : WorldStep ⟨fun _ _ => False, fun _ _ => True⟩ between
      (between.setHypervisor (hypervisor.cleanupHypervisorFileMap between.cluster.namespace
        between.cluster.name found.name)) := .cleanup hfound hhyp
  rw [hname] at hstep
  have hafter := h.step (fun _ _ => False.elim) (fun _ => False.elim) hstep
  refine hafter.released hall ?_
  intro other hother hon hfs
  have hsame := Hypervisor.name_eq_of_frozen (hypervisor.frozen_cleanupHypervisorFileMap
    between.cluster.namespace between.cluster.name start.name)
  rcases mem_modifyKey.mp hother with ⟨hold, hne⟩ | ⟨_, _, _, rfl⟩
  · obtain ⟨other', hother', hfrz, -⟩ := h.found
    rw [← hname, hfound, Option.some_inj] at hother'
    subst hother'
    refine hne (hon.trans ?_)
    rw [← Component.hypervisorName_eq_of_frozen hfrz]
    exact (hsame.trans hhvName).symm
  · unfold Hypervisor.HasFilesOf at hfs
    rw [Hypervisor.fileMap_cleanupHypervisorFileMap, if_pos] at hfs
    · exact hfs rfl
    · rw [h.cluster_eq, hcl.1, hcl.2]
      exact ⟨rfl, rfl, rfl⟩

end Frees

/-- The ports that deleting a component frees if it holds them.  Deleting a component of an
unknown role fails, and leaves the component. -/
def freedPorts (cluster : Cluster) : Role → List String
  | .controlPlane => ControlPlane.hostPortNames
  | .controlPlaneIngress =>
    if cluster.vpn.enabled then [apiServerHostPortName, wireguardHostPortName]
    else [apiServerHostPortName]
  | .unknown => hostPortNames

section Deletion

variable {known : Cluster} {start : Component} (outside : Outside σ)
  (hcl : known.namespace = start.namespace ∧ known.name = start.clusterName)

/-- A component without a hypervisor has nothing to release. -/
theorem releasing_bind_hypervisor {freed : List String} {x : ReconcileM σ Unit}
    (hx : Triple (Releasing known start freed []) x (fun _ => Released start) fun _ => True) :
    Triple (Releasing known start freed []) (do
      if (← hypervisor start.name).isNone then return
      x) (fun _ => Released start) fun _ => True := by
  refine .bind (Q := fun found world => Releasing known start freed [] world ∧
    (found.isNone → Released start world)) ?_ fun found => ?_
  · intro world h
    refine ⟨fun found world' hrun => ?_, fun _ _ _ => trivial⟩
    obtain ⟨component, between, hcomp, hget⟩ := run_bind_eq_ok.mp hrun
    obtain ⟨hfound, rfl⟩ := component_ok hcomp
    cases hget
    exact ⟨h, fun hnone => h.released_of_none hfound (Option.isNone_iff_eq_none.mp hnone)⟩
  · split
    · next hnone => exact .of_pure fun _ h => h.2 hnone
    · exact hx.mono (fun _ h => h.1) (fun _ _ h => h) fun _ h => h

include hcl

theorem releases_controlPlane :
    Triple (Releasing known start ControlPlane.hostPortNames [])
      (ControlPlane.reconcileDeletion outside start.name) (fun _ => Released start)
      fun _ => True := by
  refine releasing_bind_hypervisor ?_
  have hstop : Triple (Releasing known start ControlPlane.hostPortNames [apiServerHostPortName])
      (do
        ControlPlane.stopEtcd outside start.name
        hostCleanup outside start.name) (fun _ => Released start) fun _ => True := by
    refine .bind (Frees.bind_cluster (.bind (Frees.host outside _) fun _ =>
      .bind (Frees.freePort _) fun _ => Frees.freePort _)) fun _ => ?_
    exact Frees.hostCleanup outside hcl (by decide)
  refine .bind (Frees.bind_cluster (.bind (Frees.host outside _) fun _ => Frees.freePort _))
    fun _ => ?_
  refine Frees.bind_cluster ?_
  split
  · have hserves : (Performs.logic (ControlPlane.deletionPermissions start.name)).ServesEtcd
        outside start.name :=
      ControlPlane.servesEtcd outside start.name (fun _ => .inl rfl) (.inr ⟨rfl, rfl⟩)
    refine .bind (Frees.of_performs hserves.removeEtcdMember ?_ ?_) fun _ => hstop
    · rintro other pname (rfl | ⟨-, rfl⟩)
      · decide
      · decide
    · rintro pname (rfl | ⟨-, rfl⟩)
      · decide
      · decide
  · exact hstop

theorem releases_ingress :
    Triple (Releasing known start (freedPorts known .controlPlaneIngress) [])
      (ControlPlaneIngress.reconcileDeletion outside start.name) (fun _ => Released start)
      fun _ => True := by
  refine releasing_bind_hypervisor ?_
  unfold ControlPlaneIngress.stopIngress freedPorts
  rw [bind_assoc]
  refine Frees.bind_cluster ?_
  simp only [bind_assoc]
  refine .bind (Frees.host outside _) fun _ => .bind (Frees.freePort _) fun _ => ?_
  cases hvpn : known.vpn.enabled with
  | true =>
    refine .bind (Frees.freePort _) fun _ => ?_
    exact Frees.hostCleanup outside hcl (by decide)
  | false =>
    exact Frees.hostCleanup outside hcl (by decide)

omit hcl in
/-- The finalizer is removed after the deletion. -/
theorem releases_reconcileComponentDeletion {freed : List String}
    {operations : ComponentOperations σ}
    (hdel : Triple (Releasing known start freed [])
      (operations.reconcileDeletion start.name) (fun _ => Released start) fun _ => True) :
    Triple (Releasing known start freed []) (reconcileComponentDeletion start.name operations)
      (fun outcome world => outcome = .ok () → Released start world) fun _ => True := by
  have hattempt : Triple (Releasing known start freed [])
      (attempt (operations.reconcileDeletion start.name))
      (fun outcome world => outcome = .ok () → Released start world) fun _ => True :=
    hdel.of_attempt (fun _ _ hreleased _ => hreleased) fun _ _ _ herr => by cases herr
  refine .bind hattempt fun outcome => ?_
  cases outcome with
  | error message => exact .of_pure fun _ h => h
  | ok _ =>
    intro world h
    refine ⟨fun outcome world' hrun _ => ?_, fun _ _ _ => trivial⟩
    dsimp only at hrun
    rw [if_pos rfl] at hrun
    obtain ⟨found, between, hcomp, hrest⟩ := run_bind_eq_ok.mp hrun
    obtain ⟨-, rfl⟩ := component_ok hcomp
    cases hrest
    exact h rfl

/-- The deletion of the role. -/
theorem releases_operations {operations : ComponentOperations σ}
    (hops : retrieveComponent outside start.role = some operations) :
    Triple (Releasing known start (freedPorts known start.role) [])
      (operations.reconcileDeletion start.name) (fun _ => Released start) fun _ => True := by
  cases hrole : start.role with
  | controlPlane =>
    rw [hrole] at hops
    cases hops
    exact releases_controlPlane outside hcl
  | controlPlaneIngress =>
    rw [hrole] at hops
    cases hops
    exact releases_ingress outside hcl
  | unknown =>
    rw [hrole] at hops
    cases hops

/-- A deletion without errors leaves nothing. -/
theorem releases_reconcileDeletion :
    Triple (Releasing known start (freedPorts known start.role) [])
      (reconcileDeletion outside [start.name])
      (fun errors world => errors = [] → Released start world) fun _ => True := by
  have hrole : Triple (Releasing known start (freedPorts known start.role) [])
      (component start.name : ReconcileM σ Component)
      (fun found world => found.role = start.role ∧
        Releasing known start (freedPorts known start.role) [] world) fun _ => True := by
    intro world h
    refine ⟨fun found world' hrun => ?_, fun _ _ _ => trivial⟩
    obtain ⟨hfound, rfl⟩ := component_ok hrun
    obtain ⟨other, hother, hfrz, -⟩ := h.found
    rw [hfound, Option.some_inj] at hother
    subst hother
    exact ⟨Component.role_eq_of_frozen hfrz, h⟩
  refine .bind hrole fun found => ?_
  rintro world ⟨hfound, h⟩
  rw [hfound]
  -- the errors are empty if the one operation has none
  have hlast : ∀ {x : ReconcileM σ (Except String Unit)},
      Triple (Releasing known start (freedPorts known start.role) []) x
        (fun outcome world => outcome = .ok () → Released start world) (fun _ => True) →
      Triple (Releasing known start (freedPorts known start.role) []) (do
        collectErrors start.name (forEachComponent outside reconcileComponentDeletion []) (← x))
        (fun errors world => errors = [] → Released start world) fun _ => True := by
    intro x hx
    refine .bind hx fun outcome => ?_
    cases outcome with
    | ok _ => exact .of_pure fun _ h _ => h rfl
    | error message => exact .of_pure fun _ _ herrs => by cases herrs
  cases hops : retrieveComponent outside start.role with
  | none => exact hlast (.of_pure fun _ _ herr => by cases herr) world h
  | some operations =>
    exact hlast (releases_reconcileComponentDeletion
      (releases_operations outside hcl hops)) world h

end Deletion

/-! ## Reconciles before the deletion -/

/-- What reconciles may do that do not touch the wireguard port of a component. -/
def withoutWireguard (name : String) : Permissions where
  requests other pname :=
    pname ∈ hostPortNames ∧ (other = name → pname ≠ wireguardHostPortName)
  frees _ _ := False

/-- Reconciling the components of the cluster keeps everything of a component accounted for
that is not an ingress. -/
theorem frees_reconcile {known : Cluster} {start : Component} (outside : Outside σ)
    (hrole : start.role ≠ .controlPlaneIngress) (names : List String) :
    Frees known start (freedPorts known start.role) [] [] (reconcile outside names) := by
  have hnames : ∀ other pname, (withoutWireguard start.name).requests other pname →
      pname ∈ hostPortNames := fun _ _ h => h.1
  have hown : ∀ pname, (withoutWireguard start.name).requests start.name pname →
      pname ∈ freedPorts known start.role ∧ pname ∉ [] := by
    rintro pname ⟨hportName, hne⟩
    refine ⟨?_, List.not_mem_nil⟩
    cases hcase : start.role with
    | controlPlane =>
      have hall : ∀ pname ∈ hostPortNames, pname ≠ wireguardHostPortName →
          pname ∈ ControlPlane.hostPortNames := by decide
      exact hall pname hportName (hne rfl)
    | controlPlaneIngress => exact absurd hcase hrole
    | unknown => exact hportName
  have hkept : Preserves (Releasing known start (freedPorts known start.role) [])
      (reconcile outside names) := by
    refine .bind (.bind .of_get fun _ => .of_pure _) fun names =>
      preserves_forEachComponent outside ?_
    intro found world operations h _ hfound hops
    refine h.steps hnames hown ?_
    refine performs_reconcileComponent (p := withoutWireguard start.name) outside ?_ world
    cases hcase : found.role with
    | unknown =>
      rw [hcase] at hops
      cases hops
    | controlPlane =>
      rw [hcase] at hops
      cases hops
      have hle : (ControlPlane.reconcilePermissions found.name).Le
          (withoutWireguard start.name) := by
        refine ⟨?_, fun _ _ => id⟩
        rintro other pname (rfl | rfl | ⟨-, rfl⟩)
        · exact ⟨by decide, fun _ => by decide⟩
        · exact ⟨by decide, fun _ => by decide⟩
        · exact ⟨by decide, fun _ => by decide⟩
      exact (ControlPlane.performs_reconcile outside found.name).mono hle
    | controlPlaneIngress =>
      rw [hcase] at hops
      cases hops
      -- the component is another one, because its role is another one
      have hother : found.name ≠ start.name := by
        intro hname
        obtain ⟨component, hcomp, hfrz, -⟩ := h.found
        rw [hname, hcomp, Option.some_inj] at hfound
        subst hfound
        have heq := Component.role_eq_of_frozen hfrz
        exact hrole (heq.symm.trans hcase)
      have hle : (ControlPlaneIngress.reconcilePermissions found.name).Le
          (withoutWireguard start.name) := by
        refine ⟨?_, fun _ _ => id⟩
        rintro other pname (rfl | ⟨rfl, rfl⟩)
        · exact ⟨by decide, fun _ => by decide⟩
        · exact ⟨by decide, fun hname => absurd hname hother⟩
      exact (ControlPlaneIngress.performs_reconcile outside found.name).mono hle
  intro world h
  refine ⟨fun errors world' hrun => ?_, fun _ _ _ => trivial⟩
  have hend := hkept world h
  rwa [hrun] at hend

end Components

end OneInfra
