import OneInfra.Component.HostCleanup
import OneInfra.Component.Records
import OneInfra.Component.WireguardNames

/-!
# The uploaded files and their removal

Every path that `UploadFiles` is called with for a component is recorded on its hypervisor,
and a call that returns removes no record.  So the record of a component, from its creation
on, has the paths of all calls, and it is compared with the directories that `hostCleanup`
of its role removes.

`Recorded.logic` is the logic of what is true of the record of one component.  It is used
twice: for the paths that a call can add (`Within`), and for a path that stays (`Contains`).

All paths are in the directory of the secrets of the component, but for the systemd unit of
the VPN server.  `cleanedUp_iff` says that this is the only exception.
-/

namespace OneInfra.Components

open Lib Infra Lib.FilePath

variable {σ : Type} {outside : Outside σ} {name : String} {world world' : World σ}

/-! ## The record of a component -/

/-- The record of a component is the same if its hypervisor and the files there are. -/
theorem recordedFiles_congr (hcl : world'.cluster = world.cluster)
    (hasg : (lookupKey Component.name name world'.components).map Component.hypervisorName =
      (lookupKey Component.name name world.components).map Component.hypervisorName)
    (hfs : world'.hypervisors.map (fun hypervisor => (hypervisor.name, hypervisor.files)) =
      world.hypervisors.map fun hypervisor => (hypervisor.name, hypervisor.files)) :
    recordedFiles world' name = recordedFiles world name := by
  have heq : ∀ world : World σ, recordedFiles world name =
      ((lookupKey Component.name name world.components).map Component.hypervisorName).bind
        fun hyp => ((lookupKey Hypervisor.name hyp world.hypervisors).map
          Hypervisor.files).bind fun files => (files.lookup world.cluster.namespace).bind
            fun clusterFileMap => (clusterFileMap.lookup world.cluster.name).bind
              fun componentFileMap => componentFileMap.lookup name := by
    intro world
    rw [recordedFiles]
    cases lookupKey Component.name name world.components with
    | none => rfl
    | some component =>
      show Option.bind (lookupKey Hypervisor.name component.hypervisorName world.hypervisors) _ = _
      rw [Option.map_some, Option.bind_some]
      cases lookupKey Hypervisor.name component.hypervisorName world.hypervisors with
      | none => rfl
      | some hypervisor => rfl
  rw [heq, heq, hasg, hcl]
  refine congrArg _ (funext fun hyp => ?_)
  rw [map_lookupKey_congr hfs]

/-- The cluster is that one, and `P` is true of the record of the component. -/
structure Recorded (cluster : Cluster) (P : Option FileMap → Prop) (name : String)
    (world : World σ) : Prop where
  keyed : Keyed world
  cluster_eq : world.cluster = cluster
  files : P (recordedFiles world name)

/-- `P` stays true of a record when files are added to it at paths with `S`. -/
def Closed (S : String → Prop) (P : Option FileMap → Prop) : Prop :=
  ∀ (record : Option FileMap) (sums : List (String × String)), P record →
    (∀ sum ∈ sums, S sum.1) →
    P (some (sums.foldl (fun record sum => record.insert sum.1 sum.2) (record.getD ∅)))

namespace Recorded

variable {cluster : Cluster} {P : Option FileMap → Prop} {S : String → Prop}

theorem congr (h : Recorded cluster P name world) (hsame : SameFrozen world world')
    (hfs : world'.hypervisors.map (fun hypervisor => (hypervisor.name, hypervisor.files)) =
      world.hypervisors.map fun hypervisor => (hypervisor.name, hypervisor.files)) :
    Recorded cluster P name world' where
  keyed := hsame.keyed h.keyed
  cluster_eq := hsame.cluster.trans h.cluster_eq
  files := by
    have hasg := hsame.map_components
      (fun component => (component.name, component.hypervisorName)) fun _ => rfl
    rw [recordedFiles_congr hsame.cluster (map_lookupKey_congr hasg) hfs]
    exact h.files

/-- To keep what is true of the record of a component, while files are uploaded to paths with
`S` only. -/
def logic (cluster : Cluster) (P : Option FileMap → Prop) (S : String → Prop) (name : String) :
    Logic σ :=
  .preserving (Recorded cluster P name) (· = cluster) (fun _ _ path => S path)
    (fun _ _ h => h.congr ⟨rfl, rfl, rfl⟩ rfl) fun _ h => h.cluster_eq

theorem after {α : Type} {x : ReconcileM σ α} {a : α} (h : Recorded cluster P name world)
    (hx : (logic cluster P S name).Holds x) (hrun : x.run world = .ok a world') :
    Recorded cluster P name world' :=
  Logic.of_run_preserving hx hrun h

section Calls

variable {L : Logic σ} (hL : L = logic cluster P S name)

include hL

theorem tolerant : L.Tolerant := by
  subst hL
  exact Logic.tolerant_preserving

theorem hasData (other : String) : L.HasData other := by
  subst hL
  refine ⟨fun hf => guarantees_bind_component
    (R := fun world world' => Recorded cluster P name world → Recorded cluster P name world')
    (fun _ => id) _ fun found world hfound hname h => ?_⟩
  obtain ⟨a, comp', hrun, hfrz, -⟩ := hf found world hfound hname
  rw [hrun]
  exact h.congr (.setComponent h.keyed hfound hfrz) rfl

/-- Requesting a port, also for another component, touches no file. -/
theorem requestPort (other portName : String) : L.Holds (requestPort other portName) := by
  subst hL
  intro world h
  have hperforms : Performs anyPorts (Components.requestPort other portName : ReconcileM σ Int64) :=
    performs_requestPort other portName trivial
  have hsame := (hperforms world).sameFrozen h.keyed
  refine h.congr hsame ?_
  rw [run_requestPort]
  split
  · rfl
  · next found hfound =>
    split
    · next hypervisor hhyp =>
      split
      · next port comp' hyp' hreq =>
        obtain ⟨freedPorts, allocatedPorts, rfl⟩ := Component.requestPort_hypervisor_eq hreq
        exact map_modifyKey_const h.keyed.hypervisors
          (lookup_of_componentHypervisor hhyp).1 rfl
      · rfl
    · split
      · rfl
      · rfl

theorem uploadFiles (hclosed : Closed S P) {files : List (String × String)}
    (hfs : ∀ file ∈ files, S file.1) : L.Holds (uploadFiles outside name files) := by
  refine ((tolerant hL).derefHypervisor name).uploadFiles ?_
  subst hL
  intro world h
  have hkept := (tolerant (L := logic cluster P S name) rfl).derefHypervisor name world h
  rw [Logic.recordUploaded, EStateM.run_bind]
  cases hrun : (Components.derefHypervisor name).run world with
  | error fault world' =>
    rw [hrun] at hkept
    exact hkept
  | ok hypervisor world' =>
    obtain ⟨rfl, found, hfound, hasg⟩ := derefHypervisor_ok hrun
    obtain ⟨hlk, -⟩ := lookup_of_componentHypervisor hasg
    have hsame : SameFrozen world' (world'.setHypervisor (hypervisor.recordFiles
        world'.cluster.namespace world'.cluster.name name
        (files.map fun file => (file.1, outside.sha1Sum file.2)))) :=
      .setHypervisor h.keyed hlk rfl
    refine ⟨hsame.keyed h.keyed, h.cluster_eq, ?_⟩
    show P (recordedFiles (world'.setHypervisor _) name)
    rw [recordedFiles_recordFiles hasg hfound]
    refine hclosed _ _ h.files fun sum hsum => ?_
    obtain ⟨file, hfile, rfl⟩ := List.mem_map.mp hsum
    exact hfs file hfile

theorem serves (hclosed : Closed S P)
    (hsecrets : ∀ file, Plain file →
      S (componentSecretsPathFile cluster.namespace cluster.name name file)) :
    L.ServesCertificates outside name := by
  refine (tolerant hL).serves (hasData hL _) ?_ ?_ <;> subst hL
  · rintro _ file rfl hfile
    exact hsecrets file hfile
  · exact fun _ files _ hfs => uploadFiles rfl hclosed hfs

theorem reconcileControlPlane (hclosed : Closed S P)
    (hsecrets : ∀ file, Plain file →
      S (componentSecretsPathFile cluster.namespace cluster.name name file)) :
    L.Holds (ControlPlane.reconcile outside name) := by
  have hetcd : L.ServesEtcd outside name :=
    (serves hL hclosed hsecrets).toServesEtcd (fun _ => requestPort hL _ _) (requestPort hL _ _)
  have hrecord (container : EtcdContainer) : L.Holds (Logic.recordEtcdContainer container) := by
    subst hL
    exact fun _ h => h.congr ⟨rfl, rfl, rfl⟩ rfl
  exact (hetcd.toServesControlPlane (hasData hL _) (requestPort hL _ _)
    (fun _ => requestPort hL _ _)
    (hetcd.etcdContainer hrecord)).reconcile

theorem servesIngress (hclosed : Closed S P)
    (hsecrets : ∀ file, Plain file →
      S (componentSecretsPathFile cluster.namespace cluster.name name file))
    (hservice : cluster.vpn.enabled = true →
      S (ControlPlaneIngress.wireguardSystemdServicePath cluster)) :
    L.ServesIngress outside name := by
  refine (serves hL hclosed hsecrets).toServesIngress (hasData hL _) (tolerant hL)
    (fun _ => requestPort hL _ _) (requestPort hL _ _) ?_
  subst hL
  rintro _ _ rfl rfl hvpn
  exact hservice hvpn

end Calls

end Recorded

/-! ### The two properties of a record -/

/-- All paths of the record have `S`. -/
def Within (S : String → Prop) (record : Option FileMap) : Prop :=
  ∀ path, (record.bind (·.lookup path)).isSome → S path

theorem closed_within (S : String → Prop) : Closed S (Within S) := by
  intro record sums hrecord hsums path hpath
  rw [Option.bind_some, GoMap.isSome_lookup_foldl_insert] at hpath
  rcases hpath with hpath | hpath
  · obtain ⟨sum, hsum, rfl⟩ := List.mem_map.mp hpath
    exact hsums sum hsum
  · refine hrecord path ?_
    cases record with
    | none => exact absurd hpath (by simp)
    | some record => exact hpath

/-- The path is in the record. -/
def Contains (path : String) (record : Option FileMap) : Prop :=
  (record.bind (·.lookup path)).isSome

theorem closed_contains (path : String) : Closed (fun _ => True) (Contains path) := by
  intro record sums hrecord _
  rw [Contains, Option.bind_some, GoMap.isSome_lookup_foldl_insert]
  right
  cases record with
  | none => exact absurd hrecord (by simp [Contains])
  | some record => exact hrecord

/-! ## The directories of the cleanup -/

/-- The names under which a component has its files, whatever they are. -/
structure Names where
  clusterNamespace : String
  clusterName : String
  componentName : String
deriving DecidableEq, Repr

/-- The API server accepts the names. -/
def Names.Valid (names : Names) : Prop :=
  DNSName.isDNS1123Subdomain names.clusterNamespace = true ∧
    DNSName.isDNS1123Subdomain names.clusterName = true ∧
    DNSName.isDNS1123Subdomain names.componentName = true

/-- The path of a secret. -/
def Names.secret (names : Names) (file : String) : String :=
  componentSecretsPathFile names.clusterNamespace names.clusterName names.componentName file

/-- The path of the systemd unit of the VPN server. -/
def Names.unit (names : Names) : String :=
  ControlPlaneIngress.wireguardSystemdServicePath
    { «namespace» := names.clusterNamespace, name := names.clusterName }

/-- The commands of `hostCleanup` for a role. -/
def cleanupCommands (role : Role) (names : Names) : List Command :=
  match role with
  | .controlPlane =>
    ControlPlane.cleanupCommands names.clusterNamespace names.clusterName names.componentName
  | .controlPlaneIngress =>
    ControlPlaneIngress.cleanupCommands names.clusterNamespace names.clusterName
      names.componentName
  | .unknown => []

/-- The path is in a directory that is removed with all that is in it. -/
def Removed (role : Role) (names : Names) (path : String) : Prop :=
  ∃ command ∈ cleanupCommands role names, ∃ dir ∈ command.removedRecursively, IsUnder path dir

/-- The files of the host after the pod of `hostCleanup`. -/
def cleanup (role : Role) (names : Names) (fs : FileSystem) : FileSystem :=
  (cleanupCommands role names).foldl (fun fs command => (command.run fs).2) fs

/-- A file is below the directory that it is joined to, also if the names of the directory lead
somewhere else. -/
theorem isUnder_secret (names : Names) {file : String} (hfile : Plain file) :
    IsUnder (names.secret file)
      (componentSecretsPath names.clusterNamespace names.clusterName names.componentName) := by
  obtain ⟨namespaced, hnamespaced, hfirst⟩ :=
    exists_join_rooted plain_secretsRoot names.clusterNamespace
  obtain ⟨clustered, hclustered, hsnd⟩ := exists_join_rooted hnamespaced names.clusterName
  obtain ⟨dir, hdir, hthird⟩ := exists_join_rooted hclustered names.componentName
  have hpath : componentSecretsPath names.clusterNamespace names.clusterName
      names.componentName = rooted dir := by
    rw [componentSecretsPath, clusterSecretsPath, namespacedClusterSecretsPath]
    show join [join [join [rooted secretsRoot, _], _], _] = _
    rw [hfirst, hsnd, hthird]
  rw [Names.secret, componentSecretsPathFile, hpath, join_rooted_of_plain hdir hfile,
    isUnder_rooted (plain_append hdir hfile) hdir]
  exact List.prefix_append _ _

/-- The secrets are removed with a component of either role. -/
theorem removed_secret {role : Role} (hrole : role ≠ .unknown) (names : Names) {file : String}
    (hfile : Plain file) : Removed role names (names.secret file) := by
  refine ⟨secretsCleanup names.clusterNamespace names.clusterName names.componentName, ?_, _,
    List.mem_cons_self, isUnder_secret names hfile⟩
  cases role with
  | controlPlane => exact List.mem_cons_of_mem _ List.mem_cons_self
  | controlPlaneIngress => exact List.mem_cons_self
  | unknown => exact absurd rfl hrole

section Unit

open ControlPlaneIngress

/-- The systemd unit is not in a directory of the component. -/
theorem not_removed_unit {names : Names} (hvalid : names.Valid) :
    ¬ Removed .controlPlaneIngress names names.unit := by
  have hns : Plain names.clusterNamespace := DNSName.plain hvalid.1
  have hcl : Plain names.clusterName := DNSName.plain hvalid.2.1
  have hcomp : Plain names.componentName := DNSName.plain hvalid.2.2
  have hservice : Plain (wireguardSystemdServiceName
      { «namespace» := names.clusterNamespace, name := names.clusterName }) :=
    plain_wireguardSystemdServiceName ⟨hvalid.1, hvalid.2.1⟩
  have hroot : ∀ p ∈ ["etc", "systemd", "system"], Plain p := by decide
  have hpath : names.unit = rooted (["etc", "systemd", "system"] ++ [_]) :=
    join_rooted_of_plain hroot hservice
  rintro ⟨command, hcommand, dir, hdir, hunder⟩
  cases List.mem_singleton.mp hcommand
  cases List.mem_singleton.mp hdir
  rw [hpath, componentSecretsPath_eq hns hcl hcomp,
    isUnder_rooted (plain_append hroot hservice)
      (plain_component hns hcl hcomp plain_secretsRoot)] at hunder
  simp [secretsRoot] at hunder

end Unit

/-! ### The files after the cleanup -/

/-- No command adds a file. -/
theorem Command.run_subset (command : Command) (fs : FileSystem) : (command.run fs).2 ⊆ fs := by
  induction command generalizing fs with
  | rmRecursively path => exact List.filter_subset_self _
  | rmdir path =>
    unfold run
    cases hrmdir : fs.rmdir path with
    | error message => exact List.Subset.refl _
    | ok fs' =>
      unfold FileSystem.rmdir at hrmdir
      split_ifs at hrmdir
      cases hrmdir
      exact List.filter_subset_self _
  | andThen first second hfirst hsnd =>
    have hone := hfirst fs
    unfold run
    cases hrun : first.run fs with
    | mk succeeds fs' =>
      rw [hrun] at hone
      cases succeeds with
      | false => exact hone
      | true => exact List.Subset.trans (hsnd fs') hone
  | orTrue command ih => exact ih fs

/-- A cleanup command starts with its recursive removal. -/
theorem notMem_run_of_isUnder {path dir : String} {second : Command} {entry : Entry}
    {fs : FileSystem} (hunder : IsUnder path dir) :
    (path, entry) ∉ ((Command.andThen (.rmRecursively dir) (.orTrue second)).run fs).2 := by
  intro hmem
  have hkept : (path, entry) ∈ fs.rmRecursively dir := Command.run_subset (.orTrue second) _ hmem
  exact absurd hunder (of_decide_eq_true (List.mem_filter.mp hkept).2)

theorem foldl_run_subset (commands : List Command) (fs : FileSystem) :
    commands.foldl (fun fs command => (command.run fs).2) fs ⊆ fs := by
  induction commands generalizing fs with
  | nil => exact List.Subset.refl _
  | cons command commands ih => exact List.Subset.trans (ih _) (command.run_subset fs)

/-- What is in a removed directory is not there after the cleanup. -/
theorem notMem_cleanup {role : Role} {names : Names} {path : String}
    (h : Removed role names path) (fs : FileSystem) (entry : Entry) :
    (path, entry) ∉ cleanup role names fs := by
  obtain ⟨command, hcommand, dir, hdir, hunder⟩ := h
  -- where the command stands in the list, it removes the path, and nothing brings it back
  have hremoves : ∀ fs, (path, entry) ∉ (command.run fs).2 := by
    intro fs
    have hcases : command ∈ ControlPlane.cleanupCommands names.clusterNamespace
        names.clusterName names.componentName := by
      cases role with
      | controlPlane => exact hcommand
      | controlPlaneIngress => exact List.mem_cons_of_mem _ hcommand
      | unknown => cases hcommand
    simp only [ControlPlane.cleanupCommands, List.mem_cons, List.not_mem_nil, or_false] at hcases
    rcases hcases with rfl | rfl
    · cases List.mem_singleton.mp hdir
      exact notMem_run_of_isUnder hunder
    · cases List.mem_singleton.mp hdir
      exact notMem_run_of_isUnder hunder
  obtain ⟨before, after, hsplit⟩ := List.append_of_mem hcommand
  rw [cleanup, hsplit, List.foldl_append, List.foldl_cons]
  exact fun hmem => hremoves _ (foldl_run_subset after _ hmem)

/-! ## Deletion -/

theorem recordedFiles_of_hostCleanup
    (hrun : (hostCleanup outside name).run world = .ok () world') :
    recordedFiles world' name = none := by
  simp only [hostCleanup, run_bind_eq_ok] at hrun
  obtain ⟨_, _, -, _, world₁, -, hypervisor, _, hhyp, hrun⟩ := hrun
  obtain ⟨hsame, found, hfound, hasg⟩ := derefHypervisor_ok hhyp
  rw [hsame] at hrun
  cases hrun
  exact recordedFiles_cleanupHypervisorFileMap hasg hfound

theorem recordedFiles_of_hypervisor {found : Option Hypervisor}
    (hrun : (hypervisor name).run world = .ok found world') (hnone : found.isNone = true) :
    recordedFiles world' name = none := by
  simp only [hypervisor, run_bind_eq_ok] at hrun
  obtain ⟨component, _, hcomp, _, _, hget, hpure⟩ := hrun
  obtain ⟨hfound, hsame⟩ := component_ok hcomp
  rw [hsame] at hget
  cases hget
  cases hpure
  rw [Option.isNone_iff_eq_none] at hnone
  rw [recordedFiles, hfound]
  show Option.bind (world.componentHypervisor component) _ = none
  rw [hnone]
  rfl

/-- A deletion that returns drops the record of the component. -/
theorem recordedFiles_of_reconcileDeletion {role : Role} {operations : ComponentOperations σ}
    (hops : retrieveComponent outside role = some operations)
    (hrun : (operations.reconcileDeletion name).run world = .ok () world') :
    recordedFiles world' name = none := by
  cases role with
  | unknown => cases hops
  | controlPlane =>
    cases hops
    simp only [ControlPlane.reconcileDeletion, run_bind_eq_ok] at hrun
    obtain ⟨found, world₁, hfound, hrun⟩ := hrun
    split at hrun
    · next hnone =>
      cases hrun
      exact recordedFiles_of_hypervisor hfound hnone
    · simp only [run_bind_eq_ok] at hrun
      obtain ⟨_, _, -, _, _, -, hrun⟩ := hrun
      split at hrun
      · simp only [run_bind_eq_ok] at hrun
        obtain ⟨_, _, -, _, _, -, hrun⟩ := hrun
        exact recordedFiles_of_hostCleanup hrun
      · simp only [run_bind_eq_ok] at hrun
        obtain ⟨_, _, -, hrun⟩ := hrun
        exact recordedFiles_of_hostCleanup hrun
  | controlPlaneIngress =>
    cases hops
    simp only [ControlPlaneIngress.reconcileDeletion, run_bind_eq_ok] at hrun
    obtain ⟨found, world₁, hfound, hrun⟩ := hrun
    split at hrun
    · next hnone =>
      cases hrun
      exact recordedFiles_of_hypervisor hfound hnone
    · simp only [run_bind_eq_ok] at hrun
      obtain ⟨_, _, -, hrun⟩ := hrun
      exact recordedFiles_of_hostCleanup hrun

/-! ## Histories of a component -/

/-- The world is about the cluster of the names. -/
structure About (names : Names) (world : World σ) : Prop where
  keyed : Keyed world
  clusterNamespace : world.cluster.namespace = names.clusterNamespace
  clusterName : world.cluster.name = names.clusterName

/-- Also the paths are those of the names. -/
theorem About.unit_eq {names : Names} (h : About names world) :
    ControlPlaneIngress.wireguardSystemdServicePath world.cluster = names.unit := by
  unfold Names.unit ControlPlaneIngress.wireguardSystemdServicePath
    ControlPlaneIngress.wireguardSystemdServiceName
  rw [h.clusterNamespace, h.clusterName]

theorem About.secret_eq {names : Names} (h : About names world) (file : String) :
    componentSecretsPathFile world.cluster.namespace world.cluster.name names.componentName file =
      names.secret file := by
  rw [h.clusterNamespace, h.clusterName, Names.secret]

/-- What happens to a component: calls of `Reconcile` that return, with the clusters that they
are for, and whatever does not touch the record of the component in between.  The cluster may be
changed there, also its VPN. -/
inductive History (names : Names) (operations : ComponentOperations σ) :
    List Cluster → World σ → Prop
  | created {world : World σ} (habout : About names world)
      (hnew : recordedFiles world names.componentName = none) : History names operations [] world
  | changed {calls : List Cluster} {world world' : World σ}
      (hbef : History names operations calls world) (habout : About names world')
      (hsame : recordedFiles world' names.componentName =
        recordedFiles world names.componentName) : History names operations calls world'
  | reconciled {calls : List Cluster} {world world' : World σ}
      (hbef : History names operations calls world)
      (hrun : (operations.reconcile names.componentName).run world = .ok () world') :
      History names operations (world.cluster :: calls) world'

section History

variable {names : Names} {role : Role} {operations : ComponentOperations σ}

/-- What stays true of the record while files are added at the paths of the role. -/
theorem recorded_reconcile {cluster : Cluster} {P : Option FileMap → Prop} {S : String → Prop}
    (hops : retrieveComponent outside role = some operations) (hclosed : Closed S P)
    (hsecrets : ∀ file, Plain file →
      S (componentSecretsPathFile cluster.namespace cluster.name name file))
    (hservice : role = .controlPlaneIngress → cluster.vpn.enabled = true →
      S (ControlPlaneIngress.wireguardSystemdServicePath cluster)) :
    Preserves (Recorded cluster P name) (operations.reconcile name) := by
  cases role with
  | unknown => cases hops
  | controlPlane =>
    cases hops
    exact Recorded.reconcileControlPlane rfl hclosed hsecrets
  | controlPlaneIngress =>
    cases hops
    exact (Recorded.servesIngress rfl hclosed hsecrets (hservice rfl)).reconcile

theorem About.reconcile (h : About names world)
    (hops : retrieveComponent outside role = some operations)
    (hrun : (operations.reconcile name).run world = .ok () world') : About names world' := by
  have hkept : Recorded world.cluster (fun _ => True) name world' :=
    (recorded_reconcile hops (S := fun _ => True) (fun _ _ _ _ => trivial)
      (fun _ _ => trivial) fun _ _ => trivial).of_run hrun ⟨h.keyed, rfl, trivial⟩
  exact ⟨hkept.keyed, hkept.cluster_eq ▸ h.clusterNamespace, hkept.cluster_eq ▸ h.clusterName⟩

theorem History.about {calls : List Cluster} (h : History names operations calls world)
    (hops : retrieveComponent outside role = some operations) : About names world := by
  induction h with
  | created habout _ => exact habout
  | changed _ habout _ => exact habout
  | reconciled _ hrun ih => exact ih.reconcile hops hrun

/-- A call that adds only paths with `S`. -/
theorem within_reconcile {S : String → Prop} (h : About names world)
    (hops : retrieveComponent outside role = some operations)
    (hsecrets : ∀ file, Plain file → S (names.secret file))
    (hunit : role = .controlPlaneIngress → world.cluster.vpn.enabled = true → S names.unit)
    (hbef : Within S (recordedFiles world names.componentName))
    (hrun : (operations.reconcile names.componentName).run world = .ok () world') :
    Within S (recordedFiles world' names.componentName) := by
  have hkept : Preserves (Recorded world.cluster (Within S) names.componentName)
      (operations.reconcile names.componentName) :=
    recorded_reconcile hops (closed_within S)
      (fun file hfile => (h.secret_eq file).symm ▸ hsecrets file hfile)
      fun hrole hvpn => h.unit_eq.symm ▸ hunit hrole hvpn
  exact (hkept.of_run hrun ⟨h.keyed, rfl, hbef⟩).files

/-- A path stays in the record. -/
theorem contains_reconcile {path : String} (h : About names world)
    (hops : retrieveComponent outside role = some operations)
    (hbef : Contains path (recordedFiles world names.componentName))
    (hrun : (operations.reconcile names.componentName).run world = .ok () world') :
    Contains path (recordedFiles world' names.componentName) :=
  ((recorded_reconcile hops (closed_contains path) (fun _ _ => trivial)
    fun _ _ => trivial).of_run hrun ⟨h.keyed, rfl, hbef⟩).files

section Ingress

open ControlPlaneIngress

/-- The calls of an ingress, where nothing is said about the paths. -/
theorem servesIngress_of_true (cluster : Cluster) :
    (Recorded.logic cluster (fun _ => True) (fun _ => True) name).ServesIngress outside name :=
  Recorded.servesIngress rfl (fun _ _ _ _ => trivial) (fun _ _ => trivial) fun _ => trivial

/-- The VPN server is set up with a systemd unit. -/
theorem contains_service_of_reconcileWireguard {cluster : Cluster}
    (h : Recorded cluster (fun _ => True) name world)
    (hrun : (reconcileWireguard outside name).run world = .ok () world') :
    Contains (wireguardSystemdServicePath cluster) (recordedFiles world' name) := by
  have hserves : (Recorded.logic cluster _ _ name).ServesIngress outside name :=
    servesIngress_of_true cluster
  simp only [reconcileWireguard, Components.cluster, run_bind_eq_ok] at hrun
  obtain ⟨_, _, ⟨_, _, hget, hpure⟩, service, world₁, hservice, script, world₂, hscript, hrun⟩ :=
    hrun
  cases hget
  cases hpure
  rw [h.cluster_eq] at hservice hrun
  have h₁ := h.after (S := fun _ => True) (.callOutside _) hservice
  have h₂ := h₁.after (S := fun _ => True)
    (.attempt (.wireguardScriptContents (Recorded.requestPort rfl _ _))) hscript
  cases script with
  | error message => cases hrun
  | ok contents =>
    simp only [run_bind_eq_ok] at hrun
    obtain ⟨_, world₃, hupl, _, world₄, himg, hpod⟩ := hrun
    have h₃ := h₂.after (hserves.upload cluster _ rfl fun _ _ => trivial) hupl
    -- the unit is recorded now, and the pods do not touch the record
    have hrecorded :
        Recorded cluster (Contains (wireguardSystemdServicePath cluster)) name world₃ :=
      ⟨h₃.keyed, h₃.cluster_eq, isSome_recordedSum_of_uploadFiles hupl List.mem_cons_self⟩
    have hderef : (Recorded.logic cluster (Contains (wireguardSystemdServicePath cluster))
        (fun _ => True) name).Holds (derefHypervisor name : ReconcileM σ Hypervisor) :=
      (Recorded.tolerant rfl).derefHypervisor name
    exact ((hrecorded.after (hderef.host outside _) himg).after (hderef.host outside _) hpod).files

/-- With a VPN, reconciling an ingress uploads the systemd unit. -/
theorem contains_service_of_reconcile (hkeyed : Keyed world)
    (hvpn : world.cluster.vpn.enabled = true)
    (hrun : (ControlPlaneIngress.reconcile outside name).run world = .ok () world') :
    Contains (wireguardSystemdServicePath world.cluster) (recordedFiles world' name) := by
  have hserves : (Recorded.logic world.cluster _ _ name).ServesIngress outside name :=
    servesIngress_of_true world.cluster
  have h : Recorded world.cluster (fun _ => True) name world := ⟨hkeyed, rfl, trivial⟩
  simp only [ControlPlaneIngress.reconcile, Components.cluster, run_bind_eq_ok] at hrun
  obtain ⟨_, _, ⟨_, _, hget, hpure⟩, _, _, hget', hrun⟩ := hrun
  cases hget
  cases hpure
  cases hget'
  split at hrun
  · cases hrun
  split at hrun
  · cases hrun
  simp only [run_bind_eq_ok] at hrun
  obtain ⟨_, world₁, hderef, _, world₂, heps, _, world₃, himg, _, world₄, hport,
    configuration, world₅, hconf, _, world₆, hupl, _, world₇, hpod, hrun⟩ := hrun
  have h₁ := h.after hserves.derefHypervisor hderef
  have h₂ := h₁.after hserves.endpoints heps
  have h₃ := h₂.after (hserves.host (.ensureImage _)) himg
  have h₄ := h₃.after hserves.requestAPIServer hport
  have h₅ := h₄.after hserves.haProxyConfiguration hconf
  have h₆ := h₅.after (hserves.upload world.cluster _ rfl fun _ _ => trivial) hupl
  have h₇ := h₆.after (hserves.host (.ensurePod _ _)) hpod
  exact contains_service_of_reconcileWireguard h₇ hrun

end Ingress

/-- Every path of a history in which no ingress has a VPN is removed. -/
theorem History.within {calls : List Cluster} (h : History names operations calls world)
    (hops : retrieveComponent outside role = some operations)
    (hcalls : role = .controlPlane ∨ (∀ cluster ∈ calls, cluster.vpn.enabled = false) ∨
      Removed role names names.unit) :
    Within (Removed role names) (recordedFiles world names.componentName) := by
  have hrole : role ≠ .unknown := by
    rintro rfl
    cases hops
  induction h with
  | created _ hnew =>
    intro path hpath
    rw [hnew] at hpath
    cases hpath
  | changed _ _ hsame ih => exact hsame ▸ ih hcalls
  | reconciled hbef hrun ih =>
    have hearlier := hcalls.imp_right (Or.imp_left fun h cluster hmem =>
      h cluster (List.mem_cons_of_mem _ hmem))
    refine within_reconcile (hbef.about hops) hops
      (fun file hfile => removed_secret hrole names hfile) ?_ (ih hearlier) hrun
    intro hingress hvpn
    rcases hcalls with hctlPlane | hcalls | hremoved
    · exact absurd (hingress.symm.trans hctlPlane) (by decide)
    · rw [hcalls _ List.mem_cons_self] at hvpn
      cases hvpn
    · exact hremoved

/-- A call of a history for an ingress with a VPN leaves the systemd unit. -/
theorem History.contains_unit {calls : List Cluster} (h : History names operations calls world)
    (hops : retrieveComponent outside .controlPlaneIngress = some operations)
    (hcalls : ∃ cluster ∈ calls, cluster.vpn.enabled = true) :
    Contains names.unit (recordedFiles world names.componentName) := by
  induction h with
  | created => simp at hcalls
  | changed _ _ hsame ih => exact hsame ▸ ih hcalls
  | reconciled hbef hrun ih =>
    have habout := hbef.about hops
    obtain ⟨cluster, hcl, hvpn⟩ := hcalls
    rcases List.mem_cons.mp hcl with rfl | hcl
    · rw [← habout.unit_eq]
      cases hops
      exact contains_service_of_reconcile habout.keyed hvpn hrun
    · exact contains_reconcile habout hops (ih ⟨cluster, hcl, hvpn⟩) hrun

end History

/-! ## Nothing is left of a component -/

/-- Everything that was uploaded for the component is removed with it. -/
structure CleanedUp (role : Role) (names : Names) (operations : ComponentOperations σ)
    (world : World σ) : Prop where
  /-- The paths that were uploaded are in the directories of the cleanup. -/
  removed : ∀ path, (recordedSum world names.componentName path).isSome → Removed role names path
  /-- After the cleanup there is nothing at them. -/
  absent : ∀ path, (recordedSum world names.componentName path).isSome → ∀ fs entry,
    (path, entry) ∉ cleanup role names fs
  /-- The deletion drops the record. -/
  dropped : ∀ world', (operations.reconcileDeletion names.componentName).run world = .ok () world' →
    recordedFiles world' names.componentName = none

/-- **What is uploaded for a component is removed with it, but for the systemd unit of the VPN
server.**  The unit is uploaded by every call for an ingress of a cluster with a VPN.  The
cleanup of an ingress does not remove it, unless the names lead there, which those that the API
server accepts do not. -/
theorem cleanedUp_iff {names : Names} {role : Role} {operations : ComponentOperations σ}
    {calls : List Cluster} {world : World σ}
    (hops : retrieveComponent outside role = some operations)
    (h : History names operations calls world) :
    (CleanedUp role names operations world ↔
      role = .controlPlane ∨ (∀ cluster ∈ calls, cluster.vpn.enabled = false) ∨
        Removed role names names.unit) ∧
    (names.Valid → ¬ Removed .controlPlaneIngress names names.unit) := by
  refine ⟨⟨fun hcleaned => ?_, fun hcalls => ?_⟩, not_removed_unit⟩
  · cases role with
    | unknown => cases hops
    | controlPlane => exact .inl rfl
    | controlPlaneIngress =>
      by_cases hvpn : ∀ cluster ∈ calls, cluster.vpn.enabled = false
      · exact .inr (.inl hvpn)
      · have hsome : ∃ cluster ∈ calls, cluster.vpn.enabled = true := by simpa using hvpn
        exact .inr (.inr (hcleaned.removed _ (h.contains_unit hops hsome)))
  · have hwithin := h.within hops hcalls
    exact ⟨hwithin, fun path hpath fs entry => notMem_cleanup (hwithin path hpath) fs entry,
      fun _ hrun => recordedFiles_of_reconcileDeletion hops hrun⟩

/-! ### An ingress -/

/-- A control plane and an ingress of a cluster, with or without a VPN. -/
def vpnWorld (enabled : Bool) : World Unit where
  hypervisors :=
    [ { name := "h", resourceVersion := 1, ipAddress := "10.0.0.1", portRangeLow := 30000
        portRangeHigh := 60000, files := ∅, freedPorts := [], allocatedPorts := [] } ]
  cluster := { name := "c", «namespace» := "ns", controlPlaneReplicas := 1, vpn.enabled := enabled }
  components :=
    [ { name := "cp", «namespace» := "ns", clusterName := "c", role := .controlPlane
        hypervisorName := "h"
        allocatedHostPorts := (∅ : GoMap String Int64).insert apiServerHostPortName 30000 },
      { name := "lb", «namespace» := "ns", clusterName := "c", role := .controlPlaneIngress
        hypervisorName := "h" } ]
  outside := ()

/-- The ingress. -/
def ingressNames : Names := ⟨"ns", "c", "lb"⟩

theorem returns_vpnWorld : ∀ enabled,
    Returns (ControlPlaneIngress.reconcile Outside.succeeding "lb") (vpnWorld enabled) := by
  decide +kernel

theorem about_vpnWorld (enabled : Bool) : About ingressNames (vpnWorld enabled) where
  keyed := ⟨by simp [vpnWorld], by simp [vpnWorld]⟩
  clusterNamespace := rfl
  clusterName := rfl

/-- The operations of an ingress where all calls succeed. -/
def ingressOperations : ComponentOperations Unit :=
  ⟨ControlPlaneIngress.preReconcile, ControlPlaneIngress.reconcile Outside.succeeding,
    ControlPlaneIngress.reconcileDeletion Outside.succeeding⟩

/-- A history of one call. -/
theorem exists_history (enabled : Bool) : ∃ world,
    History ingressNames ingressOperations [(vpnWorld enabled).cluster] world := by
  obtain ⟨_, world, hrun⟩ := returns_vpnWorld enabled
  exact ⟨world, .reconciled (.created (about_vpnWorld enabled) rfl) hrun⟩

/-- After one call for an ingress with a VPN, the systemd unit stays on the host. -/
theorem not_cleanedUp_vpn : ∃ world,
    History ingressNames ingressOperations [(vpnWorld true).cluster] world ∧
      ¬ CleanedUp .controlPlaneIngress ingressNames ingressOperations world := by
  obtain ⟨world, h⟩ := exists_history true
  have hops : retrieveComponent Outside.succeeding .controlPlaneIngress =
      some ingressOperations := rfl
  have hvalid : ingressNames.Valid := ⟨by decide +kernel, by decide +kernel, by decide +kernel⟩
  refine ⟨world, h, fun hcleaned => not_removed_unit hvalid (hcleaned.removed _ ?_)⟩
  exact h.contains_unit hops ⟨_, List.mem_cons_self, rfl⟩

/-- After one call for an ingress without a VPN, nothing stays. -/
theorem cleanedUp_iff_noVPN : ∃ world,
    History ingressNames ingressOperations [(vpnWorld false).cluster] world ∧
      CleanedUp .controlPlaneIngress ingressNames ingressOperations world := by
  obtain ⟨world, h⟩ := exists_history false
  have hops : retrieveComponent Outside.succeeding .controlPlaneIngress =
      some ingressOperations := rfl
  exact ⟨world, h, (cleanedUp_iff hops h).1.mpr (.inr (.inl (by simp [vpnWorld])))⟩

end OneInfra.Components
