import Mathlib.Data.Finmap
import OneInfra.Lib.GoMap
import OneInfra.Lib.Keyed

/-!
# Pods and the container runtime of a hypervisor

`Pod` and `Container` follow `internal/pkg/infra/pod/pod.go`.  `Runtime` is the
CRI runtime that `internal/pkg/infra/hypervisor.go` calls: a table of sandboxes
and a table of containers, each row under its own id.  Both tables are lists,
and their order is the order in which the runtime lists its rows.

The fields of `Runtime` say what holds of every runtime.  The ids are distinct,
no sandbox has the empty id, and a container belongs to a sandbox that exists.
A call either fails and changes nothing, or it is one of the definitions
below.  A call on an existing target succeeds, whatever the state of the
target.

The runtime picks the id of a new row.  `IDSource` is that choice, and the
results hold for every such choice.  The field `calls` records the calls that
change the runtime.
-/

namespace OneInfra.Infra

open OneInfra.Lib

/-! ## Pods -/

/-- `Privileges`, with the values 0, 1 and 3 of the source. -/
inductive Privileges
  | unprivileged
  | privileged
  | networkPrivileged
deriving DecidableEq, Repr

/-- The test `privileges & PrivilegesPrivileged != 0`. -/
def Privileges.isPrivileged : Privileges → Bool
  | .unprivileged => false
  | .privileged => true
  | .networkPrivileged => true

/-- `Container` of a pod. -/
structure Container where
  name : String
  image : String := ""
  command : List String := []
  args : List String := []
  env : GoMap String String := ∅
  mounts : GoMap String String := ∅
  privileges : Privileges := .unprivileged
  annotations : GoMap String String := ∅

/-- `Pod`.  The ports map host ports to ports of the pod. -/
structure Pod where
  name : String
  containers : List Container
  ports : GoMap Int64 Int64 := ∅
  privileges : Privileges := .unprivileged

/-! ## The tables of the runtime -/

/-- `criapi.PodSandboxConfig`.  The two last fields are the security context
of `Linux`, which is absent for an unprivileged pod. -/
structure PodSandboxConfig where
  name : String
  «namespace» : String
  uid : String
  labels : GoMap String String
  portMappings : Multiset (Int32 × Int32)
  logDirectory : String
  privileged : Bool
  nodeNetwork : Bool

/-- `criapi.ContainerConfig`. -/
structure ContainerConfig where
  name : String
  image : String
  command : List String
  args : List String
  mounts : Multiset (String × String)
  envs : Multiset (String × String)
  logPath : String
  privileged : Bool
  nodeNetwork : Bool

/-- A sandbox of the runtime. -/
structure PodSandbox where
  id : String
  config : PodSandboxConfig
  ready : Bool

/-- A container of the runtime, with the sandbox that holds it. -/
structure RuntimeContainer where
  id : String
  podSandboxID : String
  config : ContainerConfig
  running : Bool

/-- The calls that change the runtime, with the ids that they name. -/
inductive RuntimeCall
  | runPodSandbox (podSandboxID : String)
  | stopPodSandbox (podSandboxID : String)
  | removePodSandbox (podSandboxID : String)
  | createContainer (containerID : String)
  | startContainer (containerID : String)
  | removeContainer (containerID : String)
deriving DecidableEq, Repr

/-- A container runtime. -/
structure Runtime where
  sandboxes : List PodSandbox
  containers : List RuntimeContainer
  calls : List RuntimeCall := []
  /-- A sandbox id is that of one sandbox. -/
  sandboxIDs_nodup : (sandboxes.map PodSandbox.id).Nodup
  /-- The source reads the empty id as the absence of a sandbox. -/
  sandboxIDs_ne : ∀ s ∈ sandboxes, s.id ≠ ""
  /-- A container id is that of one container. -/
  containerIDs_nodup : (containers.map RuntimeContainer.id).Nodup
  /-- A container belongs to a sandbox of the runtime. -/
  containers_owned : ∀ c ∈ containers, c.podSandboxID ∈ sandboxes.map PodSandbox.id

/-- A runtime without pods. -/
def Runtime.empty : Runtime where
  sandboxes := []
  containers := []
  sandboxIDs_nodup := .nil
  sandboxIDs_ne := by simp
  containerIDs_nodup := .nil
  containers_owned := by simp

/-- The choice of the id of a new row, given the ids in use. -/
structure IDSource where
  next : List String → String
  fresh : ∀ used, next used ∉ used
  ne_empty : ∀ used, next used ≠ ""

/-- A call of the runtime.  A failed call keeps the changes that calls before
it made. -/
abbrev CRI (α : Type) := EStateM String Runtime α

namespace Runtime

/-- The containers of one sandbox. -/
def containersOf (rt : Runtime) (podSandboxID : String) : List RuntimeContainer :=
  rt.containers.filter fun c => c.podSandboxID = podSandboxID

/-- Whether a sandbox carries every label of a selector. -/
def selects (labelSelector : List (String × String)) (s : PodSandbox) : Bool :=
  labelSelector.all fun label => s.config.labels.lookup label.1 = some label.2

/-- `ListPodSandbox` with a label selector. -/
def listPodSandbox (rt : Runtime) (labelSelector : List (String × String)) :
    List PodSandbox :=
  rt.sandboxes.filter (selects labelSelector)

/-- `ContainerStatus`: whether the container is running. -/
def containerStatus (rt : Runtime) (containerID : String) : Except String Bool :=
  match lookupKey RuntimeContainer.id containerID rt.containers with
  | some c => .ok c.running
  | none => .error "container not found"

/-- `RunPodSandbox`: the new sandbox is ready and has no containers. -/
def runPodSandbox (ids : IDSource) (config : PodSandboxConfig) : CRI String := fun rt =>
  let id := ids.next (rt.sandboxes.map PodSandbox.id)
  .ok id {
    sandboxes := rt.sandboxes ++ [⟨id, config, true⟩]
    containers := rt.containers
    calls := rt.calls ++ [.runPodSandbox id]
    sandboxIDs_nodup := nodup_map_concat rt.sandboxIDs_nodup (ids.fresh _)
    sandboxIDs_ne := by
      intro s hs
      rcases List.mem_append.mp hs with hs | hs
      · exact rt.sandboxIDs_ne s hs
      · rw [List.mem_singleton.mp hs]
        exact ids.ne_empty _
    containerIDs_nodup := rt.containerIDs_nodup
    containers_owned := by
      intro c hc
      rw [List.map_append]
      exact List.mem_append_left _ (rt.containers_owned c hc) }

/-- `StopPodSandbox`: the sandbox is no longer ready and its containers no
longer run. -/
def stopPodSandbox (podSandboxID : String) : CRI Unit := fun rt =>
  if podSandboxID ∈ rt.sandboxes.map PodSandbox.id then
    .ok () {
      sandboxes := modifyKey PodSandbox.id podSandboxID (fun s => { s with ready := false })
        rt.sandboxes
      containers := modifyKey RuntimeContainer.podSandboxID podSandboxID
        (fun c => { c with running := false }) rt.containers
      calls := rt.calls ++ [.stopPodSandbox podSandboxID]
      sandboxIDs_nodup := by
        rw [map_modifyKey]
        · exact rt.sandboxIDs_nodup
        · exact fun _ => rfl
      sandboxIDs_ne := forall_mem_modifyKey rt.sandboxIDs_ne fun s _ h => h
      containerIDs_nodup := by
        rw [map_modifyKey]
        · exact rt.containerIDs_nodup
        · exact fun _ => rfl
      containers_owned := by
        rw [map_modifyKey]
        · exact forall_mem_modifyKey rt.containers_owned fun c _ h => h
        · exact fun _ => rfl }
  else .error "sandbox not found" rt

/-- `RemovePodSandbox`: the sandbox goes with its containers. -/
def removePodSandbox (podSandboxID : String) : CRI Unit := fun rt =>
  if podSandboxID ∈ rt.sandboxes.map PodSandbox.id then
    .ok () {
      sandboxes := rt.sandboxes.filter fun s => s.id ≠ podSandboxID
      containers := rt.containers.filter fun c => c.podSandboxID ≠ podSandboxID
      calls := rt.calls ++ [.removePodSandbox podSandboxID]
      sandboxIDs_nodup := rt.sandboxIDs_nodup.sublist (List.filter_sublist.map _)
      sandboxIDs_ne := fun s hs => rt.sandboxIDs_ne s (List.mem_of_mem_filter hs)
      containerIDs_nodup := rt.containerIDs_nodup.sublist (List.filter_sublist.map _)
      containers_owned := by
        intro c hc
        obtain ⟨hc, hne⟩ := List.mem_filter.mp hc
        obtain ⟨s, hs, hid⟩ := List.mem_map.mp (rt.containers_owned c hc)
        refine List.mem_map.mpr ⟨s, List.mem_filter.mpr ⟨hs, ?_⟩, hid⟩
        rwa [hid] }
  else .error "sandbox not found" rt

/-- `CreateContainer`: it fails on a missing sandbox, and the new container
does not run yet. -/
def createContainer (ids : IDSource) (podSandboxID : String) (config : ContainerConfig) :
    CRI String := fun rt =>
  if h : podSandboxID ∈ rt.sandboxes.map PodSandbox.id then
    let id := ids.next (rt.containers.map RuntimeContainer.id)
    .ok id {
      sandboxes := rt.sandboxes
      containers := rt.containers ++ [⟨id, podSandboxID, config, false⟩]
      calls := rt.calls ++ [.createContainer id]
      sandboxIDs_nodup := rt.sandboxIDs_nodup
      sandboxIDs_ne := rt.sandboxIDs_ne
      containerIDs_nodup := nodup_map_concat rt.containerIDs_nodup (ids.fresh _)
      containers_owned := by
        intro c hc
        rcases List.mem_append.mp hc with hc | hc
        · exact rt.containers_owned c hc
        · rw [List.mem_singleton.mp hc]
          exact h }
  else .error "sandbox not found" rt

/-- `StartContainer`. -/
def startContainer (containerID : String) : CRI Unit := fun rt =>
  if containerID ∈ rt.containers.map RuntimeContainer.id then
    .ok () {
      sandboxes := rt.sandboxes
      containers := modifyKey RuntimeContainer.id containerID
        (fun c => { c with running := true }) rt.containers
      calls := rt.calls ++ [.startContainer containerID]
      sandboxIDs_nodup := rt.sandboxIDs_nodup
      sandboxIDs_ne := rt.sandboxIDs_ne
      containerIDs_nodup := by
        rw [map_modifyKey]
        · exact rt.containerIDs_nodup
        · exact fun _ => rfl
      containers_owned := forall_mem_modifyKey rt.containers_owned fun c _ h => h }
  else .error "container not found" rt

/-- `RemoveContainer`. -/
def removeContainer (containerID : String) : CRI Unit := fun rt =>
  if containerID ∈ rt.containers.map RuntimeContainer.id then
    .ok () {
      sandboxes := rt.sandboxes
      containers := rt.containers.filter fun c => c.id ≠ containerID
      calls := rt.calls ++ [.removeContainer containerID]
      sandboxIDs_nodup := rt.sandboxIDs_nodup
      sandboxIDs_ne := rt.sandboxIDs_ne
      containerIDs_nodup := rt.containerIDs_nodup.sublist (List.filter_sublist.map _)
      containers_owned := fun c hc => rt.containers_owned c (List.mem_of_mem_filter hc) }
  else .error "container not found" rt

end Runtime

end OneInfra.Infra
