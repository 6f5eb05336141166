import Mathlib.Algebra.Order.BigOperators.Group.List
import Mathlib.Algebra.Order.Ring.Nat
import OneInfra.Infra.Runtime
import OneInfra.Lib.Prog

/-!
# Ensuring a pod on a hypervisor

`Hypervisor.EnsurePod` of `internal/pkg/infra/hypervisor.go` looks for a ready
sandbox with the labels of a pod.  It returns at once when every container of
the pod runs in it.  Otherwise it deletes the sandboxes of that pod, and then
it builds the pod with the sandbox id and the containers that it read before
the deletion.

The result is `ensurePod_iff`.  `EnsuresPod` is what the function is for: it
returns no error and leaves one sandbox of the pod, ready, with every container
running.  That happens in two cases.  Either no sandbox with the labels of the
pod is ready, and the pod is built from nothing, or a ready one runs every
container and no other sandbox of the pod exists.  A ready sandbox with a
container that does not run is deleted, its id is used again, and the creation
of the container fails.

The proofs follow the calls.  `deletePod_run` and `buildPod_run` say what the
two halves do to a runtime, and `createContainers_missing` is the failure.

The hypervisor takes part in these functions through its runtime only, and the
connection to the runtime is open.  `sha1Sum` is `Pod.SHA1Sum`.
-/

namespace OneInfra.Infra.Hypervisor

open OneInfra.Lib OneInfra.Infra.Runtime

section Operations

variable (sha1Sum : Pod → String) (ids : IDSource)
variable (clusterNamespace clusterName componentName : String)

/-! ## The operations of the source -/

/-- The selector of `ListPods`. -/
def podNameSelector (podName : String) : List (String × String) :=
  [("oneinfra/cluster-namespace", clusterNamespace), ("oneinfra/cluster-name", clusterName),
    ("oneinfra/component-name", componentName), ("oneinfra/pod-name", podName)]

/-- The selector of `IsPodRunning`, which adds the sum of the pod. -/
def podSelector (pod : Pod) : List (String × String) :=
  podNameSelector clusterNamespace clusterName componentName pod.name ++
    [("oneinfra/pod-sha1sum", sha1Sum pod)]

/-- `PodSandboxConfig`. -/
def podSandboxConfig (pod : Pod) : PodSandboxConfig where
  name := pod.name
  «namespace» :=
    (if clusterNamespace.length > 0 then clusterNamespace ++ "-" else "") ++
    (if clusterName.length > 0 then clusterName ++ "-" else "") ++
    (if componentName.length > 0 then componentName ++ "-" else "") ++
    pod.name ++ "-" ++ sha1Sum pod
  uid := sha1Sum pod
  labels := (podSelector sha1Sum clusterNamespace clusterName componentName pod).foldl
    (fun labels label => labels.insert label.1 label.2) ∅
  -- both ports are cut to 32 bits
  portMappings := pod.ports.entries.map fun e => (e.1.toInt32, e.2.toInt32)
  logDirectory := "/var/log/pods/"
  privileged := pod.privileges.isPrivileged
  nodeNetwork := pod.privileges = .networkPrivileged

/-- The container configuration that `ensureContainers` sends. -/
def containerConfig (pod : Pod) (podSandboxID : String) (container : Container) :
    ContainerConfig where
  name := container.name
  image := container.image
  command := container.command
  args := container.args
  mounts := container.mounts.entries.map fun e => (e.1, e.2)
  envs := container.env.entries.map fun e => (e.1, e.2)
  logPath := pod.name ++ "-" ++ podSandboxID ++ "-" ++ container.name ++ ".log"
  privileged := container.privileges.isPrivileged
  nodeNetwork := container.privileges = .networkPrivileged

/-- The results of `IsPodRunning`. -/
structure PodStatus where
  isPodRunning : Bool
  podSandboxID : String
  allContainersRunning : Bool
  runningContainers : GoMap String RuntimeContainer
  notRunningContainers : GoMap String RuntimeContainer

/-- The body of the loop of `IsPodRunning`, on the containers that run and
those that do not.  A container without a status counts as neither. -/
def classify (rt : Runtime)
    (acc : GoMap String RuntimeContainer × GoMap String RuntimeContainer)
    (container : RuntimeContainer) :
    GoMap String RuntimeContainer × GoMap String RuntimeContainer :=
  match rt.containerStatus container.id with
  | .error _ => acc
  | .ok true => (acc.1.insert container.config.name container, acc.2)
  | .ok false => (acc.1, acc.2.insert container.config.name container)

/-- `IsPodRunning`. -/
def isPodRunning (rt : Runtime) (pod : Pod) : PodStatus :=
  let podSandboxList := rt.listPodSandbox
    (podSelector sha1Sum clusterNamespace clusterName componentName pod)
  let podSandboxID := ((podSandboxList.find? PodSandbox.ready).map PodSandbox.id).getD ""
  if podSandboxID = "" then ⟨false, "", false, ∅, ∅⟩
  else
    let podContainers := (rt.containersOf podSandboxID).foldl (classify rt) (∅, ∅)
    ⟨true, podSandboxID, podContainers.1.keys.card = pod.containers.length,
      podContainers.1, podContainers.2⟩

/-- `DeletePodWithID`. -/
def deletePodWithID (podSandboxID : String) : CRI Unit := do
  stopPodSandbox podSandboxID
  removePodSandbox podSandboxID

/-- `DeletePod`, which stops at the first pod that it cannot delete. -/
def deletePod (podName : String) : CRI Unit := do
  let rt ← get
  let podList := (rt.listPodSandbox
    (podNameSelector clusterNamespace clusterName componentName podName)).map PodSandbox.id
  podList.forM deletePodWithID

/-- The removal of a container that does not run.  A failed removal is only
logged. -/
def removeNotRunning (podNotRunningContainers : GoMap String RuntimeContainer)
    (containerName : String) : CRI Unit :=
  match podNotRunningContainers.lookup containerName with
  | some notRunningContainer => ignoreError (removeContainer notRunningContainer.id)
  | none => pure ()

/-- The first loop of `ensureContainers`: the ids of the containers that it
creates. -/
def createContainers (podSandboxID : String)
    (podRunningContainers podNotRunningContainers : GoMap String RuntimeContainer)
    (pod : Pod) : List Container → CRI (List String)
  | [] => pure []
  | container :: containers =>
    if (podRunningContainers.lookup container.name).isSome then
      createContainers podSandboxID podRunningContainers podNotRunningContainers pod containers
    else do
      removeNotRunning podNotRunningContainers container.name
      let containerID ← createContainer ids podSandboxID
        (containerConfig pod podSandboxID container)
      let containerIDs ← createContainers podSandboxID podRunningContainers
        podNotRunningContainers pod containers
      pure (containerID :: containerIDs)

/-- `ensureContainers`. -/
def ensureContainers (podSandboxID : String)
    (podRunningContainers podNotRunningContainers : GoMap String RuntimeContainer)
    (pod : Pod) : CRI Unit := do
  let containerIDs ← createContainers ids podSandboxID podRunningContainers
    podNotRunningContainers pod pod.containers
  containerIDs.forM startContainer

/-- The unexported `ensurePod`. -/
def buildPod (podSandboxID : String)
    (podRunningContainers podNotRunningContainers : GoMap String RuntimeContainer)
    (pod : Pod) : CRI String := do
  let podSandboxID ←
    if podSandboxID = "" then
      runPodSandbox ids
        (podSandboxConfig sha1Sum clusterNamespace clusterName componentName pod)
    else pure podSandboxID
  ensureContainers ids podSandboxID podRunningContainers podNotRunningContainers pod
  pure podSandboxID

/-- `EnsurePod`.  A failed deletion is only logged. -/
def ensurePod (pod : Pod) : CRI String := do
  let rt ← get
  let status := isPodRunning sha1Sum clusterNamespace clusterName componentName rt pod
  if status.isPodRunning && status.allContainersRunning then
    pure status.podSandboxID
  else
    ignoreError (deletePod clusterNamespace clusterName componentName pod.name)
    buildPod sha1Sum ids clusterNamespace clusterName componentName status.podSandboxID
      status.runningContainers status.notRunningContainers pod

end Operations

/-! ## Deleting the sandboxes of a pod -/

theorem deletePodWithID_run {rt : Runtime} {podSandboxID : String}
    (hid : podSandboxID ∈ rt.sandboxes.map PodSandbox.id) :
    ∃ rt', (deletePodWithID podSandboxID).run rt = .ok () rt' ∧
      rt'.sandboxes = rt.sandboxes.filter (fun s => s.id ≠ podSandboxID) ∧
      rt'.containers = rt.containers.filter (fun c => c.podSandboxID ≠ podSandboxID) := by
  obtain ⟨stopped, hstop, hsbs, hctrs⟩ : ∃ stopped : Runtime,
      (stopPodSandbox podSandboxID).run rt = .ok () stopped ∧
      stopped.sandboxes = modifyKey PodSandbox.id podSandboxID
        (fun s => { s with ready := false }) rt.sandboxes ∧
      stopped.containers = modifyKey RuntimeContainer.podSandboxID podSandboxID
        (fun c => { c with running := false }) rt.containers :=
    ⟨_, if_pos hid, rfl, rfl⟩
  have hstopped : podSandboxID ∈ stopped.sandboxes.map PodSandbox.id := by
    rw [hsbs, map_modifyKey]
    · exact hid
    · exact fun _ => rfl
  have hremove : ∃ removed, (removePodSandbox podSandboxID).run stopped = .ok () removed ∧
      removed.sandboxes = stopped.sandboxes.filter (fun s => s.id ≠ podSandboxID) ∧
      removed.containers = stopped.containers.filter (fun c => c.podSandboxID ≠ podSandboxID) :=
    ⟨_, if_pos hstopped, rfl, rfl⟩
  obtain ⟨removed, hremove, hsbs', hctrs'⟩ := hremove
  refine ⟨removed, ?_, ?_, ?_⟩
  · rw [deletePodWithID, EStateM.run_bind, hstop]
    exact hremove
  · rw [hsbs', hsbs]
    exact filter_modifyKey (fun _ h => of_decide_eq_true h) fun _ => id
  · rw [hctrs', hctrs]
    exact filter_modifyKey (fun _ h => of_decide_eq_true h) fun _ => id

/-- Deleting a list of distinct sandboxes that exist. -/
theorem deletePods_run {podList : List String} {rt : Runtime} (hnd : podList.Nodup)
    (hids : ∀ id ∈ podList, id ∈ rt.sandboxes.map PodSandbox.id) :
    ∃ rt', (podList.forM deletePodWithID).run rt = .ok () rt' ∧
      rt'.sandboxes = rt.sandboxes.filter (fun s => s.id ∉ podList) ∧
      rt'.containers = rt.containers.filter (fun c => c.podSandboxID ∉ podList) := by
  induction podList generalizing rt with
  | nil => exact ⟨rt, rfl, by simp, by simp⟩
  | cons id podList ih =>
    obtain ⟨hnew, hnd⟩ := List.nodup_cons.mp hnd
    obtain ⟨hid, hids⟩ := List.forall_mem_cons.mp hids
    obtain ⟨rt₁, hrun₁, hsandboxes₁, hcontainers₁⟩ := deletePodWithID_run hid
    have hids₁ : ∀ id' ∈ podList, id' ∈ rt₁.sandboxes.map PodSandbox.id := by
      intro id' hid'
      obtain ⟨s, hs, rfl⟩ := List.mem_map.mp (hids id' hid')
      rw [hsandboxes₁]
      refine List.mem_map_of_mem (List.mem_filter.mpr ⟨hs, ?_⟩)
      rw [decide_eq_true_eq]
      exact fun h => hnew (h ▸ hid')
    obtain ⟨rt₂, hrun₂, hsandboxes₂, hcontainers₂⟩ := ih hnd hids₁
    refine ⟨rt₂, ?_, ?_, ?_⟩
    · show (deletePodWithID id >>= fun _ => podList.forM deletePodWithID).run rt = _
      rw [EStateM.run_bind, hrun₁]
      exact hrun₂
    · rw [hsandboxes₂, hsandboxes₁, filter_key_notMem_cons]
    · rw [hcontainers₂, hcontainers₁, filter_key_notMem_cons]

/-- `DeletePod` succeeds and leaves the sandboxes of the other pods, with
their containers. -/
theorem deletePod_run (ns cluster comp podName : String)
    (rt : Runtime) :
    let selector := podNameSelector ns cluster comp podName
    ∃ rt', (deletePod ns cluster comp podName).run rt = .ok () rt' ∧
      rt'.sandboxes = rt.sandboxes.filter (fun s => !selects selector s) ∧
      ∀ s ∈ rt.sandboxes, !selects selector s →
        rt'.containersOf s.id = rt.containersOf s.id := by
  intro selector
  have hsubl : (rt.listPodSandbox selector).Sublist rt.sandboxes := List.filter_sublist
  have hnd : ((rt.listPodSandbox selector).map PodSandbox.id).Nodup :=
    rt.sandboxIDs_nodup.sublist (hsubl.map _)
  -- with distinct ids, the deleted ids are those of the selected sandboxes
  have hmem : ∀ s ∈ rt.sandboxes,
      (s.id ∈ (rt.listPodSandbox selector).map PodSandbox.id ↔ selects selector s = true) := by
    intro s hs
    constructor
    · intro h
      obtain ⟨s', hs', hid⟩ := List.mem_map.mp h
      obtain ⟨hs', hselects⟩ := List.mem_filter.mp hs'
      rwa [List.inj_on_of_nodup_map rt.sandboxIDs_nodup hs hs' hid.symm]
    · intro h
      exact List.mem_map_of_mem (List.mem_filter.mpr ⟨hs, h⟩)
  obtain ⟨rt', hrun, hsbs, hctrs⟩ :=
    deletePods_run hnd (fun id hid => (hsubl.map _).subset hid)
  refine ⟨rt', hrun, ?_, ?_⟩
  · rw [hsbs]
    apply List.filter_congr
    intro s hs
    simp [hmem s hs]
  · intro s hs hselects
    have hkept : s.id ∉ (rt.listPodSandbox selector).map PodSandbox.id := by
      rw [hmem s hs]
      simpa using hselects
    rw [containersOf, hctrs, List.filter_filter, containersOf]
    apply List.filter_congr
    intro c _
    by_cases hc : c.podSandboxID = s.id
    · rw [hc]
      simpa using hkept
    · simp [hc]

/-! ## Building a pod -/

section Build

variable {sid : String}

/-- Creating containers in a sandbox that exists and had none. -/
theorem createContainers_run (ids : IDSource) (pod : Pod) (containers : List Container)
    {rt : Runtime} (hid : sid ∈ rt.sandboxes.map PodSandbox.id) :
    ∃ created rt', (createContainers ids sid ∅ ∅ pod containers).run rt =
        .ok (created.map RuntimeContainer.id) rt' ∧
      rt'.sandboxes = rt.sandboxes ∧ rt'.containers = rt.containers ++ created ∧
      created.map RuntimeContainer.config = containers.map (containerConfig pod sid) ∧
      ∀ c ∈ created, c.podSandboxID = sid := by
  induction containers generalizing rt with
  | nil => exact ⟨[], rt, rfl, rfl, (List.append_nil _).symm, rfl, by simp⟩
  | cons container containers ih =>
    obtain ⟨rt₁, c, hcreate, hsandboxes₁, hcontainers₁, hconf, howner⟩ :
        ∃ (rt₁ : Runtime) (c : RuntimeContainer),
          (createContainer ids sid (containerConfig pod sid container)).run rt = .ok c.id rt₁ ∧
          rt₁.sandboxes = rt.sandboxes ∧ rt₁.containers = rt.containers ++ [c] ∧
          c.config = containerConfig pod sid container ∧
          c.podSandboxID = sid :=
      ⟨_, ⟨_, _, _, false⟩, dif_pos hid, rfl, rfl, rfl, rfl⟩
    obtain ⟨created, rt₂, hrun, hsandboxes₂, hcontainers₂, hconfigs, howners⟩ :=
      ih (hsandboxes₁.symm ▸ hid)
    refine ⟨c :: created, rt₂, ?_, ?_, ?_, ?_, ?_⟩
    · simp only [createContainers, Finmap.lookup_empty, Option.isSome_none, Bool.false_eq_true,
        if_false, removeNotRunning, pure_bind, EStateM.run_bind, hcreate, hrun,
        EStateM.run_pure, List.map_cons]
    · rw [hsandboxes₂, hsandboxes₁]
    · rw [hcontainers₂, hcontainers₁, List.append_assoc, List.singleton_append]
    · rw [List.map_cons, List.map_cons, hconf, hconfigs]
    · exact List.forall_mem_cons.mpr ⟨howner, howners⟩

/-- A container after the start of a list of containers. -/
def started (containerIDs : List String) (c : RuntimeContainer) : RuntimeContainer :=
  if c.id ∈ containerIDs then { c with running := true } else c

/-- Starting containers that exist. -/
theorem startContainers_run {containerIDs : List String} {rt : Runtime}
    (hids : ∀ id ∈ containerIDs, id ∈ rt.containers.map RuntimeContainer.id) :
    ∃ rt', (containerIDs.forM startContainer).run rt = .ok () rt' ∧
      rt'.sandboxes = rt.sandboxes ∧
      rt'.containers = rt.containers.map (started containerIDs) := by
  induction containerIDs generalizing rt with
  | nil =>
    refine ⟨rt, rfl, rfl, (List.map_id'' (fun c => ?_) _).symm⟩
    exact if_neg List.not_mem_nil
  | cons id containerIDs ih =>
    obtain ⟨hid, hids⟩ := List.forall_mem_cons.mp hids
    obtain ⟨rt₁, hstart, hsandboxes₁, hcontainers₁⟩ : ∃ rt₁ : Runtime,
        (startContainer id).run rt = .ok () rt₁ ∧ rt₁.sandboxes = rt.sandboxes ∧
        rt₁.containers = modifyKey RuntimeContainer.id id
          (fun c => { c with running := true }) rt.containers :=
      ⟨_, if_pos hid, rfl, rfl⟩
    have hids₁ : ∀ id' ∈ containerIDs, id' ∈ rt₁.containers.map RuntimeContainer.id := by
      rw [hcontainers₁, map_modifyKey]
      · exact hids
      · exact fun _ => rfl
    obtain ⟨rt₂, hrun, hsandboxes₂, hcontainers₂⟩ := ih hids₁
    refine ⟨rt₂, ?_, ?_, ?_⟩
    · show (startContainer id >>= fun _ => containerIDs.forM startContainer).run rt = _
      rw [EStateM.run_bind, hstart]
      exact hrun
    · rw [hsandboxes₂, hsandboxes₁]
    · rw [hcontainers₂, hcontainers₁, modifyKey, List.map_map]
      apply List.map_congr_left
      intro c _
      by_cases hc : c.id = id <;> simp [started, hc]

/-- Creation fails in a sandbox that does not exist, unless every container
counts as running already. -/
theorem createContainers_missing (ids : IDSource) (pod : Pod)
    (notRunning : GoMap String RuntimeContainer) {running : GoMap String RuntimeContainer}
    {containers : List Container} {rt : Runtime}
    (hid : sid ∉ rt.sandboxes.map PodSandbox.id)
    (hnew : ∃ c ∈ containers, running.lookup c.name = none) :
    ∃ message rt', (createContainers ids sid running notRunning pod containers).run rt =
      .error message rt' := by
  induction containers generalizing rt with
  | nil => simp at hnew
  | cons container containers ih =>
    cases hrunning : running.lookup container.name with
    | some c =>
      have hnew' : ∃ c ∈ containers, running.lookup c.name = none := by
        simpa [hrunning] using hnew
      obtain ⟨message, rt', hrun⟩ := ih hid hnew'
      refine ⟨message, rt', ?_⟩
      simpa only [createContainers, hrunning, Option.isSome_some, if_true] using hrun
    | none =>
      -- a removal keeps the sandboxes, so the sandbox is still missing
      obtain ⟨rt₁, hremove, hsbs⟩ : ∃ rt₁,
          (removeNotRunning notRunning container.name).run rt = .ok () rt₁ ∧
          rt₁.sandboxes = rt.sandboxes := by
        cases hstale : notRunning.lookup container.name with
        | none => exact ⟨rt, by simp [removeNotRunning, hstale], rfl⟩
        | some c =>
          refine ⟨_, by rw [removeNotRunning, hstale]; exact ignoreError_run _ _, ?_⟩
          show (finalState (removeContainer c.id rt)).sandboxes = rt.sandboxes
          rw [removeContainer]
          split_ifs <;> rfl
      have hcreate : (createContainer ids sid
          (containerConfig pod sid container)).run rt₁ = .error "sandbox not found" rt₁ :=
        dif_neg (hsbs.symm ▸ hid)
      refine ⟨"sandbox not found", rt₁, ?_⟩
      simp only [createContainers, hrunning, Option.isSome_none, Bool.false_eq_true, if_false,
        EStateM.run_bind, hremove, hcreate]

/-- Building a pod from nothing: a new ready sandbox in which every container
of the pod runs, next to the sandboxes that were there. -/
theorem buildPod_run (sha1Sum : Pod → String) (ids : IDSource)
    (ns cluster comp : String) (pod : Pod) (rt : Runtime) :
    ∃ id rt', (buildPod sha1Sum ids ns cluster comp "" ∅ ∅ pod).run
        rt = .ok id rt' ∧
      rt'.sandboxes = rt.sandboxes ++
        [⟨id, podSandboxConfig sha1Sum ns cluster comp pod, true⟩] ∧
      (rt'.containersOf id).map RuntimeContainer.config =
        pod.containers.map (containerConfig pod id) ∧
      (∀ c ∈ rt'.containersOf id, c.running = true) ∧
      ∀ s ∈ rt.sandboxes, rt'.containersOf s.id = rt.containersOf s.id := by
  obtain ⟨id, rt₁, hsb, hfresh, hsandboxes₁, hcontainers₁⟩ : ∃ id rt₁,
      (runPodSandbox ids (podSandboxConfig sha1Sum ns cluster comp
        pod)).run rt = .ok id rt₁ ∧ id ∉ rt.sandboxes.map PodSandbox.id ∧
      rt₁.sandboxes = rt.sandboxes ++
        [⟨id, podSandboxConfig sha1Sum ns cluster comp pod, true⟩] ∧
      rt₁.containers = rt.containers :=
    ⟨_, _, rfl, ids.fresh _, rfl, rfl⟩
  have hid₁ : id ∈ rt₁.sandboxes.map PodSandbox.id := by simp [hsandboxes₁]
  obtain ⟨created, rt₂, hcreate, hsandboxes₂, hcontainers₂, hconfigs, howners⟩ :=
    createContainers_run ids pod pod.containers hid₁
  have hids₂ : ∀ cid ∈ created.map RuntimeContainer.id,
      cid ∈ rt₂.containers.map RuntimeContainer.id := by
    intro cid hcid
    rw [hcontainers₂, List.map_append]
    exact List.mem_append_right _ hcid
  obtain ⟨rt₃, hstart, hsandboxes₃, hcontainers₃⟩ := startContainers_run hids₂
  -- the containers that were there belong to other sandboxes and are not started
  have hold : ∀ c ∈ rt.containers, c.podSandboxID ≠ id ∧
      started (created.map RuntimeContainer.id) c = c := by
    intro c hc
    refine ⟨fun h => hfresh (h ▸ rt.containers_owned c hc), if_neg ?_⟩
    intro hcid
    have hnd := rt₂.containerIDs_nodup
    rw [hcontainers₂, hcontainers₁, List.map_append] at hnd
    exact (List.disjoint_of_nodup_append hnd) (List.mem_map_of_mem hc) hcid
  have hnew : ∀ c ∈ created, started (created.map RuntimeContainer.id) c =
      { c with running := true } := fun c hc => if_pos (List.mem_map_of_mem hc)
  have hctrs : rt₃.containers = rt.containers ++
      created.map fun c => { c with running := true } := by
    rw [hcontainers₃, hcontainers₂, hcontainers₁, List.map_append,
      List.map_congr_left hnew, List.map_congr_left fun c hc => (hold c hc).2, List.map_id']
  have hof : rt₃.containersOf id = created.map fun c => { c with running := true } := by
    have hdropped : rt.containers.filter (fun c => c.podSandboxID = id) = [] := by
      rw [List.filter_eq_nil_iff]
      intro c hc
      simpa using (hold c hc).1
    rw [containersOf, hctrs, List.filter_append, hdropped, List.nil_append,
      List.filter_eq_self]
    intro c hc
    obtain ⟨c', hc', rfl⟩ := List.mem_map.mp hc
    exact decide_eq_true (howners c' hc')
  refine ⟨id, rt₃, ?_, ?_, ?_, ?_, ?_⟩
  · simp only [buildPod, ensureContainers, if_true, EStateM.run_bind, hsb, hcreate,
      hstart, EStateM.run_pure]
  · rw [hsandboxes₃, hsandboxes₂, hsandboxes₁]
  · rw [hof, List.map_map, ← hconfigs]
    rfl
  · rw [hof]
    intro c hc
    obtain ⟨c', -, rfl⟩ := List.mem_map.mp hc
    rfl
  · intro s hs
    have hne : id ≠ s.id := fun h => hfresh (h ▸ List.mem_map_of_mem hs)
    rw [containersOf, hctrs, List.filter_append, containersOf]
    rw [List.append_right_eq_self, List.filter_eq_nil_iff]
    intro c hc
    obtain ⟨c', hc', rfl⟩ := List.mem_map.mp hc
    simpa [howners c' hc'] using hne

end Build

/-! ## What the function is for -/

section Ensure

variable {sha1Sum : Pod → String} {ids : IDSource}
variable {ns cluster comp : String}
variable {pod : Pod} {rt : Runtime}

/-- Every container of the pod runs in the sandbox. -/
def RunsAll (rt : Runtime) (pod : Pod) (s : PodSandbox) : Prop :=
  ∀ c ∈ pod.containers, ∃ k ∈ rt.containersOf s.id, k.config.name = c.name ∧ k.running = true

/-- A ready sandbox with the labels of the pod, its sum among them. -/
def IsReadyPod (sha1Sum : Pod → String) (ns cluster comp : String)
    (pod : Pod) (s : PodSandbox) : Prop :=
  selects (podSelector sha1Sum ns cluster comp pod) s = true ∧
    s.ready = true

/-- A sandbox of the pod, whatever its sum. -/
def IsPod (ns cluster comp : String) (pod : Pod)
    (s : PodSandbox) : Prop :=
  selects (podNameSelector ns cluster comp pod.name) s = true

/-- The containers of a sandbox with the labels of the pod are containers of
the pod. -/
def HoldsOnly (sha1Sum : Pod → String) (ns cluster comp : String)
    (pod : Pod) (rt : Runtime) : Prop :=
  ∀ s ∈ rt.sandboxes,
    selects (podSelector sha1Sum ns cluster comp pod) s = true →
    ∀ k ∈ rt.containersOf s.id, k.config.name ∈ pod.containers.map Container.name

/-- What `EnsurePod` is for, on a run from `rt` with the outcome `result`. -/
structure EnsuresPod (sha1Sum : Pod → String)
    (ns cluster comp : String) (pod : Pod) (rt : Runtime)
    (result : EStateM.Result String Runtime String) : Prop where
  /-- It returns no error, and the id of a ready sandbox with the labels of the
  pod in which every container runs. -/
  running : ∃ s rt', result = .ok s.id rt' ∧ s ∈ rt'.sandboxes ∧
    IsReadyPod sha1Sum ns cluster comp pod s ∧ RunsAll rt' pod s ∧
    ∀ s' ∈ rt'.sandboxes, IsPod ns cluster comp pod s' → s' = s
  /-- The sandboxes of other pods are those that were there, -/
  others : ∀ s, ¬ IsPod ns cluster comp pod s →
    (s ∈ (finalState result).sandboxes ↔ s ∈ rt.sandboxes)
  /-- with the same containers in the same states. -/
  otherContainers : ∀ s ∈ rt.sandboxes,
    ¬ IsPod ns cluster comp pod s →
    (finalState result).containersOf s.id = rt.containersOf s.id
  /-- A pod that runs already is left alone. -/
  untouched : (∃ s ∈ rt.sandboxes,
      IsReadyPod sha1Sum ns cluster comp pod s ∧ RunsAll rt pod s) →
    finalState result = rt

/-- The states in which `EnsurePod` does what it is for: no ready sandbox of
the pod, or one that runs every container and is the only one of the pod. -/
def EnsureCondition (sha1Sum : Pod → String)
    (ns cluster comp : String) (pod : Pod) (rt : Runtime) : Prop :=
  (∀ s ∈ rt.sandboxes, ¬ IsReadyPod sha1Sum ns cluster comp pod s) ∨
  ∃ s ∈ rt.sandboxes, IsReadyPod sha1Sum ns cluster comp pod s ∧
    RunsAll rt pod s ∧
    ∀ s' ∈ rt.sandboxes, IsPod ns cluster comp pod s' → s' = s

theorem IsReadyPod.isPod {s : PodSandbox}
    (h : IsReadyPod sha1Sum ns cluster comp pod s) :
    IsPod ns cluster comp pod s := by
  have hall := h.1
  rw [podSelector, selects, List.all_append, Bool.and_eq_true] at hall
  exact hall.1

/-- The sandbox that `buildPod` runs has the labels of the pod. -/
theorem isReadyPod_podSandboxConfig (sha1Sum : Pod → String)
    (ns cluster comp : String) (pod : Pod) (id : String) :
    IsReadyPod sha1Sum ns cluster comp pod
      ⟨id, podSandboxConfig sha1Sum ns cluster comp pod, true⟩ := by
  refine ⟨?_, rfl⟩
  simp [selects, podSandboxConfig, podSelector, podNameSelector, GoMap.lookup_insert_eq]

/-! ### Reading the state of the pod -/

theorem containerStatus_of_mem {c : RuntimeContainer} (hc : c ∈ rt.containers) :
    rt.containerStatus c.id = .ok c.running := by
  have hlk := (lookupKey_eq_some_iff rt.containerIDs_nodup).mpr ⟨hc, rfl⟩
  rw [containerStatus, hlk]

/-- The names of the first map are those of the containers that run. -/
theorem mem_classify {containers : List RuntimeContainer}
    (hmem : ∀ c ∈ containers, c ∈ rt.containers)
    {acc : GoMap String RuntimeContainer × GoMap String RuntimeContainer} (name : String) :
    name ∈ (containers.foldl (classify rt) acc).1 ↔
      name ∈ acc.1 ∨ ∃ c ∈ containers, c.config.name = name ∧ c.running = true := by
  induction containers generalizing acc with
  | nil => simp
  | cons c containers ih =>
    obtain ⟨hc, hrest⟩ := List.forall_mem_cons.mp hmem
    rw [List.foldl_cons, ih hrest, classify, containerStatus_of_mem hc]
    cases hrunning : c.running with
    | true =>
      rw [List.exists_mem_cons_iff, hrunning, Finmap.mem_insert, or_assoc, or_left_comm,
        @eq_comm _ name, eq_self, and_true]
    | false => simp [hrunning]

/-- As many running names as containers means that every container runs. -/
theorem card_keys_eq_length_iff {running : GoMap String RuntimeContainer}
    {names : List String} (hnd : names.Nodup) (hsub : ∀ name ∈ running, name ∈ names) :
    running.keys.card = names.length ↔ ∀ name ∈ names, name ∈ running := by
  have hsubset : running.keys ⊆ names.toFinset := by
    intro name hname
    exact List.mem_toFinset.mpr (hsub name (Finmap.mem_keys.mp hname))
  rw [← List.toFinset_card_of_nodup hnd]
  constructor
  · intro hcard name hname
    rw [← Finmap.mem_keys, Finset.eq_of_subset_of_card_le hsubset hcard.ge]
    exact List.mem_toFinset.mpr hname
  · intro hall
    congr 1
    refine Finset.Subset.antisymm hsubset ?_
    intro name hname
    exact Finmap.mem_keys.mpr (hall name (List.mem_toFinset.mp hname))

theorem isPodRunning_of_none
    (hnone : ∀ s ∈ rt.sandboxes,
      ¬ IsReadyPod sha1Sum ns cluster comp pod s) :
    isPodRunning sha1Sum ns cluster comp rt pod = ⟨false, "", false, ∅, ∅⟩ := by
  have hfind : (rt.listPodSandbox
      (podSelector sha1Sum ns cluster comp pod)).find?
        PodSandbox.ready = none := by
    rw [List.find?_eq_none]
    intro s hs hready
    obtain ⟨hs, hselects⟩ := List.mem_filter.mp hs
    exact hnone s hs ⟨hselects, hready⟩
  rw [isPodRunning, hfind]
  rfl

/-- With a ready sandbox of the pod, the function reports one of them: whether
every container runs in it, and which containers do. -/
theorem isPodRunning_of_ready (hnames : (pod.containers.map Container.name).Nodup)
    (honly : HoldsOnly sha1Sum ns cluster comp pod rt)
    (hready : ∃ s ∈ rt.sandboxes,
      IsReadyPod sha1Sum ns cluster comp pod s) :
    let status := isPodRunning sha1Sum ns cluster comp rt pod
    ∃ s ∈ rt.sandboxes, IsReadyPod sha1Sum ns cluster comp pod s ∧
      status.isPodRunning = true ∧ status.podSandboxID = s.id ∧
      (status.allContainersRunning = true ↔ RunsAll rt pod s) ∧
      ∀ name, name ∈ status.runningContainers ↔
        ∃ k ∈ rt.containersOf s.id, k.config.name = name ∧ k.running = true := by
  intro status
  obtain ⟨s, hfind⟩ : ∃ s, (rt.listPodSandbox
      (podSelector sha1Sum ns cluster comp pod)).find?
        PodSandbox.ready = some s := by
    obtain ⟨s, hs, hselects, hready⟩ := hready
    rw [← Option.isSome_iff_exists, List.find?_isSome]
    exact ⟨s, List.mem_filter.mpr ⟨hs, hselects⟩, hready⟩
  obtain ⟨hs, hselects⟩ := List.mem_filter.mp (List.mem_of_find?_eq_some hfind)
  have hmem : ∀ name,
      name ∈ ((rt.containersOf s.id).foldl (classify rt) (∅, ∅)).1 ↔
        ∃ k ∈ rt.containersOf s.id, k.config.name = name ∧ k.running = true := by
    intro name
    have hsub : ∀ c ∈ rt.containersOf s.id, c ∈ rt.containers :=
      fun c hc => List.mem_of_mem_filter hc
    rw [mem_classify hsub]
    exact or_iff_right Finmap.notMem_empty
  have hstat : status = ⟨true, s.id,
      ((rt.containersOf s.id).foldl (classify rt) (∅, ∅)).1.keys.card = pod.containers.length,
      ((rt.containersOf s.id).foldl (classify rt) (∅, ∅)).1,
      ((rt.containersOf s.id).foldl (classify rt) (∅, ∅)).2⟩ := by
    have hid := rt.sandboxIDs_ne s hs
    simp only [status, isPodRunning, hfind, Option.map_some, Option.getD_some, hid, if_false]
  refine ⟨s, hs, ⟨hselects, List.find?_some hfind⟩, by rw [hstat], by rw [hstat], ?_, ?_⟩
  · rw [hstat]
    show decide _ = true ↔ _
    rw [decide_eq_true_eq, ← List.length_map Container.name, card_keys_eq_length_iff hnames]
    · simp only [List.forall_mem_map, hmem]
      exact Iff.rfl
    · intro name hname
      obtain ⟨k, hk, rfl, -⟩ := (hmem name).mp hname
      exact honly s hs hselects k hk
  · rw [hstat]
    exact hmem

/-! ### The three outcomes -/

/-- No ready sandbox of the pod: whatever is left of the pod is deleted, and
the pod is built. -/
theorem ensuresPod_of_none
    (hnone : ∀ s ∈ rt.sandboxes,
      ¬ IsReadyPod sha1Sum ns cluster comp pod s) :
    EnsuresPod sha1Sum ns cluster comp pod rt
      ((ensurePod sha1Sum ids ns cluster comp pod).run rt) := by
  obtain ⟨rt₁, hdelete, hsandboxes₁, hcontainers₁⟩ :=
    deletePod_run ns cluster comp pod.name rt
  obtain ⟨id, rt₂, hbuild, hsandboxes₂, hconfigs, hrunning, hcontainers₂⟩ :=
    buildPod_run sha1Sum ids ns cluster comp pod rt₁
  have hrun : (ensurePod sha1Sum ids ns cluster comp pod).run rt = .ok id rt₂ := by
    simp only [ensurePod, EStateM.run_bind, EStateM.run_get, isPodRunning_of_none hnone,
      Bool.false_and, Bool.false_eq_true, if_false, ignoreError_run, hdelete, finalState_ok,
      hbuild]
  have hkept : ∀ s, s ∈ rt₁.sandboxes ↔ s ∈ rt.sandboxes ∧
      ¬ IsPod ns cluster comp pod s := by
    intro s
    rw [hsandboxes₁, List.mem_filter, Bool.not_eq_true', ← Bool.not_eq_true]
    exact Iff.rfl
  have hnew := isReadyPod_podSandboxConfig sha1Sum ns cluster comp
    pod id
  rw [hrun]
  constructor
  case running =>
    refine ⟨⟨id, _, true⟩, rt₂, rfl, ?_, hnew, ?_, ?_⟩
    · rw [hsandboxes₂]
      exact List.mem_append_right _ (List.mem_singleton_self _)
    · intro c hc
      have hconf : containerConfig pod id c ∈
          (rt₂.containersOf id).map RuntimeContainer.config := by
        rw [hconfigs]
        exact List.mem_map_of_mem hc
      obtain ⟨k, hk, hkc⟩ := List.mem_map.mp hconf
      exact ⟨k, hk, by rw [hkc]; rfl, hrunning k hk⟩
    · intro s hs hpod
      rw [hsandboxes₂, List.mem_append, List.mem_singleton, hkept] at hs
      rcases hs with ⟨-, hother⟩ | hs
      · exact absurd hpod hother
      · exact hs
  case others =>
    intro s hother
    rw [finalState_ok, hsandboxes₂, List.mem_append, List.mem_singleton, hkept]
    constructor
    · rintro (hs | rfl)
      · exact hs.1
      · exact absurd hnew.isPod hother
    · exact fun hs => Or.inl ⟨hs, hother⟩
  case otherContainers =>
    intro s hs hother
    rw [finalState_ok, hcontainers₂ s ((hkept s).mpr ⟨hs, hother⟩)]
    refine hcontainers₁ s hs ?_
    rw [Bool.not_eq_true', ← Bool.not_eq_true]
    exact hother
  case untouched =>
    rintro ⟨s, hs, hready, -⟩
    exact absurd hready (hnone s hs)

/-- The sandbox that the function reads runs every container: nothing
changes. -/
theorem ensurePod_of_runsAll (ids : IDSource)
    (hstat : (isPodRunning sha1Sum ns cluster comp rt
      pod).isPodRunning = true)
    (hall : (isPodRunning sha1Sum ns cluster comp rt
      pod).allContainersRunning = true) :
    (ensurePod sha1Sum ids ns cluster comp pod).run rt =
      .ok (isPodRunning sha1Sum ns cluster comp rt
        pod).podSandboxID rt := by
  simp only [ensurePod, EStateM.run_bind, EStateM.run_get, hstat, hall, Bool.and_self,
    if_true, EStateM.run_pure]

/-- The sandbox that the function reads lacks a running container: it is
deleted, and the creation of the container in it fails. -/
theorem ensurePod_of_not_runsAll (ids : IDSource) {s : PodSandbox} (hs : s ∈ rt.sandboxes)
    (hpod : IsPod ns cluster comp pod s)
    (hid : (isPodRunning sha1Sum ns cluster comp rt
      pod).podSandboxID = s.id)
    (hall : (isPodRunning sha1Sum ns cluster comp rt
      pod).allContainersRunning = false)
    (hmissing : ∃ c ∈ pod.containers, c.name ∉ (isPodRunning sha1Sum ns
      cluster comp rt pod).runningContainers) :
    ∃ message rt', (ensurePod sha1Sum ids ns cluster comp pod).run
      rt = .error message rt' := by
  obtain ⟨rt₁, hdelete, hsandboxes₁, -⟩ :=
    deletePod_run ns cluster comp pod.name rt
  have hgone : s.id ∉ rt₁.sandboxes.map PodSandbox.id := by
    intro hmem
    obtain ⟨s', hs', hideq⟩ := List.mem_map.mp hmem
    rw [hsandboxes₁] at hs'
    obtain ⟨hs', hother⟩ := List.mem_filter.mp hs'
    rw [List.inj_on_of_nodup_map rt.sandboxIDs_nodup hs' hs hideq] at hother
    rw [Bool.not_eq_true', ← Bool.not_eq_true] at hother
    exact hother hpod
  have hnew : ∃ c ∈ pod.containers, (isPodRunning sha1Sum ns cluster
      comp rt pod).runningContainers.lookup c.name = none := by
    obtain ⟨c, hc, hname⟩ := hmissing
    exact ⟨c, hc, Finmap.lookup_eq_none.mpr hname⟩
  obtain ⟨message, rt₂, hcreate⟩ := createContainers_missing ids pod (isPodRunning sha1Sum
    ns cluster comp rt pod).notRunningContainers hgone hnew
  refine ⟨message, rt₂, ?_⟩
  have hne := rt.sandboxIDs_ne s hs
  simp only [ensurePod, EStateM.run_bind, EStateM.run_get, hall, Bool.and_false,
    Bool.false_eq_true, if_false, ignoreError_run, hdelete, finalState_ok, buildPod, hid, hne,
    EStateM.run_pure, ensureContainers, hcreate]

/-- **Ensuring a pod.**  For every runtime in which the sandboxes with the
labels of the pod hold containers of the pod only, `EnsurePod` does what it is
for if and only if no sandbox of the pod with its sum is ready, or a ready one
runs every container and is the only sandbox of the pod. -/
theorem ensurePod_iff (hnames : (pod.containers.map Container.name).Nodup)
    (honly : HoldsOnly sha1Sum ns cluster comp pod rt) :
    EnsuresPod sha1Sum ns cluster comp pod rt
        ((ensurePod sha1Sum ids ns cluster comp pod).run rt) ↔
      EnsureCondition sha1Sum ns cluster comp pod rt := by
  by_cases hready : ∃ s ∈ rt.sandboxes,
      IsReadyPod sha1Sum ns cluster comp pod s
  swap
  · have hnone : ∀ s ∈ rt.sandboxes,
        ¬ IsReadyPod sha1Sum ns cluster comp pod s :=
      fun s hs h => hready ⟨s, hs, h⟩
    exact ⟨fun _ => Or.inl hnone, fun _ => ensuresPod_of_none hnone⟩
  obtain ⟨s, hs, hsready, hrunning, hid, hall, hmem⟩ :=
    isPodRunning_of_ready hnames honly hready
  by_cases hruns : RunsAll rt pod s
  · have hrun := ensurePod_of_runsAll ids hrunning (hall.mpr hruns)
    rw [hid] at hrun
    rw [hrun]
    constructor
    · rintro ⟨⟨s', rt', hres, -, -, -, hunique⟩, -, -, -⟩
      obtain ⟨hideq, rfl⟩ := EStateM.Result.ok.inj hres
      refine Or.inr ⟨s, hs, hsready, hruns, ?_⟩
      rw [hunique s hs hsready.isPod]
      exact hunique
    · rintro (hnone | ⟨s', hs', -, -, hunique⟩)
      · exact absurd hsready (hnone s hs)
      · rw [← hunique s hs hsready.isPod] at hunique
        exact ⟨⟨s, rt, rfl, hs, hsready, hruns, hunique⟩, fun _ _ => Iff.rfl,
          fun _ _ _ => rfl, fun _ => rfl⟩
  · have hflag : (isPodRunning sha1Sum ns cluster comp rt
        pod).allContainersRunning = false := by
      rw [← Bool.not_eq_true]
      exact mt hall.mp hruns
    have hmissing : ∃ c ∈ pod.containers, c.name ∉ (isPodRunning sha1Sum ns
        cluster comp rt pod).runningContainers := by
      by_contra hcontra
      push Not at hcontra
      exact hruns fun c hc => (hmem c.name).mp (hcontra c hc)
    obtain ⟨message, rt', hrun⟩ :=
      ensurePod_of_not_runsAll ids hs hsready.isPod hid hflag hmissing
    rw [hrun]
    constructor
    · rintro ⟨⟨s', rt', hres, -⟩, -, -, -⟩
      cases hres
    · rintro (hnone | ⟨s', hs', -, hruns', hunique⟩)
      · exact absurd hsready (hnone s hs)
      · rw [← hunique s hs hsready.isPod] at hruns'
        exact absurd hruns' hruns

/-- A sandbox with the labels of two pods has their sum. -/
theorem IsReadyPod.sum_eq {pod' : Pod} {s : PodSandbox}
    (h : IsReadyPod sha1Sum ns cluster comp pod s)
    (h' : IsReadyPod sha1Sum ns cluster comp pod' s) :
    sha1Sum pod = sha1Sum pod' := by
  have hsum : ∀ {pod : Pod},
      IsReadyPod sha1Sum ns cluster comp pod s →
      s.config.labels.lookup "oneinfra/pod-sha1sum" = some (sha1Sum pod) := by
    intro pod h
    have hall := h.1
    simp only [podSelector, selects, List.all_append, Bool.and_eq_true, List.all_cons,
      decide_eq_true_eq] at hall
    exact hall.2.1
  exact Option.some_inj.mp ((hsum h).symm.trans (hsum h'))

/-- A pod that runs is replaced when one of the same name and another sum is
ensured. -/
theorem ensurePod_replaces (ids : IDSource) {pod' : Pod} (hname : pod'.name = pod.name)
    {s : PodSandbox} (hready : IsReadyPod sha1Sum ns cluster comp pod s)
    (hunique : ∀ s' ∈ rt.sandboxes,
      IsPod ns cluster comp pod s' → s' = s)
    (hsum : sha1Sum pod ≠ sha1Sum pod') :
    s ∉ (finalState ((ensurePod sha1Sum ids ns cluster comp
      pod').run rt)).sandboxes := by
  have hsame : ∀ s', IsPod ns cluster comp pod' s' ↔
      IsPod ns cluster comp pod s' := by
    intro s'
    unfold IsPod
    rw [hname]
  have hnone : ∀ s' ∈ rt.sandboxes,
      ¬ IsReadyPod sha1Sum ns cluster comp pod' s' := by
    intro s' hs' hready'
    rw [hunique s' hs' ((hsame s').mp hready'.isPod)] at hready'
    exact hsum (hready.sum_eq hready')
  have hensures : EnsuresPod sha1Sum ns cluster comp pod' rt
      ((ensurePod sha1Sum ids ns cluster comp pod').run rt) :=
    ensuresPod_of_none hnone
  obtain ⟨s', rt', hrun, -, hready', -, honly⟩ := hensures.running
  rw [hrun]
  intro hs
  rw [← honly s hs ((hsame s).mpr hready.isPod)] at hready'
  exact hsum (hready.sum_eq hready')

end Ensure

/-! ## One runtime of each kind -/

/-- Ids that are longer than those in use together. -/
def longerID : IDSource where
  next used := String.ofList (List.replicate ((used.map String.length).sum + 1) 'x')
  fresh := by
    intro used hmem
    have hlen := List.le_sum_of_mem (List.mem_map_of_mem (f := String.length) hmem)
    simp only [String.length_ofList, List.length_replicate] at hlen
    omega
  ne_empty := by
    intro used h
    have hlen := congrArg String.length h
    simp at hlen

/-- The name of a pod as its sum. -/
private def nameSum (pod : Pod) : String := pod.name

/-- A pod with two containers. -/
private def twoContainers : Pod := { name := "p", containers := [{ name := "a" }, { name := "b" }] }

/-- A runtime with a ready sandbox of the pod in which the first container
runs, and the second one as `running` says. -/
private def runtimeOf (running : Bool) : Runtime where
  sandboxes := [⟨"s", podSandboxConfig nameSum "ns" "c" "comp" twoContainers, true⟩]
  containers := [⟨"1", "s", containerConfig twoContainers "s" { name := "a" }, true⟩,
    ⟨"2", "s", containerConfig twoContainers "s" { name := "b" }, running⟩]
  sandboxIDs_nodup := by decide
  sandboxIDs_ne := by
    intro s hs
    rw [List.mem_singleton.mp hs]
    decide
  containerIDs_nodup := by cases running <;> decide
  containers_owned := by
    intro c hc
    simp only [List.mem_cons, List.not_mem_nil, or_false] at hc
    rcases hc with rfl | rfl <;> exact List.mem_singleton_self _

private theorem holdsOnly_runtimeOf (running : Bool) :
    HoldsOnly nameSum "ns" "c" "comp" twoContainers (runtimeOf running) := by
  intro s _ _ k hk
  have hk := List.mem_of_mem_filter hk
  simp only [runtimeOf, List.mem_cons, List.not_mem_nil, or_false] at hk
  rcases hk with rfl | rfl
  · exact List.mem_cons_self
  · exact List.mem_cons_of_mem _ List.mem_cons_self

/-- A pod that runs is left alone. -/
theorem ensurePod_iff_running :
    EnsuresPod nameSum "ns" "c" "comp" twoContainers (runtimeOf true)
      ((ensurePod nameSum longerID "ns" "c" "comp" twoContainers).run (runtimeOf true)) := by
  refine (ensurePod_iff (by decide) (holdsOnly_runtimeOf true)).mpr (Or.inr ?_)
  refine ⟨_, List.mem_singleton_self _, isReadyPod_podSandboxConfig _ _ _ _ _ _, ?_, ?_⟩
  · intro c hc
    simp only [twoContainers, List.mem_cons, List.not_mem_nil, or_false] at hc
    rcases hc with rfl | rfl
    · exact ⟨⟨"1", "s", containerConfig twoContainers "s" { name := "a" }, true⟩,
        by simp [containersOf, runtimeOf], rfl, rfl⟩
    · exact ⟨⟨"2", "s", containerConfig twoContainers "s" { name := "b" }, true⟩,
        by simp [containersOf, runtimeOf], rfl, rfl⟩
  · intro s hs _
    exact List.mem_singleton.mp hs

/-- A ready sandbox with one container that has exited: the sandbox is deleted,
and its id is used for a container of the pod. -/
theorem ensurePod_fails_partly_running :
    (∃ rt', (ensurePod nameSum longerID "ns" "c" "comp" twoContainers).run (runtimeOf false) =
        .error "sandbox not found" rt' ∧ rt'.sandboxes = []) ∧
      HoldsOnly nameSum "ns" "c" "comp" twoContainers (runtimeOf false) ∧
      ¬ EnsuresPod nameSum "ns" "c" "comp" twoContainers (runtimeOf false)
        ((ensurePod nameSum longerID "ns" "c" "comp" twoContainers).run (runtimeOf false)) := by
  have hrun : ∃ rt', (ensurePod nameSum longerID "ns" "c" "comp" twoContainers).run
      (runtimeOf false) = .error "sandbox not found" rt' ∧ rt'.sandboxes = [] :=
    ⟨_, rfl, rfl⟩
  refine ⟨hrun, holdsOnly_runtimeOf false, ?_⟩
  obtain ⟨rt', hrun, -⟩ := hrun
  rw [hrun]
  rintro ⟨⟨s, rt'', hres, -⟩, -, -, -⟩
  cases hres

end OneInfra.Infra.Hypervisor
