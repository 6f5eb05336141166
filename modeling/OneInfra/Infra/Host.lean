import OneInfra.Infra.EnsurePod
import OneInfra.Infra.Files

/-!
# A host, and the files that are uploaded to it

`UploadFiles` of `internal/pkg/infra/hypervisor.go` writes files by a pod with one
container for each file, and records their sums in the file map of the hypervisor.
`Host` is what such a call works on: the runtime, the files on the disk, the images,
and the hypervisor with its file map.

The host goes on by itself.  A container that was started ends at some time.  If it
ends with the exit code zero it has written its file, and else it has not.  Each call
to the runtime takes one `Answer` from a list.  The answer says which containers ended
before the call, and whether the call succeeds, fails, or is carried out and its answer
lost.  A call for which there is no answer does not return, and ends the run as a panic
does.

`exitCode` gives the exit code of a container by the path that it writes.  A path
names one file.  The runtime gives an id to one container only, also after the
container is gone, and `issued` is the list of these ids.  It refuses a container if
its sandbox has one of that name.

The operations are those of `OneInfra.Infra.EnsurePod` with a call to the runtime at
each place where the source has one.  The file map is not nil, as in every hypervisor
that was imported.
-/

namespace OneInfra.Infra

open OneInfra.Lib OneInfra.Infra.Runtime

/-! ## Changes that start no container -/

/-- Every container after a change was there before and runs only if it ran.  A sandbox
has the configuration it had, or is new. -/
structure Runtime.Keeps (rt rt' : Runtime) : Prop where
  containers : ∀ c' ∈ rt'.containers, ∃ c ∈ rt.containers, c.id = c'.id ∧
    c.podSandboxID = c'.podSandboxID ∧ c.config = c'.config ∧
    (c'.running = true → c.running = true)
  sandboxes : ∀ s' ∈ rt'.sandboxes,
    (∃ s ∈ rt.sandboxes, s.id = s'.id ∧ s.config = s'.config) ∨
      s'.id ∉ rt.sandboxes.map PodSandbox.id

namespace Runtime

theorem Keeps.refl (rt : Runtime) : rt.Keeps rt :=
  ⟨fun c hc => ⟨c, hc, rfl, rfl, rfl, id⟩, fun s hs => .inl ⟨s, hs, rfl, rfl⟩⟩

theorem keeps_runPodSandbox (ids : IDSource) (config : PodSandboxConfig) :
    Guarantees Keeps (runPodSandbox ids config) := by
  intro rt
  refine ⟨(Keeps.refl rt).containers, fun s hs => ?_⟩
  rcases List.mem_append.mp hs with hs | hs
  · exact .inl ⟨s, hs, rfl, rfl⟩
  · rw [List.mem_singleton.mp hs]
    exact .inr (ids.fresh _)

theorem keeps_stopPodSandbox (id : String) :
    Guarantees Keeps (stopPodSandbox id) := by
  intro rt
  show Keeps rt (finalState (stopPodSandbox id rt))
  rw [stopPodSandbox]
  split
  · constructor
    · intro c' hc'
      obtain ⟨c, hc, rfl⟩ := List.mem_map.mp hc'
      refine ⟨c, hc, ?_⟩
      split <;> simp
    · intro s' hs'
      obtain ⟨s, hs, rfl⟩ := List.mem_map.mp hs'
      refine .inl ⟨s, hs, ?_⟩
      split <;> simp
  · exact Keeps.refl rt

theorem keeps_removePodSandbox (sid : String) :
    Guarantees Keeps (removePodSandbox sid) := by
  intro rt
  show Keeps rt (finalState (removePodSandbox sid rt))
  rw [removePodSandbox]
  split
  · exact ⟨fun c hc => ⟨c, List.mem_of_mem_filter hc, rfl, rfl, rfl, id⟩,
      fun s hs => .inl ⟨s, List.mem_of_mem_filter hs, rfl, rfl⟩⟩
  · exact Keeps.refl rt

theorem keeps_removeContainer (cid : String) :
    Guarantees Keeps (removeContainer cid) := by
  intro rt
  show Keeps rt (finalState (removeContainer cid rt))
  rw [removeContainer]
  split
  · exact ⟨fun c hc => ⟨c, List.mem_of_mem_filter hc, rfl, rfl, rfl, id⟩,
      (Keeps.refl rt).sandboxes⟩
  · exact Keeps.refl rt

/-- A container ends. -/
def exitContainer (rt : Runtime) (containerID : String) : Runtime where
  sandboxes := rt.sandboxes
  containers := modifyKey RuntimeContainer.id containerID
    (fun c => { c with running := false }) rt.containers
  calls := rt.calls
  sandboxIDs_nodup := rt.sandboxIDs_nodup
  sandboxIDs_ne := rt.sandboxIDs_ne
  containerIDs_nodup := by
    rw [map_modifyKey]
    · exact rt.containerIDs_nodup
    · exact fun _ => rfl
  containers_owned := forall_mem_modifyKey rt.containers_owned fun c _ h => h

theorem keeps_exitContainer (rt : Runtime) (cid : String) :
    rt.Keeps (rt.exitContainer cid) := by
  refine ⟨fun c' hc' => ?_, (Keeps.refl rt).sandboxes⟩
  obtain ⟨c, hc, rfl⟩ := List.mem_map.mp hc'
  refine ⟨c, hc, ?_⟩
  split <;> simp

end Runtime

/-- A source whose ids are also none of `issued`. -/
def IDSource.avoiding (ids : IDSource) (issued : List String) : IDSource where
  next used := ids.next (used ++ issued)
  fresh used h := ids.fresh (used ++ issued) (List.mem_append_left _ h)
  ne_empty used := ids.ne_empty (used ++ issued)

/-! ## The host -/

/-- What a call to the runtime ends with. -/
inductive Outcome
  | succeeds
  | fails (message : String)
  | failsAfter (message : String)
deriving DecidableEq, Repr

/-- What happens at a call to the runtime. -/
structure Answer where
  /-- The containers that end before the call. -/
  ended : List String := []
  outcome : Outcome := .succeeds
deriving DecidableEq, Repr

/-- A host with its hypervisor. -/
structure Host where
  runtime : Runtime
  /-- The ids of all containers that were ever created, -/
  issued : List String
  /-- and of those that were started. -/
  started : List String
  images : List String
  disk : GoMap String String
  hypervisor : Hypervisor
  answers : List Answer := []
  exitCode : String → Int := fun _ => 0
  containers_issued : ∀ c ∈ runtime.containers, c.id ∈ issued
  started_issued : ∀ id ∈ started, id ∈ issued

/-- A program on the host. -/
abbrev HostM (α : Type) := EStateM Fault Host α

/-- The functions of the libraries that an upload uses, and the choice of ids. -/
structure Tools where
  ids : IDSource
  /-- `Pod.SHA1Sum`. -/
  podSum : Pod → String
  /-- `sha1.Sum` of the contents of a file, in hexadecimal. -/
  sha1Sum : String → String
  /-- `md5.Sum` of the contents of a file, in hexadecimal. -/
  md5Sum : String → String
  /-- `filepath.Dir`. -/
  dir : String → String
  /-- `base64.StdEncoding.EncodeToString`. -/
  encode : String → String
  /-- `base64 -d`. -/
  decode : String → Option String
  decode_encode : ∀ contents, decode (encode contents) = some contents

namespace Host

/-- The host after a change of the runtime that creates no container. -/
def setRuntime (host : Host) (rt : Runtime) (h : host.runtime.Keeps rt) : Host :=
  { host with
    runtime := rt
    containers_issued := by
      intro c' hc'
      obtain ⟨c, hc, hid, -⟩ := h.containers c' hc'
      exact hid ▸ host.containers_issued c hc }

variable (tools : Tools)

/-- The file that a container writes, with its contents: `write-base64-file.sh`. -/
def writes (config : ContainerConfig) : Option (String × String) :=
  match config.command, config.args with
  | ["write-base64-file.sh"], [encoded, path] =>
    (tools.decode encoded).map fun contents => (path, contents)
  | _, _ => none

/-- The disk after a container has ended. -/
def written (exitCode : String → Int) (config : ContainerConfig) (disk : GoMap String String) :
    GoMap String String :=
  match writes tools config with
  | some (path, contents) => if exitCode path = 0 then disk.insert path contents else disk
  | none => disk

/-- A container ends, if it runs. -/
def endContainer (exitCode : String → Int) (host : Host) (containerID : String) : Host :=
  match lookupKey RuntimeContainer.id containerID host.runtime.containers with
  | none => host
  | some c =>
    if c.running then
      { host.setRuntime _ (keeps_exitContainer host.runtime containerID) with
        disk := written tools exitCode c.config host.disk }
    else host

/-- The containers of a list end. -/
def settle (host : Host) (ended : List String) : Host :=
  ended.foldl (fun host => endContainer tools host.exitCode host) host

/-! ## Calls to the runtime -/

/-- A call to the runtime. -/
def call {α : Type} (effect : EStateM String Host α) : HostM α := fun host =>
  match host.answers with
  | [] => .error (.panic "no answer") host
  | answer :: answers =>
    let host := settle tools { host with answers := answers } answer.ended
    match answer.outcome with
    | .fails message => .error (.error message) host
    | .failsAfter message => .error (.error message) (finalState (effect.run host))
    | .succeeds =>
      match effect.run host with
      | .ok a host => .ok a host
      | .error message host => .error (.error message) host

/-- A call that only reads. -/
def reading {α : Type} (f : Host → Except String α) : EStateM String Host α := fun host =>
  match f host with
  | .ok a => .ok a host
  | .error message => .error message host

/-- A call of the runtime that creates and starts no container. -/
def onRuntime {α : Type} (x : CRI α) (hx : Guarantees Keeps x) : EStateM String Host α :=
  fun host =>
    let host' := host.setRuntime (finalState (x.run host.runtime)) (hx host.runtime)
    match x.run host.runtime with
    | .ok a _ => .ok a host'
    | .error message _ => .error message host'

/-- `CreateContainer`.  A sandbox has one container of a name. -/
def createContainer (podSandboxID : String) (config : ContainerConfig) :
    EStateM String Host String := fun host =>
  if h : podSandboxID ∈ host.runtime.sandboxes.map PodSandbox.id then
    if config.name ∈ (host.runtime.containersOf podSandboxID).map (·.config.name) then
      .error "name is reserved" host
    else
      let ids := tools.ids.avoiding host.issued
      let id := ids.next (host.runtime.containers.map RuntimeContainer.id)
      .ok id { host with
        runtime := finalState (Runtime.createContainer ids podSandboxID config host.runtime)
        issued := id :: host.issued
        containers_issued := by
          intro c hc
          rw [Runtime.createContainer, dif_pos h] at hc
          rcases List.mem_append.mp hc with hc | hc
          · exact List.mem_cons_of_mem _ (host.containers_issued c hc)
          · rw [List.mem_singleton.mp hc]
            exact List.mem_cons_self
        started_issued := fun id' h' => List.mem_cons_of_mem _ (host.started_issued id' h') }
  else .error "sandbox not found" host

/-- `StartContainer`. -/
def startContainer (containerID : String) : EStateM String Host Unit := fun host =>
  if h : containerID ∈ host.runtime.containers.map RuntimeContainer.id then
    .ok () { host with
      runtime := finalState (Runtime.startContainer containerID host.runtime)
      started := containerID :: host.started
      containers_issued := by
        rw [Runtime.startContainer, if_pos h]
        exact forall_mem_modifyKey host.containers_issued fun c _ hc => hc
      started_issued := by
        intro id hid
        rcases List.mem_cons.mp hid with rfl | hid
        · obtain ⟨c, hc, rfl⟩ := List.mem_map.mp h
          exact host.containers_issued c hc
        · exact host.started_issued id hid }
  else .error "container not found" host

/-! ## The operations of the source -/

/-- `EnsureImage`. -/
def ensureImage (image : String) : HostM Unit := do
  let present ← call tools (reading fun host => .ok (decide (image ∈ host.images)))
  if present then pure ()
  else call tools fun host => .ok () { host with images := image :: host.images }

section Pods

variable (clusterNamespace clusterName componentName : String)

/-- The body of the loop of `IsPodRunning`. -/
def classify (acc : GoMap String RuntimeContainer × GoMap String RuntimeContainer)
    (container : RuntimeContainer) :
    HostM (GoMap String RuntimeContainer × GoMap String RuntimeContainer) := do
  match ← attempt (call tools (reading fun host => host.runtime.containerStatus container.id)) with
  | .error _ => pure acc
  | .ok true => pure (acc.1.insert container.config.name container, acc.2)
  | .ok false => pure (acc.1, acc.2.insert container.config.name container)

/-- `IsPodRunning`. -/
def isPodRunning (pod : Pod) : HostM Hypervisor.PodStatus := do
  let podSandboxList ← call tools (reading fun host => .ok (host.runtime.listPodSandbox
    (Hypervisor.podSelector tools.podSum clusterNamespace clusterName componentName pod)))
  let podSandboxID := ((podSandboxList.find? PodSandbox.ready).map PodSandbox.id).getD ""
  if podSandboxID = "" then pure ⟨false, "", false, ∅, ∅⟩
  else do
    let containerList ←
      call tools (reading fun host => .ok (host.runtime.containersOf podSandboxID))
    let podContainers ← containerList.foldlM (classify tools) (∅, ∅)
    pure ⟨true, podSandboxID, podContainers.1.keys.card = pod.containers.length,
      podContainers.1, podContainers.2⟩

/-- `DeletePodWithID`. -/
def deletePodWithID (podSandboxID : String) : HostM Unit := do
  call tools (onRuntime (stopPodSandbox podSandboxID) (keeps_stopPodSandbox podSandboxID))
  call tools (onRuntime (removePodSandbox podSandboxID) (keeps_removePodSandbox podSandboxID))

/-- `DeletePod`. -/
def deletePod (podName : String) : HostM Unit := do
  let podList ← call tools (reading fun host => .ok (host.runtime.listPodSandbox
    (Hypervisor.podNameSelector clusterNamespace clusterName componentName podName)))
  (podList.map PodSandbox.id).forM (deletePodWithID tools)

/-- The removal of a container that does not run. -/
def removeNotRunning (podNotRunningContainers : GoMap String RuntimeContainer)
    (containerName : String) : HostM Unit :=
  match podNotRunningContainers.lookup containerName with
  | some notRunningContainer => do
    let _ ← attempt (call tools (onRuntime (removeContainer notRunningContainer.id)
      (keeps_removeContainer notRunningContainer.id)))
  | none => pure ()

/-- The first loop of `ensureContainers`. -/
def createContainers (podSandboxID : String)
    (podRunningContainers podNotRunningContainers : GoMap String RuntimeContainer)
    (pod : Pod) : List Container → HostM (List String)
  | [] => pure []
  | container :: containers =>
    if (podRunningContainers.lookup container.name).isSome then
      createContainers podSandboxID podRunningContainers podNotRunningContainers pod containers
    else do
      removeNotRunning tools podNotRunningContainers container.name
      let containerID ← call tools (createContainer tools podSandboxID
        (Hypervisor.containerConfig pod podSandboxID container))
      let containerIDs ← createContainers podSandboxID podRunningContainers
        podNotRunningContainers pod containers
      pure (containerID :: containerIDs)

/-- `ensureContainers`. -/
def ensureContainers (podSandboxID : String)
    (podRunningContainers podNotRunningContainers : GoMap String RuntimeContainer)
    (pod : Pod) : HostM Unit := do
  let containerIDs ← createContainers tools podSandboxID podRunningContainers
    podNotRunningContainers pod pod.containers
  containerIDs.forM fun containerID => call tools (startContainer containerID)

/-- The unexported `ensurePod`. -/
def buildPod (podSandboxID : String)
    (podRunningContainers podNotRunningContainers : GoMap String RuntimeContainer)
    (pod : Pod) : HostM String := do
  let podSandboxID ←
    if podSandboxID = "" then
      call tools (onRuntime _ (keeps_runPodSandbox tools.ids (Hypervisor.podSandboxConfig
        tools.podSum clusterNamespace clusterName componentName pod)))
    else pure podSandboxID
  ensureContainers tools podSandboxID podRunningContainers podNotRunningContainers pod
  pure podSandboxID

/-- `EnsurePod`.  A failed deletion is only logged. -/
def ensurePod (pod : Pod) : HostM String := do
  let status ← isPodRunning tools clusterNamespace clusterName componentName pod
  if status.isPodRunning && status.allContainersRunning then
    pure status.podSandboxID
  else do
    let _ ← attempt (deletePod tools clusterNamespace clusterName componentName pod.name)
    buildPod tools clusterNamespace clusterName componentName status.podSandboxID
      status.runningContainers status.notRunningContainers pod

/-- The state `CONTAINER_EXITED`: it was started and does not run. -/
def exited (host : Host) (c : RuntimeContainer) : Bool :=
  decide (c.id ∈ host.started) && !c.running

/-- The loop of `WaitForPod`, for a number of rounds. -/
def waitRounds (podSandboxID : String) : Nat → HostM Unit
  | 0 => throw (.panic "no answer")
  | rounds + 1 => do
    let allContainersExited ← call tools (reading fun host =>
      .ok ((host.runtime.containersOf podSandboxID).all host.exited))
    if allContainersExited then pure () else waitRounds podSandboxID rounds

/-- `WaitForPod`.  Each round takes an answer, so that the answers bound the number of
rounds.  The exit codes are not read. -/
def waitForPod (podSandboxID : String) : HostM Unit := do
  let host ← get
  waitRounds tools podSandboxID (host.answers.length + 1)

/-- `RunAndWaitForPod`. -/
def runAndWaitForPod (pod : Pod) : HostM Unit := do
  let podSandboxID ← ensurePod tools clusterNamespace clusterName componentName pod
  waitForPod tools podSandboxID
  deletePodWithID tools podSandboxID

/-- The container that writes a file. -/
def uploadContainer (file : String × String) : Container where
  name := "upload-file-" ++ tools.md5Sum file.2
  image := "oneinfra/tooling:latest"
  command := ["write-base64-file.sh"]
  args := [tools.encode file.2, file.1]
  mounts := (∅ : GoMap String String).insert (tools.dir file.1) (tools.dir file.1)
  privileges := .unprivileged

/-- The pod that writes files. -/
def uploadPod (filesToUpload : List (String × String)) : Pod where
  name := "upload-files"
  containers := filesToUpload.map (uploadContainer tools)
  ports := ∅
  privileges := .unprivileged

/-- The files that are not up to date. -/
def filesToUpload (hypervisor : Hypervisor) (files : List (String × String)) :
    List (String × String) :=
  files.filter fun file => !hypervisor.fileUpToDate clusterNamespace clusterName componentName
    file.1 (tools.sha1Sum file.2)

/-- The files are written, before their sums are recorded. -/
def writeFiles (files : List (String × String)) : HostM Unit := do
  ensureImage tools "oneinfra/tooling:latest"
  runAndWaitForPod tools clusterNamespace clusterName componentName (uploadPod tools files)

/-- `UploadFiles`, with the files in the order in which the map is traversed. -/
def uploadFiles (files : List (String × String)) : HostM Unit := do
  let host ← get
  let toUpload := filesToUpload tools clusterNamespace clusterName componentName host.hypervisor
    files
  if toUpload = [] then pure ()
  else do
    writeFiles tools clusterNamespace clusterName componentName toUpload
    modify fun host => { host with
      hypervisor := host.hypervisor.recordFiles clusterNamespace clusterName componentName
        (files.map fun file => (file.1, tools.sha1Sum file.2)) }

end Pods

end Host

end OneInfra.Infra
