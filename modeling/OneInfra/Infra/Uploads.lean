import OneInfra.Infra.Host
import OneInfra.Lib.Reach

/-!
# The file map and the disk

The file map of a hypervisor is truthful if every sum that it records is the sum of the
file on the disk.  `UploadFiles` does not keep that: `WaitForPod` waits for the
containers of the pod to end and does not read their exit codes.

This file says what a container that ends leaves on the disk, and what the calls of an
upload keep.  `OneInfra.Infra.TruthfulFiles` puts them together.
-/

namespace OneInfra.Infra.Host

open OneInfra.Lib OneInfra.Infra.Runtime

variable {tools : Tools} {host host' : Host} {α : Type}

/-! ## The end of a container -/

theorem lookup_written {exitCode : String → Int} {config : ContainerConfig}
    {disk : GoMap String String} (path : String) :
    (written tools exitCode config disk).lookup path = disk.lookup path ∨
      ∃ contents, writes tools config = some (path, contents) ∧
        (written tools exitCode config disk).lookup path = some contents := by
  unfold written
  cases hwrites : writes tools config with
  | none => exact .inl rfl
  | some file =>
    dsimp only
    split
    · rw [GoMap.lookup_insert_eq]
      split
      · next h =>
        rw [h]
        exact .inr ⟨file.2, rfl, rfl⟩
      · exact .inl rfl
    · exact .inl rfl

/-- A container that ends with the exit code zero has written its file. -/
theorem lookup_written_of_zero {exitCode : String → Int} {config : ContainerConfig}
    {disk : GoMap String String} {file : String × String}
    (hwrites : writes tools config = some file) (hzero : exitCode file.1 = 0) :
    (written tools exitCode config disk).lookup file.1 = some file.2 := by
  unfold written
  rw [hwrites]
  dsimp only
  rw [if_pos hzero, Finmap.lookup_insert]

/-- What the end of a container changes. -/
theorem endContainer_cases (tools : Tools) (exitCode : String → Int) (host : Host)
    (cid : String) :
    endContainer tools exitCode host cid = host ∨
      ∃ c ∈ host.runtime.containers, c.id = cid ∧ c.running = true ∧
        endContainer tools exitCode host cid =
          { host.setRuntime _ (keeps_exitContainer host.runtime cid) with
            disk := written tools exitCode c.config host.disk } := by
  unfold endContainer
  cases hlk : lookupKey RuntimeContainer.id cid host.runtime.containers with
  | none => exact .inl rfl
  | some c =>
    obtain ⟨hmem, hid⟩ := lookupKey_some_mem hlk
    dsimp only
    split
    · next hrunning => exact .inr ⟨c, hmem, hid, hrunning, rfl⟩
    · exact .inl rfl

/-- A call of the runtime changes the runtime, whether or not it succeeds. -/
theorem finalState_onRuntime {x : CRI α} (hx : Guarantees Keeps x) (host : Host) :
    finalState ((onRuntime x hx).run host) =
      host.setRuntime (finalState (x.run host.runtime)) (hx host.runtime) := by
  show finalState (onRuntime x hx host) = _
  unfold onRuntime
  dsimp only
  split <;> rfl

/-! ## Properties that a call keeps -/

/-- A property that the host keeps by itself. -/
structure Lasting (tools : Tools) (P : Host → Prop) : Prop where
  answers : ∀ host answer answers, host.answers = answer :: answers → P host →
    P { host with answers := answers }
  ends : ∀ host containerID, P host → P (endContainer tools host.exitCode host containerID)

namespace Lasting

variable {P Q : Host → Prop}

theorem and (hP : Lasting tools P) (hQ : Lasting tools Q) :
    Lasting tools fun host => P host ∧ Q host where
  answers host answer answers heq h :=
    ⟨hP.answers host answer answers heq h.1, hQ.answers host answer answers heq h.2⟩
  ends host cid h := ⟨hP.ends host cid h.1, hQ.ends host cid h.2⟩

theorem settle (hP : Lasting tools P) (h : P host) (ended : List String) :
    P (settle tools host ended) := by
  unfold Host.settle
  induction ended generalizing host with
  | nil => exact h
  | cons cid ended ih => exact ih (hP.ends host cid h)

theorem preserves_call (hP : Lasting tools P) {effect : EStateM String Host α}
    (heffect : Preserves P effect) : Preserves P (call tools effect) := by
  intro host h
  show P (finalState (call tools effect host))
  unfold call
  cases hanswers : host.answers with
  | nil => exact h
  | cons answer answers =>
    have hsettled := hP.settle (hP.answers host answer answers hanswers h) answer.ended
    have hrun := heffect _ hsettled
    cases hout : answer.outcome with
    | fails message =>
      simp only [hout]
      exact hsettled
    | failsAfter message =>
      simp only [hout]
      exact hrun
    | succeeds =>
      simp only [hout]
      cases hres : effect.run (Host.settle tools { host with answers := answers }
          answer.ended) <;> rw [hres] at hrun <;> exact hrun

theorem preserves_reading (f : Host → Except String α) : Preserves P (reading f) := by
  intro host h
  show P (finalState (reading f host))
  unfold reading
  split <;> exact h

/-- A call that returns has carried out its effect. -/
theorem call_ok (hP : Lasting tools P) {effect : EStateM String Host α} {a : α} (h : P host)
    (hrun : (call tools effect).run host = .ok a host') :
    ∃ settled, P settled ∧ effect.run settled = .ok a host' := by
  change call tools effect host = _ at hrun
  unfold call at hrun
  cases hanswers : host.answers with
  | nil =>
    rw [hanswers] at hrun
    cases hrun
  | cons answer answers =>
    rw [hanswers] at hrun
    dsimp only at hrun
    refine ⟨_, hP.settle (hP.answers host answer answers hanswers h) answer.ended, ?_⟩
    cases hout : answer.outcome with
    | fails message =>
      rw [hout] at hrun
      cases hrun
    | failsAfter message =>
      rw [hout] at hrun
      cases hrun
    | succeeds =>
      rw [hout] at hrun
      dsimp only at hrun
      split at hrun
      · next hres =>
        cases hrun
        exact hres
      · cases hrun

/-- If every answer is that calls succeed, an error is one of the effect. -/
theorem call_error (hP : Lasting tools P) {effect : EStateM String Host α} {message : String}
    (h : P host) (hsucc : ∀ answer ∈ host.answers, answer.outcome = .succeeds)
    (hrun : (call tools effect).run host = .error (.error message) host') :
    ∃ settled, P settled ∧ effect.run settled = .error message host' := by
  change call tools effect host = _ at hrun
  unfold call at hrun
  cases hanswers : host.answers with
  | nil =>
    rw [hanswers] at hrun
    cases hrun
  | cons answer answers =>
    rw [hanswers] at hrun
    dsimp only at hrun
    refine ⟨_, hP.settle (hP.answers host answer answers hanswers h) answer.ended, ?_⟩
    rw [hsucc answer (hanswers ▸ List.mem_cons_self)] at hrun
    dsimp only at hrun
    split at hrun
    · cases hrun
    · next hres =>
      cases hrun
      exact hres

end Lasting

/-- A property that no step of an upload changes, whichever way the calls end. -/
structure Stable (tools : Tools) (P : Host → Prop) : Prop extends Lasting tools P where
  images : ∀ host images, P host → P { host with images := images }
  setRuntime : ∀ host rt hkeeps, P host → P (host.setRuntime rt hkeeps)
  createContainer : ∀ podSandboxID config, Preserves P (createContainer tools podSandboxID config)
  startContainer : ∀ containerID, Preserves P (startContainer containerID)

namespace Stable

variable {P : Host → Prop} (hP : Stable tools P)
include hP

theorem preserves_reading (f : Host → Except String α) : Preserves P (call tools (reading f)) :=
  hP.toLasting.preserves_call (Lasting.preserves_reading f)

theorem preserves_onRuntime {x : CRI α} (hx : Guarantees Keeps x) :
    Preserves P (call tools (onRuntime x hx)) := by
  apply hP.toLasting.preserves_call
  intro host h
  rw [finalState_onRuntime]
  exact hP.setRuntime host _ (hx host.runtime) h

theorem preserves_ensureImage (image : String) : Preserves P (ensureImage tools image) := by
  refine .bind (hP.preserves_reading _) fun present => ?_
  cases present with
  | true => exact .of_pure ()
  | false => exact hP.toLasting.preserves_call fun host h => hP.images host _ h

variable (ns cluster comp : String)

theorem preserves_isPodRunning (pod : Pod) :
    Preserves P (isPodRunning tools ns cluster comp pod) := by
  refine .bind (hP.preserves_reading _) fun podSandboxList => ?_
  dsimp only
  split
  · exact .of_pure _
  · refine .bind (hP.preserves_reading _) fun containerList => ?_
    refine .bind (.foldlM (fun acc container => ?_) _) fun _ => .of_pure _
    refine .bind (.of_attempt (hP.preserves_reading _)) fun status => ?_
    split <;> exact .of_pure _

theorem preserves_deletePodWithID (id : String) :
    Preserves P (deletePodWithID tools id) :=
  .bind (hP.preserves_onRuntime _) fun _ => hP.preserves_onRuntime _

theorem preserves_deletePod (podName : String) :
    Preserves P (deletePod tools ns cluster comp podName) :=
  .bind (hP.preserves_reading _) fun _ => .forM fun id _ =>
    hP.preserves_deletePodWithID id

theorem preserves_createContainers (id : String)
    (podRunningContainers podNotRunningContainers : GoMap String RuntimeContainer) (pod : Pod)
    (containers : List Container) :
    Preserves P (createContainers tools id podRunningContainers podNotRunningContainers
      pod containers) := by
  induction containers with
  | nil => exact .of_pure _
  | cons container containers ih =>
    rw [createContainers]
    split
    · exact ih
    · refine .bind ?_ fun _ => .bind (hP.toLasting.preserves_call (hP.createContainer _ _))
        fun _ => .bind ih fun _ => .of_pure _
      unfold removeNotRunning
      split
      · exact .bind (.of_attempt (hP.preserves_onRuntime _)) fun _ => .of_pure _
      · exact .of_pure _

theorem preserves_ensureContainers (id : String)
    (podRunningContainers podNotRunningContainers : GoMap String RuntimeContainer) (pod : Pod) :
    Preserves P (ensureContainers tools id podRunningContainers podNotRunningContainers
      pod) :=
  .bind (hP.preserves_createContainers _ _ _ pod _) fun _ => .forM fun cid _ =>
    hP.toLasting.preserves_call (hP.startContainer cid)

theorem preserves_buildPod (id : String)
    (podRunningContainers podNotRunningContainers : GoMap String RuntimeContainer) (pod : Pod) :
    Preserves P (buildPod tools ns cluster comp id
      podRunningContainers podNotRunningContainers pod) := by
  have hrest : ∀ id, Preserves P (ensureContainers tools id
      podRunningContainers podNotRunningContainers pod >>= fun _ => pure id) :=
    fun id => .bind (hP.preserves_ensureContainers _ _ _ pod) fun _ => .of_pure _
  unfold buildPod
  dsimp only
  split
  · exact .bind (hP.preserves_onRuntime _) hrest
  · exact .bind (.of_pure _) hrest

theorem preserves_ensurePod (pod : Pod) :
    Preserves P (ensurePod tools ns cluster comp pod) := by
  refine .bind (hP.preserves_isPodRunning _ _ _ pod) fun status => ?_
  split
  · exact .of_pure _
  · exact .bind (.of_attempt (hP.preserves_deletePod _ _ _ _)) fun _ =>
      hP.preserves_buildPod _ _ _ _ _ _ pod

theorem preserves_waitRounds (id : String) (rounds : Nat) :
    Preserves P (waitRounds tools id rounds) := by
  induction rounds with
  | zero => exact .of_throw _
  | succ rounds ih =>
    refine .bind (hP.preserves_reading _) fun allContainersExited => ?_
    cases allContainersExited with
    | true => exact .of_pure ()
    | false => exact ih

/-- Writing files keeps the property. -/
theorem preserves_writeFiles (files : List (String × String)) :
    Preserves P (writeFiles tools ns cluster comp files) := by
  refine .bind (hP.preserves_ensureImage _) fun _ => ?_
  refine .bind (hP.preserves_ensurePod _ _ _ _) fun id => .bind ?_ fun _ =>
    hP.preserves_deletePodWithID id
  exact .bind .of_get fun host => hP.preserves_waitRounds id _

end Stable

/-- No step of an upload changes the hypervisor. -/
theorem stable_hypervisor (tools : Tools) (hypervisor : Hypervisor) :
    Stable tools fun host => host.hypervisor = hypervisor where
  answers _ _ _ _ h := h
  ends host cid h := by
    rcases endContainer_cases tools host.exitCode host cid with
      heq | ⟨c, hc, -, hrunning, heq⟩
    · rw [heq]
      exact h
    · rw [heq]
      exact h
  images _ _ h := h
  setRuntime _ _ _ h := h
  createContainer id config host h := by
    show (finalState (createContainer tools id config host)).hypervisor = hypervisor
    unfold Host.createContainer
    split_ifs <;> exact h
  startContainer cid host h := by
    show (finalState (startContainer cid host)).hypervisor = hypervisor
    unfold Host.startContainer
    split_ifs <;> exact h

/-- An upload writes the files that are not up to date when it starts. -/
theorem run_uploadFiles (tools : Tools) (ns cluster comp : String)
    (files : List (String × String)) (host : Host) :
    (uploadFiles tools ns cluster comp files).run host =
      (if filesToUpload tools ns cluster comp host.hypervisor files = []
        then pure ()
        else do
          writeFiles tools ns cluster comp
            (filesToUpload tools ns cluster comp host.hypervisor files)
          modify fun host => { host with
            hypervisor := host.hypervisor.recordFiles ns cluster comp
              (files.map fun file => (file.1, tools.sha1Sum file.2)) } :
        HostM Unit).run host := rfl

/-! ## What an upload can have done so far -/

/-- The containers in the sandboxes of uploads write files. -/
def Labelled (tools : Tools) (host : Host) : Prop :=
  ∀ s ∈ host.runtime.sandboxes,
    s.config.labels.lookup "oneinfra/pod-name" = some "upload-files" →
    ∀ c ∈ host.runtime.containers, c.podSandboxID = s.id → (writes tools c.config).isSome

theorem Labelled.of_keeps (h : Labelled tools host) (hkeeps : host.runtime.Keeps host'.runtime) :
    Labelled tools host' := by
  intro s' hs' hlab c' hc' hof
  obtain ⟨c, hc, -, hsb, hconf, -⟩ := hkeeps.containers c' hc'
  rw [← hconf]
  rcases hkeeps.sandboxes s' hs' with ⟨s, hs, hid, hconf'⟩ | hnew
  · exact h s hs (hconf' ▸ hlab) c hc (by rw [hsb, hof, hid])
  · refine absurd ?_ hnew
    rw [← hof, ← hsb]
    exact host.runtime.containers_owned c hc

/-- Of the containers that write files only those of `files` run, and only these files
have changed on the disk. -/
structure Uploading (tools : Tools) (start : Host) (files : List (String × String))
    (host : Host) : Prop where
  running : ∀ c ∈ host.runtime.containers, c.running = true →
    ∀ file, writes tools c.config = some file → file ∈ files
  disk : ∀ path, host.disk.lookup path = start.disk.lookup path ∨
    ∃ contents, (path, contents) ∈ files ∧ host.disk.lookup path = some contents
  labelled : Labelled tools host
  hypervisor : host.hypervisor = start.hypervisor
  exitCode : host.exitCode = start.exitCode
  answers : ∀ answer ∈ host.answers, answer ∈ start.answers

namespace Uploading

variable {start : Host} {files : List (String × String)}

theorem mono {files' : List (String × String)} (h : Uploading tools start files host)
    (hsub : ∀ file ∈ files, file ∈ files') : Uploading tools start files' host where
  running c hc hrunning file hwrites := hsub file (h.running c hc hrunning file hwrites)
  disk path := (h.disk path).imp_right fun ⟨contents, hmem, heq⟩ => ⟨contents, hsub _ hmem, heq⟩
  labelled := h.labelled
  hypervisor := h.hypervisor
  exitCode := h.exitCode
  answers := h.answers

/-- A change that starts no container and keeps the disk. -/
theorem setRuntime (h : Uploading tools start files host) {rt : Runtime}
    (hkeeps : host.runtime.Keeps rt) :
    Uploading tools start files (host.setRuntime rt hkeeps) where
  running c' hc' hrunning file hwrites := by
    obtain ⟨c, hc, -, -, hconf, hran⟩ := hkeeps.containers c' hc'
    exact h.running c hc (hran hrunning) file (hconf ▸ hwrites)
  disk := h.disk
  labelled := h.labelled.of_keeps hkeeps
  hypervisor := h.hypervisor
  exitCode := h.exitCode
  answers := h.answers

theorem lasting (tools : Tools) (start : Host) (files : List (String × String)) :
    Lasting tools (Uploading tools start files) where
  answers host answer answers heq h :=
    ⟨h.running, h.disk, h.labelled, h.hypervisor, h.exitCode,
      fun answer' hmem => h.answers answer' (heq ▸ List.mem_cons_of_mem _ hmem)⟩
  ends host cid h := by
    rcases endContainer_cases tools host.exitCode host cid with
      heq | ⟨c, hc, -, hrunning, heq⟩
    · rw [heq]
      exact h
    · have hset := h.setRuntime (keeps_exitContainer host.runtime cid)
      rw [heq]
      refine ⟨hset.running, fun path => ?_, hset.labelled, h.hypervisor, h.exitCode, h.answers⟩
      dsimp only
      rcases lookup_written path with hsame | ⟨contents, hwrites, hlk⟩
      · rw [hsame]
        exact h.disk path
      · exact .inr ⟨contents, h.running c hc hrunning _ hwrites, hlk⟩

end Uploading

/-- The files are on the disk. -/
def Done (files : List (String × String)) (host : Host) : Prop :=
  ∀ file ∈ files, host.disk.lookup file.1 = some file.2

/-- No path is in the list twice, so that a write to the path of a file is a write of that
file. -/
theorem eq_of_nodup_paths {files : List (String × String)} (hnd : (files.map Prod.fst).Nodup)
    {path contents : String} {file : String × String} (hfile : file ∈ files)
    (hmem : (path, contents) ∈ files) (hpath : file.1 = path) : file = (path, contents) :=
  List.inj_on_of_nodup_map hnd hfile hmem hpath

theorem lookup_written_of_mem {files : List (String × String)}
    (hnd : (files.map Prod.fst).Nodup) {start : Host}
    (h : Uploading tools start files host) {c : RuntimeContainer}
    (hc : c ∈ host.runtime.containers) (hrunning : c.running = true)
    {file : String × String} (hfile : file ∈ files)
    (hlk : host.disk.lookup file.1 = some file.2) :
    (written tools host.exitCode c.config host.disk).lookup file.1 = some file.2 := by
  rcases lookup_written file.1 with hsame | ⟨contents, hwrites, hwritten⟩
  · rw [hsame, hlk]
  · have hmem := h.running c hc hrunning _ hwrites
    have heq := eq_of_nodup_paths hnd hfile hmem rfl
    rw [hwritten, heq]

theorem Uploading.lasting_done (tools : Tools) (start : Host) {files : List (String × String)}
    (hnd : (files.map Prod.fst).Nodup) :
    Lasting tools fun host => Uploading tools start files host ∧ Done files host where
  answers host answer answers heq h :=
    ⟨(Uploading.lasting tools start files).answers host answer answers heq h.1, h.2⟩
  ends host cid h := by
    refine ⟨(Uploading.lasting tools start files).ends host cid h.1, ?_⟩
    rcases endContainer_cases tools host.exitCode host cid with
      heq | ⟨c, hc, -, hrunning, heq⟩
    · rw [heq]
      exact h.2
    · rw [heq]
      exact fun file hfile => lookup_written_of_mem hnd h.1 hc hrunning hfile (h.2 file hfile)

end OneInfra.Infra.Host
