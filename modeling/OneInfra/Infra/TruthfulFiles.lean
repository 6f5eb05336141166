import OneInfra.Infra.UploadPods
import OneInfra.Lib.Triple

/-!
# When the file map tells the truth

The file map of a hypervisor tells the truth if each sum that it records is the sum of the file
on the disk.  `UploadFiles` records a file once the containers of its pod have ended, whether
they wrote their files or not.

There are four groups.

* The calls.  A call fails if its answer says so, or if the runtime has no such sandbox or
  container.  `triple_keeping` is the rule for calls before any container is started, and
  `triple_working` is the one for calls after that.
* The phases of an upload.  `Before` holds until the first container is created, `Creating`
  until the first one is started, and `Working` from then on.  A `Job` is a container with the
  file that it writes.
* `triple_writeFiles` puts the phases together.  If the exit codes are zero and no earlier
  container writes, an upload that returns has its files on the disk.
* Runs.  `Honest` is the invariant, and `truthful_of_reaches` says that it lasts in runs whose
  uploads are `Safe`.
-/

namespace OneInfra.Infra.Host

open OneInfra.Lib OneInfra.Infra.Runtime

variable {tools : Tools} {start host host' : Host} {files : List (String × String)} {α : Type}

/-! ## Calls -/

/-- Every call to the runtime succeeds. -/
def AllSucceed (start : Host) : Prop :=
  ∀ answer ∈ start.answers, answer.outcome = .succeeds

/-- What an upload that returns an error has done.  If no call fails, it is nothing. -/
structure Failed (tools : Tools) (start : Host) (files : List (String × String)) (host : Host) :
    Prop where
  uploading : Uploading tools start files host
  nothing : AllSucceed start → Uploading tools start [] host

theorem Failed.of_idle (h : Uploading tools start [] host) : Failed tools start files host :=
  ⟨h.mono fun _ hfile => absurd hfile List.not_mem_nil, fun _ => h⟩

/-- A call whose effect keeps a lasting property, also if it fails. -/
theorem triple_keeping {P E : Host → Prop} {Q : α → Host → Prop}
    {effect : EStateM String Host α} (hP : Lasting tools P) (hkeeps : Preserves P effect)
    (hok : ∀ host a host', P host → effect.run host = .ok a host' → Q a host')
    (herr : ∀ host, P host → E host) : Triple P (call tools effect) Q E := by
  intro host h
  constructor
  · intro a host' hrun
    obtain ⟨settled, hsettled, heffect⟩ := hP.call_ok h hrun
    exact hok settled a host' hsettled heffect
  · intro message host' hrun
    have hfinal := hP.preserves_call hkeeps host h
    rw [hrun] at hfinal
    exact herr host' hfinal

/-- A call that reads. -/
theorem triple_reading {P E : Host → Prop} {Q : α → Host → Prop} {f : Host → Except String α}
    (hP : Lasting tools P) (hok : ∀ host a, P host → f host = .ok a → Q a host)
    (herr : ∀ host, P host → E host) : Triple P (call tools (reading f)) Q E := by
  refine triple_keeping hP (Lasting.preserves_reading f) ?_ herr
  intro host a host' h hrun
  change reading f host = _ at hrun
  unfold reading at hrun
  split at hrun
  next value hvalue =>
    cases hrun
    exact hok _ a h hvalue
  next => cases hrun

/-- A call whose effect succeeds.  It returns an error only if an answer says so. -/
theorem triple_working {P : Host → Prop} {Q : α → Host → Prop} {effect : EStateM String Host α}
    (hP : Lasting tools P) (huploading : ∀ host, P host → Uploading tools start files host)
    (heffect : ∀ host, P host → ∃ a host', effect.run host = .ok a host' ∧ Q a host')
    (hafter : ∀ a host, Q a host → Uploading tools start files host) :
    Triple P (call tools effect) Q (Failed tools start files) := by
  intro host h
  constructor
  · intro a host' hrun
    obtain ⟨settled, hsettled, hres⟩ := hP.call_ok h hrun
    obtain ⟨a', host₁, hrun', hQ⟩ := heffect settled hsettled
    cases hres.symm.trans hrun'
    exact hQ
  · intro message host' hrun
    constructor
    · -- the host has settled, and the effect may have been carried out
      change call tools effect host = _ at hrun
      unfold call at hrun
      cases hanswers : host.answers with
      | nil =>
        rw [hanswers] at hrun
        cases hrun
      | cons answer answers =>
        rw [hanswers] at hrun
        dsimp only at hrun
        have hsettled := hP.settle (hP.answers host answer answers hanswers h) answer.ended
        obtain ⟨a, host₁, hres, hQ⟩ := heffect _ hsettled
        cases hout : answer.outcome with
        | fails message' =>
          rw [hout] at hrun
          cases hrun
          exact huploading _ hsettled
        | failsAfter message' =>
          rw [hout, hres] at hrun
          cases hrun
          exact hafter a _ hQ
        | succeeds =>
          rw [hout, hres] at hrun
          cases hrun
    · intro hall
      have hsucc : ∀ answer ∈ host.answers, answer.outcome = .succeeds :=
        fun answer hmem => hall answer ((huploading host h).answers answer hmem)
      obtain ⟨settled, hsettled, hres⟩ := hP.call_error h hsucc hrun
      obtain ⟨a, host₁, hres', -⟩ := heffect settled hsettled
      rw [hres] at hres'
      cases hres'

/-! ## Before the first container is created -/

/-- Nothing was started, and no container was created. -/
structure Before (tools : Tools) (start host : Host) : Prop where
  idle : Uploading tools start [] host
  issued : host.issued = start.issued

theorem issued_endContainer (exitCode : String → Int) (host : Host) (cid : String) :
    (endContainer tools exitCode host cid).issued = host.issued ∧
      (endContainer tools exitCode host cid).started = host.started ∧
      (endContainer tools exitCode host cid).runtime.sandboxes = host.runtime.sandboxes := by
  rcases endContainer_cases tools exitCode host cid with heq | ⟨c, -, -, -, heq⟩
  · rw [heq]
    exact ⟨rfl, rfl, rfl⟩
  · rw [heq]
    exact ⟨rfl, rfl, rfl⟩

theorem Before.lasting (tools : Tools) (start : Host) : Lasting tools (Before tools start) where
  answers host answer answers heq h :=
    ⟨(Uploading.lasting tools start []).answers host answer answers heq h.idle, h.issued⟩
  ends host cid h :=
    ⟨(Uploading.lasting tools start []).ends host cid h.idle,
      (issued_endContainer host.exitCode host cid).1.trans h.issued⟩

theorem Before.setRuntime (h : Before tools start host) {rt : Runtime}
    (hkeeps : host.runtime.Keeps rt) : Before tools start (host.setRuntime rt hkeeps) :=
  ⟨h.idle.setRuntime hkeeps, h.issued⟩

/-- A call of the runtime that creates and starts no container. -/
theorem Before.preserves_onRuntime {x : CRI α} (hx : Guarantees Keeps x) :
    Preserves (Before tools start) (onRuntime x hx) := by
  intro host h
  rw [finalState_onRuntime]
  exact h.setRuntime (hx host.runtime)

theorem Before.preserves_call_onRuntime {x : CRI α} (hx : Guarantees Keeps x) :
    Preserves (Before tools start) (call tools (onRuntime x hx)) :=
  (Before.lasting tools start).preserves_call (Before.preserves_onRuntime hx)

theorem Before.preserves_ensureImage (image : String) :
    Preserves (Before tools start) (ensureImage tools image) := by
  have hlasting := Before.lasting tools start
  refine .bind (hlasting.preserves_call (Lasting.preserves_reading _)) fun present => ?_
  cases present with
  | true => exact .of_pure ()
  | false =>
    apply hlasting.preserves_call
    intro host h
    exact ⟨⟨h.idle.running, h.idle.disk, h.idle.labelled, h.idle.hypervisor, h.idle.exitCode,
      h.idle.answers⟩, h.issued⟩

/-- What holds whichever way a program ends. -/
theorem triple_of_preserves {P : Host → Prop} {x : HostM α} (h : Preserves P x) :
    Triple P x (fun _ => P) P := by
  intro host hhost
  have hfinal := h host hhost
  constructor
  · intro a host' hrun
    rw [hrun] at hfinal
    exact hfinal
  · intro message host' hrun
    rw [hrun] at hfinal
    exact hfinal

/-! ### The status of the pod -/

/-- The containers of a list do not run. -/
def Still (containers : List RuntimeContainer) (host : Host) : Prop :=
  ∀ c ∈ containers, ∀ c' ∈ host.runtime.containers, c'.id = c.id → c'.running = false

theorem still_of_keeps {containers : List RuntimeContainer} (h : Still containers host)
    (hkeeps : host.runtime.Keeps host'.runtime) : Still containers host' := by
  intro c hc c' hc' hid
  obtain ⟨c₁, hc₁, hid₁, -, -, hran⟩ := hkeeps.containers c' hc'
  have hstill := h c hc c₁ hc₁ (hid₁.trans hid)
  by_contra hrunning
  rw [hran (by simpa using hrunning)] at hstill
  cases hstill

theorem Still.lasting (tools : Tools) (containers : List RuntimeContainer) :
    Lasting tools (Still containers) where
  answers _ _ _ _ h := h
  ends host cid h := by
    rcases endContainer_cases tools host.exitCode host cid with heq | ⟨c, -, -, -, heq⟩
    · rw [heq]
      exact h
    · rw [heq]
      exact still_of_keeps h (keeps_exitContainer host.runtime cid)

/-- A sandbox stays. -/
theorem lasting_sandbox (tools : Tools) (s : PodSandbox) :
    Lasting tools fun host => s ∈ host.runtime.sandboxes where
  answers _ _ _ _ h := h
  ends host cid h := by
    rw [(issued_endContainer host.exitCode host cid).2.2]
    exact h

/-- The status of a pod of an upload that no container of an earlier upload is running for. -/
structure IdleStatus (start : Host) (pod : Pod) (status : Hypervisor.PodStatus) : Prop where
  running : status.runningContainers = ∅
  all : status.allContainersRunning = true → pod.containers = []
  notRunning : ∀ name c, status.notRunningContainers.lookup name = some c → c.id ∈ start.issued

/-- What the loop of `IsPodRunning` carries along. -/
structure Classified (tools : Tools) (start : Host) (containers : List RuntimeContainer)
    (acc : GoMap String RuntimeContainer × GoMap String RuntimeContainer) (host : Host) :
    Prop where
  before : Before tools start host
  still : Still containers host
  running : acc.1 = ∅
  notRunning : ∀ name c, acc.2.lookup name = some c → c.id ∈ start.issued

theorem triple_classify {containers : List RuntimeContainer} {container : RuntimeContainer}
    (hmem : container ∈ containers) (hissued : container.id ∈ start.issued)
    (acc : GoMap String RuntimeContainer × GoMap String RuntimeContainer) :
    Triple (Classified tools start containers acc) (classify tools acc container)
      (Classified tools start containers) (Before tools start) := by
  have hlasting : Lasting tools (Classified tools start containers acc) :=
    ⟨fun host answer answers heq h => ⟨(Before.lasting tools start).answers host answer answers heq
        h.before, h.still, h.running, h.notRunning⟩,
      fun host cid h => ⟨(Before.lasting tools start).ends host cid h.before,
        (Still.lasting tools containers).ends host cid h.still, h.running, h.notRunning⟩⟩
  -- the status of the container is never that it runs
  have hstat : Triple (Classified tools start containers acc)
      (call tools (reading fun host => host.runtime.containerStatus container.id))
      (fun running host => Classified tools start containers acc host ∧ running = false)
      (Classified tools start containers acc) := by
    refine triple_reading hlasting ?_ fun host h => h
    intro host running h hread
    refine ⟨h, ?_⟩
    unfold Runtime.containerStatus at hread
    split at hread
    next c hlk =>
      obtain ⟨hc, hid⟩ := lookupKey_some_mem hlk
      cases hread
      exact h.still container hmem c hc hid
    next => cases hread
  refine .bind (.of_attempt hstat (R := fun result host =>
    Classified tools start containers acc host ∧ result ≠ .ok true) ?_ ?_) ?_
  · intro running host h
    refine ⟨h.1, ?_⟩
    rw [h.2]
    simp
  · intro message host h
    exact ⟨h, by simp⟩
  · intro result
    split
    next => exact .of_pure fun host h => h.1
    next => exact .of_pure fun host h => absurd rfl h.2
    next =>
      apply Triple.of_pure
      intro host h
      refine ⟨h.1.before, h.1.still, h.1.running, ?_⟩
      intro name c hlk
      rw [GoMap.lookup_insert_eq] at hlk
      split at hlk
      · cases hlk
        exact hissued
      · exact h.1.notRunning name c hlk

section Pods

variable (ns cl comp : String)

/-- The rest of `IsPodRunning` for a sandbox of an upload.  Its containers write files, and none
of them runs. -/
theorem triple_containersOf (files : List (String × String)) (s : PodSandbox) :
    Triple (fun host => Before tools start host ∧ s ∈ host.runtime.sandboxes ∧
        s.config.labels.lookup "oneinfra/pod-name" = some "upload-files")
      (do
        let containerList ← call tools (reading fun host => .ok (host.runtime.containersOf s.id))
        let podContainers ← containerList.foldlM (classify tools) (∅, ∅)
        pure (⟨true, s.id, podContainers.1.keys.card = (uploadPod tools files).containers.length,
          podContainers.1, podContainers.2⟩ : Hypervisor.PodStatus))
      (fun status host => Before tools start host ∧
        IdleStatus start (uploadPod tools files) status)
      (Before tools start) := by
  have hlasting : Lasting tools fun host => Before tools start host ∧
      s ∈ host.runtime.sandboxes ∧
        s.config.labels.lookup "oneinfra/pod-name" = some "upload-files" :=
    (Before.lasting tools start).and ((lasting_sandbox tools s).and ⟨fun _ _ _ _ h => h,
      fun _ _ h => h⟩)
  refine .bind (triple_reading hlasting (Q := fun containerList host =>
    Classified tools start containerList (∅, ∅) host ∧
      ∀ c ∈ containerList, c.id ∈ start.issued) ?_ fun host h => h.1) ?_
  · intro host containerList h hread
    obtain ⟨hbef, hs, hlab⟩ := h
    cases hread
    refine ⟨⟨hbef, ?_, rfl, ?_⟩, ?_⟩
    · intro c hc c' hc' hid
      obtain ⟨hc, hof⟩ := List.mem_filter.mp hc
      have heq : c' = c := List.inj_on_of_nodup_map host.runtime.containerIDs_nodup hc' hc hid
      obtain ⟨file, hfile⟩ := Option.isSome_iff_exists.mp
        (hbef.idle.labelled s hs hlab c hc (of_decide_eq_true hof))
      rw [heq]
      by_contra hrunning
      exact List.not_mem_nil
        (hbef.idle.running c hc (by simpa using hrunning) file hfile)
    · intro name c hlk
      cases hlk
    · intro c hc
      rw [← hbef.issued]
      exact host.containers_issued c (List.mem_of_mem_filter hc)
  · intro containerList
    by_cases hissued : ∀ c ∈ containerList, c.id ∈ start.issued
    · refine .mono (.bind (.foldlM (fun acc c hc => triple_classify hc (hissued c hc) acc) (∅, ∅))
        fun podContainers => .of_pure ?_) (fun host h => h.1) (fun _ _ h => h) (fun _ h => h)
      intro host h
      refine ⟨h.before, h.running, ?_, h.notRunning⟩
      intro hall
      have hcard := of_decide_eq_true hall
      rw [h.running] at hcard
      exact List.length_eq_zero_iff.mp hcard.symm
    · intro host h
      exact absurd h.2 hissued

theorem triple_isPodRunning (files : List (String × String)) :
    Triple (Before tools start)
      (isPodRunning tools ns cl comp (uploadPod tools files))
      (fun status host => Before tools start host ∧
        IdleStatus start (uploadPod tools files) status)
      (Before tools start) := by
  unfold isPodRunning
  -- the sandboxes that are listed carry the name of the pod
  refine .bind (triple_reading (Before.lasting tools start)
    (Q := fun podSandboxList host => Before tools start host ∧ ∀ s ∈ podSandboxList,
      s ∈ host.runtime.sandboxes ∧
        s.config.labels.lookup "oneinfra/pod-name" = some "upload-files") ?_ fun host h => h) ?_
  · intro host podSandboxList h hread
    cases hread
    refine ⟨h, fun s hs => ?_⟩
    obtain ⟨hmem, hselects⟩ := List.mem_filter.mp hs
    refine ⟨hmem, ?_⟩
    have hlab := List.all_eq_true.mp hselects ("oneinfra/pod-name", "upload-files")
      (by simp [Hypervisor.podSelector, Hypervisor.podNameSelector, uploadPod])
    exact of_decide_eq_true hlab
  intro podSandboxList
  dsimp only
  split
  next =>
    apply Triple.of_pure
    intro host h
    refine ⟨h.1, rfl, ?_, ?_⟩
    · intro hall
      cases hall
    · intro name c hlk
      cases hlk
  next hsome =>
    cases hfind : podSandboxList.find? PodSandbox.ready with
    | none =>
      rw [hfind] at hsome
      exact absurd rfl hsome
    | some s =>
      have hs := List.mem_of_find?_eq_some hfind
      have hstart : ∀ host : Host, (Before tools start host ∧ ∀ s ∈ podSandboxList,
          s ∈ host.runtime.sandboxes ∧
            s.config.labels.lookup "oneinfra/pod-name" = some "upload-files") →
          Before tools start host ∧ s ∈ host.runtime.sandboxes ∧
            s.config.labels.lookup "oneinfra/pod-name" = some "upload-files" :=
        fun host h => ⟨h.1, h.2 s hs⟩
      refine Triple.mono ?_ hstart (fun _ _ h => h) (fun _ h => h)
      exact triple_containersOf files s
theorem Before.preserves_deletePod (podName : String) :
    Preserves (Before tools start)
      (deletePod tools ns cl comp podName) := by
  refine .bind ((Before.lasting tools start).preserves_call (Lasting.preserves_reading _))
    fun podList => .forM fun sid _ => ?_
  exact .bind (Before.preserves_call_onRuntime _) fun _ => Before.preserves_call_onRuntime _

end Pods

/-! ## Containers with the files that they write -/

/-- The container `job.1` of the sandbox writes the file `job.2`.  Once it was started, it runs
or has written the file. -/
def Job (tools : Tools) (sid : String) (job : String × String × String) (host : Host) :
    Prop :=
  ∃ c ∈ host.runtime.containers, c.id = job.1 ∧ c.podSandboxID = sid ∧
    writes tools c.config = some job.2 ∧
      (job.1 ∈ host.started → c.running = true ∨ host.disk.lookup job.2.1 = some job.2.2)

section Jobs

variable {sid : String} {job : String × String × String}

/-- The containers of uploads with exit codes zero write their files. -/
structure Zero (start : Host) (files : List (String × String)) : Prop where
  nodup : (files.map Prod.fst).Nodup
  exitCode : ∀ file ∈ files, start.exitCode file.1 = 0

theorem Job.ends (hzero : Zero start files) (huploading : Uploading tools start files host)
    (hfile : job.2 ∈ files) (h : Job tools sid job host) (cid : String) :
    Job tools sid job (endContainer tools host.exitCode host cid) := by
  rcases endContainer_cases tools host.exitCode host cid with
    heq | ⟨c₀, hc₀, hid₀, hrunning₀, heq⟩
  · rw [heq]
    exact h
  · obtain ⟨c, hc, hid, hof, hwrites, hstarted⟩ := h
    rw [heq]
    by_cases hsame : c.id = cid
    · -- the container of the job ends, and so it has written its file
      have hceq : c = c₀ := List.inj_on_of_nodup_map host.runtime.containerIDs_nodup hc hc₀
        (hsame.trans hid₀.symm)
      refine ⟨{ c with running := false }, mem_modifyKey.mpr (.inr ⟨c, hc, hsame, rfl⟩), hid, hof,
        hwrites, fun _ => .inr ?_⟩
      rw [← hceq]
      apply lookup_written_of_zero hwrites
      rw [huploading.exitCode]
      exact hzero.exitCode _ hfile
    · refine ⟨c, mem_modifyKey.mpr (.inl ⟨hc, hsame⟩), hid, hof, hwrites, fun hmem => ?_⟩
      rcases hstarted hmem with hrunning | hwritten
      · exact .inl hrunning
      · exact .inr (lookup_written_of_mem hzero.nodup huploading hc₀ hrunning₀ hfile hwritten)

/-! ### While containers are created -/

/-- Containers were created for the jobs, and none was started. -/
structure Creating (tools : Tools) (start : Host) (files : List (String × String))
    (sid : String) (jobs : List (String × String × String)) (host : Host) : Prop where
  idle : Uploading tools start [] host
  issued : ∀ id ∈ start.issued, id ∈ host.issued
  made : ∀ job ∈ jobs, Job tools sid job host
  asked : ∀ job ∈ jobs, job.2 ∈ files
  fresh : ∀ job ∈ jobs, job.1 ∉ start.issued ∧ job.1 ∉ host.started

theorem Uploading.of_idle (h : Uploading tools start [] host) : Uploading tools start files host :=
  h.mono fun _ hfile => absurd hfile List.not_mem_nil

variable {jobs : List (String × String × String)}

theorem Creating.lasting (hzero : Zero start files) :
    Lasting tools (Creating tools start files sid jobs) where
  answers host answer answers heq h :=
    ⟨(Uploading.lasting tools start []).answers host answer answers heq h.idle, h.issued, h.made,
      h.asked, h.fresh⟩
  ends host cid h := by
    obtain ⟨hissued, hstarted, -⟩ := @issued_endContainer tools host.exitCode host cid
    refine ⟨(Uploading.lasting tools start []).ends host cid h.idle, ?_, ?_, h.asked, ?_⟩
    · rw [hissued]
      exact h.issued
    · intro job hjob
      exact (h.made job hjob).ends hzero h.idle.of_idle (h.asked job hjob) cid
    · rw [hstarted]
      exact h.fresh

/-- The removal of a container that was there before. -/
theorem Creating.preserves_removeNotRunning (hzero : Zero start files)
    {podNotRunningContainers : GoMap String RuntimeContainer}
    (hold : ∀ name c, podNotRunningContainers.lookup name = some c → c.id ∈ start.issued)
    (containerName : String) :
    Preserves (Creating tools start files sid jobs)
      (removeNotRunning tools podNotRunningContainers containerName) := by
  unfold removeNotRunning
  split
  next c hlk =>
    refine .bind (.of_attempt ((Creating.lasting hzero).preserves_call ?_)) fun _ => .of_pure _
    intro host h
    have hset := h.idle.setRuntime (keeps_removeContainer c.id host.runtime)
    have hcreating : Creating tools start files sid jobs
        (host.setRuntime _ (keeps_removeContainer c.id host.runtime)) := by
      refine ⟨hset, h.issued, fun job hjob => ?_, h.asked, h.fresh⟩
      obtain ⟨c', hc', hid, hrest⟩ := h.made job hjob
      refine ⟨c', ?_, hid, hrest⟩
      have hne : c'.id ≠ c.id := by
        intro heq
        apply (h.fresh job hjob).1
        rw [← hid, heq]
        exact hold _ c hlk
      show c' ∈ (finalState (removeContainer c.id host.runtime)).containers
      unfold removeContainer
      split
      · exact List.mem_filter.mpr ⟨hc', decide_eq_true hne⟩
      · exact hc'
    show Creating tools start files sid jobs (finalState (onRuntime _ _ host))
    unfold onRuntime
    dsimp only
    split <;> exact hcreating
  next => exact .of_pure _

/-- What a container that was created adds to the runtime. -/
theorem createContainer_ok {config : ContainerConfig} {cid : String}
    (hrun : (createContainer tools sid config).run host = .ok cid host') :
    host'.runtime.containers = host.runtime.containers ++ [⟨cid, sid, config, false⟩] ∧
      host'.runtime.sandboxes = host.runtime.sandboxes ∧
      host'.issued = cid :: host.issued ∧ cid ∉ host.issued ∧
      host'.started = host.started ∧ host'.disk = host.disk ∧
      host'.hypervisor = host.hypervisor ∧ host'.exitCode = host.exitCode ∧
      host'.answers = host.answers := by
  change createContainer tools sid config host = _ at hrun
  unfold Host.createContainer at hrun
  split_ifs at hrun with hsb hname
  cases hrun
  refine ⟨?_, ?_, rfl, ?_, rfl, rfl, rfl, rfl, rfl⟩
  · dsimp only
    unfold Runtime.createContainer
    rw [dif_pos hsb]
    rfl
  · dsimp only
    unfold Runtime.createContainer
    rw [dif_pos hsb]
    rfl
  · intro hmem
    exact tools.ids.fresh _ (List.mem_append_right _ hmem)

theorem createContainer_error {config : ContainerConfig} {message : String}
    (hrun : (createContainer tools sid config).run host = .error message host') :
    host' = host := by
  change createContainer tools sid config host = _ at hrun
  unfold Host.createContainer at hrun
  split_ifs at hrun <;> cases hrun <;> rfl

/-- A new container that writes a file and does not run. -/
theorem Uploading.createContainer {config : ContainerConfig} {cid : String}
    (h : Uploading tools start [] host) (hwrites : (writes tools config).isSome)
    (hrun : (Host.createContainer tools sid config).run host = .ok cid host') :
    Uploading tools start [] host' := by
  obtain ⟨hctrs, hsbs, -, -, -, hdisk, hhyp, hexitCode, hanswers⟩ :=
    createContainer_ok hrun
  refine ⟨?_, ?_, ?_, hhyp.trans h.hypervisor, hexitCode.trans h.exitCode, ?_⟩
  · rw [hctrs]
    intro c hc hrunning
    rcases List.mem_append.mp hc with hc | hc
    · exact h.running c hc hrunning
    · rw [List.mem_singleton.mp hc] at hrunning
      cases hrunning
  · rw [hdisk]
    exact h.disk
  · intro s hs hlab c hc hof
    rw [hsbs] at hs
    rw [hctrs] at hc
    rcases List.mem_append.mp hc with hc | hc
    · exact h.labelled s hs hlab c hc hof
    · rw [List.mem_singleton.mp hc]
      exact hwrites
  · rw [hanswers]
    exact h.answers

theorem Creating.createContainer {file : String × String} (hfile : file ∈ files)
    {config : ContainerConfig} {cid : String}
    (h : Creating tools start files sid jobs host)
    (hwrites : writes tools config = some file)
    (hrun : (Host.createContainer tools sid config).run host = .ok cid host') :
    Creating tools start files sid ((cid, file) :: jobs) host' := by
  obtain ⟨hctrs, -, hissued, hnew, hstarted, hdisk, -⟩ := createContainer_ok hrun
  have hfresh : cid ∉ host.started := mt (host.started_issued cid) hnew
  refine ⟨h.idle.createContainer (by rw [hwrites]; rfl) hrun, ?_, ?_, ?_, ?_⟩
  · intro id hid
    rw [hissued]
    exact List.mem_cons_of_mem _ (h.issued id hid)
  · intro job hjob
    unfold Job
    rw [hctrs, hstarted, hdisk]
    rcases List.mem_cons.mp hjob with rfl | hjob
    · exact ⟨_, List.mem_append_right _ List.mem_cons_self, rfl, rfl, hwrites,
        fun hmem => absurd hmem hfresh⟩
    · obtain ⟨c, hc, hrest⟩ := h.made job hjob
      exact ⟨c, List.mem_append_left _ hc, hrest⟩
  · intro job hjob
    rcases List.mem_cons.mp hjob with rfl | hjob
    · exact hfile
    · exact h.asked job hjob
  · rw [hstarted]
    intro job hjob
    rcases List.mem_cons.mp hjob with rfl | hjob
    · exact ⟨mt (h.issued cid) hnew, hfresh⟩
    · exact h.fresh job hjob

theorem Creating.of_cons (h : Creating tools start files sid (job :: jobs) host) :
    Creating tools start files sid jobs host :=
  ⟨h.idle, h.issued, fun job hjob => h.made job (List.mem_cons_of_mem _ hjob),
    fun job hjob => h.asked job (List.mem_cons_of_mem _ hjob),
    fun job hjob => h.fresh job (List.mem_cons_of_mem _ hjob)⟩

/-- The creation of the container for a file. -/
theorem triple_createContainer (hzero : Zero start files) {file : String × String}
    (hfile : file ∈ files) (toUpload : List (String × String)) :
    Triple (Creating tools start files sid jobs)
      (call tools (createContainer tools sid (Hypervisor.containerConfig
        (uploadPod tools toUpload) sid (uploadContainer tools file))))
      (fun cid => Creating tools start files sid ((cid, file) :: jobs))
      (Failed tools start files) := by
  have hwrites := writes_uploadContainer tools toUpload sid file
  refine triple_keeping (Creating.lasting hzero) ?_ ?_ fun host h => .of_idle h.idle
  · intro host h
    cases hrun : (createContainer tools sid (Hypervisor.containerConfig
        (uploadPod tools toUpload) sid (uploadContainer tools file))).run host with
    | ok cid host' => exact (h.createContainer hfile hwrites hrun).of_cons
    | error message host' =>
      rw [createContainer_error hrun]
      exact h
  · intro host cid host' h hrun
    exact h.createContainer hfile hwrites hrun

/-- The first loop of `ensureContainers`.  No container of the pod runs. -/
theorem triple_createContainers (hzero : Zero start files)
    {podNotRunningContainers : GoMap String RuntimeContainer}
    (hold : ∀ name c, podNotRunningContainers.lookup name = some c → c.id ∈ start.issued)
    (toUpload remaining : List (String × String)) (hremaining : ∀ file ∈ remaining, file ∈ files)
    (jobs : List (String × String × String)) :
    Triple (Creating tools start files sid jobs)
      (createContainers tools sid ∅ podNotRunningContainers (uploadPod tools toUpload)
        (remaining.map (uploadContainer tools)))
      (fun containerIDs host => ∃ jobs', Creating tools start files sid jobs' host ∧
        (∀ id ∈ containerIDs, ∃ file, (id, file) ∈ jobs') ∧
        (∀ file ∈ remaining, ∃ id, (id, file) ∈ jobs') ∧ ∀ job ∈ jobs, job ∈ jobs')
      (Failed tools start files) := by
  induction remaining generalizing jobs with
  | nil =>
    apply Triple.of_pure
    intro host h
    exact ⟨jobs, h, by simp, by simp, fun job hjob => hjob⟩
  | cons file remaining ih =>
    rw [List.map_cons, createContainers, if_neg (by simp)]
    refine .bind (.mono (triple_of_preserves (Creating.preserves_removeNotRunning hzero hold _))
      (fun _ h => h) (fun _ _ h => h) fun host h => .of_idle h.idle) fun _ => ?_
    refine .bind (triple_createContainer hzero (hremaining file List.mem_cons_self) toUpload)
      fun cid => ?_
    refine .bind (ih (fun file' hfile' => hremaining file' (List.mem_cons_of_mem _ hfile'))
      ((cid, file) :: jobs)) fun containerIDs => .of_pure ?_
    rintro host ⟨jobs', hcreating, hids, hfs, hsub⟩
    refine ⟨jobs', hcreating, ?_, ?_, fun job hjob => hsub job (List.mem_cons_of_mem _ hjob)⟩
    · intro id hid
      rcases List.mem_cons.mp hid with rfl | hid
      · exact ⟨file, hsub _ List.mem_cons_self⟩
      · exact hids id hid
    · intro file' hfile'
      rcases List.mem_cons.mp hfile' with rfl | hfile'
      · exact ⟨cid, hsub _ List.mem_cons_self⟩
      · exact hfs file' hfile'

/-! ### While containers run -/

/-- Containers were created for the jobs, and some may have been started. -/
structure Working (tools : Tools) (start : Host) (files : List (String × String))
    (sid : String) (jobs : List (String × String × String)) (host : Host) : Prop where
  uploading : Uploading tools start files host
  made : ∀ job ∈ jobs, Job tools sid job host
  asked : ∀ job ∈ jobs, job.2 ∈ files

theorem Creating.working (h : Creating tools start files sid jobs host) :
    Working tools start files sid jobs host :=
  ⟨h.idle.of_idle, h.made, h.asked⟩

theorem Working.lasting (hzero : Zero start files) :
    Lasting tools (Working tools start files sid jobs) where
  answers host answer answers heq h :=
    ⟨(Uploading.lasting tools start files).answers host answer answers heq h.uploading, h.made,
      h.asked⟩
  ends host cid h := by
    refine ⟨(Uploading.lasting tools start files).ends host cid h.uploading, ?_, h.asked⟩
    intro job hjob
    exact (h.made job hjob).ends hzero h.uploading (h.asked job hjob) cid

/-- The container of a job is there and can be started. -/
theorem Working.startContainer (h : Working tools start files sid jobs host)
    (hjob : job ∈ jobs) :
    ∃ host', (startContainer job.1).run host = .ok () host' ∧
      Working tools start files sid jobs host' := by
  obtain ⟨c, hc, hid, -, hwrites, -⟩ := h.made job hjob
  have hmem : job.1 ∈ host.runtime.containers.map RuntimeContainer.id :=
    List.mem_map.mpr ⟨c, hc, hid⟩
  have hrun : ∃ host' : Host, (Host.startContainer job.1).run host = .ok () host' ∧
      host'.runtime.containers = modifyKey RuntimeContainer.id job.1
        (fun c => { c with running := true }) host.runtime.containers ∧
      host'.runtime.sandboxes = host.runtime.sandboxes ∧ host'.started = job.1 :: host.started ∧
      host'.disk = host.disk ∧ host'.hypervisor = host.hypervisor ∧
      host'.exitCode = host.exitCode ∧ host'.answers = host.answers := by
    refine ⟨_, dif_pos hmem, ?_, ?_, rfl, rfl, rfl, rfl, rfl⟩
    · dsimp only
      unfold Runtime.startContainer
      rw [if_pos hmem]
      rfl
    · dsimp only
      unfold Runtime.startContainer
      rw [if_pos hmem]
      rfl
  obtain ⟨host', hrun, hctrs, hsbs, hstarted, hdisk, hhyp, hexitCode,
    hanswers⟩ := hrun
  refine ⟨host', hrun, ⟨?_, ?_, ?_, hhyp.trans h.uploading.hypervisor,
    hexitCode.trans h.uploading.exitCode, ?_⟩, ?_, h.asked⟩
  · rw [hctrs]
    intro c' hc' hrunning file hfile
    rcases mem_modifyKey.mp hc' with ⟨hc', -⟩ | ⟨c₁, hc₁, hid₁, rfl⟩
    · exact h.uploading.running c' hc' hrunning file hfile
    · have heq : c₁ = c := List.inj_on_of_nodup_map host.runtime.containerIDs_nodup hc₁ hc
        (hid₁.trans hid.symm)
      rw [heq] at hfile
      cases hwrites.symm.trans hfile
      exact h.asked job hjob
  · rw [hdisk]
    exact h.uploading.disk
  · intro s hs hlab c' hc' hof
    rw [hsbs] at hs
    rw [hctrs] at hc'
    rcases mem_modifyKey.mp hc' with ⟨hc', -⟩ | ⟨c₁, hc₁, -, rfl⟩
    · exact h.uploading.labelled s hs hlab c' hc' hof
    · exact h.uploading.labelled s hs hlab c₁ hc₁ hof
  · rw [hanswers]
    exact h.uploading.answers
  · intro job' hjob'
    obtain ⟨c', hc', hid', hof', hwrites', hwritten⟩ := h.made job' hjob'
    unfold Job
    rw [hctrs, hstarted, hdisk]
    by_cases hsame : c'.id = job.1
    · exact ⟨_, mem_modifyKey.mpr (.inr ⟨c', hc', hsame, rfl⟩), hid', hof', hwrites',
        fun _ => .inl rfl⟩
    · refine ⟨c', mem_modifyKey.mpr (.inl ⟨hc', hsame⟩), hid', hof', hwrites', fun hmem' => ?_⟩
      rcases List.mem_cons.mp hmem' with heq | hmem'
      · exact absurd (hid'.trans heq) hsame
      · exact hwritten hmem'

theorem triple_startContainer (hzero : Zero start files) (hjob : job ∈ jobs) :
    Triple (Working tools start files sid jobs) (call tools (startContainer job.1))
      (fun _ => Working tools start files sid jobs) (Failed tools start files) := by
  refine triple_working (Working.lasting hzero) (fun host h => h.uploading) ?_
    fun _ host h => h.uploading
  intro host h
  obtain ⟨host', hrun, hworking⟩ := h.startContainer hjob
  exact ⟨(), host', hrun, hworking⟩

/-- When all containers of the sandbox have ended, the files are on the disk. -/
theorem Working.done (h : Working tools start files sid jobs host)
    (hjobs : ∀ file ∈ files, ∃ id, (id, file) ∈ jobs)
    (hexited : (host.runtime.containersOf sid).all host.exited = true) :
    Done files host := by
  intro file hfile
  obtain ⟨id, hjob⟩ := hjobs file hfile
  obtain ⟨c, hc, hid, hof, -, hwritten⟩ := h.made (id, file) hjob
  have hc' : c ∈ host.runtime.containersOf sid :=
    List.mem_filter.mpr ⟨hc, decide_eq_true hof⟩
  have hended := List.all_eq_true.mp hexited c hc'
  unfold Host.exited at hended
  simp only [Bool.and_eq_true, decide_eq_true_iff, Bool.not_eq_true'] at hended
  rcases hwritten (hid ▸ hended.1) with hrunning | hlk
  · rw [hended.2] at hrunning
    cases hrunning
  · exact hlk

theorem triple_waitRounds (hzero : Zero start files)
    (hjobs : ∀ file ∈ files, ∃ id, (id, file) ∈ jobs) (rounds : Nat) :
    Triple (Working tools start files sid jobs) (waitRounds tools sid rounds)
      (fun _ host => Working tools start files sid jobs host ∧ Done files host)
      (Failed tools start files) := by
  induction rounds with
  | zero => exact .of_panic _
  | succ rounds ih =>
    rw [waitRounds]
    refine .bind (triple_working (Working.lasting hzero) (fun host h => h.uploading)
      (Q := fun allContainersExited host => Working tools start files sid jobs host ∧
        (allContainersExited = true → Done files host)) ?_ fun _ host h => h.1.uploading) ?_
    · intro host h
      exact ⟨_, host, rfl, h, fun hexited => h.done hjobs hexited⟩
    · intro allContainersExited
      cases allContainersExited with
      | true => exact .of_pure fun host h => ⟨h.1, h.2 rfl⟩
      | false => exact ih.mono (fun host h => h.1) (fun _ _ h => h) fun _ h => h

/-- The files are on the disk, and the sandbox is there. -/
structure Finished (tools : Tools) (start : Host) (files : List (String × String))
    (sid : String) (host : Host) : Prop where
  uploading : Uploading tools start files host
  done : Done files host
  sandbox : sid ∈ host.runtime.sandboxes.map PodSandbox.id

theorem Finished.lasting (hzero : Zero start files) :
    Lasting tools (Finished tools start files sid) where
  answers host answer answers heq h := by
    obtain ⟨huploading, hdone⟩ := (Uploading.lasting_done tools start hzero.nodup).answers host
      answer answers heq ⟨h.uploading, h.done⟩
    exact ⟨huploading, hdone, h.sandbox⟩
  ends host cid h := by
    obtain ⟨huploading, hdone⟩ := (Uploading.lasting_done tools start hzero.nodup).ends host
      cid ⟨h.uploading, h.done⟩
    refine ⟨huploading, hdone, ?_⟩
    rw [(issued_endContainer host.exitCode host cid).2.2]
    exact h.sandbox

theorem run_onRuntime {x : CRI α} (hx : Guarantees Keeps x) {a : α} {rt : Runtime}
    (hrun : x.run host.runtime = .ok a rt) :
    ∃ hkeeps : host.runtime.Keeps rt,
      (onRuntime x hx).run host = .ok a (host.setRuntime rt hkeeps) := by
  refine ⟨hx.of_run hrun, ?_⟩
  have hfinal : finalState (x.run host.runtime) = rt := by rw [hrun, finalState_ok]
  subst hfinal
  show onRuntime x hx host = _
  unfold onRuntime
  dsimp only
  split
  next a' rt' h =>
    rw [hrun] at h
    injection h with ha
    exact congrArg (EStateM.Result.ok · _) ha.symm
  next message rt' h =>
    rw [hrun] at h
    cases h

/-- The deletion of the pod of an upload. -/
theorem triple_deletePodWithID (hzero : Zero start files) :
    Triple (Finished tools start files sid) (deletePodWithID tools sid)
      (fun _ host => Uploading tools start files host ∧ Done files host)
      (Failed tools start files) := by
  have hlasting : Lasting tools (Finished tools start files sid) :=
    Finished.lasting hzero
  refine .bind (triple_working hlasting (fun host h => h.uploading)
    (Q := fun _ => Finished tools start files sid) ?_ fun _ host h => h.uploading)
    fun _ => triple_working hlasting (fun host h => h.uploading) ?_ fun _ host h => h.1
  · intro host h
    have hstop : ∃ rt : Runtime, (stopPodSandbox sid).run host.runtime = .ok () rt ∧
        rt.sandboxes.map PodSandbox.id = host.runtime.sandboxes.map PodSandbox.id :=
      ⟨_, if_pos h.sandbox, map_modifyKey fun _ => rfl⟩
    obtain ⟨rt, hrun, hids⟩ := hstop
    obtain ⟨hkeeps, hrun⟩ := run_onRuntime (keeps_stopPodSandbox sid) hrun
    exact ⟨(), _, hrun, h.uploading.setRuntime hkeeps, h.done, hids ▸ h.sandbox⟩
  · intro host h
    have hremove : ∃ rt, (removePodSandbox sid).run host.runtime = .ok () rt :=
      ⟨_, if_pos h.sandbox⟩
    obtain ⟨rt, hrun⟩ := hremove
    obtain ⟨hkeeps, hrun⟩ := run_onRuntime (keeps_removePodSandbox sid) hrun
    exact ⟨(), _, hrun, h.uploading.setRuntime hkeeps, h.done⟩

end Jobs

/-! ## The whole upload -/

section WriteFiles

variable (ns cl comp : String)

/-- `ensureContainers` for a pod of which no container runs. -/
theorem triple_ensureContainers (hzero : Zero start files) (sid : String)
    {podNotRunningContainers : GoMap String RuntimeContainer}
    (hold : ∀ name c, podNotRunningContainers.lookup name = some c → c.id ∈ start.issued) :
    Triple (Before tools start)
      (ensureContainers tools sid ∅ podNotRunningContainers (uploadPod tools files))
      (fun _ host => ∃ jobs, Working tools start files sid jobs host ∧
        ∀ file ∈ files, ∃ id, (id, file) ∈ jobs)
      (Failed tools start files) := by
  have hcreate := @triple_createContainers tools start files sid hzero
    podNotRunningContainers hold files files (fun _ hfile => hfile) []
  refine .bind (hcreate.mono ?_ (fun _ _ h => h) fun _ h => h) fun containerIDs => ?_
  · intro host h
    refine ⟨h.idle, fun id hid => h.issued ▸ hid, ?_, ?_, ?_⟩ <;> simp
  · intro host ⟨jobs, hcreating, hids, hfs, _⟩
    have hstart : Triple (Working tools start files sid jobs)
        (containerIDs.forM fun cid => call tools (startContainer cid))
        (fun _ => Working tools start files sid jobs) (Failed tools start files) := by
      apply Triple.forM
      intro id hid
      obtain ⟨file, hjob⟩ := hids id hid
      exact @triple_startContainer tools start files sid (id, file) jobs hzero hjob
    exact (hstart.mono (fun _ h => h) (fun _ _ h => ⟨jobs, h, hfs⟩) fun _ h => h) host
      hcreating.working

theorem triple_buildPod (hzero : Zero start files) {status : Hypervisor.PodStatus}
    (hstat : IdleStatus start (uploadPod tools files) status) :
    Triple (Before tools start)
      (buildPod tools ns cl comp status.podSandboxID
        status.runningContainers status.notRunningContainers (uploadPod tools files))
      (fun sid host => ∃ jobs, Working tools start files sid jobs host ∧
        ∀ file ∈ files, ∃ id, (id, file) ∈ jobs)
      (Failed tools start files) := by
  rw [hstat.running]
  have hrest : ∀ sid, Triple (Before tools start)
      (ensureContainers tools sid ∅ status.notRunningContainers (uploadPod tools files)
        >>= fun _ => pure sid)
      (fun sid host => ∃ jobs, Working tools start files sid jobs host ∧
        ∀ file ∈ files, ∃ id, (id, file) ∈ jobs)
      (Failed tools start files) :=
    fun sid => .bind (triple_ensureContainers hzero sid hstat.notRunning)
      fun _ => .of_pure fun _ h => h
  unfold buildPod
  dsimp only
  split
  · refine .bind ?_ hrest
    exact (triple_of_preserves (Before.preserves_call_onRuntime _)).mono (fun _ h => h)
      (fun _ _ h => h) fun _ h => .of_idle h.idle
  · exact .bind (.of_pure fun _ h => h) hrest

theorem triple_ensurePod (hzero : Zero start files) (hfs : files ≠ []) :
    Triple (Before tools start)
      (ensurePod tools ns cl comp (uploadPod tools files))
      (fun sid host => ∃ jobs, Working tools start files sid jobs host ∧
        ∀ file ∈ files, ∃ id, (id, file) ∈ jobs)
      (Failed tools start files) := by
  refine .bind ((triple_isPodRunning ns cl comp files).mono
    (fun _ h => h) (fun _ _ h => h) fun _ h => .of_idle h.idle) fun status => ?_
  intro host ⟨hbef, hstat⟩
  have hnotAll : ¬ (status.isPodRunning && status.allContainersRunning) = true := by
    intro hall
    have hnil := hstat.all (Bool.and_eq_true_iff.mp hall).2
    exact hfs (List.map_eq_nil_iff.mp hnil)
  rw [if_neg hnotAll]
  have hrest : Triple (Before tools start) (attempt (deletePod tools ns cl
      comp (uploadPod tools files).name) >>= fun _ =>
        buildPod tools ns cl comp status.podSandboxID
          status.runningContainers status.notRunningContainers (uploadPod tools files))
      (fun sid host => ∃ jobs, Working tools start files sid jobs host ∧
        ∀ file ∈ files, ∃ id, (id, file) ∈ jobs)
      (Failed tools start files) := by
    refine .bind (.of_attempt (triple_of_preserves (Before.preserves_deletePod ns
      cl comp _)) (R := fun _ => Before tools start) (fun _ _ h => h)
      fun _ _ h => h) fun _ => ?_
    exact triple_buildPod ns cl comp hzero hstat
  exact hrest host hbef

/-- An upload that returns has its files on the disk.  One that returns an error has not done
anything, unless a call has failed. -/
theorem triple_writeFiles (hzero : Zero start files) (hfs : files ≠ []) :
    Triple (Before tools start)
      (writeFiles tools ns cl comp files)
      (fun _ host => Uploading tools start files host ∧ Done files host)
      (Failed tools start files) := by
  refine .bind ((triple_of_preserves (Before.preserves_ensureImage _)).mono (fun _ h => h)
    (fun _ _ h => h) fun _ h => .of_idle h.idle) fun _ => ?_
  refine .bind (triple_ensurePod ns cl comp hzero hfs)
    fun sid => ?_
  intro host ⟨jobs, hworking, hjobs⟩
  have hrest : Triple (Working tools start files sid jobs)
      (waitForPod tools sid >>= fun _ => deletePodWithID tools sid)
      (fun _ host => Uploading tools start files host ∧ Done files host)
      (Failed tools start files) := by
    refine .bind (.bind (.of_get (Q := fun _ => Working tools start files sid jobs)
      fun _ h => h) fun host => triple_waitRounds hzero hjobs _) fun _ => ?_
    refine (triple_deletePodWithID hzero).mono ?_ (fun _ _ h => h) fun _ h => h
    intro host ⟨hworking, hdone⟩
    refine ⟨hworking.uploading, hdone, ?_⟩
    -- a container of the sandbox is there, and so is the sandbox
    obtain ⟨file, hfile⟩ := List.exists_mem_of_ne_nil files hfs
    obtain ⟨id, hjob⟩ := hjobs file hfile
    obtain ⟨c, hc, -, hof, -⟩ := hworking.made _ hjob
    exact hof ▸ host.runtime.containers_owned c hc
  exact hrest host hworking

end WriteFiles

/-! ## Runs -/

/-- The records of a path agree with the contents of a file at that path. -/
def Agrees (tools : Tools) (hypervisor : Hypervisor) (file : String × String) : Prop :=
  ∀ ns cluster component sum,
    hypervisor.recordedSum ns cluster component file.1 = some sum → sum = tools.sha1Sum file.2

/-- The file map tells the truth, and so does `FileUpToDate`. -/
structure Truthful (tools : Tools) (host : Host) : Prop where
  recorded : ∀ ns cluster component path sum,
    host.hypervisor.recordedSum ns cluster component path = some sum →
      ∃ contents, host.disk.lookup path = some contents ∧ tools.sha1Sum contents = sum
  skipped : ∀ ns cluster component path contents,
    host.hypervisor.fileUpToDate ns cluster component path (tools.sha1Sum contents) = true →
      ∃ present, host.disk.lookup path = some present ∧
        tools.sha1Sum present = tools.sha1Sum contents

/-- The file map tells the truth, and goes on to do so when the containers that run end. -/
structure Honest (tools : Tools) (host : Host) : Prop where
  recorded : ∀ ns cluster component path sum,
    host.hypervisor.recordedSum ns cluster component path = some sum →
      ∃ contents, host.disk.lookup path = some contents ∧ tools.sha1Sum contents = sum
  agrees : ∀ c ∈ host.runtime.containers, c.running = true →
    ∀ file, writes tools c.config = some file → Agrees tools host.hypervisor file
  labelled : Labelled tools host

theorem Honest.truthful (h : Honest tools host) : Truthful tools host where
  recorded := h.recorded
  skipped := by
    intro ns cluster component path contents huptodate
    exact h.recorded ns cluster component path _ (of_decide_eq_true huptodate)

/-- A call of `UploadFiles`, with what the runtime does meanwhile. -/
structure Upload where
  clusterNamespace : String
  clusterName : String
  componentName : String
  files : List (String × String)
  distinct : (files.map Prod.fst).Nodup
  answers : List Answer
  exitCode : String → Int

namespace Upload

/-- The host when the call begins. -/
def begins (upload : Upload) (host : Host) : Host :=
  { host with answers := upload.answers, exitCode := upload.exitCode }

/-- The end of the call. -/
def result (tools : Tools) (upload : Upload) (host : Host) : EStateM.Result Fault Host Unit :=
  (uploadFiles tools upload.clusterNamespace upload.clusterName upload.componentName
    upload.files).run (upload.begins host)

/-- The files that the call writes. -/
def written (tools : Tools) (upload : Upload) (host : Host) : List (String × String) :=
  filesToUpload tools upload.clusterNamespace upload.clusterName upload.componentName
    host.hypervisor upload.files

/-- No container writes a file when the call begins, and those of the call end with the exit
code zero.  No other component has recorded other contents for a file that is written.  If the
component itself has, no call to the runtime fails. -/
structure Safe (tools : Tools) (upload : Upload) (host : Host) : Prop where
  idle : ∀ c ∈ host.runtime.containers, c.running = true → writes tools c.config = none
  exitCode : ∀ file ∈ upload.written tools host, upload.exitCode file.1 = 0
  others : ∀ file ∈ upload.written tools host, ∀ ns cluster component sum,
    ¬ (ns = upload.clusterNamespace ∧ cluster = upload.clusterName ∧
      component = upload.componentName) →
    host.hypervisor.recordedSum ns cluster component file.1 = some sum →
      sum = tools.sha1Sum file.2
  own : (∀ answer ∈ upload.answers, answer.outcome = .succeeds) ∨
    ∀ file ∈ upload.written tools host, host.hypervisor.recordedSum upload.clusterNamespace
      upload.clusterName upload.componentName file.1 = none

end Upload

/-- What happens on a host: a container ends, or a call of `UploadFiles`. -/
inductive UploadEvent
  | ends (containerID : String) (exitCode : Int)
  | uploads (upload : Upload)

namespace UploadEvent

/-- The host after an event. -/
def after (tools : Tools) (host : Host) : UploadEvent → Host
  | .ends containerID exitCode => endContainer tools (fun _ => exitCode) host containerID
  | .uploads upload => finalState (upload.result tools host)

/-- A call of a run returns. -/
def Returns (tools : Tools) (host : Host) : UploadEvent → Prop
  | .ends _ _ => True
  | .uploads upload => ¬ Panics (upload.result tools host)

/-- The condition under which an event keeps the file map truthful. -/
def Safe (tools : Tools) (host : Host) : UploadEvent → Prop
  | .ends _ _ => True
  | .uploads upload => upload.Safe tools host

end UploadEvent

/-- A host that has changed by writes of files that agree with the records. -/
theorem Honest.of_uploading (h : Honest tools start) (huploading : Uploading tools start files host)
    (hagrees : ∀ file ∈ files, Agrees tools start.hypervisor file) : Honest tools host where
  recorded := by
    rw [huploading.hypervisor]
    intro ns cluster component path sum hsum
    rcases huploading.disk path with hsame | ⟨contents, hmem, hlk⟩
    · rw [hsame]
      exact h.recorded ns cluster component path sum hsum
    · exact ⟨contents, hlk, (hagrees _ hmem ns cluster component sum hsum).symm⟩
  agrees := by
    rw [huploading.hypervisor]
    intro c hc hrunning file hwrites
    exact hagrees file (huploading.running c hc hrunning file hwrites)
  labelled := huploading.labelled

/-- The files are recorded, and those that were written are on the disk. -/
theorem Honest.recordFiles {ns₀ cluster₀ component₀ : String} {all : List (String × String)}
    (h : Honest tools start) (hdist : (all.map Prod.fst).Nodup)
    (hfs : ∀ file, file ∈ files ↔ file ∈ all ∧
      start.hypervisor.recordedSum ns₀ cluster₀ component₀ file.1 ≠ some (tools.sha1Sum file.2))
    (hothers : ∀ file ∈ files, ∀ ns cluster component sum,
      ¬ (ns = ns₀ ∧ cluster = cluster₀ ∧ component = component₀) →
      start.hypervisor.recordedSum ns cluster component file.1 = some sum →
        sum = tools.sha1Sum file.2)
    (huploading : Uploading tools start files host) (hdone : Done files host) :
    Honest tools { host with
      hypervisor := host.hypervisor.recordFiles ns₀ cluster₀ component₀
        (all.map fun file => (file.1, tools.sha1Sum file.2)) } := by
  have hrecorded := Tracked.recorded_recordFiles tools.sha1Sum ns₀ cluster₀ component₀
    host.hypervisor hdist
  rw [huploading.hypervisor] at hrecorded ⊢
  -- a record of a path is that of the file at it, or an old one
  have hcases : ∀ ns cluster component path sum,
      (start.hypervisor.recordFiles ns₀ cluster₀ component₀
        (all.map fun file => (file.1, tools.sha1Sum file.2))).recordedSum ns cluster component
          path = some sum →
      (∃ file ∈ all, file.1 = path ∧ sum = tools.sha1Sum file.2 ∧
        ns = ns₀ ∧ cluster = cluster₀ ∧ component = component₀) ∨
      start.hypervisor.recordedSum ns cluster component path = some sum ∧
        (ns = ns₀ → cluster = cluster₀ → component = component₀ → path ∉ all.map Prod.fst) := by
    intro ns cluster component path sum hsum
    by_cases hown : ns = ns₀ ∧ cluster = cluster₀ ∧ component = component₀ ∧
        path ∈ all.map Prod.fst
    · obtain ⟨rfl, rfl, rfl, hpath⟩ := hown
      obtain ⟨file, hfile, rfl⟩ := List.mem_map.mp hpath
      rw [hrecorded.sets file hfile] at hsum
      exact .inl ⟨file, hfile, rfl, (Option.some.inj hsum).symm, rfl, rfl, rfl⟩
    · have hother : ns = ns₀ → cluster = cluster₀ → component = component₀ →
          path ∉ all.map Prod.fst :=
        fun hns hcl hcomp hpath => hown ⟨hns, hcl, hcomp, hpath⟩
      rw [hrecorded.keeps ns cluster component path hother] at hsum
      exact .inr ⟨hsum, hother⟩
  -- what is written to the path of a record has its sum
  have hagrees : ∀ file ∈ files, Agrees tools (start.hypervisor.recordFiles ns₀ cluster₀
      component₀ (all.map fun file => (file.1, tools.sha1Sum file.2))) file := by
    intro file hfile ns cluster component sum hsum
    have hall := ((hfs file).mp hfile).1
    rcases hcases ns cluster component file.1 sum hsum with
      ⟨file', hfile', hpath, hsum', -⟩ | ⟨hold, hother⟩
    · rw [hsum', List.inj_on_of_nodup_map hdist hfile' hall hpath]
    · refine hothers file hfile ns cluster component sum ?_ hold
      intro ⟨hns, hcl, hcomp⟩
      exact hother hns hcl hcomp (List.mem_map_of_mem hall)
  refine ⟨?_, ?_, huploading.labelled⟩
  · intro ns cluster component path sum hsum
    rcases huploading.disk path with hsame | ⟨contents, hmem, hlk⟩
    · show ∃ contents, host.disk.lookup path = some contents ∧ _
      rcases hcases ns cluster component path sum hsum with
        ⟨file, hfile, rfl, rfl, rfl, rfl, rfl⟩ | ⟨hold, -⟩
      · by_cases hwritten : file ∈ files
        · exact ⟨file.2, hdone file hwritten, rfl⟩
        · -- the file was up to date
          have huptodate : start.hypervisor.recordedSum ns cluster component file.1 =
              some (tools.sha1Sum file.2) := by
            by_contra hne
            exact hwritten ((hfs file).mpr ⟨hfile, hne⟩)
          rw [hsame]
          exact h.recorded _ _ _ _ _ huptodate
      · rw [hsame]
        exact h.recorded _ _ _ _ _ hold
    · exact ⟨contents, hlk, (hagrees _ hmem ns cluster component sum hsum).symm⟩
  · intro c hc hrunning file hwrites
    exact hagrees file (huploading.running c hc hrunning file hwrites)

/-- The end of a container keeps the file map truthful, whatever its exit code. -/
theorem Honest.ends (h : Honest tools host) (cid : String) (exitCode : Int) :
    Honest tools (endContainer tools (fun _ => exitCode) host cid) := by
  rcases endContainer_cases tools (fun _ => exitCode) host cid with
    heq | ⟨c, hc, -, hrunning, heq⟩
  · rw [heq]
    exact h
  · have hkeeps := keeps_exitContainer host.runtime cid
    rw [heq]
    refine ⟨?_, ?_, h.labelled.of_keeps hkeeps⟩
    · intro ns cluster component path sum hsum
      dsimp only
      rcases lookup_written path with hsame | ⟨contents, hwrites, hlk⟩
      · rw [hsame]
        exact h.recorded ns cluster component path sum hsum
      · exact ⟨contents, hlk, (h.agrees c hc hrunning _ hwrites ns cluster component sum
          hsum).symm⟩
    · intro c' hc' hrunning' file hwrites
      obtain ⟨c₁, hc₁, -, -, hconf, hran⟩ := hkeeps.containers c' hc'
      exact h.agrees c₁ hc₁ (hran hrunning') file (hconf ▸ hwrites)

theorem Upload.mem_written {upload : Upload} {file : String × String} :
    file ∈ upload.written tools host ↔ file ∈ upload.files ∧
      host.hypervisor.recordedSum upload.clusterNamespace upload.clusterName upload.componentName
        file.1 ≠ some (tools.sha1Sum file.2) := by
  unfold Upload.written filesToUpload
  rw [List.mem_filter]
  simp [Hypervisor.fileUpToDate, Hypervisor.recordedSum]

/-- The files of a safe call agree with the records, if the component has none for them. -/
theorem Upload.Safe.agrees {upload : Upload} (h : upload.Safe tools host)
    (hown : ∀ file ∈ upload.written tools host, host.hypervisor.recordedSum
      upload.clusterNamespace upload.clusterName upload.componentName file.1 = none) :
    ∀ file ∈ upload.written tools host, Agrees tools host.hypervisor file := by
  intro file hfile ns cluster component sum hsum
  refine h.others file hfile ns cluster component sum ?_ hsum
  intro ⟨hns, hcl, hcomp⟩
  rw [hns, hcl, hcomp, hown file hfile] at hsum
  cases hsum

/-- A safe call that returns keeps the file map truthful. -/
theorem Honest.uploads {upload : Upload} (h : Honest tools host)
    (hret : ¬ Panics (upload.result tools host)) (hsafe : upload.Safe tools host) :
    Honest tools (finalState (upload.result tools host)) := by
  have hbegins : Honest tools (upload.begins host) := ⟨h.recorded, h.agrees, h.labelled⟩
  unfold Upload.result at hret ⊢
  have hwritten : filesToUpload tools upload.clusterNamespace upload.clusterName
      upload.componentName (upload.begins host).hypervisor upload.files =
        upload.written tools host := rfl
  rw [run_uploadFiles, hwritten] at hret ⊢
  by_cases hnil : upload.written tools host = []
  · rw [if_pos hnil]
    exact hbegins
  rw [if_neg hnil] at hret ⊢
  have hzero : Zero (upload.begins host) (upload.written tools host) :=
    ⟨upload.distinct.sublist (List.filter_sublist.map _), hsafe.exitCode⟩
  have hbef : Before tools (upload.begins host) (upload.begins host) := by
    refine ⟨⟨?_, fun _ => .inl rfl, h.labelled, rfl, rfl, fun _ hmem => hmem⟩, rfl⟩
    intro c hc hrunning file hwrites
    rw [hsafe.idle c hc hrunning] at hwrites
    cases hwrites
  obtain ⟨hok, herr⟩ := triple_writeFiles upload.clusterNamespace upload.clusterName
    upload.componentName hzero hnil (upload.begins host) hbef
  cases hrun : (writeFiles tools upload.clusterNamespace upload.clusterName upload.componentName
      (upload.written tools host)).run (upload.begins host) with
  | ok _ host' =>
    obtain ⟨huploading, hdone⟩ := hok () host' hrun
    rw [run_bind_of_ok hrun]
    exact hbegins.recordFiles upload.distinct (fun file => Upload.mem_written) hsafe.others
      huploading hdone
  | error fault host' =>
    rw [run_bind_of_error hrun] at hret ⊢
    cases fault with
    | panic message => exact absurd ⟨message, host', rfl⟩ hret
    | error message =>
      have hfailed := herr message host' hrun
      rcases hsafe.own with hall | hown
      · exact hbegins.of_uploading (hfailed.nothing hall) (by simp)
      · exact hbegins.of_uploading hfailed.uploading (hsafe.agrees hown)

/-- In every run whose calls are safe, the file map tells the truth in every state. -/
theorem truthful_of_reaches (h : Honest tools start)
    (hrun : Reaches (UploadEvent.after tools)
      (fun host event => event.Returns tools host ∧ event.Safe tools host) start host) :
    Truthful tools host := by
  refine Honest.truthful (hrun.invariant (P := Honest tools) ?_ h)
  intro host event hhonest ⟨hret, hsafe⟩
  cases event with
  | ends cid exitCode => exact hhonest.ends cid exitCode
  | uploads upload => exact hhonest.uploads hret hsafe

/-! ### A container that fails -/

/-- The upload of a certificate.  The containers end while the call waits for them, with the
given exit code. -/
def certificateUpload (code : Int) : Upload where
  clusterNamespace := "ns"
  clusterName := "c"
  componentName := "cp"
  files := [("/etc/ca.crt", "ca")]
  distinct := by decide
  answers := List.replicate 20 { ended := [plainTools.ids.next []] }
  exitCode := fun _ => code

/-- The call returns without an error. -/
def succeeded : EStateM.Result Fault Host Unit → Bool
  | .ok _ _ => true
  | .error _ _ => false

theorem not_panics_of_succeeded {result : EStateM.Result Fault Host Unit}
    (h : succeeded result = true) : ¬ Panics result := by
  intro ⟨message, host, hres⟩
  rw [hres] at h
  cases h

theorem honest_newHost : Honest plainTools newHost where
  recorded := by
    intro ns cluster component path sum hsum
    cases hsum
  agrees := by
    intro c hc
    cases hc
  labelled := by
    intro s hs
    cases hs

/-- The container of the upload ends with the exit code 1.  The call returns and records a file
that is not on the disk. -/
theorem not_truthful_failing :
    Honest plainTools newHost ∧ UploadEvent.Returns plainTools newHost
        (.uploads (certificateUpload 1)) ∧
      ¬ Truthful plainTools (UploadEvent.after plainTools newHost
        (.uploads (certificateUpload 1))) := by
  refine ⟨honest_newHost, not_panics_of_succeeded (by decide +kernel), ?_⟩
  intro h
  have hsum : (UploadEvent.after plainTools newHost
      (.uploads (certificateUpload 1))).hypervisor.recordedSum "ns" "c" "cp" "/etc/ca.crt" =
        some "ca" := by decide +kernel
  have hmissing : (UploadEvent.after plainTools newHost
      (.uploads (certificateUpload 1))).disk.lookup "/etc/ca.crt" = none := by decide +kernel
  obtain ⟨contents, hlk, -⟩ := h.recorded _ _ _ _ _ hsum
  rw [hmissing] at hlk
  cases hlk

/-- The same upload with the exit code zero. -/
theorem truthful_of_reaches_certificate :
    ∃ host, Reaches (UploadEvent.after plainTools)
        (fun host event => event.Returns plainTools host ∧ event.Safe plainTools host) newHost
        host ∧
      host.hypervisor.recordedSum "ns" "c" "cp" "/etc/ca.crt" = some "ca" ∧
      Truthful plainTools host := by
  have hsafe : (certificateUpload 0).Safe plainTools newHost := by
    refine ⟨?_, fun _ _ => rfl, ?_, .inr fun _ _ => rfl⟩
    · intro c hc
      cases hc
    · intro file _ ns cluster component sum _ hsum
      cases hsum
  have hret : UploadEvent.Returns plainTools newHost (.uploads (certificateUpload 0)) :=
    not_panics_of_succeeded (by decide +kernel)
  have hrun : Reaches (UploadEvent.after plainTools)
      (fun host event => event.Returns plainTools host ∧ event.Safe plainTools host) newHost
      (UploadEvent.after plainTools newHost (.uploads (certificateUpload 0))) :=
    .single ⟨_, ⟨hret, hsafe⟩, rfl⟩
  exact ⟨_, hrun, by decide +kernel, truthful_of_reaches honest_newHost hrun⟩

end OneInfra.Infra.Host
