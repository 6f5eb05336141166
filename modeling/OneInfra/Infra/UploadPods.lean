import Mathlib.Logic.Equiv.List
import OneInfra.Infra.FileMaps

/-!
# The pods of uploads

`UploadFiles` builds a pod with one container for each file that is not up to date.  The
container is named after the sum of the contents, while the files are a map by location.  A
sandbox has one container of a name, so two files with the same contents make a pod that the
runtime refuses.

The other half of this module is that one more thing can go wrong, a ready sandbox that an
earlier attempt has left: `EnsurePod` deletes it and then asks for containers in it.  A runtime is
given by its answers for all times: every call succeeds, and every container ends again and again.
`Finishes` says of a program that it takes some of the answers and returns, whatever comes
after them.  The rules for it follow the programs of `OneInfra.Infra.Host`.
-/

namespace OneInfra.Infra.Host

open OneInfra.Lib OneInfra.Infra.Runtime

/-! ## Programs that finish -/

/-- The answers of a runtime at all times. -/
abbrev Answers := Nat → Answer

/-- The next `n` answers from the time `i` on. -/
def window (answers : Answers) : Nat → Nat → List Answer
  | _, 0 => []
  | i, n + 1 => answers i :: window answers (i + 1) n

theorem length_window (answers : Answers) (i n : Nat) : (window answers i n).length = n := by
  induction n generalizing i with
  | zero => rfl
  | succ n ih => rw [window, List.length_cons, ih]

/-- The host with other answers. -/
def withAnswers (host : Host) (answers : List Answer) : Host := { host with answers := answers }

/-- The program returns after some answers, in a host as `Q` says.  How many answers there are
after these makes no difference. -/
def Finishes {α : Type} (answers : Answers) (P : Host → Prop) (x : HostM α)
    (Q : α → Host → Prop) : Prop :=
  ∀ i host, P host → ∃ k value host', Q value host' ∧ ∀ n,
    x.run (host.withAnswers (window answers i (k + n))) =
      .ok value (host'.withAnswers (window answers (i + k) n))

/-- The effect of a call, which does not read the answers. -/
def Acts {α : Type} (P : Host → Prop) (effect : EStateM String Host α) (Q : α → Host → Prop) :
    Prop :=
  ∀ host, P host → ∃ value host', Q value host' ∧ ∀ answers,
    effect.run (host.withAnswers answers) = .ok value (host'.withAnswers answers)

section Rules

variable {α β : Type} {answers : Answers} {P P' : Host → Prop} {Q Q' : α → Host → Prop}
  {R : β → Host → Prop}

namespace Finishes

theorem of_pure (value : α) (h : ∀ host, P host → Q value host) :
    Finishes answers P (pure value) Q :=
  fun _ host hP => ⟨0, value, host, h host hP, fun n => by rw [Nat.zero_add]; rfl⟩

theorem bind {x : HostM α} {f : α → HostM β} (hx : Finishes answers P x Q)
    (hf : ∀ value, Finishes answers (Q value) (f value) R) : Finishes answers P (x >>= f) R := by
  intro i host hP
  obtain ⟨k, value, host₁, hQ, hrun⟩ := hx i host hP
  obtain ⟨k', value', host', hR, hrun'⟩ := hf value (i + k) host₁ hQ
  refine ⟨k + k', value', host', hR, fun n => ?_⟩
  have hfirst := hrun (k' + n)
  rw [← Nat.add_assoc] at hfirst
  rw [run_bind_of_ok hfirst, hrun' n, Nat.add_assoc]

theorem mono {x : HostM α} (hx : Finishes answers P x Q) (hP : ∀ host, P' host → P host)
    (hQ : ∀ value host, Q value host → Q' value host) : Finishes answers P' x Q' := by
  intro i host h
  obtain ⟨k, value, host', h', hrun⟩ := hx i host (hP host h)
  exact ⟨k, value, host', hQ value host' h', hrun⟩

theorem of_attempt {x : HostM α} (hx : Finishes answers P x Q) :
    Finishes answers P (attempt x) fun result host =>
      ∃ value, result = .ok value ∧ Q value host := by
  intro i host hP
  obtain ⟨k, value, host', hQ, hrun⟩ := hx i host hP
  refine ⟨k, .ok value, host', ⟨value, rfl, hQ⟩, fun n => ?_⟩
  have hx' : x (host.withAnswers (window answers i (k + n))) =
      .ok value (host'.withAnswers (window answers (i + k) n)) := hrun n
  show attempt x _ = _
  unfold attempt
  rw [hx']

/-- A condition that is not about the host. -/
theorem assume {p : Prop} {x : HostM α} (hx : p → Finishes answers P x Q) :
    Finishes answers (fun host => p ∧ P host) x Q :=
  fun i host h => hx h.1 i host h.2

/-- A loop, with an invariant on the elements that are left. -/
theorem forM {f : β → HostM Unit} {Inv : List β → Host → Prop}
    (hf : ∀ b rest, Finishes answers (Inv (b :: rest)) (f b) fun _ => Inv rest) (l : List β) :
    Finishes answers (Inv l) (l.forM f) fun _ => Inv [] := by
  induction l with
  | nil => exact of_pure () fun _ => id
  | cons b l ih => exact bind (hf b l) fun _ => ih

end Finishes

/-- After some answers the program does not return, whatever comes after them. -/
def Refuses {α : Type} (answers : Answers) (P : Host → Prop) (x : HostM α) : Prop :=
  ∀ i host, P host → ∃ k, ∀ n value host',
    x.run (host.withAnswers (window answers i (k + n))) ≠ .ok value host'

theorem Refuses.bind {x : HostM α} {f : α → HostM β} (hx : Finishes answers P x Q)
    (hf : ∀ value, Refuses answers (Q value) (f value)) : Refuses answers P (x >>= f) := by
  intro i host hP
  obtain ⟨k, value, host₁, hQ, hrun⟩ := hx i host hP
  obtain ⟨k', hrefuses⟩ := hf value (i + k) host₁ hQ
  refine ⟨k + k', fun n value' host' => ?_⟩
  have hfirst := hrun (k' + n)
  rw [← Nat.add_assoc] at hfirst
  rw [run_bind_of_ok hfirst]
  exact hrefuses n value' host'

theorem Refuses.bind_left {x : HostM α} {f : α → HostM β} (hx : Refuses answers P x) :
    Refuses answers P (x >>= f) := by
  intro i host hP
  obtain ⟨k, hrefuses⟩ := hx i host hP
  refine ⟨k, fun n value host' hrun => ?_⟩
  obtain ⟨a, between, hfirst, -⟩ := run_bind_eq_ok.mp hrun
  exact hrefuses n a between hfirst

/-! ## Calls -/

theorem endContainer_withAnswers (tools : Tools) (exitCode : String → Int) (host : Host)
    (cid : String) (answers : List Answer) :
    endContainer tools exitCode (host.withAnswers answers) cid =
      (endContainer tools exitCode host cid).withAnswers answers := by
  have hlk : lookupKey RuntimeContainer.id cid
      (host.withAnswers answers).runtime.containers =
        lookupKey RuntimeContainer.id cid host.runtime.containers := rfl
  unfold endContainer
  rw [hlk]
  cases lookupKey RuntimeContainer.id cid host.runtime.containers with
  | none => rfl
  | some c =>
    dsimp only
    split_ifs <;> rfl

theorem settle_withAnswers (tools : Tools) (host : Host) (ended : List String)
    (answers : List Answer) :
    settle tools (host.withAnswers answers) ended =
      (settle tools host ended).withAnswers answers := by
  unfold settle
  induction ended generalizing host with
  | nil => rfl
  | cons cid ended ih =>
    rw [List.foldl_cons, List.foldl_cons]
    change List.foldl _ (endContainer tools host.exitCode (host.withAnswers answers)
      cid) ended = _
    rw [endContainer_withAnswers, ih]

/-- A property that holds on while containers end. -/
def Settled (tools : Tools) (P : Host → Prop) : Prop :=
  ∀ host cid, P host → P (endContainer tools host.exitCode host cid)

theorem Settled.settle {tools : Tools} (hP : Settled tools P) {host : Host} (h : P host)
    (ended : List String) : P (Host.settle tools host ended) := by
  unfold Host.settle
  induction ended generalizing host with
  | nil => exact h
  | cons cid ended ih => exact ih (hP host cid h)

/-- A call to a runtime that succeeds. -/
theorem run_call (tools : Tools) (hsucc : ∀ i, (answers i).outcome = .succeeds)
    (effect : EStateM String Host α) (host : Host) (i n : Nat) :
    (call tools effect).run (host.withAnswers (window answers i (n + 1))) =
      match effect.run ((Host.settle tools host (answers i).ended).withAnswers
        (window answers (i + 1) n)) with
      | .ok a host => .ok a host
      | .error message host => .error (.error message) host := by
  have hsettle : Host.settle tools (host.withAnswers (window answers (i + 1) n))
      (answers i).ended = (Host.settle tools host (answers i).ended).withAnswers
        (window answers (i + 1) n) := settle_withAnswers _ _ _ _
  show Host.call tools effect (host.withAnswers (answers i :: window answers (i + 1) n)) = _
  rw [← hsettle]
  unfold Host.call withAnswers
  dsimp only
  rewrite [hsucc i]
  rfl

/-- A call finishes if the runtime succeeds and the effect does. -/
theorem Finishes.call {tools : Tools} (hsucc : ∀ i, (answers i).outcome = .succeeds)
    (hP : Settled tools P) {effect : EStateM String Host α} (heffect : Acts P effect Q) :
    Finishes answers P (call tools effect) Q := by
  intro i host h
  obtain ⟨value, host', hQ, hrun⟩ := heffect _ (hP.settle h (answers i).ended)
  refine ⟨1, value, host', hQ, fun n => ?_⟩
  rw [Nat.add_comm 1 n, run_call tools hsucc, hrun]

theorem Acts.reading {f : Host → Except String α}
    (hanswers : ∀ host answers, f (host.withAnswers answers) = f host)
    (hf : ∀ host, P host → ∃ value, f host = .ok value ∧ Q value host) :
    Acts P (reading f) Q := by
  intro host hP
  obtain ⟨value, hvalue, hQ⟩ := hf host hP
  refine ⟨value, host, hQ, fun answers => ?_⟩
  show Host.reading f (host.withAnswers answers) = _
  unfold Host.reading
  rw [hanswers, hvalue]

/-- A call of the runtime that succeeds in its state. -/
theorem Acts.onRuntime {x : CRI α} (hx : Guarantees Keeps x)
    (h : ∀ host, P host → ∃ value, (∃ rt, x.run host.runtime = .ok value rt) ∧
      Q value (host.setRuntime (finalState (x.run host.runtime)) (hx host.runtime))) :
    Acts P (onRuntime x hx) Q := by
  intro host hP
  obtain ⟨value, ⟨rt, hrun⟩, hQ⟩ := h host hP
  refine ⟨value, _, hQ, fun answers => ?_⟩
  show Host.onRuntime x hx (host.withAnswers answers) = _
  unfold Host.onRuntime
  dsimp only
  split
  · next value' rt' hrun' =>
    have hsame : EStateM.Result.ok value' rt' = .ok value rt := hrun'.symm.trans hrun
    cases hsame
    rfl
  · next message rt' hrun' =>
    have hsame : EStateM.Result.error message rt' = .ok value rt := hrun'.symm.trans hrun
    cases hsame

end Rules

/-! ## The end of containers -/

section Ends

variable (tools : Tools) (host : Host) (cid : String)

/-- The end of a container stops it, and changes nothing else of the tables. -/
theorem runtime_endContainer :
    (endContainer tools host.exitCode host cid).runtime = host.runtime ∨
      (endContainer tools host.exitCode host cid).runtime = host.runtime.exitContainer cid := by
  rcases endContainer_cases tools host.exitCode host cid with heq | ⟨c, -, -, -, heq⟩
  · rw [heq]
    exact .inl rfl
  · rw [heq]
    exact .inr rfl

theorem sandboxes_endContainer :
    (endContainer tools host.exitCode host cid).runtime.sandboxes = host.runtime.sandboxes := by
  rcases runtime_endContainer tools host cid with heq | heq <;> rw [heq]
  rfl

theorem keeps_endContainer :
    host.runtime.Keeps (endContainer tools host.exitCode host cid).runtime := by
  rcases runtime_endContainer tools host cid with heq | heq <;> rw [heq]
  · exact Keeps.refl _
  · exact keeps_exitContainer _ _

theorem containerIDs_endContainer :
    (endContainer tools host.exitCode host cid).runtime.containers.map
        RuntimeContainer.id = host.runtime.containers.map RuntimeContainer.id := by
  rcases runtime_endContainer tools host cid with heq | heq <;> rw [heq]
  exact map_modifyKey fun _ => rfl

theorem started_endContainer :
    (endContainer tools host.exitCode host cid).started = host.started := by
  rcases endContainer_cases tools host.exitCode host cid with heq | ⟨c, -, -, -, heq⟩ <;>
    rw [heq]
  rfl

/-- A container that has ended does not run. -/
theorem running_endContainer {c : RuntimeContainer}
    (hc : c ∈ (endContainer tools host.exitCode host cid).runtime.containers)
    (hid : c.id = cid) : c.running = false := by
  rcases endContainer_cases tools host.exitCode host cid with
    heq | ⟨ended, hended, hendedID, hrunning, heq⟩
  · -- nothing has changed, since no container of that id runs
    rw [heq] at hc
    have hlk : lookupKey RuntimeContainer.id cid host.runtime.containers = some c :=
      (lookupKey_eq_some_iff host.runtime.containerIDs_nodup).mpr ⟨hc, hid⟩
    by_contra hruns
    have hruns' : c.running = true := by simpa using hruns
    have hexit : (endContainer tools host.exitCode host cid).runtime =
        host.runtime.exitContainer cid := by
      unfold endContainer
      rw [hlk]
      dsimp only
      rw [if_pos hruns']
      rfl
    rw [heq] at hexit
    have hc' : c ∈ (host.runtime.exitContainer cid).containers := hexit ▸ hc
    rcases mem_modifyKey.mp hc' with ⟨-, hne⟩ | ⟨source, -, -, hsame⟩
    · exact hne hid
    · rw [hsame] at hruns'
      cases hruns'
  · rw [heq] at hc
    rcases mem_modifyKey.mp hc with ⟨-, hne⟩ | ⟨source, -, -, hsame⟩
    · exact absurd hid hne
    · rw [hsame]

end Ends

/-! ## The pod -/

section Pod

variable {tools : Tools} {answers : Answers} (hsucc : ∀ i, (answers i).outcome = .succeeds)
include hsucc

theorem finishes_ensureImage {P : Host → Prop} (hP : Settled tools P)
    (himages : ∀ host images, P host → P { host with images := images }) (image : String) :
    Finishes answers P (ensureImage tools image) fun _ => P := by
  refine .bind (Q := fun _ => P) (.call hsucc hP (.reading (fun _ _ => rfl) fun _ h => ⟨_, rfl, h⟩))
    fun present => ?_
  cases present with
  | true => exact .of_pure () fun _ => id
  | false =>
    refine .call hsucc hP fun host h => ?_
    exact ⟨(), { host with images := image :: host.images }, himages host _ h, fun _ => rfl⟩

/-- No sandbox with the labels is ready. -/
def NoneReady (labelSelector : List (String × String)) (host : Host) : Prop :=
  ∀ s ∈ host.runtime.listPodSandbox labelSelector, s.ready = false

omit hsucc in
theorem settled_noneReady (labelSelector : List (String × String)) :
    Settled tools (NoneReady labelSelector) := by
  intro host cid h
  unfold NoneReady listPodSandbox
  rw [sandboxes_endContainer]
  exact h

/-- Without a ready sandbox the pod does not run. -/
theorem finishes_isPodRunning (ns cluster comp : String) (pod : Pod) :
    Finishes answers
      (NoneReady (Hypervisor.podSelector tools.podSum ns cluster comp
        pod))
      (isPodRunning tools ns cluster comp pod)
      fun status _ => status = ⟨false, "", false, ∅, ∅⟩ := by
  refine .bind (Q := fun (podSandboxList : List PodSandbox) _ =>
      (∀ s ∈ podSandboxList, s.ready = false) ∧ True)
    (.call hsucc (settled_noneReady _) (.reading (fun _ _ => rfl) fun _ h =>
      ⟨_, rfl, h, trivial⟩))
    fun podSandboxList => .assume fun hnone => ?_
  have hfind : podSandboxList.find? PodSandbox.ready = none := by
    rw [List.find?_eq_none]
    intro s hs
    rw [hnone s hs]
    decide
  dsimp only
  rw [hfind, Option.map_none, Option.getD_none, if_pos rfl]
  exact .of_pure _ fun _ _ => rfl

/-- The sandboxes that are left to delete are there, and so are no others of `watched`. -/
structure SandboxesLeft (watched sids : List String) (host : Host) : Prop where
  nodup : sids.Nodup
  there : ∀ id ∈ sids, id ∈ host.runtime.sandboxes.map PodSandbox.id
  left : ∀ id ∈ watched, id ∈ host.runtime.sandboxes.map PodSandbox.id → id ∈ sids

omit hsucc in
theorem settled_sandboxesLeft (watched sids : List String) :
    Settled tools (SandboxesLeft watched sids) := by
  intro host cid h
  refine ⟨h.nodup, ?_, ?_⟩
  · rw [sandboxes_endContainer]
    exact h.there
  · rw [sandboxes_endContainer]
    exact h.left

theorem finishes_deletePodWithID (watched : List String) (sid : String)
    (rest : List String) :
    Finishes answers (SandboxesLeft watched (sid :: rest))
      (deletePodWithID tools sid) fun _ => SandboxesLeft watched rest := by
  refine .bind (Q := fun _ => SandboxesLeft watched (sid :: rest))
    (.call hsucc (settled_sandboxesLeft _ _) (.onRuntime _ fun host h => ?_))
    fun _ => .call hsucc (settled_sandboxesLeft _ _) (.onRuntime _ fun host h => ?_)
  · have hmem := h.there sid List.mem_cons_self
    have hids : (finalState ((stopPodSandbox sid).run host.runtime)).sandboxes.map
        PodSandbox.id = host.runtime.sandboxes.map PodSandbox.id := by
      show (finalState (stopPodSandbox sid host.runtime)).sandboxes.map _ = _
      rw [stopPodSandbox, if_pos hmem]
      exact map_modifyKey fun _ => rfl
    refine ⟨(), ⟨_, if_pos hmem⟩, h.nodup, fun id hid => ?_, fun id hid hthere => ?_⟩
    · exact hids ▸ h.there id hid
    · exact h.left id hid (hids ▸ hthere)
  · have hmem := h.there sid List.mem_cons_self
    have hnd := List.nodup_cons.mp h.nodup
    -- a sandbox stays if it has another id
    have hids : ∀ id, id ∈ (finalState ((removePodSandbox sid).run
        host.runtime)).sandboxes.map PodSandbox.id ↔
          id ∈ host.runtime.sandboxes.map PodSandbox.id ∧ id ≠ sid := by
      intro id
      show id ∈ (finalState (removePodSandbox sid host.runtime)).sandboxes.map _ ↔ _
      rw [removePodSandbox, if_pos hmem]
      simp only [finalState_ok, List.mem_map, List.mem_filter, decide_eq_true_eq]
      constructor
      · rintro ⟨s, ⟨hs, hne⟩, rfl⟩
        exact ⟨⟨s, hs, rfl⟩, hne⟩
      · rintro ⟨⟨s, hs, rfl⟩, hne⟩
        exact ⟨s, ⟨hs, hne⟩, rfl⟩
    refine ⟨(), ⟨_, if_pos hmem⟩, hnd.2, fun id hid => ?_, fun id hid hthere => ?_⟩
    · exact (hids id).mpr ⟨h.there id (List.mem_cons_of_mem _ hid),
        fun heq => hnd.1 (heq ▸ hid)⟩
    · obtain ⟨hthere, hne⟩ := (hids id).mp hthere
      exact (List.mem_cons.mp (h.left id hid hthere)).resolve_left hne

/-- The sandboxes of the pod are gone after it was deleted. -/
theorem finishes_deletePod (ns cluster comp podName : String) (watched : List String) :
    Finishes answers
      (fun host => ∀ id ∈ watched, id ∈ (host.runtime.listPodSandbox
        (Hypervisor.podNameSelector ns cluster comp podName)).map PodSandbox.id)
      (deletePod tools ns cluster comp podName)
      fun _ host => ∀ id ∈ watched, id ∉ host.runtime.sandboxes.map PodSandbox.id := by
  refine .bind (Q := fun podList => SandboxesLeft watched (podList.map PodSandbox.id))
    (.call hsucc (fun host cid h => ?_) (.reading (fun _ _ => rfl) fun host h => ?_))
    fun podList => ?_
  · unfold listPodSandbox
    rw [sandboxes_endContainer]
    exact h
  · have hsubl : (host.runtime.listPodSandbox (Hypervisor.podNameSelector ns
        cluster comp podName)).Sublist host.runtime.sandboxes := List.filter_sublist
    exact ⟨_, rfl, host.runtime.sandboxIDs_nodup.sublist (hsubl.map _),
      fun id hid => (hsubl.map _).subset hid, fun id hid _ => h id hid⟩
  · refine (Finishes.forM (finishes_deletePodWithID hsucc watched) _).mono (fun _ => id) ?_
    intro _ host h id hid hthere
    cases h.left id hid hthere

/-- The sandbox is there with the containers that were created in it, and those of `started`
were started. -/
structure Built (sid : String) (created started : List String) (host : Host) : Prop where
  sandbox : sid ∈ host.runtime.sandboxes.map PodSandbox.id
  owned : ∀ c ∈ host.runtime.containers, c.podSandboxID = sid → c.id ∈ created
  there : ∀ id ∈ created, id ∈ host.runtime.containers.map RuntimeContainer.id
  started : ∀ id ∈ started, id ∈ host.started

/-- The names of the containers in the sandbox. -/
def NamesIn (sid : String) (names : List String) (host : Host) : Prop :=
  ∀ c ∈ host.runtime.containers, c.podSandboxID = sid → c.config.name ∈ names

omit hsucc in
theorem settled_built (sid : String) (created started : List String) :
    Settled tools (Built sid created started) := by
  intro host cid h
  have hkeeps := keeps_endContainer tools host cid
  refine ⟨?_, fun c' hc' hof => ?_, fun id hid => ?_, fun id hid => ?_⟩
  · rw [sandboxes_endContainer]
    exact h.sandbox
  · obtain ⟨c, hc, hid, hsb, -⟩ := hkeeps.containers c' hc'
    rw [← hid]
    exact h.owned c hc (hsb.trans hof)
  · rw [containerIDs_endContainer]
    exact h.there id hid
  · rw [started_endContainer]
    exact h.started id hid

omit hsucc in
theorem settled_namesIn (sid : String) (names : List String) :
    Settled tools (NamesIn sid names) := by
  intro host cid h c' hc' hof
  obtain ⟨c, hc, -, hsb, hconf, -⟩ :=
    (keeps_endContainer tools host cid).containers c' hc'
  rw [← hconf]
  exact h c hc (hsb.trans hof)

omit hsucc in
theorem Settled.and {P Q : Host → Prop} (hP : Settled tools P) (hQ : Settled tools Q) :
    Settled tools fun host => P host ∧ Q host :=
  fun host cid h => ⟨hP host cid h.1, hQ host cid h.2⟩

theorem finishes_runPodSandbox (config : PodSandboxConfig) :
    Finishes answers (fun _ => True)
      (call tools (onRuntime _ (keeps_runPodSandbox tools.ids config)))
      fun sid host => Built sid [] [] host ∧ NamesIn sid [] host := by
  refine .call hsucc (fun _ _ _ => trivial) (.onRuntime _ fun host _ => ?_)
  have hfresh : ∀ c ∈ host.runtime.containers,
      c.podSandboxID ≠ tools.ids.next (host.runtime.sandboxes.map PodSandbox.id) := by
    intro c hc heq
    exact tools.ids.fresh _ (heq ▸ host.runtime.containers_owned c hc)
  refine ⟨_, ⟨_, rfl⟩, ⟨?_, fun c hc hof => absurd hof (hfresh c hc), ?_, ?_⟩,
    fun c hc hof => absurd hof (hfresh c hc)⟩
  · show _ ∈ (host.runtime.sandboxes ++ [_]).map PodSandbox.id
    simp
  · intro id hid
    cases hid
  · intro id hid
    cases hid

omit hsucc in
/-- `CreateContainer` in a sandbox that has no container of the name. -/
theorem run_createContainer (tools : Tools) {sid : String} {config : ContainerConfig}
    {host : Host}
    (hsb : sid ∈ host.runtime.sandboxes.map PodSandbox.id)
    (hunused : config.name ∉ (host.runtime.containersOf sid).map (·.config.name)) :
    ∃ id, ∃ host' : Host, (∀ answers, (createContainer tools sid config).run
        (host.withAnswers answers) = .ok id (host'.withAnswers answers)) ∧
      host'.runtime.sandboxes = host.runtime.sandboxes ∧
      host'.runtime.containers = host.runtime.containers ++ [⟨id, sid, config, false⟩] := by
  have hcreate : createContainer tools sid config host = _ :=
    (dif_pos hsb).trans (if_neg hunused)
  refine ⟨(tools.ids.avoiding host.issued).next (host.runtime.containers.map RuntimeContainer.id),
    finalState (createContainer tools sid config host), fun answers => ?_, ?_, ?_⟩
  · have hrun : (createContainer tools sid config).run (host.withAnswers answers) = _ :=
      (dif_pos hsb).trans (if_neg hunused)
    rw [hrun, hcreate]
    rfl
  · rw [hcreate]
    show (finalState (Runtime.createContainer _ sid config host.runtime)).sandboxes = _
    rw [Runtime.createContainer, dif_pos hsb]
    rfl
  · rw [hcreate]
    show (finalState (Runtime.createContainer _ sid config host.runtime)).containers = _
    rw [Runtime.createContainer, dif_pos hsb]
    rfl

/-- A container with a new name is created. -/
theorem finishes_createContainer {sid : String} {created names : List String}
    {config : ContainerConfig} (hname : config.name ∉ names) :
    Finishes answers
      (fun host => Built sid created [] host ∧ NamesIn sid names host)
      (call tools (createContainer tools sid config))
      fun id host => Built sid (id :: created) [] host ∧
        NamesIn sid (config.name :: names) host := by
  refine .call hsucc ((settled_built _ _ _).and (settled_namesIn _ _)) fun host h => ?_
  obtain ⟨hbuilt, hnames⟩ := h
  have hunused : config.name ∉ (host.runtime.containersOf sid).map (·.config.name) := by
    intro hmem
    obtain ⟨c, hc, hcname⟩ := List.mem_map.mp hmem
    obtain ⟨hc, hof⟩ := List.mem_filter.mp hc
    exact hname (hcname ▸ hnames c hc (by simpa using hof))
  obtain ⟨id, host', hrun, hsbs, hctrs⟩ :=
    run_createContainer tools hbuilt.sandbox hunused
  have hmem : ∀ c ∈ host'.runtime.containers, c ∈ host.runtime.containers ∨
      c = ⟨id, sid, config, false⟩ := by
    intro c hc
    rw [hctrs] at hc
    simpa using hc
  refine ⟨id, host', ⟨⟨?_, fun c hc hof => ?_, fun id' hid' => ?_, fun _ h => by cases h⟩,
    fun c hc hof => ?_⟩, hrun⟩
  · rw [hsbs]
    exact hbuilt.sandbox
  · rcases hmem c hc with hold | hnew
    · exact List.mem_cons_of_mem _ (hbuilt.owned c hold hof)
    · rw [hnew]
      exact List.mem_cons_self
  · rw [hctrs, List.map_append]
    rcases List.mem_cons.mp hid' with hnew | hold
    · rw [hnew]
      simp
    · exact List.mem_append_left _ (hbuilt.there id' hold)
  · rcases hmem c hc with hold | hnew
    · exact List.mem_cons_of_mem _ (hnames c hold hof)
    · rw [hnew]
      exact List.mem_cons_self

/-- Containers with distinct names are created in a new sandbox. -/
theorem finishes_createContainers (sid : String) (pod : Pod)
    {containers : List Container} {created names : List String}
    (hnd : (containers.map Container.name).Nodup)
    (hnew : ∀ container ∈ containers, container.name ∉ names) :
    Finishes answers
      (fun host => Built sid created [] host ∧ NamesIn sid names host)
      (createContainers tools sid ∅ ∅ pod containers)
      fun ids host => ∃ all, Built sid all [] host ∧
        ∀ id, id ∈ all ↔ id ∈ ids ∨ id ∈ created := by
  induction containers generalizing created names with
  | nil => exact .of_pure _ fun host h => ⟨created, h.1, by simp⟩
  | cons container containers ih =>
    rw [List.map_cons, List.nodup_cons] at hnd
    have hempty : (∅ : GoMap String RuntimeContainer).lookup container.name = none :=
      Finmap.lookup_empty _
    unfold createContainers removeNotRunning
    rw [hempty]
    refine .bind (Q := fun _ host => Built sid created [] host ∧
      NamesIn sid names host) (.of_pure () fun _ => id) fun _ => ?_
    refine .bind (finishes_createContainer hsucc (hnew container List.mem_cons_self))
      fun cid => ?_
    refine .bind (ih hnd.2 fun other hother => ?_) fun containerIDs => ?_
    · intro hmem
      rcases List.mem_cons.mp hmem with heq | hmem
      · have heq' : other.name = container.name := heq
        exact hnd.1 (heq' ▸ List.mem_map_of_mem hother)
      · exact hnew other (List.mem_cons_of_mem _ hother) hmem
    · refine .of_pure _ fun host h => ?_
      obtain ⟨all, hbuilt, hall⟩ := h
      refine ⟨all, hbuilt, fun id => ?_⟩
      rw [hall, List.mem_cons, List.mem_cons]
      tauto

/-- The containers that were created are started. -/
theorem finishes_startContainer (sid cid : String)
    (all started : List String) (hmem : cid ∈ all) :
    Finishes answers (Built sid all started) (call tools (startContainer cid))
      fun _ => Built sid all (cid :: started) := by
  refine .call hsucc (settled_built _ _ _) fun host h => ?_
  have hthere := h.there cid hmem
  have hstart : startContainer cid host = _ := dif_pos hthere
  have hrt : (finalState (startContainer cid host)).runtime =
      finalState (Runtime.startContainer cid host.runtime) := by
    rw [hstart]
    rfl
  have hstarted : (finalState (startContainer cid host)).started = cid :: host.started := by
    rw [hstart]
    rfl
  rw [Runtime.startContainer, if_pos hthere] at hrt
  refine ⟨(), finalState (startContainer cid host), ⟨?_, ?_, ?_, ?_⟩, fun answers => ?_⟩
  · rw [hrt]
    exact h.sandbox
  · rw [hrt]
    exact forall_mem_modifyKey h.owned fun c _ hc => hc
  · rw [hrt]
    show ∀ id ∈ all, id ∈ (modifyKey _ _ _ host.runtime.containers).map RuntimeContainer.id
    rw [map_modifyKey]
    · exact h.there
    · exact fun _ => rfl
  · intro id hid
    rw [hstarted]
    rcases List.mem_cons.mp hid with heq | hid
    · rw [heq]
      exact List.mem_cons_self
    · exact List.mem_cons_of_mem _ (h.started id hid)
  · have hrun : (startContainer cid).run (host.withAnswers answers) = _ := dif_pos hthere
    rw [hrun, hstart]
    rfl

/-- All containers of the sandbox are started. -/
theorem finishes_startContainers (sid : String) {ids all started : List String}
    (hsub : ∀ id ∈ ids, id ∈ all) :
    Finishes answers (Built sid all started)
      (ids.forM fun cid => call tools (startContainer cid))
      fun _ => Built sid all (ids.reverse ++ started) := by
  induction ids generalizing started with
  | nil => exact .of_pure () fun _ => id
  | cons cid ids ih =>
    refine .bind (finishes_startContainer hsucc sid cid all started
      (hsub cid List.mem_cons_self)) fun _ => ?_
    rw [List.reverse_cons, List.append_assoc]
    exact ih fun id hid => hsub id (List.mem_cons_of_mem _ hid)

/-- A pod with distinct container names is built, if no sandbox of it is ready. -/
theorem finishes_ensurePod (ns cluster comp : String) {pod : Pod}
    (hnd : (pod.containers.map Container.name).Nodup) :
    Finishes answers
      (NoneReady (Hypervisor.podSelector tools.podSum ns cluster comp
        pod))
      (ensurePod tools ns cluster comp pod)
      fun sid host => ∃ all, Built sid all all host := by
  refine .bind (Q := fun status _ => status = ⟨false, "", false, ∅, ∅⟩ ∧ True)
    ((finishes_isPodRunning hsucc ns cluster comp pod).mono
      (fun _ => id) fun _ _ h => ⟨h, trivial⟩) fun status => .assume fun hstat => ?_
  rw [hstat]
  dsimp only
  rw [if_neg (by decide)]
  refine .bind (Q := fun _ _ => True) ((finishes_deletePod hsucc _ _ _ _ []).of_attempt.mono
    (fun _ _ => by simp) fun _ _ _ => trivial) fun _ => ?_
  unfold buildPod
  dsimp only
  rw [if_pos rfl]
  refine .bind (finishes_runPodSandbox hsucc _) fun sid => ?_
  refine .bind (Q := fun _ host => ∃ all, Built sid all all host) ?_
    fun _ => .of_pure _ fun _ => id
  refine .bind (finishes_createContainers hsucc sid pod hnd (by simp))
    fun ids => ?_
  intro i host h
  obtain ⟨all, hbuilt, hall⟩ := h
  have hsub : ∀ id ∈ ids, id ∈ all := fun id hid => (hall id).mpr (.inl hid)
  refine ((finishes_startContainers hsucc sid hsub).mono (fun _ => id)
    fun _ host' h => ⟨all, h.sandbox, h.owned, h.there, fun id hid => ?_⟩) i host hbuilt
  apply h.started
  have hmem := (hall id).mp hid
  simpa using hmem

end Pod

/-! ## The wait for a pod -/

section Wait

variable {tools : Tools} {answers : Answers}

/-- The containers of the sandbox that still run are among these. -/
def RunningIn (sid : String) (pending : List String) (host : Host) : Prop :=
  ∀ c ∈ host.runtime.containers, c.podSandboxID = sid → c.running = true → c.id ∈ pending

theorem settled_runningIn (sid : String) (pending : List String) :
    Settled tools (RunningIn sid pending) := by
  intro host cid h c' hc' hof hrunning
  obtain ⟨c, hc, hid, hsb, -, hran⟩ :=
    (keeps_endContainer tools host cid).containers c' hc'
  rw [← hid]
  exact h c hc (hsb.trans hof) (hran hrunning)

theorem settled_stopped (cid : String) :
    Settled tools fun host =>
      ∀ c ∈ host.runtime.containers, c.id = cid → c.running = false := by
  intro host ended h c' hc' hid'
  obtain ⟨c, hc, hid, -, -, hran⟩ := (keeps_endContainer tools host ended).containers c' hc'
  have hstopped := h c hc (hid.trans hid')
  by_contra hruns
  have hruns' : c'.running = true := by simpa using hruns
  rw [hran hruns'] at hstopped
  cases hstopped

/-- A container of the list has ended. -/
theorem settle_stopped (tools : Tools) (host : Host) {ended : List String} {cid : String}
    (hmem : cid ∈ ended) {c : RuntimeContainer}
    (hc : c ∈ (settle tools host ended).runtime.containers) (hid : c.id = cid) :
    c.running = false := by
  induction ended generalizing host with
  | nil => cases hmem
  | cons first ended ih =>
    by_cases hrest : cid ∈ ended
    · exact ih _ hrest hc
    · have hfirst : cid = first := by simpa [hrest] using hmem
      have hstopped : ∀ c ∈ (endContainer tools host.exitCode host first).runtime.containers,
          c.id = cid → c.running = false :=
        fun c hc hid => running_endContainer tools host first hc (hid.trans hfirst)
      exact (settled_stopped cid).settle hstopped ended c hc hid

/-- If none of the containers runs any more, all have exited. -/
theorem all_exited {sid : String} {all : List String} {host : Host}
    (hbuilt : Built sid all all host) (hrunning : RunningIn sid [] host) :
    (host.runtime.containersOf sid).all host.exited = true := by
  rw [List.all_eq_true]
  intro c hc
  obtain ⟨hc, hof⟩ := List.mem_filter.mp hc
  have hof' : c.podSandboxID = sid := by simpa using hof
  have hstarted := hbuilt.started c.id (hbuilt.owned c hc hof')
  have hstopped : c.running = false := by
    by_contra hruns
    have hmem := hrunning c hc hof' (by simpa using hruns)
    cases hmem
  unfold exited
  rw [hstopped]
  simpa using hstarted

variable (hsucc : ∀ i, (answers i).outcome = .succeeds)
include hsucc

/-- A round of the wait. -/
theorem run_waitRounds_succ (sid : String) (rounds : Nat) (host : Host) (i n : Nat) :
    (waitRounds tools sid (rounds + 1)).run
        (host.withAnswers (window answers i (n + 1))) =
      if ((settle tools host (answers i).ended).runtime.containersOf sid).all
          (settle tools host (answers i).ended).exited then
        .ok () ((settle tools host (answers i).ended).withAnswers (window answers (i + 1) n))
      else (waitRounds tools sid rounds).run
        ((settle tools host (answers i).ended).withAnswers (window answers (i + 1) n)) := by
  rw [waitRounds, EStateM.run_bind, run_call tools hsucc]
  dsimp only [reading, EStateM.run]
  change (if ((settle tools host (answers i).ended).runtime.containersOf sid).all
    (settle tools host (answers i).ended).exited = true then pure () else
      waitRounds tools sid rounds : HostM Unit) _ = _
  split_ifs <;> rfl

/-- The wait from a time on ends with the sandbox as it was built. -/
def Awaited (tools : Tools) (answers : Answers) (sid : String) (all : List String)
    (i : Nat) (host : Host) : Prop :=
  ∃ k host', Built sid all all host' ∧ ∀ n rounds, k ≤ rounds →
    (waitRounds tools sid rounds).run (host.withAnswers (window answers i (k + n))) =
      .ok () (host'.withAnswers (window answers (i + k) n))

/-- A round ends the wait, or it goes on from the hosts after it. -/
theorem awaited_of_settle {sid : String} {all : List String} {i : Nat} {host : Host}
    (hbuilt : Built sid all all host)
    (hrest : ((settle tools host (answers i).ended).runtime.containersOf sid).all
        (settle tools host (answers i).ended).exited = true ∨
      Awaited tools answers sid all (i + 1) (settle tools host (answers i).ended)) :
    Awaited tools answers sid all i host := by
  by_cases hexited : ((settle tools host (answers i).ended).runtime.containersOf sid).all
      (settle tools host (answers i).ended).exited = true
  · refine ⟨1, settle tools host (answers i).ended,
      (settled_built sid all all).settle hbuilt _, fun n rounds hrounds => ?_⟩
    obtain ⟨rounds, rfl⟩ := Nat.exists_eq_add_of_le' hrounds
    rw [Nat.add_comm 1 n, run_waitRounds_succ hsucc, if_pos hexited]
  · obtain ⟨k, host', hbuilt', hrun⟩ := hrest.resolve_left hexited
    refine ⟨k + 1, host', hbuilt', fun n rounds hrounds => ?_⟩
    obtain ⟨rounds, rfl⟩ : ∃ r, rounds = r + 1 := ⟨rounds - 1, by omega⟩
    rw [show k + 1 + n = (k + n) + 1 by omega, run_waitRounds_succ hsucc, if_neg hexited,
      hrun n rounds (by omega), show i + 1 + k = i + (k + 1) by omega]

/-- The wait is over when the pending containers have ended, one after the other. -/
theorem awaited (tools : Tools) (hends : ∀ id i, ∃ j, i ≤ j ∧ id ∈ (answers j).ended)
    (sid : String) (all pending : List String) (i : Nat) (host : Host)
    (hbuilt : Built sid all all host) (hrunning : RunningIn sid pending host) :
    Awaited tools answers sid all i host := by
  induction pending generalizing i host with
  | nil =>
    apply awaited_of_settle hsucc hbuilt
    exact .inl (all_exited ((settled_built sid all all).settle hbuilt _)
      ((settled_runningIn sid []).settle hrunning _))
  | cons cid pending ih =>
    -- the first of them ends `d` rounds from now
    obtain ⟨j, hj, hended⟩ := hends cid i
    obtain ⟨d, hd⟩ := Nat.exists_eq_add_of_le hj
    induction d generalizing i host with
    | zero =>
      apply awaited_of_settle hsucc hbuilt
      refine .inr (ih (i + 1) _ ((settled_built sid all all).settle hbuilt _) ?_)
      intro c hc hof hruns
      have hpending := (settled_runningIn sid (cid :: pending)).settle hrunning
        (answers i).ended c hc hof hruns
      rcases List.mem_cons.mp hpending with hfirst | hpending
      · rw [hd, Nat.add_zero] at hended
        rw [settle_stopped tools host hended hc hfirst] at hruns
        cases hruns
      · exact hpending
    | succ d ihd =>
      apply awaited_of_settle hsucc hbuilt
      refine .inr (ihd (i + 1) _ ((settled_built sid all all).settle hbuilt _)
        ((settled_runningIn sid (cid :: pending)).settle hrunning _) ?_ ?_)
      · omega
      · omega

/-- The wait for a pod whose containers were started. -/
theorem finishes_waitForPod (hends : ∀ id i, ∃ j, i ≤ j ∧ id ∈ (answers j).ended)
    (sid : String) (all : List String) :
    Finishes answers (Built sid all all) (waitForPod tools sid)
      fun _ => Built sid all all := by
  intro i host hbuilt
  obtain ⟨k, host', hbuilt', hrun⟩ := awaited hsucc tools hends sid all
    (host.runtime.containers.map RuntimeContainer.id) i host hbuilt
      fun c hc _ _ => List.mem_map_of_mem hc
  refine ⟨k, (), host', hbuilt', fun n => ?_⟩
  have hrounds : (waitForPod tools sid).run
      (host.withAnswers (window answers i (k + n))) =
        (waitRounds tools sid ((window answers i (k + n)).length + 1)).run
          (host.withAnswers (window answers i (k + n))) := rfl
  rw [hrounds, length_window]
  exact hrun n _ (by omega)

end Wait

/-! ## A sandbox that was left -/

section Left

variable {tools : Tools} {answers : Answers} {ids : List String}
  {labelSelector : List (String × String)} {s : PodSandbox}

/-- The sandbox has the labels, and the containers of the host are among `ids`. -/
structure Left (ids : List String) (labelSelector : List (String × String)) (s : PodSandbox)
    (host : Host) : Prop where
  listed : s ∈ host.runtime.listPodSandbox labelSelector
  among : ∀ c ∈ host.runtime.containers, c.id ∈ ids

theorem settled_left : Settled tools (Left ids labelSelector s) := by
  intro host cid h
  refine ⟨?_, fun c' hc' => ?_⟩
  · unfold listPodSandbox
    rw [sandboxes_endContainer]
    exact h.listed
  · obtain ⟨c, hc, hid, -⟩ := (keeps_endContainer tools host cid).containers c' hc'
    exact hid ▸ h.among c hc

variable (hsucc : ∀ i, (answers i).outcome = .succeeds)
  (hended : ∀ i, ∀ id ∈ ids, id ∈ (answers i).ended)
include hsucc hended

/-- The containers have ended when a call is carried out. -/
theorem finishes_call_stopped {α : Type} {P : Host → Prop} {Q : α → Host → Prop}
    (hP : Settled tools P) {effect : EStateM String Host α}
    (heffect : Acts (fun host => P host ∧ ∀ c ∈ host.runtime.containers, c.id ∈ ids →
      c.running = false) effect Q) : Finishes answers P (call tools effect) Q := by
  intro i host h
  obtain ⟨value, host', hQ, hrun⟩ := heffect _ ⟨hP.settle h (answers i).ended, fun c hc hid =>
    settle_stopped tools host (hended i _ hid) hc rfl⟩
  refine ⟨1, value, host', hQ, fun n => ?_⟩
  rw [Nat.add_comm 1 n, run_call tools hsucc, hrun]

/-- A container that is there is not seen to run. -/
theorem finishes_classify {P : Host → Prop} (hP : Settled tools P) {container : RuntimeContainer}
    (hthere : ∀ host, P host → ∃ c ∈ host.runtime.containers, c.id = container.id ∧ c.id ∈ ids)
    (podContainers : GoMap String RuntimeContainer × GoMap String RuntimeContainer) :
    Finishes answers P (classify tools podContainers container) fun podContainers' host =>
      podContainers'.1 = podContainers.1 ∧ P host := by
  refine .bind (Q := fun status host => status = .ok false ∧ P host) ?_
    fun status => .assume fun hstat => ?_
  · refine (finishes_call_stopped hsucc hended (Q := fun running host =>
      running = false ∧ P host) hP (.reading (fun _ _ => rfl) fun host h => ?_)).of_attempt.mono
        (fun _ => id) ?_
    · obtain ⟨c, hc, hid, hmem⟩ := hthere host h.1
      refine ⟨false, ?_, rfl, h.1⟩
      unfold containerStatus
      rw [(lookupKey_eq_some_iff host.runtime.containerIDs_nodup).mpr ⟨hc, hid⟩]
      exact congrArg Except.ok (h.2 c hc hmem)
    · rintro _ host ⟨_, rfl, rfl, h⟩
      exact ⟨rfl, h⟩
  · subst hstat
    exact .of_pure _ fun _ h => ⟨rfl, h⟩

/-- None of the containers is seen to run. -/
theorem finishes_classifyAll (containers : List RuntimeContainer)
    (podContainers : GoMap String RuntimeContainer × GoMap String RuntimeContainer) :
    Finishes answers
      (fun host => Left ids labelSelector s host ∧
        ∀ c ∈ containers, c.id ∈ host.runtime.containers.map RuntimeContainer.id)
      (containers.foldlM (classify tools) podContainers)
      fun podContainers' host => podContainers'.1 = podContainers.1 ∧
        Left ids labelSelector s host := by
  induction containers generalizing podContainers with
  | nil => exact .of_pure _ fun _ h => ⟨rfl, h.1⟩
  | cons container containers ih =>
    rw [List.foldlM_cons]
    refine .bind (finishes_classify hsucc hended (fun host cid h => ?_)
      (fun host h => ?_) podContainers) fun podContainers' => .assume fun hsame => ?_
    · refine ⟨settled_left host cid h.1, fun c hc => ?_⟩
      rw [containerIDs_endContainer]
      exact h.2 c hc
    · obtain ⟨c, hc, hid⟩ := List.mem_map.mp (h.2 container List.mem_cons_self)
      exact ⟨c, hc, hid, h.1.among c hc⟩
    · rw [← hsame]
      exact (ih podContainers').mono (fun host h => ⟨h.1, fun c hc =>
        h.2 c (List.mem_cons_of_mem _ hc)⟩) fun _ _ => id

/-- The pod is found with a ready sandbox, and not all of its containers run. -/
theorem finishes_isPodRunning_left (ns cluster comp : String) {pod : Pod}
    (hpod : pod.containers ≠ []) :
    Finishes answers
      (fun host => ∃ s, s.ready = true ∧
        Left ids (Hypervisor.podSelector tools.podSum ns cluster comp pod) s host)
      (isPodRunning tools ns cluster comp pod)
      fun status host => (status.podSandboxID ≠ "" ∧ status.allContainersRunning = false ∧
        status.runningContainers = ∅) ∧
        ∃ s, s.id = status.podSandboxID ∧
          Left ids (Hypervisor.podSelector tools.podSum ns cluster comp pod) s host := by
  refine .bind (Q := fun podSandboxList host => (∃ s ∈ podSandboxList, s.ready = true) ∧
      ∀ s ∈ podSandboxList, s.id ≠ "" ∧
        Left ids (Hypervisor.podSelector tools.podSum ns cluster comp pod) s host)
    (.call hsucc ?_ (.reading (fun _ _ => rfl) fun host h => ?_))
    fun podSandboxList => .assume fun hready => ?_
  · rintro host cid ⟨s, hs, hleft⟩
    exact ⟨s, hs, settled_left host cid hleft⟩
  · obtain ⟨s, hs, hleft⟩ := h
    refine ⟨_, rfl, ⟨s, hleft.listed, hs⟩, fun s' hs' => ⟨?_, hs', hleft.among⟩⟩
    exact host.runtime.sandboxIDs_ne s' (List.mem_of_mem_filter hs')
  obtain ⟨s, hfind⟩ : ∃ s, podSandboxList.find? PodSandbox.ready = some s := by
    rw [← Option.isSome_iff_exists, List.find?_isSome]
    exact hready
  dsimp only
  rw [hfind, Option.map_some, Option.getD_some]
  intro i host h
  obtain ⟨hne, hleft⟩ := h s (List.mem_of_find?_eq_some hfind)
  rw [if_neg hne]
  refine (Finishes.bind (.call hsucc settled_left (.reading (fun _ _ => rfl)
    fun host h => ⟨_, rfl, h, fun c hc => List.mem_map_of_mem (List.mem_of_mem_filter hc)⟩))
    fun containerList => .bind (finishes_classifyAll hsucc hended containerList (∅, ∅))
      fun podContainers => .of_pure _ fun host h => ⟨⟨hne, ?_, h.1⟩, s, rfl, h.2⟩) i host hleft
  rw [h.1]
  exact decide_eq_false fun hlen => hpod (List.length_eq_zero_iff.mp hlen.symm)

omit hsucc hended in
/-- No container is created in a sandbox that is gone. -/
theorem createContainers_ne_ok {sid : String} {pod : Pod} {container : Container}
    {containers : List Container} {notRunning : GoMap String RuntimeContainer} {host : Host}
    (hgone : sid ∉ host.runtime.sandboxes.map PodSandbox.id) (containerIDs : List String)
    (host' : Host) :
    (createContainers tools sid ∅ notRunning pod (container :: containers)).run host ≠
      .ok containerIDs host' := by
  have hlasting : Lasting tools fun host =>
      sid ∉ host.runtime.sandboxes.map PodSandbox.id := by
    refine ⟨fun _ _ _ _ => id, fun host cid h => ?_⟩
    rw [sandboxes_endContainer]
    exact h
  have hremove : Preserves (fun host => sid ∉ host.runtime.sandboxes.map PodSandbox.id)
      (removeNotRunning tools notRunning container.name) := by
    unfold removeNotRunning
    split
    · next c _ =>
      refine .bind (.of_attempt (hlasting.preserves_call fun host h => ?_)) fun _ => .of_pure _
      rw [finalState_onRuntime]
      show sid ∉ (finalState (removeContainer c.id host.runtime)).sandboxes.map _
      unfold removeContainer
      split_ifs <;> exact h
    · exact .of_pure _
  intro hrun
  unfold createContainers at hrun
  rw [Finmap.lookup_empty, if_neg (by simp)] at hrun
  obtain ⟨_, host₁, hremoved, hrun⟩ := run_bind_eq_ok.mp hrun
  obtain ⟨cid, host₂, hcreate, -⟩ := run_bind_eq_ok.mp hrun
  obtain ⟨settled, hgone', heffect⟩ := hlasting.call_ok (hremove.of_run hremoved hgone) hcreate
  have herr : (createContainer tools sid
      (Hypervisor.containerConfig pod sid container)).run settled =
        .error "sandbox not found" settled := dif_neg hgone'
  rw [herr] at heffect
  cases heffect

/-- `EnsurePod` asks for containers in the sandbox that it has deleted. -/
theorem refuses_ensurePod (ns cluster comp : String) {pod : Pod} (hpod : pod.containers ≠ []) :
    Refuses answers
      (fun host => ∃ s, s.ready = true ∧
        Left ids (Hypervisor.podSelector tools.podSum ns cluster comp pod) s host)
      (ensurePod tools ns cluster comp pod) := by
  refine .bind (finishes_isPodRunning_left hsucc hended ns cluster comp hpod) fun status => ?_
  rintro i host ⟨⟨hne, hnotAll, hnone⟩, s, hid, hleft⟩
  rw [hnotAll, Bool.and_false, if_neg Bool.false_ne_true, hnone]
  -- the sandbox is among those that are deleted
  have hlisted : ∀ id ∈ [status.podSandboxID], id ∈ (host.runtime.listPodSandbox
      (Hypervisor.podNameSelector ns cluster comp pod.name)).map PodSandbox.id := by
    intro id hmem
    obtain ⟨hs, hselects⟩ := List.mem_filter.mp hleft.listed
    rw [Hypervisor.podSelector, selects, List.all_append, Bool.and_eq_true] at hselects
    rw [List.mem_singleton.mp hmem, ← hid]
    exact List.mem_map_of_mem (List.mem_filter.mpr ⟨hs, hselects.1⟩)
  refine (Refuses.bind (finishes_deletePod hsucc ns cluster comp pod.name
    [status.podSandboxID]).of_attempt fun _ => ?_) i host hlisted
  rintro i host ⟨_, -, hgone⟩
  refine ⟨0, fun n sid host' hrun => ?_⟩
  unfold buildPod at hrun
  rw [if_neg hne, pure_bind] at hrun
  obtain ⟨_, host₁, hrun, -⟩ := run_bind_eq_ok.mp hrun
  obtain ⟨containerIDs, host₂, hrun, -⟩ := run_bind_eq_ok.mp hrun
  obtain ⟨container, containers, hcons⟩ := List.exists_cons_of_ne_nil hpod
  rw [hcons] at hrun
  have hgone' : status.podSandboxID ∉ (host.withAnswers
      (window answers i (0 + n))).runtime.sandboxes.map PodSandbox.id :=
    hgone _ (List.mem_singleton_self _)
  exact createContainers_ne_ok hgone' _ _ hrun

theorem refuses_writeFiles (ns cluster comp : String) {files : List (String × String)}
    (hfs : files ≠ []) :
    Refuses answers
      (fun host => ∃ s, s.ready = true ∧ Left ids
        (Hypervisor.podSelector tools.podSum ns cluster comp (uploadPod tools files)) s host)
      (writeFiles tools ns cluster comp files) := by
  refine .bind (finishes_ensureImage hsucc ?_ (fun _ _ ⟨s, hs, h⟩ => ⟨s, hs, h.1, h.2⟩) _)
    fun _ => .bind_left (refuses_ensurePod hsucc hended ns cluster comp ?_)
  · rintro host cid ⟨s, hs, hleft⟩
    exact ⟨s, hs, settled_left host cid hleft⟩
  · exact fun h => hfs (List.map_eq_nil_iff.mp h)

end Left

/-! ## Uploads -/

section Upload

variable {tools : Tools} {answers : Answers}

/-- Files whose containers have distinct names are written. -/
theorem finishes_writeFiles (hsucc : ∀ i, (answers i).outcome = .succeeds)
    (hends : ∀ id i, ∃ j, i ≤ j ∧ id ∈ (answers j).ended)
    (ns cluster comp : String) {files : List (String × String)}
    (hnd : ((uploadPod tools files).containers.map Container.name).Nodup) :
    Finishes answers
      (NoneReady (Hypervisor.podSelector tools.podSum ns cluster comp
        (uploadPod tools files)))
      (writeFiles tools ns cluster comp files) fun _ _ => True := by
  refine .bind (finishes_ensureImage hsucc (settled_noneReady _) (fun _ _ => id) _) fun _ => ?_
  refine .bind (finishes_ensurePod hsucc ns cluster comp hnd)
    fun sid => ?_
  intro i host h
  obtain ⟨all, hbuilt⟩ := h
  refine (Finishes.bind (finishes_waitForPod hsucc hends sid all) fun _ => ?_) i host
    hbuilt
  refine (finishes_deletePodWithID hsucc [] sid []).mono (fun host h => ?_)
    fun _ _ _ => trivial
  exact ⟨List.nodup_singleton _, fun id hid => by rw [List.mem_singleton.mp hid]; exact h.sandbox,
    by simp⟩

/-- A host on which every call succeeds and every container ends, and ends with the exit code
zero. -/
structure Obliging (answers : Answers) (host : Host) : Prop where
  succeeds : ∀ i, (answers i).outcome = .succeeds
  ends : ∀ id i, ∃ j, i ≤ j ∧ id ∈ (answers j).ended
  exitCode : ∀ path, host.exitCode path = 0

/-- The upload of the files returns after finitely many answers, and all files are recorded. -/
def Uploaded (tools : Tools) (ns cluster comp : String)
    (files : List (String × String)) (answers : Answers) (host : Host) : Prop :=
  ∃ k, ∀ n, ∃ host', (uploadFiles tools ns cluster comp files).run
      (host.withAnswers (window answers 0 (k + n))) = .ok () host' ∧
    ∀ file ∈ files, host'.hypervisor.recordedSum ns cluster comp
      file.1 = some (tools.sha1Sum file.2)

/-- The upload pod has a container for each file that is not up to date, which writes it, and
their names are distinct.  If the host obliges, then the files are recorded. -/
structure WellFormed (tools : Tools) (ns cluster comp : String) (files : List (String × String))
    (host : Host) : Prop where
  containers : ∀ sid, (uploadPod tools (filesToUpload tools ns cluster comp
      host.hypervisor files)).containers.map (fun container => writes tools
        (Hypervisor.containerConfig (uploadPod tools (filesToUpload tools ns cluster comp
          host.hypervisor files)) sid container)) =
    (filesToUpload tools ns cluster comp host.hypervisor files).map some
  names : ((uploadPod tools (filesToUpload tools ns cluster comp host.hypervisor
    files)).containers.map Container.name).Nodup
  uploaded : ∀ answers, Obliging answers host → Uploaded tools ns cluster comp files answers host

/-- No ready sandbox of an earlier attempt at the same upload is left. -/
def NoneLeft (tools : Tools) (ns cluster comp : String) (files : List (String × String))
    (host : Host) : Prop :=
  NoneReady (Hypervisor.podSelector tools.podSum ns cluster comp
    (uploadPod tools (filesToUpload tools ns cluster comp host.hypervisor files))) host

/-- The names are distinct iff the sums of the contents are. -/
theorem nodup_names_iff (tools : Tools) (files : List (String × String)) :
    ((uploadPod tools files).containers.map Container.name).Nodup ↔
      (files.map fun file => tools.md5Sum file.2).Nodup := by
  have hnames : (uploadPod tools files).containers.map Container.name =
      (files.map fun file => tools.md5Sum file.2).map ("upload-file-" ++ ·) := by
    show (files.map (uploadContainer tools)).map Container.name = _
    rw [List.map_map, List.map_map]
    rfl
  rw [hnames]
  apply List.nodup_map_iff
  intro sum sum' hsums
  have hlists := congrArg String.toList hsums
  rw [String.toList_append, String.toList_append] at hlists
  exact String.toList_inj.mp (List.append_cancel_left hlists)

theorem writes_uploadContainer (tools : Tools) (files : List (String × String))
    (sid : String) (file : String × String) :
    writes tools (Hypervisor.containerConfig (uploadPod tools files) sid
      (uploadContainer tools file)) = some file := by
  show (tools.decode (tools.encode file.2)).map _ = some file
  rw [tools.decode_encode]
  rfl

/-- The files of an upload that returns are recorded. -/
theorem recorded_of_uploadFiles {ns cluster comp : String}
    {host host' : Host} {files : List (String × String)} (hdist : (files.map Prod.fst).Nodup)
    (hrun : (uploadFiles tools ns cluster comp files).run host = .ok () host') :
    ∀ file ∈ files, host'.hypervisor.recordedSum ns cluster comp
      file.1 = some (tools.sha1Sum file.2) := by
  obtain ⟨written, hret, hhyp⟩ := Tracked.uploadFiles_host tools ns
    cluster comp files host
  rw [hrun] at hret hhyp
  have hkept : Tracked.UploadKept tools.sha1Sum ns cluster comp files
      written (Tracked.imported host.hypervisor) := Tracked.uploadKept rfl hdist
  change host'.hypervisor = _ at hhyp
  rw [hhyp]
  exact (hkept.succeeded hret.symm).sets

/-- An upload whose containers have distinct names succeeds on a host that obliges. -/
theorem uploaded {ns cluster comp : String} {host : Host}
    {files : List (String × String)} (hdist : (files.map Prod.fst).Nodup)
    (hhost : Obliging answers host)
    (hclear : filesToUpload tools ns cluster comp host.hypervisor files = [] ∨
      NoneLeft tools ns cluster comp files host)
    (hnd : ((uploadPod tools (filesToUpload tools ns cluster comp
      host.hypervisor files)).containers.map Container.name).Nodup) :
    Uploaded tools ns cluster comp files answers host := by
  have hret : ∃ k, ∀ n, ∃ host', (uploadFiles tools ns cluster comp
      files).run (host.withAnswers (window answers 0 (k + n))) = .ok () host' := by
    by_cases hempty : filesToUpload tools ns cluster comp
        host.hypervisor files = []
    · refine ⟨0, fun n => ⟨host.withAnswers (window answers 0 (0 + n)), ?_⟩⟩
      rw [run_uploadFiles]
      exact congrArg (EStateM.run · _) (if_pos hempty)
    · obtain ⟨k, _, host', -, hwritten⟩ := finishes_writeFiles hhost.succeeds hhost.ends
        ns cluster comp hnd 0 host (hclear.resolve_left hempty)
      refine ⟨k, fun n => ?_⟩
      rw [run_uploadFiles]
      exact ⟨_, (congrArg (EStateM.run · _) (if_neg hempty)).trans
        ((run_bind_of_ok (hwritten n)).trans rfl)⟩
  obtain ⟨k, hret⟩ := hret
  refine ⟨k, fun n => ?_⟩
  obtain ⟨host', hrun⟩ := hret n
  exact ⟨host', hrun, recorded_of_uploadFiles hdist hrun⟩

theorem countable_string : Countable String := by
  have hchar : Countable Char :=
    Function.Injective.countable (f := Char.toNat) fun _ _ h => Char.toNat_inj.mp h
  exact Function.Injective.countable (f := String.toList) fun _ _ h => String.toList_inj.mp h

/-- Answers of a host that obliges, on which the containers of `ids` end at every call. -/
theorem exists_obliging {host : Host} (hzero : ∀ path, host.exitCode path = 0)
    (ids : List String) :
    ∃ answers, Obliging answers host ∧ ∀ i, ∀ id ∈ ids, id ∈ (answers i).ended := by
  have hcountable := countable_string
  obtain ⟨names, hnames⟩ := exists_surjective_nat String
  refine ⟨fun i => { ended := ids ++ [names i.unpair.1] }, ⟨fun _ => rfl, fun id i => ?_, hzero⟩,
    fun i id hid => List.mem_append_left _ hid⟩
  obtain ⟨m, hm⟩ := hnames id
  refine ⟨Nat.pair m i, Nat.right_le_pair m i, ?_⟩
  rw [Nat.unpair_pair, hm]
  simp

/-- If a ready sandbox is left, then the upload fails on a host that obliges. -/
theorem exists_not_uploaded {ns cluster comp : String} {host : Host}
    {files : List (String × String)} (hzero : ∀ path, host.exitCode path = 0)
    (hfs : filesToUpload tools ns cluster comp host.hypervisor files ≠ [])
    (hleft : ¬ NoneLeft tools ns cluster comp files host) :
    ∃ answers, Obliging answers host ∧ ¬ Uploaded tools ns cluster comp files answers host := by
  obtain ⟨answers, hobliging, hended⟩ := exists_obliging hzero
    (host.runtime.containers.map RuntimeContainer.id)
  refine ⟨answers, hobliging, ?_⟩
  rintro ⟨k, hupl⟩
  simp only [NoneLeft, NoneReady, not_forall] at hleft
  obtain ⟨s, hs, hready⟩ := hleft
  obtain ⟨k', hrefuses⟩ := refuses_writeFiles hobliging.succeeds hended ns cluster comp hfs 0 host
    ⟨s, by simpa using hready, hs, fun c hc => List.mem_map_of_mem hc⟩
  obtain ⟨host', hrun, -⟩ := hupl k'
  rw [run_uploadFiles] at hrun
  replace hrun := (congrArg (EStateM.run · _) (if_neg hfs)).symm.trans hrun
  obtain ⟨_, host₁, hrun, -⟩ := run_bind_eq_ok.mp hrun
  rw [Nat.add_comm] at hrun
  exact hrefuses k _ _ hrun

/-- The pod of an upload is well formed iff the files that are not up to date have contents with
distinct sums, and no ready sandbox of the same upload is left. -/
theorem wellFormed_iff (tools : Tools) (ns cluster comp : String) {host : Host}
    (hzero : ∀ path, host.exitCode path = 0) {files : List (String × String)}
    (hdist : (files.map Prod.fst).Nodup) :
    WellFormed tools ns cluster comp files host ↔
      ((filesToUpload tools ns cluster comp host.hypervisor files).map
        fun file => tools.md5Sum file.2).Nodup ∧
      (filesToUpload tools ns cluster comp host.hypervisor files = [] ∨
        NoneLeft tools ns cluster comp files host) := by
  rw [← nodup_names_iff]
  constructor
  · intro h
    refine ⟨h.names, or_iff_not_imp_left.mpr fun hfs => ?_⟩
    by_contra hleft
    obtain ⟨answers, hobliging, hfails⟩ := exists_not_uploaded hzero hfs hleft
    exact hfails (h.uploaded answers hobliging)
  · rintro ⟨hnames, hclear⟩
    refine ⟨fun sid => ?_, hnames, fun answers hhost =>
      uploaded hdist hhost hclear hnames⟩
    show ((filesToUpload tools ns cluster comp host.hypervisor files).map
      (uploadContainer tools)).map _ = _
    rw [List.map_map]
    apply List.map_congr_left
    intro file _
    exact writes_uploadContainer tools (filesToUpload tools ns cluster comp host.hypervisor files)
      sid file

end Upload

/-! ### One authority in two places -/

/-- Tools with which sums and texts are the contents themselves. -/
def plainTools : Tools where
  ids := Hypervisor.longerID
  podSum := Pod.name
  sha1Sum := id
  md5Sum := id
  dir := fun _ => "/etc"
  encode := id
  decode := some
  decode_encode := fun _ => rfl

/-- A host without pods, and a hypervisor without recorded files. -/
def newHost : Host where
  runtime := .empty
  issued := []
  started := []
  images := []
  disk := ∅
  hypervisor := Tracked.hypervisorWith ∅
  containers_issued := by simp [Runtime.empty]
  started_issued := by simp

/-- The message of a run that fails. -/
def messageOf : EStateM.Result Fault Host Unit → Option String
  | .error (.error message) _ => some message
  | _ => none

/-- The same certificate at two locations.  The runtime refuses the second container. -/
theorem not_wellFormed_sameContents :
    ¬ WellFormed plainTools "ns" "c" "cp" [("/etc/etcd-ca.crt", "ca"), ("/etc/client-ca.crt", "ca")]
        newHost ∧
      messageOf ((uploadFiles plainTools "ns" "c" "cp"
        [("/etc/etcd-ca.crt", "ca"), ("/etc/client-ca.crt", "ca")]).run
          (newHost.withAnswers (List.replicate 20 {}))) = some "name is reserved" := by
  refine ⟨fun h => absurd h.names ?_, by decide +kernel⟩
  decide +kernel

/-- Two files with different contents. -/
theorem wellFormed_iff_twoContents : ∃ answers, Obliging answers newHost ∧
    Uploaded plainTools "ns" "c" "cp" [("/etc/ca.crt", "ca"), ("/etc/ca.key", "key")] answers
      newHost := by
  have hzero : ∀ path, newHost.exitCode path = 0 := fun _ => rfl
  obtain ⟨answers, hanswers, -⟩ := exists_obliging hzero []
  have hwellFormed := (wellFormed_iff plainTools "ns" "c" "cp" hzero
    (by decide : ([("/etc/ca.crt", "ca"), ("/etc/ca.key", "key")].map Prod.fst).Nodup)).mpr
      ⟨by decide +kernel, .inr fun s hs => by cases hs⟩
  exact ⟨answers, hanswers, hwellFormed.uploaded answers hanswers⟩

end OneInfra.Infra.Host
