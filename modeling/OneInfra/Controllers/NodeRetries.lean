import OneInfra.Controllers.NodeJoin

/-!
# A node that joins again

`Join` of `internal/pkg/node/join.go` stops at the first call that fails, and the next `Join` starts
over.  It finds the key of an earlier one in `join.key`, and the request in the managed cluster.

The key is on the disk before the request is created, and no later `Join` writes it again.  So
the stored request has the texts of the key on the disk, whichever `Join` created it, and the one
that sees the answer can read it (`delivered_to_join`).  The later ones may have other arguments,
and the answer is for those of the `Join` that created the request.
-/

namespace OneInfra.Node

open Lib

/-- How the calls of `readOrGenerateSymmetricKey` end.  `random` is the text of sixteen random
bytes.  A write that fails leaves the file as it likes. -/
structure KeyOutcomes where
  stat : Option String := none
  random : Except String String
  mkdirAll : Option String := none
  writeFile : Option (String × Option String) := none
  readFile : Option String := none

/-- `readOrGenerateSymmetricKey`.  The state is what `join.key` holds. -/
def readOrGenerateSymmetricKey (outcomes : KeyOutcomes) :
    EStateM String (Option String) String := fun joinKey =>
  match joinKey with
  | some symmetricKey =>
    match outcomes.readFile with
    | some message => .error message joinKey
    | none => .ok symmetricKey joinKey
  | none =>
    match outcomes.stat, outcomes.random, outcomes.mkdirAll, outcomes.writeFile with
    -- another error than that there is no file: it is read, which fails
    | some message, _, _, _ => .error message none
    | none, .error message, _, _ => .error message none
    | none, .ok _, some message, _ => .error message none
    | none, .ok _, none, some (message, left) => .error message left
    | none, .ok symmetricKey, none, none => .ok symmetricKey (some symmetricKey)

/-- The key that is returned is the one on the disk, and a key on the disk stays. -/
theorem readOrGenerateSymmetricKey_cases (outcomes : KeyOutcomes) (joinKey : Option String) :
    (∀ sk, joinKey = some sk →
      finalState ((readOrGenerateSymmetricKey outcomes).run joinKey) = some sk) ∧
      ∀ sk joinKey', (readOrGenerateSymmetricKey outcomes).run joinKey =
        .ok sk joinKey' → joinKey' = some sk := by
  change (∀ sk, _ → finalState (readOrGenerateSymmetricKey outcomes joinKey) = _) ∧
    ∀ sk joinKey', readOrGenerateSymmetricKey outcomes joinKey = _ → _
  unfold readOrGenerateSymmetricKey
  cases joinKey with
  | some sk => cases outcomes.readFile <;> simp
  | none => dsimp only; split <;> simp

end OneInfra.Node

namespace OneInfra.Controllers.JoinSystem

open Lib

/-- The managed cluster, the key file of the node, and the key that its current `Join` has. -/
structure Joining where
  system : JoinSystem
  joinKey : Option String
  symmetricKey : Option String

/-- What happens: something that is not of the node, or a step of a `Join`. -/
inductive JoiningEvent
  | protocol (event : ProtocolEvent)
  | readsKey (outcomes : Node.KeyOutcomes)
  | creates (args : Node.JoinArguments) (random : Node.JoinRandom)

variable (env : Environment) (prims : CryptoPrimitives)

/-- One event.  A `Join` starts with `readsKey`, wherever the last one stopped.  That a request
exists already is no error. -/
def joiningStep (joinPublicKey : String) (joining : Joining) : JoiningEvent → Joining
  | .protocol event =>
    { joining with system := joining.system.protocolStep env prims.cipher event }
  | .readsKey outcomes =>
    match (Node.readOrGenerateSymmetricKey outcomes).run joining.joinKey with
    | .ok symmetricKey joinKey => ⟨joining.system, joinKey, some symmetricKey⟩
    | .error _ joinKey => ⟨joining.system, joinKey, none⟩
  | .creates args random =>
    match joining.symmetricKey with
    | none => joining
    | some symmetricKey =>
      match Node.createAndWaitForJoinRequest prims random args joinPublicKey symmetricKey with
      | .ok request => { joining with system := joining.system.create request }
      | .error _ => { joining with symmetricKey := none }

/-- The join key stays, nobody else creates a request under the name of the node, and every `Join`
of the node has arguments that are `given`. -/
def OwnName (nodename : String) (given : Node.JoinArguments → Prop) (joining : Joining) :
    JoiningEvent → Prop
  | .protocol event => joining.system.FixedJoinKey event ∧
      ∀ request, event = .create request → request.name ≠ nodename
  | .readsKey _ => True
  | .creates args _ => given args ∧ args.nodename = nodename

section Invariant

variable {env prims} {nodename : String} {given : Node.JoinArguments → Prop} {joinKey : KeyPair}
  {joining : Joining}

/-- The requests have the same names. -/
abbrev SameNames (run run' : Cluster.JoinRun) : Prop :=
  run'.requests.map V1alpha1.NodeJoinRequest.name = run.requests.map V1alpha1.NodeJoinRequest.name

theorem sameNames_reconcileNodeJoinRequest (outcomes : JoinOutcomes)
    (item : V1alpha1.NodeJoinRequest) :
    Guarantees SameNames (Cluster.reconcileNodeJoinRequest env prims.cipher outcomes item) := by
  intro run
  change SameNames run (finalState (Cluster.reconcileNodeJoinRequest _ _ _ _ run))
  unfold SameNames Cluster.reconcileNodeJoinRequest
  split
  · rfl
  · split_ifs
    · rfl
    · split
      · rfl
      · rfl
      · rw [finalState_ok, Cluster.putNodeJoinRequest_eq]
        split_ifs
        · exact map_modifyKey fun _ => rfl
        · rfl

theorem names_reconcile (outcomes : JoinOutcomes) (system : JoinSystem) :
    (system.reconcile env prims.cipher outcomes).requests.map V1alpha1.NodeJoinRequest.name =
      system.requests.map V1alpha1.NodeJoinRequest.name := by
  rcases reconcile_requests outcomes system with hsame | ⟨cluster, -, hreqs⟩
  · rw [hsame]
  · rw [hreqs, reconciled]
    obtain ⟨cluster', -, hrun | hrun⟩ := Cluster.reconcileNodeJoinRequests_cases env prims.cipher
      outcomes ⟨cluster, system.requests, system.answers⟩
    · rw [hrun]
    · have hloop : Guarantees SameNames
          (system.requests.forM (Cluster.reconcileNodeJoinRequest env prims.cipher outcomes)) :=
        .forM (fun _ => rfl) (fun _ _ _ h h' => Eq.trans h' h) fun item _ =>
          sameNames_reconcileNodeJoinRequest outcomes item
      rw [hrun]
      exact hloop _

/-- There is no request under the name of the node, or it was made with the key on the disk. -/
def Requested (env : Environment) (prims : CryptoPrimitives) (nodename : String)
    (given : Node.JoinArguments → Prop) (joinKey : KeyPair) (disk : Option String)
    (system : JoinSystem) : Prop :=
  nodename ∉ system.requests.map V1alpha1.NodeJoinRequest.name ∨
    ∃ args symmetricKey random start request, given args ∧ args.nodename = nodename ∧
      disk = some symmetricKey ∧
      Node.createAndWaitForJoinRequest prims random args joinKey.publicKey symmetricKey =
        .ok request ∧
      Progress env prims joinKey args symmetricKey start request system

/-- What holds between the events. -/
structure JoiningInv (env : Environment) (prims : CryptoPrimitives) (nodename : String)
    (given : Node.JoinArguments → Prop) (joinKey : KeyPair) (joining : Joining) : Prop where
  published : newKeyPairFromv1alpha1 env joining.system.cluster.spec.joinKey = .ok (some joinKey)
  key : ∀ symmetricKey, joining.symmetricKey = some symmetricKey →
    joining.joinKey = some symmetricKey
  request : Requested env prims nodename given joinKey joining.joinKey joining.system

/-- Others do not change what the node has. -/
theorem Requested.protocolStep {disk : Option String} {system : JoinSystem}
    (h : Requested env prims nodename given joinKey disk system) (hpair : prims.IsPair joinKey)
    {event : ProtocolEvent} (hfixed : FixedJoinKey system event)
    (hown : ∀ request, event = .create request → request.name ≠ nodename) :
    Requested env prims nodename given joinKey disk
      (system.protocolStep env prims.cipher event) := by
  rcases h with hnone | ⟨args, key, random, start, request, hgiven, hname, hkey, hreq, hprogress⟩
  · left
    cases event with
    | create other =>
      show nodename ∉ (system.create other).requests.map _
      unfold JoinSystem.create
      split_ifs
      · exact hnone
      · rw [List.map_append, List.mem_append, not_or]
        exact ⟨hnone, fun hmem => hown other rfl (List.mem_singleton.mp hmem).symm⟩
    | update cluster => exact hnone
    | reconcile outcomes =>
      show nodename ∉ (system.reconcile env prims.cipher outcomes).requests.map _
      rw [names_reconcile]
      exact hnone
  · obtain ⟨-, -, henc, hsent⟩ := Node.sent_of_createAndWaitForJoinRequest hreq
    have hsize := SymmetricKey.validSize_of_decrypt_eq_ok hsent.apiServerEndpoint
    exact .inr ⟨args, key, random, start, request, hgiven, hname, hkey, hreq,
      hprogress.step hpair hsize henc hsent event hfixed⟩

/-- The node creates its request, or it is there already. -/
theorem Requested.create {system : JoinSystem} {key : String}
    (h : Requested env prims nodename given joinKey (some key) system)
    (hpublished : newKeyPairFromv1alpha1 env system.cluster.spec.joinKey = .ok (some joinKey))
    {args : Node.JoinArguments} (hgiven : given args) (hnode : args.nodename = nodename)
    {random : Node.JoinRandom} {request : V1alpha1.NodeJoinRequest}
    (hreq : Node.createAndWaitForJoinRequest prims random args joinKey.publicKey key =
      .ok request) :
    Requested env prims nodename given joinKey (some key) (system.create request) := by
  subst hnode
  obtain ⟨hname, hstat, -⟩ := Node.sent_of_createAndWaitForJoinRequest hreq
  rcases h with hnone | h
  · have hnew : system.create request =
        { system with requests := system.requests ++ [request] } := by
      rw [JoinSystem.create, if_neg (hname ▸ hnone), ← hstat]
    rw [hnew]
    refine .inr ⟨args, key, random, _, request, hgiven, rfl, rfl, hreq, .refl, hpublished,
      request, ?_, rfl, .inl hstat⟩
    rw [← hname]
    exact onlyAt_concat (hname ▸ hnone)
  · obtain ⟨_, _, _, _, _, -, hother, -, -, ⟨-, -, stored, honly, -⟩⟩ := id h
    have htaken : request.name ∈ system.requests.map V1alpha1.NodeJoinRequest.name :=
      List.mem_map.mpr ⟨stored, honly.mem.1, (honly.mem.2.trans hother).trans hname.symm⟩
    rw [JoinSystem.create, if_pos htaken]
    exact .inr h

theorem JoiningInv.step (h : JoiningInv env prims nodename given joinKey joining)
    (hpair : prims.IsPair joinKey) {event : JoiningEvent}
    (hown : OwnName nodename given joining event) :
    JoiningInv env prims nodename given joinKey
      (joiningStep env prims joinKey.publicKey joining event) := by
  cases event with
  | protocol event =>
    refine ⟨?_, h.key, h.request.protocolStep hpair hown.1 hown.2⟩
    exact (congrArg _ (joinKey_protocolStep hown.1)).trans h.published
  | readsKey outcomes =>
    obtain ⟨hstays, hret⟩ :=
      Node.readOrGenerateSymmetricKey_cases outcomes joining.joinKey
    have hreq : Requested env prims nodename given joinKey
        (finalState ((Node.readOrGenerateSymmetricKey outcomes).run joining.joinKey))
        joining.system := by
      rcases h.request with hnone | ⟨args, sk, random, start, request, hgiven, hname, hkey, hrest⟩
      · exact .inl hnone
      · exact .inr ⟨args, sk, random, start, request, hgiven, hname, hstays sk hkey, hrest⟩
    dsimp only [joiningStep]
    cases hrun : (Node.readOrGenerateSymmetricKey outcomes).run joining.joinKey with
    | ok sk disk =>
      rw [hrun] at hreq
      refine ⟨h.published, fun _ hsome => ?_, hreq⟩
      cases hsome
      exact hret sk disk hrun
    | error message disk =>
      rw [hrun] at hreq
      exact ⟨h.published, fun _ hnone => (by cases hnone), hreq⟩
  | creates args random =>
    dsimp only [joiningStep]
    cases hattempt : joining.symmetricKey with
    | none => exact h
    | some sk =>
      have hkey := h.key sk hattempt
      dsimp only
      cases hreq : Node.createAndWaitForJoinRequest prims random args joinKey.publicKey
          sk with
      | error message => exact ⟨h.published, fun _ hnone => (by cases hnone), h.request⟩
      | ok request =>
        refine ⟨?_, hattempt ▸ h.key, ?_⟩
        · show newKeyPairFromv1alpha1 env (joining.system.create request).cluster.spec.joinKey = _
          unfold JoinSystem.create
          split_ifs <;> exact h.published
        · dsimp only
          rw [hkey]
          exact Requested.create (hkey ▸ h.request) h.published hown.1 hown.2 hreq

end Invariant

end OneInfra.Controllers.JoinSystem
