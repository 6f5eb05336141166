import OneInfra.Cluster.JoinOutcome
import OneInfra.Controllers.NodeJoinRequestReconciler

/-!
# Hostile node join requests

Anyone with a join token can create requests with arbitrary texts.  One run
works on all of them in one loop.

A text that decodes to fewer bytes than a nonce makes `SymmetricKey.Decrypt`
panic, and with it the run.  A request with such a text is stopping
(`Stops`) if the run gets as far as the text.  And every request with a key that is
read takes a VPN address before its texts are decrypted, whether or not they open;
if the VPN has no address left for a request, then it is not answered (`InReach`).
These are the only ways in which a request can stop the others
(`reconcileNodeJoinRequests_iff`).
-/

namespace OneInfra.Controllers

open Lib Conditions SymmetricKey Cluster

namespace HostileRequests

/-- The request waits, its key is read and has a valid size, and one of its
texts is too short while the texts before it open. -/
def Stops (prims : CryptoPrimitives) (joinKey : Option KeyPair)
    (request : V1alpha1.NodeJoinRequest) : Prop :=
  ¬ IsIssued request ∧ ∃ symmetricKey,
    NodeJoinRequest.importSymmetricKey prims.cipher joinKey request.spec.symmetricKey =
      .ok symmetricKey ∧ ValidSize symmetricKey ∧
    (request.spec.apiServerEndpoint ≠ "" ∧ Short prims request.spec.apiServerEndpoint ∨
      (request.spec.apiServerEndpoint = "" ∨
        Opens prims symmetricKey request.spec.apiServerEndpoint) ∧
      ∃ before extraSAN after, request.spec.extraSANs = before ++ extraSAN :: after ∧
        (∀ text ∈ before, Opens prims symmetricKey text) ∧ Short prims extraSAN)

/-- The key of the request is read and has a valid size, and its texts open. -/
def WellFormed (prims : CryptoPrimitives) (joinKey : Option KeyPair)
    (request : V1alpha1.NodeJoinRequest) : Prop :=
  ∃ symmetricKey,
    NodeJoinRequest.importSymmetricKey prims.cipher joinKey request.spec.symmetricKey =
      .ok symmetricKey ∧ ValidSize symmetricKey ∧
    (request.spec.apiServerEndpoint = "" ∨
      Opens prims symmetricKey request.spec.apiServerEndpoint) ∧
    ∀ text ∈ request.spec.extraSANs, Opens prims symmetricKey text

/-- The work on the request needs a new VPN address: it waits, its key is read and
has a valid size, and the cluster has no peer for it. -/
def asks (prims : CryptoPrimitives) (c : Cluster) (request : V1alpha1.NodeJoinRequest) : Bool :=
  !decide (IsIssued request) && (c.vpnPeer (workerPeerName request.name)).isNone &&
    match NodeJoinRequest.importSymmetricKey prims.cipher c.joinKey request.spec.symmetricKey with
    | .ok symmetricKey => decide (ValidSize symmetricKey)
    | .error _ => false

/-- The VPN has addresses for that many peers more. -/
def HasAddresses (net : NetText) (c : Cluster) (count : Nat) : Prop :=
  ∀ peers : VPNPeerMap, c.vpnPeers.keys.card ≤ peers.keys.card →
    peers.keys.card < c.vpnPeers.keys.card + count →
    ∃ vpnIP, requestVPNIP net { c with vpnPeers := peers } = .ok vpnIP

/-- The VPN has an address for the request after those for the requests before it. -/
def InReach (net : NetText) (prims : CryptoPrimitives) (c : Cluster)
    (before : List V1alpha1.NodeJoinRequest) (request : V1alpha1.NodeJoinRequest) : Prop :=
  c.vpn.enabled = true → c.vpnPeer (workerPeerName request.name) = none →
    HasAddresses net c (before.countP (asks prims c) + 1)

/-- No request that gets an address is stopping, and every well formed one gets an
address. -/
def Unhindered (net : NetText) (prims : CryptoPrimitives) (c : Cluster)
    (requests : List V1alpha1.NodeJoinRequest) : Prop :=
  ∀ before request after, requests = before ++ request :: after →
    (InReach net prims c before request → ¬ Stops prims c.joinKey request) ∧
    (WellFormed prims c.joinKey request → ¬ IsIssued request → InReach net prims c before request)

/-- A request without its VPN address. -/
def withoutAddress (request : V1alpha1.NodeJoinRequest) : V1alpha1.NodeJoinRequest :=
  { request with status := { request.status with vpn := request.status.vpn.map hideAddress } }

/-- The requests after a run. -/
def requestsAfter (env : Environment) (prims : CryptoPrimitives) (outcomes : JoinOutcomes)
    (run : JoinRun) : List V1alpha1.NodeJoinRequest :=
  (finalState ((reconcileNodeJoinRequests env prims.cipher outcomes).run run)).requests

/-- The run issues the request, and it is the same but for the VPN address as
after a run on this request alone. -/
def IssuedAsAlone (env : Environment) (prims : CryptoPrimitives) (outcomes : JoinOutcomes)
    (run : JoinRun) (request : V1alpha1.NodeJoinRequest) : Prop :=
  ∃ stored ∈ requestsAfter env prims outcomes run,
    ∃ alone ∈ requestsAfter env prims outcomes { run with requests := [request] },
      stored.name = request.name ∧ IsIssued stored ∧ IsIssued alone ∧
      withoutAddress stored = withoutAddress alone

variable {env : Environment} {prims : CryptoPrimitives} {outcomes : JoinOutcomes}
  {joinKey : Option KeyPair} {item : V1alpha1.NodeJoinRequest} {r : NodeJoinRequest} {c : Cluster}

/-! ## The texts of one request -/

theorem exceptPanics_endpointText_iff (hr : NodeJoinRequest.IsImport prims.cipher item joinKey r)
    (hkey : ValidSize r.symmetricKey) :
    ExceptPanics (endpointText prims.cipher c r) ↔
      item.spec.apiServerEndpoint ≠ "" ∧ Short prims item.spec.apiServerEndpoint := by
  unfold endpointText
  rw [hr.apiServerEndpoint]
  split_ifs with hempty
  · refine iff_of_false ?_ fun h => h.1 hempty
    rintro ⟨message, h⟩
    cases h
  · show ExceptPanics (SymmetricKey.decrypt prims _ _) ↔ _
    rw [exceptPanics_decrypt_iff]
    exact ⟨fun h => ⟨hempty, h.2⟩, fun h => ⟨hkey, h.2⟩⟩

theorem exists_endpointText_iff (hr : NodeJoinRequest.IsImport prims.cipher item joinKey r)
    (hkey : ValidSize r.symmetricKey) :
    (∃ text, endpointText prims.cipher c r = .ok text) ↔
      item.spec.apiServerEndpoint = "" ∨
        Opens prims r.symmetricKey item.spec.apiServerEndpoint := by
  unfold endpointText
  rw [hr.apiServerEndpoint]
  split_ifs with hempty
  · exact iff_of_true ⟨_, rfl⟩ (.inl hempty)
  · show (∃ text, SymmetricKey.decrypt prims _ _ = .ok text) ↔ _
    rw [exists_decrypt_eq_ok_iff]
    exact ⟨fun h => .inr h.2, fun h => ⟨hkey, h.resolve_left hempty⟩⟩

theorem exceptPanics_sanTexts_iff (hr : NodeJoinRequest.IsImport prims.cipher item joinKey r)
    (hkey : ValidSize r.symmetricKey) :
    ExceptPanics (sanTexts prims.cipher r) ↔
      ∃ before extraSAN after, item.spec.extraSANs = before ++ extraSAN :: after ∧
        (∀ text ∈ before, Opens prims r.symmetricKey text) ∧ Short prims extraSAN := by
  have hopens : ∀ text, (∃ value, prims.cipher.decrypt r.symmetricKey text = .ok value) ↔
      Opens prims r.symmetricKey text := by
    intro text
    show (∃ value, SymmetricKey.decrypt prims _ _ = .ok value) ↔ _
    rw [exists_decrypt_eq_ok_iff]
    exact and_iff_right hkey
  have hshort : ∀ text, ExceptPanics (prims.cipher.decrypt r.symmetricKey text) ↔
      Short prims text := by
    intro text
    show ExceptPanics (SymmetricKey.decrypt prims _ _) ↔ _
    rw [exceptPanics_decrypt_iff]
    exact and_iff_right hkey
  simp only [sanTexts, exceptPanics_mapM_iff, hopens, hshort, hr.extraSANs]

/-- The texts of a request panic exactly if it is stopping. -/
theorem exceptPanics_requestTexts_iff (hr : NodeJoinRequest.IsImport prims.cipher item joinKey r)
    (hkey : ValidSize r.symmetricKey) (hwait : ¬ IsIssued item) :
    ExceptPanics (requestTexts prims.cipher c r) ↔ Stops prims joinKey item := by
  have hepPanics := exceptPanics_endpointText_iff (c := c) hr hkey
  have hepOpens := exists_endpointText_iff (c := c) hr hkey
  have hsans := exceptPanics_sanTexts_iff hr hkey
  have hstops : Stops prims joinKey item ↔
      ExceptPanics (endpointText prims.cipher c r) ∨
        (∃ text, endpointText prims.cipher c r = .ok text) ∧
          ExceptPanics (sanTexts prims.cipher r) := by
    rw [hepPanics, hepOpens, hsans]
    constructor
    · rintro ⟨-, key, hread, -, htexts⟩
      obtain rfl : r.symmetricKey = key :=
        Except.ok.inj (hr.symmetricKey.symm.trans hread)
      exact htexts
    · exact fun htexts => ⟨hwait, r.symmetricKey, hr.symmetricKey, hkey, htexts⟩
  rw [hstops]
  unfold requestTexts
  cases endpointText prims.cipher c r with
  | error fault => simp [ExceptPanics, bind, Except.bind]
  | ok ep =>
    cases sanTexts prims.cipher r with
    | error fault => simp [ExceptPanics, bind, Except.bind]
    | ok extraSANs => simp [ExceptPanics, bind, Except.bind, pure, Except.pure]

/-- The texts of a well formed request open. -/
theorem WellFormed.requestTexts (hwell : WellFormed prims joinKey item)
    (hr : NodeJoinRequest.IsImport prims.cipher item joinKey r) (c : Cluster) :
    ValidSize r.symmetricKey ∧ ∃ texts, requestTexts prims.cipher c r = .ok texts := by
  obtain ⟨key, hread, hkey, hep, hsans⟩ := hwell
  obtain rfl : r.symmetricKey = key := Except.ok.inj (hr.symmetricKey.symm.trans hread)
  obtain ⟨ep, hepText⟩ :=
    (exists_endpointText_iff (c := c) hr hkey).mpr hep
  obtain ⟨extraSANs, hsanTexts⟩ : ∃ extraSANs, sanTexts prims.cipher r = .ok extraSANs := by
    refine exists_mapM_eq_ok_iff.mpr fun text htext =>
      exists_decrypt_eq_ok_iff.mpr ⟨hkey, hsans text ?_⟩
    rw [← hr.extraSANs]
    exact htext
  refine ⟨hkey, (ep, extraSANs), ?_⟩
  rw [Cluster.requestTexts, hepText, hsanTexts]
  rfl

/-! ## One request -/

/-- The work on a request: it is skipped, or it is answered, fails or panics as the
fill functions do. -/
theorem reconcileNodeJoinRequest_cases (env : Environment) (cipher : Cipher)
    (outcomes : JoinOutcomes) (item : V1alpha1.NodeJoinRequest) (run : JoinRun) :
    ((∀ key, NodeJoinRequest.importSymmetricKey cipher run.cluster.joinKey
          item.spec.symmetricKey ≠ .ok key) ∨ IsIssued item) ∧
      (reconcileNodeJoinRequest env cipher outcomes item).run run = .ok () run ∨
    ¬ IsIssued item ∧ ∃ r, NodeJoinRequest.IsImport cipher item run.cluster.joinKey r ∧
      ((∃ r' c', (fillNodeJoinRequest env cipher outcomes r).run run.cluster = .ok r' c' ∧
          (reconcileNodeJoinRequest env cipher outcomes item).run run =
            .ok () (putNodeJoinRequest outcomes r' { run with cluster := c' })) ∨
        (∃ message c', (fillNodeJoinRequest env cipher outcomes r).run run.cluster =
            .error (.error message) c' ∧
          (reconcileNodeJoinRequest env cipher outcomes item).run run =
            .ok () { run with cluster := c' }) ∨
        ∃ message c', (fillNodeJoinRequest env cipher outcomes r).run run.cluster =
            .error (.panic message) c' ∧
          (reconcileNodeJoinRequest env cipher outcomes item).run run =
            .error (.panic message) { run with cluster := c' }) := by
  show _ ∧ reconcileNodeJoinRequest env cipher outcomes item run = _ ∨ _
  cases himp : NodeJoinRequest.newNodeJoinRequestFromv1alpha1 cipher item
      run.cluster.joinKey with
  | error message =>
    refine .inl ⟨.inl fun key hread => ?_, by rw [reconcileNodeJoinRequest, himp]⟩
    rw [NodeJoinRequest.newNodeJoinRequestFromv1alpha1, hread] at himp
    cases himp
  | ok r =>
    have hr := NodeJoinRequest.isImport_of_ok himp
    by_cases hissued : isCondition r.conditions NodeJoinRequest.issued .true = true
    · refine .inl ⟨.inr (show isCondition _ _ _ = true from hr.conditions ▸ hissued), ?_⟩
      rw [reconcileNodeJoinRequest, himp]
      exact if_pos hissued
    · refine .inr ⟨fun h => hissued (hr.conditions ▸ h), r, hr, ?_⟩
      have hrun := reconcileNodeJoinRequest.eq_1 env cipher outcomes item run
      rw [himp] at hrun
      replace hrun := hrun.trans (if_neg hissued)
      rcases hfill : (fillNodeJoinRequest env cipher outcomes r).run run.cluster with
        ⟨r', c'⟩ | ⟨message | message, c'⟩ <;> rw [hfill] at hrun
      · exact .inl ⟨r', c', rfl, hrun⟩
      · exact .inr (.inl ⟨message, c', rfl, hrun⟩)
      · exact .inr (.inr ⟨message, c', rfl, hrun⟩)

/-- A request panics exactly if it gets an address and is stopping. -/
theorem panics_reconcileNodeJoinRequest_iff (hsucc : outcomes.Succeed) {run : JoinRun}
    (hcompl : Complete env.net run.cluster) :
    Panics ((reconcileNodeJoinRequest env prims.cipher outcomes item).run run) ↔
      HasAddress env.net run.cluster item.name ∧ Stops prims run.cluster.joinKey item := by
  rcases reconcileNodeJoinRequest_cases env prims.cipher outcomes item run with
    ⟨hskipped, hrun⟩ | ⟨hwait, r, hr, hcases⟩
  · rw [hrun]
    refine iff_of_false (not_panics_ok _ _) ?_
    rintro ⟨-, hwait, key, hread, -⟩
    exact hskipped.elim (fun h => h key hread) hwait
  have hfill : Panics ((fillNodeJoinRequest env prims.cipher outcomes r).run run.cluster) ↔
      HasAddress env.net run.cluster item.name ∧ Stops prims run.cluster.joinKey item := by
    by_cases hkey : ValidSize r.symmetricKey
    · rw [panics_fillNodeJoinRequest_iff hsucc hcompl hkey,
        exceptPanics_requestTexts_iff hr hkey hwait, hr.name]
    · obtain ⟨message, hrun⟩ :=
        fillNodeJoinRequest_of_not_validSize env prims outcomes hkey run.cluster
      rw [hrun]
      refine iff_of_false (not_panics_error _ _) ?_
      rintro ⟨-, -, key, hread, hvalid, -⟩
      obtain rfl : r.symmetricKey = key :=
        Except.ok.inj (hr.symmetricKey.symm.trans hread)
      exact hkey hvalid
  rw [← hfill]
  rcases hcases with ⟨r', c', h, hrun⟩ | ⟨message, c', h, hrun⟩ | ⟨message, c', h, hrun⟩
  · rw [h, hrun]
    exact iff_of_false (not_panics_ok _ _) (not_panics_ok _ _)
  · rw [h, hrun]
    exact iff_of_false (not_panics_ok _ _) (not_panics_error _ _)
  · rw [h, hrun]
    exact iff_of_true ⟨_, _, rfl⟩ ⟨_, _, rfl⟩

/-- A request ends with a panic or without an error. -/
theorem returns_reconcileNodeJoinRequest (cipher : Cipher) (item : V1alpha1.NodeJoinRequest)
    (run : JoinRun)
    (hpanics : ¬ Panics ((reconcileNodeJoinRequest env cipher outcomes item).run run)) :
    ∃ run', (reconcileNodeJoinRequest env cipher outcomes item).run run = .ok () run' := by
  rcases reconcileNodeJoinRequest_cases env cipher outcomes item run with
    ⟨-, hrun⟩ | ⟨-, r, -, ⟨r', c', -, hrun⟩ | ⟨message, c', -, hrun⟩ | ⟨message, c', -, hrun⟩⟩
  · exact ⟨_, hrun⟩
  · exact ⟨_, hrun⟩
  · exact ⟨_, hrun⟩
  · exact absurd ⟨_, _, hrun⟩ hpanics

/-- What the work on the request `name` leaves of the others. -/
structure Touches (name : String) (run run' : JoinRun) : Prop where
  cluster : Generates name run.cluster run'.cluster
  requests : ∀ other stored, other ≠ name →
    OnlyAt V1alpha1.NodeJoinRequest.name other run.requests stored →
    OnlyAt V1alpha1.NodeJoinRequest.name other run'.requests stored

theorem touches_reconcileNodeJoinRequest (cipher : Cipher) (item : V1alpha1.NodeJoinRequest) :
    Guarantees (Touches item.name) (reconcileNodeJoinRequest env cipher outcomes item) := by
  intro run
  rcases reconcileNodeJoinRequest_cases env cipher outcomes item run with
    ⟨-, hrun⟩ | ⟨-, r, hr, hcases⟩
  · rw [hrun]
    exact ⟨.refl _, fun _ _ _ => id⟩
  have hgen := generates_fillNodeJoinRequest env cipher outcomes r run.cluster
  rw [hr.name] at hgen
  rcases hcases with ⟨r', c', hfill, hrun⟩ | ⟨message, c', hfill, hrun⟩ | ⟨message, c', hfill, hrun⟩
  · rw [hfill] at hgen
    have hname : r'.name = item.name :=
      (fillNodeJoinRequest_ok env cipher outcomes hfill).1.name.trans hr.name
    rw [hrun, finalState_ok, putNodeJoinRequest_eq]
    split_ifs with hput
    · refine ⟨hgen, fun other stored hne honly => ?_⟩
      rw [hname]
      exact honly.modifyKey_ne hne.symm fun _ => rfl
    · exact ⟨hgen, fun _ _ _ => id⟩
  · rw [hfill] at hgen
    rw [hrun]
    exact ⟨hgen, fun _ _ _ => id⟩
  · rw [hfill] at hgen
    rw [hrun]
    exact ⟨hgen, fun _ _ _ => id⟩

/-- Nothing happens for a request that gets no address, was answered, or whose key is
not read or has another size. -/
theorem unchanged_reconcileNodeJoinRequest (hsucc : outcomes.Succeed) {run : JoinRun}
    (hcompl : Complete env.net run.cluster)
    (hidle : HasAddress env.net run.cluster item.name → ¬ IsIssued item → ∀ sk,
      NodeJoinRequest.importSymmetricKey prims.cipher run.cluster.joinKey item.spec.symmetricKey =
        .ok sk → ¬ ValidSize sk) :
    (reconcileNodeJoinRequest env prims.cipher outcomes item).run run = .ok () run := by
  rcases reconcileNodeJoinRequest_cases env prims.cipher outcomes item run with
    ⟨-, hrun⟩ | ⟨hwait, r, hr, hcases⟩
  · exact hrun
  obtain ⟨message, hfill⟩ : ∃ message, (fillNodeJoinRequest env prims.cipher outcomes r).run
      run.cluster = .error (.error message) run.cluster := by
    by_cases hkey : ValidSize r.symmetricKey
    · refine fillNodeJoinRequest_of_not_hasAddress hsucc hcompl (fun haddr => ?_) hkey
      exact hidle (hr.name ▸ haddr) hwait _ hr.symmetricKey hkey
    · exact fillNodeJoinRequest_of_not_validSize env prims outcomes hkey run.cluster
  rcases hcases with ⟨r', c', h, hrun⟩ | ⟨message, c', h, hrun⟩ | ⟨message, c', h, hrun⟩
  · cases hfill.symm.trans h
  · cases hfill.symm.trans h
    exact hrun
  · cases hfill.symm.trans h

/-! ## The addresses -/

theorem asks_iff : asks prims c item = true ↔
    ¬ IsIssued item ∧ c.vpnPeer (workerPeerName item.name) = none ∧ ∃ key,
      NodeJoinRequest.importSymmetricKey prims.cipher c.joinKey item.spec.symmetricKey =
        .ok key ∧ ValidSize key := by
  unfold asks
  cases NodeJoinRequest.importSymmetricKey prims.cipher c.joinKey item.spec.symmetricKey with
  | error message => simp
  | ok key => simp [and_assoc]

/-- A request that asks for an address that is there has a peer after the work on
it. -/
theorem exists_vpnPeer_of_asks (hsucc : outcomes.Succeed) {run run' : JoinRun}
    (hcompl : Complete env.net run.cluster) (henb : run.cluster.vpn.enabled = true)
    (hasks : asks prims run.cluster item = true)
    (hip : ∃ vpnIP, run.cluster.requestVPNIP env.net = .ok vpnIP)
    (hrun : (reconcileNodeJoinRequest env prims.cipher outcomes item).run run = .ok () run') :
    ∃ vpnPeer, run'.cluster.vpnPeer (workerPeerName item.name) = some vpnPeer := by
  obtain ⟨hwait, -, key, hread, hkey⟩ := asks_iff.mp hasks
  rcases reconcileNodeJoinRequest_cases env prims.cipher outcomes item run with
    ⟨hskipped, -⟩ | ⟨-, r, hr, hcases⟩
  · exact absurd (hskipped.resolve_left fun h => h key hread) hwait
  obtain rfl : r.symmetricKey = key := Except.ok.inj (hr.symmetricKey.symm.trans hread)
  have hpeer : ∃ vpnPeer, (finalState ((fillNodeJoinRequest env prims.cipher outcomes r).run
      run.cluster)).vpnPeer (workerPeerName r.name) = some vpnPeer :=
    exists_vpnPeer_fillNodeJoinRequest hsucc hcompl henb (fun _ _ => hip) hkey
  rw [hr.name] at hpeer
  rcases hcases with ⟨r', c', h, hrun'⟩ | ⟨message, c', h, hrun'⟩ | ⟨message, c', h, hrun'⟩
  · rw [h] at hpeer
    cases hrun.symm.trans hrun'
    rw [putNodeJoinRequest_eq]
    split_ifs
    · exact hpeer
    · exact hpeer
  · rw [h] at hpeer
    cases hrun.symm.trans hrun'
    exact hpeer
  · cases hrun.symm.trans hrun'

/-- The peers after the work on a request: one more if it asks for an address and one
is there. -/
theorem vpnPeers_reconcileNodeJoinRequest (hsucc : outcomes.Succeed) {run run' : JoinRun}
    (hcompl : Complete env.net run.cluster) (henb : run.cluster.vpn.enabled = true)
    (hrun : (reconcileNodeJoinRequest env prims.cipher outcomes item).run run = .ok () run') :
    (asks prims run.cluster item = true ∧ (∃ vpnIP, run.cluster.requestVPNIP env.net = .ok vpnIP) ∧
      run'.cluster.vpnPeers.keys.card = run.cluster.vpnPeers.keys.card + 1) ∨
    (asks prims run.cluster item = true →
        ¬ ∃ vpnIP, run.cluster.requestVPNIP env.net = .ok vpnIP) ∧
      run'.cluster.vpnPeers.keys.card = run.cluster.vpnPeers.keys.card := by
  have hgen := ((touches_reconcileNodeJoinRequest prims.cipher item).of_run hrun).cluster
  by_cases hasks : asks prims run.cluster item = true →
      ¬ ∃ vpnIP, run.cluster.requestVPNIP env.net = .ok vpnIP
  · refine .inr ⟨hasks, ?_⟩
    cases hpeer : run.cluster.vpnPeer (workerPeerName item.name) with
    | some vpnPeer => rw [hgen.vpnPeers_of_isSome (by rw [hpeer]; rfl)]
    | none =>
      have hsame : (reconcileNodeJoinRequest env prims.cipher outcomes item).run run = .ok () run :=
        unchanged_reconcileNodeJoinRequest hsucc hcompl
          fun haddr hwait key hread hkey =>
            hasks (asks_iff.mpr ⟨hwait, hpeer, key, hread, hkey⟩)
              (haddr henb hpeer)
      cases hrun.symm.trans hsame
      rfl
  · rw [Classical.not_imp, not_not] at hasks
    obtain ⟨vpnPeer, hpeer⟩ := exists_vpnPeer_of_asks hsucc hcompl henb hasks.1 hasks.2
      hrun
    obtain ⟨-, hnone, -⟩ := asks_iff.mp hasks.1
    refine .inl ⟨hasks.1, hasks.2, ?_⟩
    rcases hgen.vpnPeers with hsame | ⟨-, vpnPeer, hinsert⟩
    · rw [Cluster.vpnPeer, hsame] at hpeer
      cases hnone.symm.trans hpeer
    · rw [hinsert, VPNPeerMap.card_keys_insert hnone]

/-- The addresses that the requests before have left: as many as asked for one have
got it, or one of them found none. -/
def Spent (net : NetText) (c d : Cluster) (count : Nat) : Prop :=
  HasAddresses net c count ∧ d.vpnPeers.keys.card = c.vpnPeers.keys.card + count ∨
  ∃ taken < count, d.vpnPeers.keys.card = c.vpnPeers.keys.card + taken ∧
    ¬ ∃ vpnIP, d.requestVPNIP net = .ok vpnIP

/-- The next address depends on the number of the peers. -/
theorem requestVPNIP_eq_of_card {net : NetText} {d : Cluster} (hextends : Extends c d)
    {peers : VPNPeerMap} (hcard : peers.keys.card = d.vpnPeers.keys.card) :
    requestVPNIP net { c with vpnPeers := peers } = d.requestVPNIP net := by
  rw [hextends.cluster]
  unfold requestVPNIP nextVPNNumber
  dsimp only
  rw [hcard]

theorem Spent.exists_requestVPNIP_iff {net : NetText} {d : Cluster} {count : Nat}
    (hspent : Spent net c d count) (hextends : Extends c d) :
    (∃ vpnIP, d.requestVPNIP net = .ok vpnIP) ↔ HasAddresses net c (count + 1) := by
  have hnext : HasAddresses net c (count + 1) →
      d.vpnPeers.keys.card < c.vpnPeers.keys.card + (count + 1) →
      c.vpnPeers.keys.card ≤ d.vpnPeers.keys.card → ∃ vpnIP, d.requestVPNIP net = .ok vpnIP := by
    intro h hlt hle
    rw [← requestVPNIP_eq_of_card hextends rfl]
    exact h _ hle hlt
  rcases hspent with ⟨hhas, hcard⟩ | ⟨taken, hlt, hcard, hnone⟩
  · refine ⟨fun hip peers hle hlt => ?_, fun h => hnext h (by omega) (by omega)⟩
    by_cases hold : peers.keys.card < c.vpnPeers.keys.card + count
    · exact hhas peers hle hold
    · rw [requestVPNIP_eq_of_card hextends (by omega)]
      exact hip
  · exact iff_of_false hnone fun h => hnone (hnext h (by omega) (by omega))

/-- One request spends at most one address. -/
theorem Spent.of_request (hsucc : outcomes.Succeed) {run run' : JoinRun}
    {count : Nat} (hspent : Spent env.net c run.cluster count) (hextends : Extends c run.cluster)
    (hcompl : Complete env.net run.cluster) (henb : run.cluster.vpn.enabled = true)
    (hrun : (reconcileNodeJoinRequest env prims.cipher outcomes item).run run = .ok () run') :
    Spent env.net c run'.cluster
      (count + if asks prims run.cluster item = true then 1 else 0) := by
  have hextends' :=
    ((touches_reconcileNodeJoinRequest prims.cipher item).of_run hrun).cluster.toExtends
  rcases vpnPeers_reconcileNodeJoinRequest hsucc hcompl henb hrun with
    ⟨hasks, hip, hcard⟩ | ⟨hasks, hcard⟩
  · rw [if_pos hasks]
    refine .inl ⟨(hspent.exists_requestVPNIP_iff hextends).mp hip, ?_⟩
    rcases hspent with ⟨-, hspent⟩ | ⟨_, -, -, hnone⟩
    · omega
    · exact absurd hip hnone
  · have hsame : run'.cluster.requestVPNIP env.net = run.cluster.requestVPNIP env.net :=
      (requestVPNIP_eq_of_card hextends' hcard.symm).symm
    rcases hspent with ⟨hhas, hspent⟩ | ⟨taken, hlt, hspent, hnone⟩
    · split_ifs with h
      · exact .inr ⟨count, by omega, by omega, hsame ▸ hasks h⟩
      · exact .inl ⟨hhas, by omega⟩
    · exact .inr ⟨taken, by omega, by omega, hsame ▸ hnone⟩

/-! ## All requests -/

/-- What the work on other requests leaves of the request `name`: its object, its
certificate and its peer. -/
structure Bystander (name : String) (run run' : JoinRun) : Prop where
  request : ∀ stored, OnlyAt V1alpha1.NodeJoinRequest.name name run.requests stored →
    OnlyAt V1alpha1.NodeJoinRequest.name name run'.requests stored
  cluster : Extends run.cluster run'.cluster
  certificate : run'.cluster.clientCertificates.lookup (nodeCommonName name) =
    run.cluster.clientCertificates.lookup (nodeCommonName name)
  vpnPeer : run'.cluster.vpnPeer (workerPeerName name) = run.cluster.vpnPeer (workerPeerName name)

namespace Bystander

variable {name : String}

theorem refl (run : JoinRun) : Bystander name run run :=
  ⟨fun _ => id, .refl _, rfl, rfl⟩

theorem trans (run run' run'' : JoinRun) (h : Bystander name run run')
    (h' : Bystander name run' run'') : Bystander name run run'' :=
  ⟨fun stored honly => h'.request stored (h.request stored honly),
    .trans _ _ _ h.cluster h'.cluster, h'.certificate.trans h.certificate,
    h'.vpnPeer.trans h.vpnPeer⟩

theorem of_touches {other : String} (hne : other ≠ name) (run run' : JoinRun)
    (h : Touches other run run') : Bystander name run run' := by
  have hcert : nodeCommonName name ≠ nodeCommonName other := fun heq =>
    hne ((String.append_right_inj "system:node:").mp heq).symm
  have hpeer : workerPeerName name ≠ workerPeerName other := fun heq =>
    hne ((String.append_right_inj "worker-").mp heq).symm
  refine ⟨fun stored => h.requests name stored hne.symm, h.cluster.toExtends,
    h.cluster.certificates _ hcert, ?_⟩
  rcases h.cluster.vpnPeers with hsame | ⟨-, vpnPeer, hinsert⟩
  · rw [Cluster.vpnPeer, hsame]
    rfl
  · rw [Cluster.vpnPeer, hinsert, Finmap.lookup_insert_of_ne _ hpeer]
    rfl

end Bystander

theorem bystander_forM {name : String} (cipher : Cipher) (items : List V1alpha1.NodeJoinRequest)
    (hnames : ∀ item ∈ items, item.name ≠ name) :
    Guarantees (Bystander name) (items.forM (reconcileNodeJoinRequest env cipher outcomes)) :=
  .forM .refl .trans fun item hitem =>
    (touches_reconcileNodeJoinRequest cipher item).mono (.of_touches (hnames item hitem))

/-- The requests of a loop spend an address each, as long as there are addresses. -/
theorem Spent.of_forM (hsucc : outcomes.Succeed) {items : List V1alpha1.NodeJoinRequest}
    (hnames : (items.map V1alpha1.NodeJoinRequest.name).Nodup) {run run' : JoinRun} {count : Nat}
    (hspent : Spent env.net c run.cluster count) (hextends : Extends c run.cluster)
    (hcompl : Complete env.net run.cluster) (henb : run.cluster.vpn.enabled = true)
    (hpeers : ∀ item ∈ items, run.cluster.vpnPeer (workerPeerName item.name) =
      c.vpnPeer (workerPeerName item.name))
    (hrun : (items.forM (reconcileNodeJoinRequest env prims.cipher outcomes)).run run =
      .ok () run') :
    Spent env.net c run'.cluster (count + items.countP (asks prims c)) := by
  induction items generalizing run count with
  | nil =>
    cases hrun
    exact hspent
  | cons item items ih =>
    obtain ⟨hpeer, hpeers⟩ := List.forall_mem_cons.mp hpeers
    obtain ⟨hitem, hnames⟩ := List.nodup_cons.mp hnames
    obtain ⟨_, run₁, hhead, htail⟩ := run_bind_eq_ok.mp hrun
    have htouches := (touches_reconcileNodeJoinRequest prims.cipher item).of_run hhead
    have hextends₁ := htouches.cluster.toExtends
    have hasks : asks prims run.cluster item = asks prims c item := by
      unfold asks
      rw [hpeer, hextends.joinKey]
    have hspent₁ := hspent.of_request hsucc hextends hcompl henb hhead
    rw [hasks] at hspent₁
    rw [List.countP_cons, Nat.add_comm (items.countP _), ← Nat.add_assoc]
    refine ih hnames hspent₁ (.trans _ _ _ hextends hextends₁) (hcompl.of_extends hextends₁) ?_
      (fun other hother => ?_) htail
    · rw [hextends₁.cluster]
      exact henb
    · have hne : item.name ≠ other.name := fun heq =>
        hitem (heq ▸ List.mem_map_of_mem hother)
      exact (Bystander.of_touches hne _ _ htouches).vpnPeer.trans (hpeers other hother)

/-- The object of a request after it was answered with `r`. -/
def answeredObject (outcomes : JoinOutcomes) (item : V1alpha1.NodeJoinRequest)
    (r : NodeJoinRequest) : V1alpha1.NodeJoinRequest :=
  { item with
    resourceVersion := item.resourceVersion + 1
    status := issuedStatus outcomes r }

/-- An answered request is stored. -/
theorem onlyAt_of_fill (hsucc : outcomes.Succeed) {cipher : Cipher} {run : JoinRun}
    {r' : NodeJoinRequest} {c' : Cluster}
    (himp : NodeJoinRequest.newNodeJoinRequestFromv1alpha1 cipher item run.cluster.joinKey =
      .ok r)
    (hwait : ¬ IsIssued item)
    (hfill : (fillNodeJoinRequest env cipher outcomes r).run run.cluster = .ok r' c')
    (honly : OnlyAt V1alpha1.NodeJoinRequest.name item.name run.requests item) :
    OnlyAt V1alpha1.NodeJoinRequest.name item.name (finalState
      ((reconcileNodeJoinRequest env cipher outcomes item).run run)).requests
      (answeredObject outcomes item r') := by
  have hr := NodeJoinRequest.isImport_of_ok himp
  have hissued : ¬ isCondition r.conditions NodeJoinRequest.issued .true = true := by
    rw [hr.conditions]
    exact hwait
  have hsame := (fillNodeJoinRequest_ok env cipher outcomes hfill).1
  have hexp : (r'.exportSymmetricKey outcomes).isOk := by
    unfold NodeJoinRequest.exportSymmetricKey
    cases r'.joinKey with
    | none => rfl
    | some joinKey =>
      obtain ⟨text, htext⟩ := hsucc.encryptKey joinKey r'.symmetricKey
      dsimp only
      rw [htext]
      rfl
  show OnlyAt _ _ (finalState (reconcileNodeJoinRequest env cipher outcomes item run)).requests _
  rw [reconcileNodeJoinRequest, himp]
  dsimp only
  rw [if_neg hissued, hfill]
  dsimp only
  rw [finalState_ok, putNodeJoinRequest_eq, if_pos ⟨hexp, hsucc.put _⟩, hsame.name, hr.name]
  exact honly.modifyKey_self fun _ => rfl

/-- A well formed request is issued, and what is stored for it on clusters that are
alike is the same but for the VPN address. -/
theorem issued_of_wellFormed (hsucc : outcomes.Succeed) (run run' : JoinRun)
    (hcompl : Complete env.net run.cluster) (haddr : HasAddress env.net run.cluster item.name)
    (hwell : WellFormed prims run.cluster.joinKey item) (hwait : ¬ IsIssued item)
    (halike : Alike env.net item.name run.cluster run'.cluster)
    (honly : OnlyAt V1alpha1.NodeJoinRequest.name item.name run.requests item)
    (honly' : OnlyAt V1alpha1.NodeJoinRequest.name item.name run'.requests item) :
    ∃ stored stored',
      OnlyAt V1alpha1.NodeJoinRequest.name item.name (finalState
        ((reconcileNodeJoinRequest env prims.cipher outcomes item).run run)).requests stored ∧
      OnlyAt V1alpha1.NodeJoinRequest.name item.name (finalState
        ((reconcileNodeJoinRequest env prims.cipher outcomes item).run run')).requests stored' ∧
      IsIssued stored ∧ IsIssued stored' ∧ withoutAddress stored' = withoutAddress stored := by
  have hjoinKey : run'.cluster.joinKey = run.cluster.joinKey := by rw [halike.cluster]
  obtain ⟨key, hread, -⟩ := id hwell
  obtain ⟨r, himp⟩ : ∃ r, NodeJoinRequest.newNodeJoinRequestFromv1alpha1 prims.cipher item
      run.cluster.joinKey = .ok r := ⟨_, except_bind_eq_ok.mpr ⟨key, hread, rfl⟩⟩
  have hr := NodeJoinRequest.isImport_of_ok himp
  obtain ⟨hkey, texts, htexts⟩ := hwell.requestTexts hr run.cluster
  have hfill : Returns (fillNodeJoinRequest env prims.cipher outcomes r) run.cluster :=
    returns_fillNodeJoinRequest hsucc hcompl (hr.name ▸ haddr) hkey htexts
  obtain ⟨r', c', hfill⟩ := hfill
  -- the work on the other cluster ends with the same answer
  obtain ⟨s', d', hfill', ⟨vpn, rfl, hvpn⟩, -⟩ :=
    (coupled_fillNodeJoinRequest env prims outcomes r).exists_run_eq_ok
      (t := run'.cluster) (hr.name ▸ halike) hfill
  refine ⟨_, _, onlyAt_of_fill hsucc himp hwait hfill honly,
    onlyAt_of_fill hsucc (hjoinKey ▸ himp) hwait hfill' honly',
    isCondition_setCondition, isCondition_setCondition, ?_⟩
  simp only [withoutAddress, answeredObject, issuedStatus, NodeJoinRequest.exportStatus, hvpn]

/-- A loop over requests of different names, on a cluster that differs from `c` in its
client certificates. -/
structure Started (env : Environment) (outcomes : JoinOutcomes) (c : Cluster) (run : JoinRun) :
    Prop where
  succeed : outcomes.Succeed
  complete : Complete env.net run.cluster
  names : (run.requests.map V1alpha1.NodeJoinRequest.name).Nodup
  cluster : Extends c run.cluster
  vpnPeers : run.cluster.vpnPeers = c.vpnPeers

theorem onlyAt_of_nodup {requests : List V1alpha1.NodeJoinRequest}
    {request : V1alpha1.NodeJoinRequest}
    (hnames : (requests.map V1alpha1.NodeJoinRequest.name).Nodup) (hmem : request ∈ requests) :
    OnlyAt V1alpha1.NodeJoinRequest.name request.name requests request := by
  intro other
  constructor
  · rintro ⟨hother, hname⟩
    exact List.inj_on_of_nodup_map hnames hother hmem hname
  · rintro rfl
    exact ⟨hmem, rfl⟩

namespace Started

variable {run run₁ : JoinRun} {before after : List V1alpha1.NodeJoinRequest}
  {request : V1alpha1.NodeJoinRequest}

/-- What the requests before leave for the request: its object, certificate and peer,
and the addresses that they have not taken. -/
theorem leaves (hstarted : Started env outcomes c run)
    (hsplit : run.requests = before ++ request :: after)
    (hrun : (before.forM (reconcileNodeJoinRequest env prims.cipher outcomes)).run run =
      .ok () run₁) :
    Bystander request.name run run₁ ∧
      (HasAddress env.net run₁.cluster request.name ↔ InReach env.net prims c before request) := by
  have hnames := hstarted.names
  rw [hsplit] at hnames
  have hbystander : Bystander request.name run run₁ :=
    (bystander_forM prims.cipher before (ne_key_of_nodup hnames).1).of_run hrun
  have hextends := Extends.trans _ _ _ hstarted.cluster hbystander.cluster
  refine ⟨hbystander, ?_⟩
  have hvpn : run₁.cluster.vpn = c.vpn := by rw [hextends.cluster]
  unfold HasAddress InReach
  rw [hvpn, hbystander.vpnPeer, Cluster.vpnPeer, hstarted.vpnPeers]
  refine forall_congr' fun henb => forall_congr' fun _ => ?_
  have hnone : Spent env.net c run.cluster 0 :=
    .inl ⟨fun _ hle hlt => absurd hlt (by omega), by rw [hstarted.vpnPeers]; rfl⟩
  have hspent := hnone.of_forM hstarted.succeed
    (List.Nodup.of_append_left (List.map_append ▸ hnames))
    hstarted.cluster hstarted.complete (by rw [hstarted.cluster.cluster]; exact henb)
    (fun item _ => by rw [Cluster.vpnPeer, hstarted.vpnPeers]; rfl) hrun
  rw [Nat.zero_add] at hspent
  exact hspent.exists_requestVPNIP_iff hextends

/-- The loop panics at a request that is stopping and gets an address. -/
theorem not_panics (hstarted : Started env outcomes c run)
    (hunhindered : Unhindered env.net prims c run.requests) :
    ¬ Panics
      ((run.requests.forM (reconcileNodeJoinRequest env prims.cipher outcomes)).run run) := by
  intro hpanics
  obtain ⟨before, request, after, run₁, hsplit, hrun, hpanics⟩ := panics_forM_iff.mp hpanics
  obtain ⟨hbystander, hreach⟩ := hstarted.leaves hsplit hrun
  rw [panics_reconcileNodeJoinRequest_iff hstarted.succeed
    (hstarted.complete.of_extends hbystander.cluster), hbystander.cluster.joinKey,
    hstarted.cluster.joinKey, hreach] at hpanics
  exact (hunhindered before request after hsplit).1 hpanics.1 hpanics.2

/-! ### A loop that returns -/

variable {final : JoinRun} (hstarted : Started env outcomes c run)
  (hrun : (run.requests.forM (reconcileNodeJoinRequest env prims.cipher outcomes)).run run =
    .ok () final)
  (hsplit : run.requests = before ++ request :: after)

include hstarted hrun hsplit

/-- The loop at one of its requests: what comes before and after leaves its object. -/
theorem exists_turn : ∃ run₁ run₂,
    (before.forM (reconcileNodeJoinRequest env prims.cipher outcomes)).run run = .ok () run₁ ∧
    (reconcileNodeJoinRequest env prims.cipher outcomes request).run run₁ = .ok () run₂ ∧
    OnlyAt V1alpha1.NodeJoinRequest.name request.name run₁.requests request ∧
    ∀ stored, OnlyAt V1alpha1.NodeJoinRequest.name request.name run₂.requests stored →
      OnlyAt V1alpha1.NodeJoinRequest.name request.name final.requests stored := by
  rw [hsplit] at hrun
  obtain ⟨run₁, run₂, hrun₁, hrun₂, hafter⟩ := run_forM_append_cons_eq_ok.mp hrun
  have hnames := hstarted.names
  have hmem : request ∈ run.requests := by simp [hsplit]
  have honly := onlyAt_of_nodup hnames hmem
  rw [hsplit] at hnames
  exact ⟨run₁, run₂, hrun₁, hrun₂, (hstarted.leaves hsplit hrun₁).1.request _ honly,
    ((bystander_forM prims.cipher after (ne_key_of_nodup hnames).2).of_run hafter).request⟩

/-- A well formed request that gets an address is answered as if it were alone. -/
theorem issued (hreach : InReach env.net prims c before request)
    (hwell : WellFormed prims c.joinKey request) (hwait : ¬ IsIssued request) :
    ∃ stored alone,
      OnlyAt V1alpha1.NodeJoinRequest.name request.name final.requests stored ∧
      OnlyAt V1alpha1.NodeJoinRequest.name request.name (finalState
        ((reconcileNodeJoinRequest env prims.cipher outcomes request).run
          { run with requests := [request] })).requests alone ∧
      IsIssued stored ∧ IsIssued alone ∧ withoutAddress stored = withoutAddress alone := by
  obtain ⟨run₁, run₂, hrun₁, hrun₂, honly, hafter⟩ := hstarted.exists_turn hrun hsplit
  obtain ⟨hbystander, hreach₁⟩ := hstarted.leaves hsplit hrun₁
  -- alone the request gets the first of the addresses
  have haddr : HasAddress env.net run.cluster request.name := by
    intro henb hnone
    rw [Cluster.vpnPeer, hstarted.vpnPeers] at hnone
    rw [hstarted.cluster.cluster] at henb
    rw [← requestVPNIP_eq_of_card hstarted.cluster rfl]
    exact hreach henb hnone _ (by rw [hstarted.vpnPeers]) (by rw [hstarted.vpnPeers]; omega)
  have halike : Alike env.net request.name run.cluster run₁.cluster := by
    refine ⟨hbystander.cluster.cluster, hbystander.certificate, fun henb => ?_⟩
    have hvpn : run₁.cluster.vpn = run.cluster.vpn := by rw [hbystander.cluster.cluster]
    rw [hbystander.vpnPeer]
    cases hpeer : run.cluster.vpnPeer (workerPeerName request.name) with
    | some vpnPeer => exact .inl ⟨vpnPeer, vpnPeer, rfl, rfl, rfl⟩
    | none =>
      obtain ⟨ip, hip⟩ := haddr henb hpeer
      obtain ⟨ip', hip'⟩ := hreach₁.mpr hreach (hvpn ▸ henb) (hbystander.vpnPeer.trans hpeer)
      exact .inr ⟨rfl, rfl, ip, ip', hip, hip'⟩
  obtain ⟨alone, stored, honlyAlone, honlySt, hissuedAlone, hissued, hsame⟩ :=
    issued_of_wellFormed hstarted.succeed { run with requests := [request] } run₁
      hstarted.complete haddr (hstarted.cluster.joinKey ▸ hwell) hwait halike
      (onlyAt_of_nodup (List.nodup_singleton _) (List.mem_singleton_self _)) honly
  rw [hrun₂] at honlySt
  exact ⟨stored, alone, hafter _ honlySt, honlyAlone, hissued, hissuedAlone, hsame⟩

/-- A request that is answered has got an address. -/
theorem inReach_of_issued (hwait : ¬ IsIssued request)
    (hissued : ∃ stored ∈ final.requests, stored.name = request.name ∧ IsIssued stored) :
    InReach env.net prims c before request := by
  by_contra hreach
  obtain ⟨run₁, run₂, hrun₁, hrun₂, honly, hafter⟩ := hstarted.exists_turn hrun hsplit
  obtain ⟨hbystander, hreach₁⟩ := hstarted.leaves hsplit hrun₁
  -- without an address the request stays as it is
  have hsame : (reconcileNodeJoinRequest env prims.cipher outcomes request).run run₁ =
      .ok () run₁ :=
    unchanged_reconcileNodeJoinRequest hstarted.succeed
      (hstarted.complete.of_extends hbystander.cluster)
      fun haddr => absurd (hreach₁.mp haddr) hreach
  cases hrun₂.symm.trans hsame
  obtain ⟨stored, hmem, hname, hst⟩ := hissued
  rw [(hafter _ honly stored).mp ⟨hmem, hname⟩] at hst
  exact hwait hst

/-- A request that gets an address is not stopping. -/
theorem not_stops (hreach : InReach env.net prims c before request) :
    ¬ Stops prims c.joinKey request := by
  intro hstops
  obtain ⟨run₁, run₂, hrun₁, hrun₂, -⟩ := hstarted.exists_turn hrun hsplit
  obtain ⟨hbystander, hreach₁⟩ := hstarted.leaves hsplit hrun₁
  have hpanic : Panics ((reconcileNodeJoinRequest env prims.cipher outcomes request).run run₁) := by
    rw [panics_reconcileNodeJoinRequest_iff hstarted.succeed
      (hstarted.complete.of_extends hbystander.cluster), hbystander.cluster.joinKey,
      hstarted.cluster.joinKey, hreach₁]
    exact ⟨hreach, hstops⟩
  rw [hrun₂] at hpanic
  exact not_panics_ok _ _ hpanic

end Started

/-- Everything but the requests is in order: the calls to the outside succeed, the
cluster is complete, and the requests have different names. -/
structure Healthy (env : Environment) (outcomes : JoinOutcomes) (run : JoinRun) : Prop where
  succeed : outcomes.Succeed
  complete : Complete env.net run.cluster
  names : (run.requests.map V1alpha1.NodeJoinRequest.name).Nodup

/-- A run in which the calls to the outside succeed is one of the loop, on a
cluster that has the client certificate of the administrator. -/
theorem Healthy.exists_started {run : JoinRun} (hhealthy : Healthy env outcomes run) :
    ∃ cluster, Started env outcomes run.cluster { run with cluster := cluster } ∧
      ∀ cipher requests,
        (reconcileNodeJoinRequests env cipher outcomes).run { run with requests := requests } =
          (requests.forM (reconcileNodeJoinRequest env cipher outcomes)).run
            ⟨cluster, requests, run.answers⟩ := by
  obtain ⟨hsucc, hcompl, hnames⟩ := hhealthy
  obtain ⟨_, cluster, hclient⟩ := returns_restClient hsucc hcompl
  have hsame := (sameButCertificate_restClient outcomes).of_run hclient
  refine ⟨cluster, ⟨hsucc, hcompl.of_extends hsame.extends, hnames, hsame.extends, ?_⟩, ?_⟩
  · show cluster.vpnPeers = _
    rw [hsame.cluster]
  · intro cipher requests
    have hrun : (JoinRun.onCluster (restClient outcomes)).run { run with requests := requests } =
        .ok () ⟨cluster, requests, run.answers⟩ := by
      show JoinRun.onCluster (restClient outcomes) { run with requests := requests } = _
      rw [JoinRun.onCluster, hclient]
    have hlist : (listNodeJoinRequests outcomes).run ⟨cluster, requests, run.answers⟩ =
        .ok requests ⟨cluster, requests, run.answers⟩ := by
      rw [listNodeJoinRequests, hsucc.listError]
      rfl
    exact (run_bind_of_ok hrun).trans (run_bind_of_ok hlist)

/-- `SymmetricKey.Decrypt` panics under a key of a valid size on a text that is too
short, and nowhere else.  A run in which everything but the requests is in order
does not panic and answers every well formed request as if it were alone, if and
only if none of the requests hinders it. -/
theorem reconcileNodeJoinRequests_iff (prims : CryptoPrimitives) :
    (∀ sk content, ExceptPanics (SymmetricKey.decrypt prims sk content) ↔
      ValidSize sk ∧ Short prims content) ∧
    ∀ env outcomes run, Healthy env outcomes run →
      ((¬ Panics ((reconcileNodeJoinRequests env prims.cipher outcomes).run run) ∧
          ∀ request ∈ run.requests, WellFormed prims run.cluster.joinKey request →
            ¬ IsIssued request → IssuedAsAlone env prims outcomes run request) ↔
        Unhindered env.net prims run.cluster run.requests) := by
  refine ⟨fun sk content => exceptPanics_decrypt_iff, fun env outcomes run hhealthy => ?_⟩
  obtain ⟨cluster, hstarted, hloop⟩ := hhealthy.exists_started
  have hrun := hloop prims.cipher run.requests
  have hret : ¬ Panics ((reconcileNodeJoinRequests env prims.cipher outcomes).run run) →
      ∃ final, (run.requests.forM (reconcileNodeJoinRequest env prims.cipher outcomes)).run
        { run with cluster := cluster } = .ok () final := fun hpanics =>
    exists_run_forM (returns_reconcileNodeJoinRequest prims.cipher) (hrun ▸ hpanics)
  constructor
  · rintro ⟨hpanics, hissued⟩ before request after hsplit
    obtain ⟨final, hfinal⟩ := hret hpanics
    refine ⟨hstarted.not_stops hfinal hsplit, fun hwell hwait =>
      hstarted.inReach_of_issued hfinal hsplit hwait ?_⟩
    obtain ⟨stored, hst, -, -, hname, hissuedStored, -⟩ :=
      hissued request (by simp [hsplit]) hwell hwait
    rw [requestsAfter, hrun, hfinal] at hst
    exact ⟨stored, hst, hname, hissuedStored⟩
  · intro hunhindered
    have hpanics : ¬ Panics ((reconcileNodeJoinRequests env prims.cipher outcomes).run run) := by
      rw [hrun]
      exact hstarted.not_panics hunhindered
    obtain ⟨final, hfinal⟩ := hret hpanics
    refine ⟨hpanics, fun request hmem hwell hwait => ?_⟩
    obtain ⟨before, after, hsplit⟩ := List.append_of_mem hmem
    obtain ⟨stored, alone, hst, halone, hissued, hissuedAlone, hsame⟩ :=
      hstarted.issued hfinal hsplit ((hunhindered before request after hsplit).2 hwell hwait)
        hwell hwait
    refine ⟨stored, ?_, alone, ?_, hst.mem.2, hissued, hissuedAlone, hsame⟩
    · rw [requestsAfter, hrun, hfinal]
      exact hst.mem.1
    · rw [requestsAfter, hloop, finalState_forM_singleton]
      exact halone.mem.1

/-! ## Runs on given inputs -/

/-- A request without texts of its own. -/
def plainRequest : V1alpha1.NodeJoinRequest :=
  { name := "a", spec := { symmetricKey := "0123456789abcdef" } }

/-- A request whose endpoint is shorter than a nonce, in base64 as well. -/
def shortRequest : V1alpha1.NodeJoinRequest :=
  { name := "b", spec := { symmetricKey := "0123456789abcdef", apiServerEndpoint := "AA" } }

/-- A request whose endpoint is long enough and does not open. -/
def sealedRequest : V1alpha1.NodeJoinRequest :=
  { name := "b",
    spec := { symmetricKey := "0123456789abcdef", apiServerEndpoint := "AAAAAAAAAAAAA" } }

/-- A cluster without a VPN and without a join key. -/
def plainCluster : Cluster :=
  { name := "cluster", «namespace» := "default"
    certificateAuthorities := some { kubeletClient := some ⟨"", ""⟩ }
    apiServer := some { ca := some ⟨"", ""⟩ }
    serviceCIDR := "10.96.0.0/12" }

/-- A cluster with a VPN that has one address to give. -/
def vpnCluster : Cluster :=
  { plainCluster with
    vpn := { plainCluster.vpn with
      enabled := true, cidr := some ⟨[10, 0, 0, 0], [255, 255, 255, 254]⟩ } }

theorem succeed_goodOutcomes : JoinSystem.goodOutcomes.Succeed :=
  ⟨fun _ => rfl, rfl, fun _ _ => ⟨_, rfl⟩, fun _ _ => ⟨_, rfl⟩, fun _ _ _ _ => ⟨_, rfl⟩,
    fun _ => ⟨_, rfl⟩, fun _ => ⟨_, rfl⟩, fun _ => ⟨_, rfl⟩, fun _ => rfl⟩

theorem complete_plainCluster : Complete JoinSystem.ipv4Environment.net plainCluster :=
  ⟨⟨_, _, rfl, rfl⟩, ⟨_, _, rfl, rfl⟩, ⟨"10.96.0.10", by decide +kernel⟩, fun henb => by
    cases henb⟩

theorem complete_vpnCluster : Complete JoinSystem.ipv4Environment.net vpnCluster :=
  ⟨⟨_, _, rfl, rfl⟩, ⟨_, _, rfl, rfl⟩, complete_plainCluster.coreDNSServiceIP, fun _ =>
    ⟨_, rfl, by decide⟩⟩

/-- A request with an endpoint that is too short stops the run, and the other request,
which is well formed, is not answered.  A request with an endpoint that does not open
takes the last VPN address, and the other request is not answered either. -/
theorem reconcileNodeJoinRequests_shortRequest :
    Healthy JoinSystem.ipv4Environment JoinSystem.goodOutcomes
        ⟨plainCluster, [shortRequest, plainRequest], []⟩ ∧
      ExceptPanics (SymmetricKey.decrypt .plain "0123456789abcdef" "AA") ∧
      Panics ((reconcileNodeJoinRequests JoinSystem.ipv4Environment
        CryptoPrimitives.plain.cipher JoinSystem.goodOutcomes).run
        ⟨plainCluster, [shortRequest, plainRequest], []⟩) ∧
      WellFormed .plain none plainRequest ∧
      requestsAfter JoinSystem.ipv4Environment .plain JoinSystem.goodOutcomes
        ⟨plainCluster, [shortRequest, plainRequest], []⟩ = [shortRequest, plainRequest] ∧
      Healthy JoinSystem.ipv4Environment JoinSystem.goodOutcomes
        ⟨vpnCluster, [sealedRequest, plainRequest], []⟩ ∧
      (∃ issued ∈ requestsAfter JoinSystem.ipv4Environment .plain JoinSystem.goodOutcomes
        ⟨vpnCluster, [plainRequest], []⟩, IsIssued issued) ∧
      requestsAfter JoinSystem.ipv4Environment .plain JoinSystem.goodOutcomes
        ⟨vpnCluster, [sealedRequest, plainRequest], []⟩ = [sealedRequest, plainRequest] := by
  refine ⟨⟨succeed_goodOutcomes, complete_plainCluster, by decide⟩, ⟨_, rfl⟩, ⟨_, _, rfl⟩,
    ⟨"0123456789abcdef", rfl, by decide, .inl rfl, by simp [plainRequest]⟩, ?_,
    ⟨succeed_goodOutcomes, complete_vpnCluster, by decide⟩, ?_, ?_⟩
  · decide +kernel
  · decide +kernel
  · decide +kernel

/-- A run on the other request alone answers it. -/
theorem reconcileNodeJoinRequests_plainRequest :
    Healthy JoinSystem.ipv4Environment JoinSystem.goodOutcomes
        ⟨plainCluster, [plainRequest], []⟩ ∧
      ¬ Panics ((reconcileNodeJoinRequests JoinSystem.ipv4Environment
        CryptoPrimitives.plain.cipher JoinSystem.goodOutcomes).run
        ⟨plainCluster, [plainRequest], []⟩) ∧
      IssuedAsAlone JoinSystem.ipv4Environment .plain JoinSystem.goodOutcomes
        ⟨plainCluster, [plainRequest], []⟩ plainRequest := by
  have hhealthy : Healthy JoinSystem.ipv4Environment JoinSystem.goodOutcomes
      ⟨plainCluster, [plainRequest], []⟩ :=
    ⟨succeed_goodOutcomes, complete_plainCluster, by decide⟩
  have hwell : WellFormed .plain none plainRequest :=
    ⟨"0123456789abcdef", rfl, by decide, .inl rfl, by simp [plainRequest]⟩
  have hstops : ¬ Stops .plain none plainRequest := by
    rintro ⟨-, key, -, -, ⟨hne, -⟩ | ⟨-, before, extraSAN, after, hsans, -⟩⟩
    · exact hne rfl
    · cases before <;> cases hsans
  have hunhindered : Unhindered JoinSystem.ipv4Environment.net .plain plainCluster
      [plainRequest] := by
    intro before request after hsplit
    obtain rfl : plainRequest = request := by
      cases before with
      | nil => exact (List.cons.inj hsplit).1
      | cons first before => cases before <;> cases hsplit
    exact ⟨fun _ => hstops, fun _ _ henb => by cases henb⟩
  obtain ⟨hret, hanswers⟩ :=
    ((reconcileNodeJoinRequests_iff .plain).2 _ _ _ hhealthy).mpr hunhindered
  exact ⟨hhealthy, hret, hanswers plainRequest (List.mem_singleton_self _) hwell (by decide)⟩

end HostileRequests

end OneInfra.Controllers
