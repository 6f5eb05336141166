import OneInfra.Component.ControlPlanePod
import OneInfra.Component.Records

/-!
# The certificate of the API server

`ServerCertificate` of `internal/pkg/component/component.go` returns the certificate that
the component has under a name, without a look at its contents.  `uploadFiles` of a control
plane asks for the certificate `kube-apiserver` with the names and addresses of the API
server of the moment, so that a certificate from an earlier reconcile need not have them.

`requestedSANs` is the loop of `CreateCertificate` in
`internal/pkg/certificates/certificates.go` that collects the alternative names, and
`Issues` says that a certificate has those that were asked for.  `covered_iff` says when
the uploaded certificate has the current ones.  `History` goes on with edits of the objects and
with uploads that succeed or fail, and remembers for which names the certificate was issued.
-/

namespace OneInfra

open Lib

/-! ## The names in a certificate -/

/-- The IPv4 loopback address, in 16 bytes. -/
def ipv4Loopback : List UInt8 := [0, 0, 0, 0, 0, 0, 0, 0, 0, 0, 255, 255, 127, 0, 0, 1]

/-- `net.IPv6loopback`. -/
def ipv6Loopback : List UInt8 := [0, 0, 0, 0, 0, 0, 0, 0, 0, 0, 0, 0, 0, 0, 0, 1]

/-- What `net.ParseIP` says of the names that are in every certificate. -/
structure NetText.ReadsLoopbacks (net : NetText) : Prop where
  parseIP_localhost : net.parseIP "localhost" = none
  parseIP_ipv4Loopback : net.parseIP "127.0.0.1" = some ipv4Loopback
  parseIP_ipv6Loopback : net.parseIP "::1" = some ipv6Loopback

/-- `DNSNames` and `IPAddresses` of a certificate. -/
structure SANs where
  hosts : List String
  ips : List (List UInt8)
deriving DecidableEq, Repr

namespace SANs

variable (net : NetText)

/-- The names hold the given one, as an address if it is one. -/
def Covers (sans : SANs) (san : String) : Prop :=
  match net.parseIP san with
  | some ip => ip ∈ sans.ips
  | none => san ∈ sans.hosts

instance (sans : SANs) (san : String) : Decidable (sans.Covers net san) := by
  unfold Covers
  split <;> infer_instance

/-- The loop of `CreateCertificate` over the names, with `knownSans`. -/
def collect : List String → SANs → List String → SANs
  | [], sans, _ => sans
  | extraSAN :: extraSANs, sans, knownSans =>
    if extraSAN ∈ knownSans then collect extraSANs sans knownSans
    else
      match net.parseIP extraSAN with
      | some ip => collect extraSANs { sans with ips := sans.ips ++ [ip] } (extraSAN :: knownSans)
      | none =>
        collect extraSANs { sans with hosts := sans.hosts ++ [extraSAN] } (extraSAN :: knownSans)

/-- The names that `CreateCertificate` asks for. -/
def requestedSANs (extraSANs : List String) : SANs :=
  collect net extraSANs ⟨["localhost"], [ipv4Loopback, ipv6Loopback]⟩
    ["localhost", "127.0.0.1", "::1"]

variable {net} {sans : SANs} {san : String}

theorem Covers.append (h : sans.Covers net san) (hosts : List String) (ips : List (List UInt8)) :
    Covers net ⟨sans.hosts ++ hosts, sans.ips ++ ips⟩ san := by
  unfold Covers at h ⊢
  split at h
  · exact List.mem_append_left _ h
  · exact List.mem_append_left _ h

/-- The known names are covered in every round, and in the end the others are too. -/
theorem covers_collect {extraSANs knownSans : List String}
    (hknown : ∀ san ∈ knownSans, sans.Covers net san) (hsan : san ∈ extraSANs ∨ san ∈ knownSans) :
    (collect net extraSANs sans knownSans).Covers net san := by
  induction extraSANs generalizing sans knownSans with
  | nil =>
    rcases hsan with hsan | hsan
    · cases hsan
    · exact hknown san hsan
  | cons extraSAN extraSANs ih =>
    have hlater : san ∈ extraSANs ∨ san ∈ extraSAN :: knownSans := by
      rcases hsan with hsan | hsan
      · rcases List.mem_cons.mp hsan with rfl | hsan
        · exact .inr List.mem_cons_self
        · exact .inl hsan
      · exact .inr (List.mem_cons_of_mem _ hsan)
    unfold collect
    split
    · next hmem =>
      refine ih hknown (hlater.imp_right fun h => ?_)
      rcases List.mem_cons.mp h with rfl | h
      · exact hmem
      · exact h
    · split
      · next ip hip =>
        refine ih (List.forall_mem_cons.mpr ⟨?_, fun known h => ?_⟩) hlater
        · unfold Covers
          rw [hip]
          exact List.mem_append_right _ List.mem_cons_self
        · simpa using (hknown known h).append [] [ip]
      · next hhost =>
        refine ih (List.forall_mem_cons.mpr ⟨?_, fun known h => ?_⟩) hlater
        · unfold Covers
          rw [hhost]
          exact List.mem_append_right _ List.mem_cons_self
        · simpa using (hknown known h).append [extraSAN] []

/-- All names that are asked for are covered, besides those of the host itself. -/
theorem covers_requestedSANs (hnet : net.ReadsLoopbacks) {extraSANs : List String}
    (hsan : san ∈ extraSANs ∨ san ∈ ["localhost", "127.0.0.1", "::1"]) :
    (requestedSANs net extraSANs).Covers net san := by
  refine covers_collect ?_ hsan
  simp [Covers, hnet.parseIP_localhost, hnet.parseIP_ipv4Loopback, hnet.parseIP_ipv6Loopback]

end SANs

namespace Components

open Infra

variable {σ : Type}

/-! ## The certificates that a component has -/

/-- The certificate of a component under a name. -/
def serverCertificateOf (world : World σ) (comp name : String) : Option Certificate :=
  (lookupKey Component.name comp world.components).bind (·.serverCertificates.lookup name)

/-- The component has that certificate, or none. -/
def Has (comp name : String) (certificate : Option Certificate) (world : World σ) : Prop :=
  serverCertificateOf world comp name = certificate

namespace Has

variable {outside : Outside σ} {comp cert : String}
  {certificate : Option Certificate} {world : World σ}

theorem setComponent {component comp' : Component}
    (h : Has comp cert certificate world)
    (hcomp : lookupKey Component.name comp'.name world.components = some component)
    (hsame : comp'.serverCertificates = component.serverCertificates) :
    Has comp cert certificate (world.setComponent comp') := by
  unfold Has serverCertificateOf at h ⊢
  show (lookupKey Component.name comp (modifyKey _ _ _ _)).bind _ = _
  rw [lookupKey_modifyKey fun _ _ => rfl]
  split_ifs with hname
  · rw [hname, hcomp] at h
    rw [hcomp, ← h]
    exact congrArg (·.lookup cert) hsame
  · exact h

/-- To keep the certificate. -/
def logic (comp cert : String) (certificate : Option Certificate) : Logic σ :=
  .preserving (Has comp cert certificate) (fun _ => True) (fun _ _ _ => True)
    (fun _ _ h => h) fun _ _ => trivial

theorem requestPort (name portName : String) :
    (logic comp cert certificate).Holds
      (requestPort name portName : ReconcileM σ Int64) := by
  intro world h
  have hsame := map_lookupKey_requestPort name portName Component.serverCertificates
    (fun _ _ => rfl) world comp
  have hbind (world : World σ) : serverCertificateOf world comp cert =
      ((lookupKey Component.name comp world.components).map
        Component.serverCertificates).bind (·.lookup cert) := by
    rw [Option.bind_map]
    rfl
  rw [Has, hbind] at h ⊢
  rw [hsame]
  exact h

theorem clientCertificate (name : String) (ca : Option Certificate)
    (clientName commonName : String) (organization extraSANs : List String) :
    (logic comp cert certificate).Holds
      (clientCertificate outside name ca clientName commonName organization extraSANs) := by
  refine .bind (.quiet (quiet_component name)) fun found => ?_
  split
  · exact .pure _
  · refine .bind (Logic.tolerant_preserving.createCertificate outside _ _ _ _) fun created => ?_
    exact guarantees_bind_component (R := fun world world' =>
      Has comp cert certificate world →
        Has comp cert certificate world') (fun _ => id) name
      fun found world hfound _ h => h.setComponent hfound rfl

theorem uploadFiles (name : String) (files : List (String × String)) :
    (logic comp cert certificate).Holds
      (uploadFiles outside name files) :=
  (Logic.bindsHypervisor_preserving name fun _ _ h _ => h).uploadFiles outside files

theorem kubeConfig (name ep clientName : String) :
    (logic comp cert certificate).Holds
      (kubeConfig outside name ep clientName) :=
  .kubeConfig (clientCertificate name · clientName) ep

theorem advertise :
    (logic comp cert certificate).Holds
      (ControlPlane.kubeAPIServerAdvertiseAddressAndPort : ReconcileM σ (String × Int64)) :=
  .bind (.quiet Logic.quiet_clusterLoadBalancers) fun _ =>
    Logic.advertiseAddressAndPort (fun other => requestPort other _) _ _

end Has

section ServerCertificate

variable {outside : Outside σ} {comp cert : String} {world : World σ}

/-- A server certificate is the one that the component has, or a new one. -/
theorem run_serverCertificate (ca : Option Certificate) (commonName : String)
    (organization extraSANs : List String) :
    (serverCertificate outside comp ca cert commonName organization
        extraSANs).run world =
      match lookupKey Component.name comp world.components with
      | none => .error nilDereference world
      | some found =>
        match found.serverCertificates.lookup cert with
        | some certificate => .ok certificate world
        | none =>
          match outside.createCertificate ca commonName organization extraSANs world.outside with
          | (.error fault, s) => .error fault { world with outside := s }
          | (.ok certificate, s) => .ok certificate
            (({ world with outside := s } : World σ).setComponent { found with
              serverCertificates :=
                found.serverCertificates.insert cert certificate }) := by
  rw [serverCertificate, EStateM.run_bind, run_component]
  cases hfound : lookupKey Component.name comp world.components with
  | none => rfl
  | some found =>
    dsimp only
    cases found.serverCertificates.lookup cert with
    | some certificate => rfl
    | none =>
      have hcreate : (createCertificate outside ca commonName organization extraSANs).run world =
          match outside.createCertificate ca commonName organization extraSANs world.outside with
          | (.error fault, s) => .error fault { world with outside := s }
          | (.ok certificate, s) => .ok certificate { world with outside := s } := by
        rw [createCertificate, run_bind_of_ok (show (onOutside _).run world = .ok _ _ from rfl)]
        rcases outside.createCertificate ca commonName organization extraSANs world.outside with
          ⟨_ | _, s⟩ <;> rfl
      dsimp only
      rw [EStateM.run_bind, hcreate]
      cases outside.createCertificate ca commonName organization extraSANs world.outside with
      | mk result s =>
        cases result with
        | error fault => rfl
        | ok certificate =>
          dsimp only
          rw [EStateM.run_bind, run_component, hfound]
          rfl

theorem serverCertificateOf_insert {found : Component} {certificate : Certificate} {s : σ}
    (hfound : lookupKey Component.name found.name world.components = some found) :
    serverCertificateOf (({ world with outside := s } : World σ).setComponent { found with
        serverCertificates := found.serverCertificates.insert cert certificate })
      found.name cert = some certificate := by
  show (lookupKey Component.name found.name (modifyKey _ _ _ _)).bind _ = _
  rw [lookupKey_modifyKey fun _ _ => rfl, if_pos rfl, hfound]
  exact Finmap.lookup_insert _

/-- The certificate that is returned is the one that the component then has. -/
theorem serverCertificate_ok {world' : World σ} {ca : Option Certificate} {commonName : String}
    {organization extraSANs : List String} {returned : Certificate}
    (hrun : (serverCertificate outside comp ca cert commonName organization
      extraSANs).run world = .ok returned world') :
    Has comp cert (some returned) world' := by
  rw [run_serverCertificate] at hrun
  split at hrun
  · cases hrun
  next found hfound =>
  obtain ⟨-, rfl⟩ := lookupKey_some_mem hfound
  split at hrun
  · next hlk =>
    cases hrun
    rw [Has, serverCertificateOf, hfound]
    exact hlk
  · split at hrun
    · cases hrun
    · cases hrun
      exact serverCertificateOf_insert hfound

end ServerCertificate

namespace ControlPlane

variable (outside : Outside σ)

/-! ## The current names -/

/-- The names and addresses of the API server. -/
def currentSANs (net : NetText) (world : World σ) : Except Fault (List String) :=
  if !Component.allWithHypervisorAssigned (world.clusterComponents .controlPlaneIngress) then
    .error (.error "not all load balancers have an hypervisor assigned")
  else do
    let apiServer ← deref world.cluster.apiServer
    let kubernetesServiceIP ← Cluster.kubernetesServiceIP net world.cluster
    return apiServer.extraSANs ++ ((world.clusterComponents .controlPlaneIngress).filterMap
      world.componentHypervisor).map Hypervisor.ipAddress ++ [kubernetesServiceIP]

theorem run_kubeAPIServerSANs (world : World σ) :
    (kubeAPIServerSANs outside).run world =
      match currentSANs outside.net world with
      | .ok extraSANs => .ok extraSANs world
      | .error fault => .error fault world := by
  simp only [kubeAPIServerSANs, ControlPlane.clusterLoadBalancers, cluster, currentSANs,
    EStateM.run_bind, EStateM.run_get, EStateM.run_pure]
  cases Component.allWithHypervisorAssigned (world.clusterComponents .controlPlaneIngress) with
  | false => rfl
  | true =>
    cases world.cluster.apiServer with
    | none => rfl
    | some apiServer =>
      cases Cluster.kubernetesServiceIP outside.net world.cluster <;> rfl

theorem currentSANs_eq_of_sameFrozen {world world' : World σ} (h : SameFrozen world world')
    (net : NetText) : currentSANs net world' = currentSANs net world := by
  have hasg : Component.allWithHypervisorAssigned
      (world'.clusterComponents .controlPlaneIngress) =
        Component.allWithHypervisorAssigned (world.clusterComponents .controlPlaneIngress) := by
    have hmap := h.map_clusterComponents .controlPlaneIngress
      (fun component => decide (component.hypervisorName ≠ "")) fun _ => rfl
    have hall := congrArg (List.all · id) hmap
    simpa [Component.allWithHypervisorAssigned, List.all_map] using hall
  have haddrs : ∀ world : World σ, ((world.clusterComponents .controlPlaneIngress).filterMap
      world.componentHypervisor).map Hypervisor.ipAddress =
        ((world.clusterComponents .controlPlaneIngress).map Component.hypervisorName).filterMap
          fun hyp => (lookupKey Hypervisor.name hyp
            world.hypervisors).map Hypervisor.ipAddress := by
    intro world
    rw [List.map_filterMap, List.filterMap_map]
    rfl
  unfold currentSANs
  rw [hasg, haddrs, haddrs, h.cluster,
    h.map_clusterComponents .controlPlaneIngress Component.hypervisorName fun _ => rfl]
  simp only [h.map_ipAddress]

/-! ## The upload -/

/-- The path of a secret of the component. -/
def secretPath (world : World σ) (name file : String) : String :=
  componentSecretsPathFile world.cluster.namespace world.cluster.name name file

/-- The names from the cluster to the component can be parts of a path. -/
structure PlainNames (world : World σ) (name : String) : Prop where
  «namespace» : FilePath.Plain world.cluster.namespace
  cluster : FilePath.Plain world.cluster.name
  component : FilePath.Plain name

theorem PlainNames.nodup_secretPaths {world : World σ} {name : String}
    (h : PlainNames world name) {files : List String} (hplain : ∀ file ∈ files, FilePath.Plain file)
    (hnd : files.Nodup) : (files.map (secretPath world name)).Nodup := by
  refine hnd.map_on fun file hfile file' hfile' heq => ?_
  have hroot := plain_component h.namespace h.cluster h.component plain_secretsRoot
  rw [secretPath, secretPath,
    componentSecretsPathFile_eq h.namespace h.cluster h.component (hplain file hfile).no_slash,
    componentSecretsPathFile_eq h.namespace h.cluster h.component (hplain file' hfile').no_slash,
    FilePath.push_of_plain (hplain file hfile), FilePath.push_of_plain (hplain file' hfile')] at heq
  have happend := FilePath.rooted_injective (plain_append hroot (hplain file hfile))
    (plain_append hroot (hplain file' hfile')) heq
  simpa using happend

variable {outside} {name : String} {world world' : World σ}

/-- The certificate of the API server is the one from the start, or there was none and it was
created for the names of the start. -/
def Kept (outside : Outside σ) (name : String) (start world : World σ) : Prop :=
  SameFrozen start world ∧
    (serverCertificateOf world name "kube-apiserver" =
        serverCertificateOf start name "kube-apiserver" ∨
      serverCertificateOf start name "kube-apiserver" = none ∧ ∃ extraSANs certificate,
        currentSANs outside.net start = .ok extraSANs ∧
        serverCertificateOf world name "kube-apiserver" = some certificate ∧
        ∃ ca commonName organization s,
          (outside.createCertificate ca commonName organization extraSANs s).1 = .ok certificate)

namespace Kept

variable {start : World σ}

/-- To keep the certificate, or to create it for the names of the start. -/
def logic (outside : Outside σ) (name : String) (start : World σ) : Logic σ :=
  .preserving (Kept outside name start) (fun _ => True) (fun _ _ _ => True)
    (fun _ _ h => ⟨h.1.trans ⟨rfl, rfl, rfl⟩, h.2⟩) fun _ _ => trivial

variable (hkeyed : Keyed start)

include hkeyed

theorem of_has {α : Type} {x : ReconcileM σ α} (hperforms : Performs anyPorts x)
    (hhas : ∀ certificate, (Has.logic name "kube-apiserver" certificate).Holds x) :
    (logic outside name start).Holds x := by
  rintro world ⟨hsame, hcert⟩
  have hkept : serverCertificateOf (finalState (x.run world)) name "kube-apiserver" =
      serverCertificateOf world name "kube-apiserver" := hhas _ world rfl
  refine ⟨hsame.trans (Steps.sameFrozen (hsame.keyed hkeyed) (hperforms world)), ?_⟩
  rwa [hkept]

theorem clientCertificate (ca : Option Certificate) (clientName commonName : String)
    (organization extraSANs : List String) : (logic outside name start).Holds
      (clientCertificate outside name ca clientName commonName organization extraSANs) :=
  of_has hkeyed ((Performs.hasData _ _).clientCertificate
    ((Performs.tolerant _).createCertificate outside) ca clientName commonName organization
    extraSANs) fun _ => Has.clientCertificate name ca clientName commonName organization extraSANs

omit hkeyed in
theorem bind_kubeAPIServerSANs {α : Type} {f : List String → ReconcileM σ α}
    (hf : ∀ extraSANs, currentSANs outside.net start = .ok extraSANs →
      (logic outside name start).Holds (f extraSANs)) :
    (logic outside name start).Holds (kubeAPIServerSANs outside >>= f) := by
  intro world h
  have hcur := currentSANs_eq_of_sameFrozen h.1 outside.net
  rw [EStateM.run_bind, run_kubeAPIServerSANs, hcur]
  cases hsans : currentSANs outside.net start with
  | error fault => exact h
  | ok extraSANs => exact hf extraSANs hsans world h

theorem serverCertificate {extraSANs : List String}
    (hcur : currentSANs outside.net start = .ok extraSANs) (ca : Option Certificate)
    (commonName : String) (organization : List String) : (logic outside name start).Holds
      (serverCertificate outside name ca "kube-apiserver" commonName organization extraSANs) := by
  rintro world ⟨hsame, hcert⟩
  rw [run_serverCertificate]
  split
  · exact ⟨hsame, hcert⟩
  next found hfound =>
  obtain ⟨-, rfl⟩ := lookupKey_some_mem hfound
  split
  · exact ⟨hsame, hcert⟩
  next hnone =>
  have hmissing : serverCertificateOf world found.name "kube-apiserver" = none := by
    rw [serverCertificateOf, hfound]
    exact hnone
  split
  · exact ⟨hsame.trans ⟨rfl, rfl, rfl⟩, hcert⟩
  next certificate s hnew =>
  have hset : SameFrozen world (world.setComponent { found with
      serverCertificates := found.serverCertificates.insert "kube-apiserver" certificate }) :=
    .setComponent (hsame.keyed hkeyed) hfound rfl
  refine ⟨hsame.trans ⟨hset.cluster, hset.hypervisors, hset.components⟩, .inr ⟨?_, extraSANs,
    certificate, hcur, serverCertificateOf_insert hfound, ca, commonName, organization,
    world.outside, congrArg Prod.fst hnew⟩⟩
  rcases hcert with hkept | ⟨hstart, -⟩
  · rw [← hkept, hmissing]
  · exact hstart

theorem uploadFiles :
    (logic outside name start).Holds (ControlPlane.uploadFiles outside name) := by
  have hclient := @clientCertificate σ outside name start hkeyed
  have hadvertise : Performs anyPorts
      (kubeAPIServerAdvertiseAddressAndPort : ReconcileM σ (String × Int64)) :=
    Logic.Holds.bind (L := Performs.logic anyPorts) (.quiet Logic.quiet_clusterLoadBalancers)
      fun _ => Logic.advertiseAddressAndPort (fun _ => performs_requestPort _ _ trivial) _ _
  refine .bind (.quiet quiet_cluster) fun cluster => .bind (.deref _) fun _ => ?_
  refine .bind (hclient _ _ _ _ _) fun _ => bind_kubeAPIServerSANs fun extraSANs hcur => ?_
  refine .bind (.deref _) fun _ => .bind (serverCertificate hkeyed hcur _ _ _) fun _ => ?_
  refine .bind (hclient _ _ _ _ _) fun _ => ?_
  refine .bind (of_has hkeyed hadvertise fun _ => Has.advertise) fun _ => ?_
  refine .bind (.kubeConfig (hclient · _) _) fun _ =>
    .bind (.kubeConfig (hclient · _) _) fun _ => ?_
  refine .bind (.deref _) fun _ => .bind (.deref _) fun _ => .bind (.deref _) fun _ => ?_
  refine .bind (.deref _) fun _ => .bind (.deref _) fun _ => .bind (.deref _) fun _ => ?_
  exact of_has hkeyed ((Performs.bindsHypervisor _ name).uploadFiles outside _) fun _ =>
    Has.uploadFiles name _

end Kept

/-- What an upload that returns leaves: the component has a certificate of the API server,
and its sum is recorded.  It is the one that the component had, or a new one for the
current names. -/
theorem uploadFiles_ok (hkeyed : Keyed world) (hnames : PlainNames world name)
    (hrun : (ControlPlane.uploadFiles outside name).run world = .ok () world') :
    ∃ extraSANs certificate, currentSANs outside.net world = .ok extraSANs ∧
      Has name "kube-apiserver" (some certificate) world' ∧
      recordedSum world' name (secretPath world name "apiserver.crt") =
        some (outside.sha1Sum certificate.certificate) := by
  simp only [ControlPlane.uploadFiles, run_bind_eq_ok] at hrun
  obtain ⟨_, _, hcl, certificateAuthorities, _, hauths, etcdClient, world₁, hetcdClient,
    extraSANs, _, hsans, apiServer, _, hapiServer, certificate, world₂, hcert, kubeletClient,
    world₃, hkubeletClient, ⟨_, port⟩, world₄, hadvertise, hrun⟩ := hrun
  cases hcl
  rw [(run_ofExcept_eq_ok.mp hauths).2] at hetcdClient
  obtain ⟨controllerManager, world₅, hcontrollerManager, scheduler, world₆, hsched, _, _, h₁,
    _, _, h₂, _, _, h₃, _, _, h₄, _, _, h₅, _, _, h₆, hupl⟩ := hrun
  rw [(run_ofExcept_eq_ok.mp h₆).2, (run_ofExcept_eq_ok.mp h₅).2, (run_ofExcept_eq_ok.mp h₄).2,
    (run_ofExcept_eq_ok.mp h₃).2, (run_ofExcept_eq_ok.mp h₂).2, (run_ofExcept_eq_ok.mp h₁).2]
    at hupl
  -- the names are those of the world before
  have hkept : Kept outside name world world₁ := Logic.of_run_preserving
    (Kept.clientCertificate hkeyed _ _ _ _ _) hetcdClient ⟨.refl world, .inl rfl⟩
  rw [run_kubeAPIServerSANs, currentSANs_eq_of_sameFrozen hkept.1] at hsans
  cases hcur : currentSANs outside.net world with
  | error fault =>
    rw [hcur] at hsans
    cases hsans
  | ok current =>
    rw [hcur] at hsans
    cases hsans
    -- the certificate stays while the rest is done
    have hhas₂ := serverCertificate_ok hcert
    have hhas₃ :=
      Logic.of_run_preserving (Has.clientCertificate name _ _ _ _ _) hkubeletClient hhas₂
    have hhas₄ := Logic.of_run_preserving Has.advertise hadvertise hhas₃
    have hhas₅ := Logic.of_run_preserving (Has.kubeConfig name _ _) hcontrollerManager hhas₄
    have hhas₆ := Logic.of_run_preserving (Has.kubeConfig name _ _) hsched hhas₅
    have hhas' := Logic.of_run_preserving (Has.uploadFiles name _) hupl hhas₆
    have hpath : componentSecretsPathFile world.cluster.namespace world.cluster.name name =
      secretPath world name := rfl
    rw [hpath] at hupl
    have hpaths : (secretFiles.map (secretPath world name)).Nodup :=
      hnames.nodup_secretPaths (by decide) (by decide)
    -- the path itself does not matter any more
    generalize secretPath world name = path at hupl hpaths ⊢
    have hrecorded := Components.uploadFiles_ok hupl hpaths (List.mem_cons_of_mem _
      (List.mem_cons_of_mem _ (List.mem_cons_of_mem _ (List.mem_cons_of_mem _
        List.mem_cons_self))))
    exact ⟨extraSANs, certificate, rfl, hhas', hrecorded⟩

/-! ## The uploaded certificate and the current names -/

/-- The names that are in every certificate. -/
def localNames : List String := ["localhost", "127.0.0.1", "::1"]

/-- A certificate has the names that were asked for, and those of the host itself. -/
def Issues (outside : Outside σ) (sans : Certificate → SANs) : Prop :=
  ∀ ca commonName organization extraSANs s certificate,
    (outside.createCertificate ca commonName organization extraSANs s).1 = .ok certificate →
      sans certificate = SANs.requestedSANs outside.net extraSANs

section Covered

variable (outside) (sans : Certificate → SANs) (name : String)

/-- The certificate of the API server that is recorded has all the names that
`kubeAPIServerSANs` returns. -/
def Covered (world : World σ) : Prop :=
  ∃ extraSANs certificate, (kubeAPIServerSANs outside).run world = .ok extraSANs world ∧
    serverCertificateOf world name "kube-apiserver" = some certificate ∧
    recordedSum world name (secretPath world name "apiserver.crt") =
      some (outside.sha1Sum certificate.certificate) ∧
    ∀ san ∈ localNames ++ extraSANs, (sans certificate).Covers outside.net san

/-- If the component has a certificate of the API server, then it has the current names. -/
def CacheCovers (world : World σ) : Prop :=
  ∀ certificate extraSANs, serverCertificateOf world name "kube-apiserver" = some certificate →
    currentSANs outside.net world = .ok extraSANs →
    ∀ san ∈ localNames ++ extraSANs, (sans certificate).Covers outside.net san

end Covered

/-! ## Histories -/

/-- A history of a control plane: the world at its end, and the names for which the certificate
of the API server was issued.  An edit is everything that leaves the certificate as it is: other
names for the cluster, ingress components on other hypervisors, another network for the
services.  An upload may also fail. -/
inductive History (outside : Outside σ) (name : String) : World σ → Option (List String) → Prop
  | start {world : World σ} (hkeyed : Keyed world)
      (hnone : serverCertificateOf world name "kube-apiserver" = none) :
      History outside name world none
  | edit {world world' : World σ} {issuedFor : Option (List String)}
      (h : History outside name world issuedFor) (hkeyed : Keyed world')
      (hsame : serverCertificateOf world' name "kube-apiserver" =
        serverCertificateOf world name "kube-apiserver") : History outside name world' issuedFor
  | upload {world : World σ} {issuedFor : Option (List String)}
      (h : History outside name world issuedFor) :
      History outside name (finalState ((ControlPlane.uploadFiles outside name).run world))
        (if (serverCertificateOf (finalState ((ControlPlane.uploadFiles outside name).run world))
            name "kube-apiserver").isSome then
          issuedFor.or (currentSANs outside.net world).toOption
        else none)

/-- The certificate has the names that were current when it was issued. -/
theorem History.sans_eq {sans : Certificate → SANs} (hissues : Issues outside sans)
    {issuedFor : Option (List String)} (h : History outside name world issuedFor) :
    Keyed world ∧ ((serverCertificateOf world name "kube-apiserver").map sans =
      issuedFor.map (SANs.requestedSANs outside.net)) := by
  induction h with
  | start hkeyed hnone =>
    rw [hnone]
    exact ⟨hkeyed, rfl⟩
  | edit h hkeyed hsame ih =>
    rw [hsame]
    exact ⟨hkeyed, ih.2⟩
  | @upload world issuedFor h ih =>
    obtain ⟨hkeyed, ih⟩ := ih
    obtain ⟨hfrz, hkept⟩ : Kept outside name world
        (finalState ((ControlPlane.uploadFiles outside name).run world)) :=
      Kept.uploadFiles hkeyed world ⟨.refl world, .inl rfl⟩
    refine ⟨hfrz.keyed hkeyed, ?_⟩
    rcases hkept with hkept | ⟨hnone, extraSANs, certificate, hcur, hsome, _, _, _, _, hnew⟩
    · rw [hkept]
      cases hcached : serverCertificateOf world name "kube-apiserver" with
      | none => rfl
      | some certificate =>
        rw [hcached] at ih
        obtain ⟨issued, rfl, -⟩ := Option.map_eq_some_iff.mp ih.symm
        exact ih
    · rw [hnone] at ih
      have hnever : issuedFor = none := by simpa using ih.symm
      rw [hsome, hnever, hcur]
      exact congrArg some (hissues _ _ _ _ _ _ hnew)

theorem History.cacheCovers_iff {sans : Certificate → SANs} (hissues : Issues outside sans)
    {issuedFor : Option (List String)} (h : History outside name world issuedFor) :
    CacheCovers outside sans name world ↔ ∀ issued current, issuedFor = some issued →
      currentSANs outside.net world = .ok current → ∀ san ∈ localNames ++ current,
        (SANs.requestedSANs outside.net issued).Covers outside.net san := by
  obtain ⟨-, hsans⟩ := h.sans_eq hissues
  unfold CacheCovers
  cases hcached : serverCertificateOf world name "kube-apiserver" with
  | none =>
    rw [hcached] at hsans
    have hnever : issuedFor = none := by simpa using hsans.symm
    simp [hnever]
  | some certificate =>
    rw [hcached] at hsans
    obtain ⟨issued, rfl, hissued⟩ := Option.map_eq_some_iff.mp hsans.symm
    constructor
    · rintro hcovers _ current ⟨⟩ hcur
      rw [hissued]
      exact hcovers certificate current rfl hcur
    · rintro hcovers _ current ⟨⟩ hcur
      rw [← hissued]
      exact hcovers issued current rfl hcur

/-! ## Uploads that return -/

/-- After an upload that returns, the certificate has the current names if and only if there
was none before or it had them already.  In a history it had them already if it was issued for
names that cover them. -/
theorem covered_iff (outside : Outside σ) (hnet : outside.net.ReadsLoopbacks)
    (sans : Certificate → SANs) (hissues : Issues outside sans) {name : String}
    {world world' : World σ} (hkeyed : Keyed world) (hnames : PlainNames world name)
    (hrun : (ControlPlane.uploadFiles outside name).run world = .ok () world') :
    (Covered outside sans name world' ↔ CacheCovers outside sans name world) ∧
      ∀ issuedFor, History outside name world issuedFor →
        (CacheCovers outside sans name world ↔ ∀ issued current, issuedFor = some issued →
          currentSANs outside.net world = .ok current → ∀ san ∈ localNames ++ current,
            (SANs.requestedSANs outside.net issued).Covers outside.net san) := by
  refine ⟨?_, fun _ h => h.cacheCovers_iff hissues⟩
  obtain ⟨extraSANs, certificate, hcur, hhas, hrecorded⟩ := uploadFiles_ok hkeyed hnames hrun
  obtain ⟨hfrz, hkept⟩ : Kept outside name world world' :=
    Logic.of_run_preserving (Kept.uploadFiles hkeyed) hrun ⟨.refl world, .inl rfl⟩
  rw [show serverCertificateOf world' name "kube-apiserver" = some certificate from hhas] at hkept
  have hpath : secretPath world' name "apiserver.crt" = secretPath world name "apiserver.crt" := by
    rw [secretPath, hfrz.cluster, ← secretPath]
  have hret : (kubeAPIServerSANs outside).run world' = .ok extraSANs world' := by
    rw [run_kubeAPIServerSANs, currentSANs_eq_of_sameFrozen hfrz, hcur]
  constructor
  · rintro ⟨extraSANs', certificate', hsans, hhas', -, hcovers⟩ cached current hcached hcurrent₁
    rw [hret] at hsans
    cases hsans
    cases hcur.symm.trans hcurrent₁
    cases hhas'.symm.trans hhas
    rcases hkept with hkept | ⟨hnone, -⟩
    · cases hkept.trans hcached
      exact hcovers
    · rw [hcached] at hnone
      cases hnone
  · intro hcache
    rw [← hpath] at hrecorded
    refine ⟨extraSANs, certificate, hret, hhas, hrecorded, ?_⟩
    rcases hkept with hkept | ⟨-, _, _, hcurrent₁, heq, ca, commonName, organization, s, hnew⟩
    · exact hcache certificate extraSANs hkept.symm hcur
    · intro san hsan
      cases hcur.symm.trans hcurrent₁
      cases heq
      rw [hissues _ _ _ _ _ _ hnew]
      exact SANs.covers_requestedSANs hnet (List.mem_append.mp hsan).symm

/-! ## A name that is added later -/

/-- The conversions for IPv4, and the IPv6 loopback address. -/
def loopbackNet : NetText :=
  { NetText.ipv4 with
    parseIP := fun text => if text = "::1" then some ipv6Loopback else NetText.ipv4.parseIP text }

theorem readsLoopbacks_loopbackNet : loopbackNet.ReadsLoopbacks :=
  ⟨by decide, by decide, by decide⟩

/-- The texts of the certificates that `issuingOutside` issues, and the names in them. -/
def issued : List (String × List String) :=
  [("client", []), ("server", ["10.96.0.1"]), ("renewed", ["api.example.com", "10.96.0.1"])]

/-- An outside that issues three certificates. -/
def issuingOutside : Outside Unit :=
  { Outside.succeeding with
    net := loopbackNet
    createCertificate := fun _ _ _ extraSANs s =>
      match issued.find? fun entry => entry.2 = extraSANs with
      | some entry => (.ok ⟨entry.1, ""⟩, s)
      | none => (.error (.error "unknown names"), s) }

/-- The names in a certificate of `issuingOutside`. -/
def issuedSANs (certificate : Certificate) : SANs :=
  SANs.requestedSANs loopbackNet
    ((issued.find? fun entry => entry.1 = certificate.certificate).elim [] Prod.snd)

theorem issues_issuingOutside : Issues issuingOutside issuedSANs := by
  intro ca commonName organization extraSANs s certificate hnew
  simp only [issuingOutside] at hnew
  split at hnew
  · next entry hfound =>
    cases hnew
    have hnames : entry.2 = extraSANs := by simpa using List.find?_some hfound
    have hentry : ∀ entry ∈ issued, (issued.find? fun other => other.1 = entry.1) = some entry := by
      decide
    rw [issuedSANs, hentry entry (List.mem_of_find?_eq_some hfound), Option.elim_some, hnames]
    rfl
  · cases hnew

/-- A control plane whose cluster has these extra names. -/
def worldWithSANs (world : World Unit) (extraSANs : List String) : World Unit :=
  { world with
    cluster.apiServer := world.cluster.apiServer.map fun apiServer =>
      { apiServer with extraSANs := extraSANs } }

/-- The same outside while the hypervisors cannot be reached. -/
def unreachableOutside : Outside Unit :=
  { issuingOutside with host := fun _ _ _ s => (.error "unreachable", s) }

/-- A control plane that has got its certificates, but could not upload them. -/
def interruptedWorld : World Unit :=
  finalState ((ControlPlane.uploadFiles unreachableOutside "cp").run readyWorld)

/-- A name is added to a cluster whose API server has its certificate.  The next upload
returns, with the certificate from before. -/
theorem not_covered_added_name :
    let added := worldWithSANs interruptedWorld ["api.example.com"]
    Returns (ControlPlane.uploadFiles issuingOutside "cp") added ∧
      ¬ Covered issuingOutside issuedSANs "cp"
        (finalState ((ControlPlane.uploadFiles issuingOutside "cp").run added)) := by
  intro added
  refine ⟨by decide +kernel, ?_⟩
  have hcur : currentSANs issuingOutside.net
      (finalState ((ControlPlane.uploadFiles issuingOutside "cp").run added)) =
        .ok ["api.example.com", "10.96.0.1"] := by decide +kernel
  have hkept : serverCertificateOf
      (finalState ((ControlPlane.uploadFiles issuingOutside "cp").run added)) "cp"
        "kube-apiserver" = some ⟨"server", ""⟩ := by decide +kernel
  generalize finalState ((ControlPlane.uploadFiles issuingOutside "cp").run added) = after
    at hcur hkept ⊢
  rintro ⟨extraSANs, certificate, hsans, hcert, -, hcovers⟩
  rw [run_kubeAPIServerSANs, hcur] at hsans
  cases hsans
  rw [hkept] at hcert
  cases hcert
  have hname := hcovers "api.example.com" (by decide)
  exact absurd hname (by decide)

theorem keyed_readyWorld : Keyed readyWorld := ⟨by decide, by decide⟩

theorem plainNames_readyWorld : PlainNames readyWorld "cp" := ⟨by decide, by decide, by decide⟩

/-- The first upload of a control plane. -/
theorem covered_iff_readyWorld : ∃ world',
    (ControlPlane.uploadFiles issuingOutside "cp").run readyWorld = .ok () world' ∧
      Covered issuingOutside issuedSANs "cp" world' := by
  have hret : Returns (ControlPlane.uploadFiles issuingOutside "cp") readyWorld := by
    decide +kernel
  obtain ⟨_, world', hrun⟩ := hret
  obtain ⟨hcovered, hhistory⟩ := covered_iff issuingOutside readsLoopbacks_loopbackNet issuedSANs
    issues_issuingOutside keyed_readyWorld plainNames_readyWorld hrun
  refine ⟨world', hrun, hcovered.mpr ((hhistory none (.start keyed_readyWorld ?_)).mpr nofun)⟩
  decide

end ControlPlane

end Components

end OneInfra
