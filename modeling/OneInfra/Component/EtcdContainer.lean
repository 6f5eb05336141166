import OneInfra.Component.Paths
import OneInfra.Infra.Runtime

/-!
# The container of etcd

`EtcdContainer` is the data that `etcdContainer` in
`internal/pkg/component/components/etcd.go` collects for the container of etcd,
and `EtcdContainer.toContainer` is the container that it builds from them.  The
paths are those of `OneInfra.Component.Paths`.

The container says in which state etcd starts.  `Container.Bootstraps` reads that
off the arguments: etcd starts a cluster of its own with
`--initial-cluster-state=new`, and without the flag as well.
`bootstraps_toContainer_iff` says that only a container with the list of the
existing members does not.
-/

namespace OneInfra

open Lib Infra

/-! ## URLs and arguments -/

/-- `net.JoinHostPort`. -/
def joinHostPort (host : String) (port : Int64) : String :=
  if ':' ∈ host.toList then "[" ++ host ++ "]:" ++ toString port
  else host ++ ":" ++ toString port

/-- The text of a URL with the scheme `https`, for a host in which nothing is escaped. -/
def httpsURL (host : String) (port : Int64) : String :=
  "https://" ++ joinHostPort host port

/-- `ArgsFromMap`, in one of the orders of the map. -/
def argsFromMap (args : List (String × String)) : List String :=
  args.map fun arg => "--" ++ arg.1 ++ "=" ++ arg.2

/-- The flag that an argument sets: what stands before the first `=`. -/
def flagOf (arg : String) : String :=
  String.ofList (arg.toList.takeWhile (· ≠ '='))

theorem flagOf_eq {key value : String} (hkey : '=' ∉ key.toList) :
    flagOf ("--" ++ key ++ "=" ++ value) = "--" ++ key := by
  have hflag : '=' ∉ "--".toList ++ key.toList := by
    rw [List.mem_append]
    exact not_or.mpr ⟨by decide, hkey⟩
  have htake : (("--".toList ++ key.toList) ++ '=' :: value.toList).takeWhile (· ≠ '=') =
      "--".toList ++ key.toList := by
    rw [List.takeWhile_append_of_pos]
    · simp
    · intro char hchar
      simpa using ne_of_mem_of_not_mem hchar hflag
  have hsplit : ("--" ++ key ++ "=" ++ value).toList =
      ("--".toList ++ key.toList) ++ '=' :: value.toList := by simp
  rw [flagOf, hsplit, htake, ← String.toList_append, String.ofList_toList]

/-- The flags of the arguments are the keys. -/
theorem flagOf_of_mem_argsFromMap {args : List (String × String)} {arg : String}
    (hkeys : ∀ key ∈ args.map Prod.fst, '=' ∉ key.toList) (harg : arg ∈ argsFromMap args) :
    ∃ key ∈ args.map Prod.fst, flagOf arg = "--" ++ key := by
  obtain ⟨pair, hpair, rfl⟩ := List.mem_map.mp harg
  have hmem := List.mem_map_of_mem (f := Prod.fst) hpair
  exact ⟨pair.1, hmem, flagOf_eq (hkeys _ hmem)⟩

/-! ## The container -/

/-- In which state etcd starts. -/
inductive InitialClusterState
  /-- `--initial-cluster-state=new`. -/
  | new
  /-- Neither of the two flags. -/
  | unset
  /-- `--initial-cluster-state=existing`, with the names and the peer URLs of the
  members. -/
  | existing (initialCluster : List (String × String))
deriving DecidableEq, Repr

/-- The arguments for the state. -/
def InitialClusterState.args : InitialClusterState → List String
  | .new => ["--initial-cluster-state=new"]
  | .unset => []
  | .existing initialCluster => argsFromMap
      [("initial-cluster",
          ",".intercalate (initialCluster.map fun member => member.1 ++ "=" ++ member.2)),
        ("initial-cluster-state", "existing")]

/-- What the container of etcd is built from. -/
structure EtcdContainer where
  clusterNamespace : String
  clusterName : String
  componentName : String
  etcdVersion : String
  advertiseClientURL : String
  initialAdvertisePeerURL : String
  clientEndpoints : List String
  initialClusterState : InitialClusterState
deriving DecidableEq, Repr

namespace EtcdContainer

/-- The arguments that every container of etcd has. -/
def commonArgs (etcd : EtcdContainer) : List (String × String) :=
  let secret := componentSecretsPathFile etcd.clusterNamespace etcd.clusterName etcd.componentName
  [("name", etcd.componentName),
    ("client-cert-auth", "true"),
    ("peer-cert-allowed-cn", etcd.clusterName ++ ".etcd.cluster"),
    ("experimental-peer-skip-client-san-verification", "true"),
    ("cert-file", secret "etcd.crt"),
    ("key-file", secret "etcd.key"),
    ("trusted-ca-file", secret "etcd-client-ca.crt"),
    ("peer-trusted-ca-file", secret "etcd-peer-ca.crt"),
    ("peer-cert-file", secret "etcd-peer.crt"),
    ("peer-key-file", secret "etcd-peer.key"),
    ("data-dir", "/var/lib/etcd"),
    ("listen-client-urls", "https://0.0.0.0:2379"),
    ("advertise-client-urls", etcd.advertiseClientURL),
    ("listen-peer-urls", "https://0.0.0.0:2380"),
    ("initial-advertise-peer-urls", etcd.initialAdvertisePeerURL),
    ("enable-grpc-gateway", "false")]

/-- The container. -/
def toContainer (etcd : EtcdContainer) : Container :=
  let secretsPath := componentSecretsPath etcd.clusterNamespace etcd.clusterName etcd.componentName
  let secret := componentSecretsPathFile etcd.clusterNamespace etcd.clusterName etcd.componentName
  { name := "etcd"
    image := "oneinfra/etcd:" ++ etcd.etcdVersion
    command := ["etcd"]
    args := argsFromMap etcd.commonArgs ++ etcd.initialClusterState.args
    env := (∅ : GoMap String String)
      |>.insert "ETCDCTL_CACERT" (secret "etcd-ca.crt")
      |>.insert "ETCDCTL_CERT" (secret "apiserver-etcd-client.crt")
      |>.insert "ETCDCTL_KEY" (secret "apiserver-etcd-client.key")
      |>.insert "ETCDCTL_ENDPOINTS" (",".intercalate etcd.clientEndpoints)
    mounts := (∅ : GoMap String String)
      |>.insert secretsPath secretsPath
      |>.insert (subcomponentStoragePath etcd.clusterNamespace etcd.clusterName
          etcd.componentName "etcd") "/var/lib/etcd" }

end EtcdContainer

/-- Whether a container starts etcd as a cluster of its own. -/
def Infra.Container.Bootstraps (container : Container) : Prop :=
  "--initial-cluster-state=new" ∈ container.args ∨
    ∀ arg ∈ container.args, flagOf arg ≠ "--initial-cluster-state"

instance (container : Container) : Decidable container.Bootstraps :=
  inferInstanceAs (Decidable (_ ∨ _))

namespace EtcdContainer

/-- None of the common arguments is about the state. -/
theorem flagOf_ne_of_mem_commonArgs {etcd : EtcdContainer} {arg : String}
    (harg : arg ∈ argsFromMap etcd.commonArgs) : flagOf arg ≠ "--initial-cluster-state" := by
  have hkeys : ∀ key ∈ etcd.commonArgs.map Prod.fst,
      '=' ∉ key.toList ∧ "--" ++ key ≠ "--initial-cluster-state" := by
    show ∀ key ∈ (["name", "client-cert-auth", "peer-cert-allowed-cn",
        "experimental-peer-skip-client-san-verification", "cert-file", "key-file",
        "trusted-ca-file", "peer-trusted-ca-file", "peer-cert-file", "peer-key-file", "data-dir",
        "listen-client-urls", "advertise-client-urls", "listen-peer-urls",
        "initial-advertise-peer-urls", "enable-grpc-gateway"] : List String),
      '=' ∉ key.toList ∧ "--" ++ key ≠ "--initial-cluster-state"
    decide
  obtain ⟨key, hkey, hflag⟩ := flagOf_of_mem_argsFromMap (fun key hkey => (hkeys key hkey).1) harg
  rw [hflag]
  exact (hkeys key hkey).2

/-- Only a container with the existing members does not bootstrap. -/
theorem bootstraps_toContainer_iff (etcd : EtcdContainer) :
    etcd.toContainer.Bootstraps ↔ ∀ members, etcd.initialClusterState ≠ .existing members := by
  have hargs : etcd.toContainer.args =
      argsFromMap etcd.commonArgs ++ etcd.initialClusterState.args := rfl
  unfold Container.Bootstraps
  rw [hargs]
  cases etcd.initialClusterState with
  | new => simp [InitialClusterState.args]
  | unset =>
    refine iff_of_true (.inr ?_) (by simp)
    intro arg harg
    exact flagOf_ne_of_mem_commonArgs (by simpa [InitialClusterState.args] using harg)
  | existing members =>
    refine iff_of_false ?_ (by simp)
    rintro (hnew | hunset)
    · rcases List.mem_append.mp hnew with hcommon | hstate
      · exact flagOf_ne_of_mem_commonArgs hcommon (by decide)
      · -- the flag of the list of members is another one, and its own value is another one
        simp only [InitialClusterState.args, argsFromMap, List.map_cons, List.map_nil,
          List.mem_cons, List.not_mem_nil, or_false] at hstate
        rcases hstate with hmembers | hexisting
        · have hflag := congrArg flagOf hmembers
          rw [flagOf_eq (by decide)] at hflag
          exact absurd hflag (by decide)
        · exact absurd hexisting (by decide)
    · refine hunset "--initial-cluster-state=existing" ?_ (by decide)
      exact List.mem_append_right _ (by simp [InitialClusterState.args, argsFromMap])

end EtcdContainer

end OneInfra
