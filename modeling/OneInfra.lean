import OneInfra.Lib.GoMap
import OneInfra.Lib.Keyed
import OneInfra.Lib.Prog
import OneInfra.Lib.SlotAllocator
import OneInfra.Lib.FilePath
import OneInfra.Lib.DNSName
import OneInfra.Lib.BigEndian
import OneInfra.Lib.LeadingOnes
import OneInfra.Lib.Reach
import OneInfra.Lib.Versioned
import OneInfra.Lib.Replan
import OneInfra.Lib.NestedMap
import OneInfra.Conditions
import OneInfra.Conditions.Sequences
import OneInfra.Infra.Hypervisor
import OneInfra.Infra.Ports
import OneInfra.Infra.Runtime
import OneInfra.Infra.EnsurePod
import OneInfra.Infra.Files
import OneInfra.Infra.Host
import OneInfra.Infra.Uploads
import OneInfra.Infra.FileMaps
import OneInfra.Infra.UploadPods
import OneInfra.Infra.PortRange
import OneInfra.Infra.V1alpha1
import OneInfra.Cluster.Cluster
import OneInfra.Cluster.JoinTokens
import OneInfra.Cluster.VPN
import OneInfra.Cluster.Networks
import OneInfra.Cluster.VPNAddresses
import OneInfra.Cluster.V1alpha1
import OneInfra.Cluster.NodeJoinRequests
import OneInfra.Cluster.ServiceAddresses
import OneInfra.Cluster.JoinAnswers
import OneInfra.Cluster.SymmetricKey
import OneInfra.Cluster.JoinOutcome
import OneInfra.Cluster.Export
import OneInfra.Cluster.Credentials
import OneInfra.Cluster.Reconciler
import OneInfra.Node.Join
import OneInfra.Component.Paths
import OneInfra.Component.Component
import OneInfra.Component.World
import OneInfra.Component.Etcd
import OneInfra.Component.ControlPlane
import OneInfra.Component.ControlPlaneIngress
import OneInfra.Component.WireguardNames
import OneInfra.Component.Reconciler
import OneInfra.Component.Steps
import OneInfra.Cluster.StorageEndpoints
import OneInfra.Component.Performs
import OneInfra.Component.PortSteps
import OneInfra.Component.NilHypervisor
import OneInfra.Component.V1alpha1
import OneInfra.Component.Logic
import OneInfra.Component.ControlPlanePod
import OneInfra.Component.HostCleanup
import OneInfra.Component.ServerCertificates
import OneInfra.Component.Records
import OneInfra.Component.UploadPaths
import OneInfra.Manifests.Documents
import OneInfra.Manifests.Infra
import OneInfra.Controllers.ClusterController
import OneInfra.Controllers.Admission
import OneInfra.Controllers.NodeJoinRequestReconciler
import OneInfra.Controllers.NodeJoin
import OneInfra.Controllers.HostileRequests
import OneInfra.Controllers.Store
import OneInfra.Controllers.ComponentReconciler
import OneInfra.Controllers.PortAgreement
import OneInfra.Controllers.DirtyTracking
import OneInfra.Controllers.ComponentScheduler
import OneInfra.Controllers.ClusterInitializer
import OneInfra.Cluster.NewCluster
import OneInfra.Controllers.ClusterReconciler
import OneInfra.Controllers.Replicas
import OneInfra.Component.IngressEndpoints
import OneInfra.Cluster.NetTexts
import OneInfra.Component.WireguardPeers
import OneInfra.Infra.TruthfulFiles
import OneInfra.Controllers.Orphans
import OneInfra.Controllers.Phases
import OneInfra.Manifests.Splitting
import OneInfra.Component.Bootstrap
import OneInfra.Component.Releases
import OneInfra.Controllers.Leaks
import OneInfra.Controllers.NodeRetries
