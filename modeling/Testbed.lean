import Testbed.Lab.Network
import Testbed.Main
import Testbed.Proofs.Bootstrap
import Testbed.Proofs.Client.Output
import Testbed.Proofs.Cluster.Bootstrapping
import Testbed.Proofs.Cluster.Membership
import Testbed.Proofs.Cluster.Settlement
import Testbed.Proofs.Container.Atomicity
import Testbed.Proofs.Container.Raid
import Testbed.Proofs.Container.Rechecking
import Testbed.Proofs.Container.Redeployment
import Testbed.Proofs.Fault.Failing
import Testbed.Proofs.Fault.Healing
import Testbed.Proofs.Firewall.Listing
import Testbed.Proofs.Layout
import Testbed.Proofs.Lifecycle.Agreement
import Testbed.Proofs.Management
import Testbed.Proofs.Params.CommandLine
import Testbed.Proofs.Params.Defaults
import Testbed.Proofs.Params.Growth
import Testbed.Proofs.Pool.Makespan
import Testbed.Proofs.Provision.Polling
import Testbed.Proofs.RemoteProcess.Deadline
import Testbed.Proofs.RemoteProcess.ExitCodes
import Testbed.Proofs.RemoteProcess.Signature
import Testbed.Proofs.RemoteProcess.Survivors
import Testbed.Proofs.Universe.Admission
import Testbed.Proofs.Universe.Finality
import Testbed.Proofs.Universe.Isolation
import Testbed.Proofs.Universe.Placement
import Testbed.Proofs.Universe.Provisioning
import Testbed.Proofs.Universe.Readiness
import Testbed.Proofs.Universe.Teardown
