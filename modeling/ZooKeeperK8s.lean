import ZooKeeperK8s.Store
import ZooKeeperK8s.Env
import ZooKeeperK8s.Charm
import ZooKeeperK8s.System
import ZooKeeperK8s.Log
import ZooKeeperK8s.Runs
import ZooKeeperK8s.Proofs.Frame
import ZooKeeperK8s.Proofs.Encryption
import ZooKeeperK8s.Proofs.Startup
import ZooKeeperK8s.Proofs.Renewal
import ZooKeeperK8s.Proofs.ClientData
import ZooKeeperK8s.Proofs.Credentials
import ZooKeeperK8s.Proofs.Quorum
import ZooKeeperK8s.Proofs.Migration
import ZooKeeperK8s.Proofs.Reconcile
import ZooKeeperK8s.Proofs.Membership
import ZooKeeperK8s.Proofs.Publisher
