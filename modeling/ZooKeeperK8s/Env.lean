import Mathlib.Data.List.Infix
import ZooKeeperK8s.Store

/-!
# The charm's collaborators and events

`charm.py` drives its workload and reads the cluster through objects whose code is not in the
source: `ClusterState` (`self.state`), `ZKWorkload`, the quorum, TLS and config managers, the
upgrade handler and the data-interfaces library. Each is a field of `Env`: a function of the
store as it is when the hook calls it. A hook runs with one `Env`, and nothing ties the `Env`s
of two hooks together, so a theorem over every `Env` holds whatever these collaborators do.
Where a result needs one of them to behave as the spec says, that behaviour is stated as a
hypothesis on `Env`, or as a named contract (`MembershipOnly`, `NextServerInOrder`,
`AddsStartedOnly`, `Env.Steady`).

`Status` and `UnitStatus` model the status keys of `literals.py` (absent from the source) as
far as `charm.py` uses them: `_set_status` stores a key, and `isinstance(self.unit.status,
ActiveStatus)` holds for `Status.ACTIVE` only.
-/

namespace ZooKeeperK8s

/-- Modelled from the spec: the `Status` keys `charm.py` sets (§4.3). -/
inductive Status
  | active
  | noPeerRelation
  | containerNotConnected
  | serviceUnavailable
  | serviceNotRunning
  | serviceUnhealthy
  | noPasswords
  | notAllRelated
  | notUnitTurn
  deriving DecidableEq, Repr

/-- What `self.unit.status` holds: a key set by `_set_status`, or the `WaitingStatus` that
`_on_install` sets itself. -/
inductive UnitStatus
  | key (k : Status)
  | waiting (message : String)
  deriving DecidableEq, Repr

/-- Modelled from the spec: `isinstance(self.unit.status, ActiveStatus)`; only
`Status.ACTIVE` maps to an `ActiveStatus`. -/
def UnitStatus.isActive : UnitStatus → Bool
  | .key .active => true
  | _ => false

@[simp] theorem UnitStatus.isActive_key (k : Status) : (UnitStatus.key k).isActive = (k == .active) := by
  cases k <;> rfl

/-- The subject alternative names `tls_manager` reports. -/
structure Sans where
  sansIp : List String
  sansDns : List String

/-- What `update_client_data` reads off a `ZKClient`. -/
structure ZKClient where
  endpoints : String
  tls : String
  username : String
  password : String
  database : String
  chroot : String
  uris : String

/-- `self.state`, the properties of `ClusterState` that are not modelled on the databags. -/
structure ClusterState where
  allUnitsRelated : World → Bool
  /-- The unit number of `next_server.component`, when there is a next server with a unit. -/
  nextServer : World → Option Nat
  endpoints : World → List String
  /-- The unit number of `init_leader`, if any. -/
  initLeader : World → Option Nat
  staleQuorum : World → Bool
  healthy : World → Bool
  stable : World → Status
  ready : World → Status
  /-- `cluster.is_restore_in_progress`. -/
  isRestoreInProgress : World → Bool
  /-- `cluster.rotate_passwords`. -/
  rotatePasswords : World → Bool
  /-- `unit_server.ca_cert`. -/
  caCert : World → String
  /-- The client of each client relation. -/
  client : World → Nat → ZKClient

/-- `self.workload`. -/
structure ZKWorkload where
  containerCanConnect : World → Bool
  alive : World → Bool
  /-- `workload.healthy`; `none` when the probe raises `ModelError` or `RetryError`. -/
  healthy : World → Option Bool
  getVersion : World → String
  generatePassword : World → String
  /-- `current_plan.services == self._layer.services`. -/
  planIsLayer : World → Bool

/-- The collaborators of one hook. -/
structure Env where
  state : ClusterState
  workload : ZKWorkload
  /-- `upgrade_events.idle`. -/
  idle : World → Bool
  /-- `quorum_manager.update_cluster()`. -/
  updateCluster : World → List (String × String)
  /-- `tls_manager.get_current_sans()`; `none` when there is no certificate to read. -/
  getCurrentSans : World → Option Sans
  /-- `tls_manager.build_sans()`. -/
  buildSans : World → Sans
  /-- `config_manager.config_changed()`. -/
  configChanged : World → Bool
  /-- `config_manager.current_jaas`. -/
  currentJaas : World → List String
  /-- `data_interface._generate_secret_label(relation_name, relation_id, group)`. -/
  generateSecretLabel : String → Nat → String → String

/-! ### Events -/

/-- The events `charm.py` observes, and the rolling-ops `RunWithLock` event. -/
inductive Event
  | install
  | updateStatus
  | upgradeCharm
  | start
  | zookeeperPebbleReady
  | leaderElected
  | configChanged
  | secretChanged (label : String)
  | clusterRelationChanged
  | clusterRelationJoined
  | clusterRelationDeparted (departingUnit : Option Nat)
  | runWithLock

namespace Event

/-- `getattr(event, "departing_unit", None)`. -/
def departingUnit : Event → Option Nat
  | .clusterRelationDeparted d => d
  | _ => none

/-- `isinstance(event, (RelationDepartedEvent, LeaderElectedEvent))`. -/
def isDepartedOrLeaderElected : Event → Bool
  | .clusterRelationDeparted _ | .leaderElected => true
  | _ => false

end Event

end ZooKeeperK8s
