import Mathlib.Logic.Function.Basic

/-!
# The store the charm's hooks share

The units of the application share the `cluster` peer relation. Its application databag
(`state.cluster`) is written by the leader, each unit's databag (`state.unit_server`) by that
unit; every client relation has an application databag the leader writes. A databag maps
keys to strings and `update` with `""` removes a key, so an absent key reads as `""`.

`World` is what every unit's hooks read: the databags, the leader, the units and clients the
relations know, the external Kubernetes service, and the `restart` relation the rolling-ops
lock lives in. A hook changes it only through a `Write`; `Write.apply` is the one place that
says what each kind of write touches, and the `@[simp]` lemmas below are its frame.

The properties of `core/models.py` and `core/cluster.py` that the charm reads off these
databags are not in the source; the ones `charm.py` reads are modelled here from the spec.
-/

namespace ZooKeeperK8s

/-- A relation databag; an absent key reads as `""`. -/
def Databag := String → String

namespace Databag

/-- The databag with no keys. -/
def empty : Databag := fun _ => ""

/-- `databag.update(kvs)`: each written key takes its new value (`""` removes it). -/
def update (d : Databag) (kvs : List (String × String)) : Databag :=
  fun k => (kvs.lookup k).getD (d k)

@[simp] theorem update_nil (d : Databag) : d.update [] = d := rfl

@[simp] theorem update_cons (d : Databag) (k v : String) (kvs : List (String × String)) (k' : String) :
    d.update ((k, v) :: kvs) k' = if k' = k then v else d.update kvs k' := by
  by_cases h : k' = k
  · simp [update, h]
  · have : (k' == k) = false := by simpa using h
    simp [update, List.lookup_cons, this, h]

/-- Writing the same pairs again changes nothing. -/
@[simp] theorem update_update_self (d : Databag) (kvs : List (String × String)) :
    (d.update kvs).update kvs = d.update kvs := by
  funext k
  simp only [update]
  cases kvs.lookup k <;> rfl

/-- A key the write does not name keeps its value. -/
theorem update_of_forall_ne {d : Databag} {kvs : List (String × String)} {k : String}
    (h : ∀ p ∈ kvs, p.1 ≠ k) : d.update kvs k = d k := by
  have : kvs.lookup k = none := List.lookup_eq_none_iff.2 fun p hp => bne_iff_ne.2 (h p hp).symm
  simp [update, this]

end Databag

/-! ### Literals -/

/-- `PEER`. -/
def peer : String := "cluster"

/-- `CHARM_USERS`: the internal accounts the leader generates passwords for. -/
def charmUsers : List String := ["super", "sync"]

/-- `SUBSTRATE`, which the given `literals.py` leaves out: this is the Kubernetes charm. -/
def substrate : String := "k8s"

/-- Modelled from the spec: `core.stubs.ExposeExternal`, the `expose-external` option
({disabled, node-port, load-balancer}, §6). -/
inductive ExposeExternal
  | false
  | nodeport
  | loadbalancer
  deriving DecidableEq, Repr

/-- The external service `k8s_manager.apply_service` keeps. -/
inductive Service
  | nodeport
  | loadbalancer
  deriving DecidableEq, Repr

/-! ### What the charm reads off the databags -/

/-- Modelled from the spec: `cluster.quorum`, the cluster-wide quorum target. -/
def ZKCluster.quorum (c : Databag) : String := c "quorum"

/-- Modelled from the spec: `cluster.switching_encryption`, set while a migration is on. -/
def ZKCluster.switchingEncryption (c : Databag) : Bool := c "switching-encryption" != ""

/-- Modelled from the spec: `cluster.tls`, transport security enabled cluster-wide. -/
def ZKCluster.tls (c : Databag) : Bool := c "tls" != ""

/-- Modelled from the spec: `cluster.internal_user_credentials`, a password for each of
`CHARM_USERS` (written by `_on_install` under `f"{user}-password"`). -/
def ZKCluster.internalUserCredentials (c : Databag) : Bool :=
  charmUsers.all fun user => c (user ++ "-password") != ""

/-- Modelled from the spec: `server.started`, the `startedFlag` that `init_server` writes as
`state: started`. -/
def ZKServer.started (d : Databag) : Bool := d "state" == "started"

/-- `server.unified`: `"true"` while the unit runs with `portUnification`. -/
def ZKServer.unified (d : Databag) : String := d "unified"

/-- `server.quorum`: the quorum encryption the unit last restarted with. -/
def ZKServer.quorum (d : Databag) : String := d "quorum"

/-- `server.certificate`: the unit's stored certificate. -/
def ZKServer.certificate (d : Databag) : String := d "certificate"

/-! ### The world -/

/-- The deployment as the charm's hooks see it. -/
structure World where
  /-- `state.cluster`: the `cluster` relation's application databag. -/
  cluster : Databag
  /-- The `cluster` relation's unit databags, by unit number. -/
  units : Nat → Databag
  /-- `state.servers`: the units of the peer relation. -/
  servers : List Nat
  /-- `state.clients`: the client relations, by relation id. -/
  clients : List Nat
  /-- Each client relation's application databag. -/
  clientData : Nat → Databag
  /-- The external service `k8s_manager` keeps, if any. -/
  service : Option Service
  /-- The elected leader, if any. -/
  leader : Option Nat
  /-- `state.peer_relation`: the id of the `cluster` relation once it exists. -/
  peerRelation : Option Nat
  /-- `config.expose_external`. -/
  exposeExternal : ExposeExternal
  /-- The `restart` relation: the units whose databag asks for the lock. -/
  lockRequested : Nat → Bool
  /-- The `restart` relation: the unit the leader granted the lock to. -/
  lockGranted : Option Nat

namespace World

/-- `self.unit.is_leader()` on unit `u`. -/
def isLeader (w : World) (u : Nat) : Bool := w.leader == some u

/-- `state.unit_server` of unit `u`. -/
def unitServer (w : World) (u : Nat) : Databag := w.units u

/-- Modelled from the spec: `state.all_units_unified`, every known server reports
`unified` (§3). -/
def allUnitsUnified (w : World) : Bool :=
  w.servers.all fun v => ZKServer.unified (w.units v) == "true"

/-- Modelled from the spec: `state.all_units_quorum`, every server's quorum is the cluster
quorum (§4.1.2). -/
def allUnitsQuorum (w : World) : Bool :=
  w.servers.all fun v => ZKServer.quorum (w.units v) == ZKCluster.quorum w.cluster

end World

/-! ### Writes -/

/-- One change of the store, made by the unit running the hook. -/
inductive Write
  | none
  /-- `state.cluster.update(kvs)`. -/
  | cluster (kvs : List (String × String))
  /-- `state.unit_server.update(kvs)`: the unit's own databag. -/
  | unit (kvs : List (String × String))
  /-- `client.update(kvs)` on the client relation `rid`. -/
  | client (rid : Nat) (kvs : List (String × String))
  /-- `k8s_manager.apply_service` (`some`) or `remove_service` (`none`). -/
  | service (s : Option Service)
  /-- The unit's `restart` databag asks for the lock. -/
  | requestLock
  /-- The unit's `restart` databag releases the lock. -/
  | releaseLock

/-- The store after unit `u` makes the write. -/
def Write.apply (u : Nat) : Write → World → World
  | .none, w => w
  | .cluster kvs, w => { w with cluster := w.cluster.update kvs }
  | .unit kvs, w => { w with units := Function.update w.units u ((w.units u).update kvs) }
  | .client rid kvs, w =>
    { w with clientData := Function.update w.clientData rid ((w.clientData rid).update kvs) }
  | .service s, w => { w with service := s }
  | .requestLock, w => { w with lockRequested := Function.update w.lockRequested u true }
  | .releaseLock, w => { w with lockRequested := Function.update w.lockRequested u false }

namespace Write
variable (u : Nat) (wr : Write) (w : World) (kvs : List (String × String))

@[simp] theorem apply_none : Write.none.apply u w = w := rfl
@[simp] theorem apply_cluster :
    (Write.cluster kvs).apply u w = { w with cluster := w.cluster.update kvs } := rfl
@[simp] theorem apply_unit : (Write.unit kvs).apply u w =
    { w with units := Function.update w.units u ((w.units u).update kvs) } := rfl
@[simp] theorem apply_client (rid : Nat) : (Write.client rid kvs).apply u w =
    { w with clientData := Function.update w.clientData rid ((w.clientData rid).update kvs) } :=
  rfl
@[simp] theorem apply_service (s : Option Service) :
    (Write.service s).apply u w = { w with service := s } := rfl
@[simp] theorem apply_requestLock : Write.requestLock.apply u w =
    { w with lockRequested := Function.update w.lockRequested u true } := rfl
@[simp] theorem apply_releaseLock : Write.releaseLock.apply u w =
    { w with lockRequested := Function.update w.lockRequested u false } := rfl

@[simp] theorem apply_servers : (wr.apply u w).servers = w.servers := by cases wr <;> rfl
@[simp] theorem apply_clients : (wr.apply u w).clients = w.clients := by cases wr <;> rfl
@[simp] theorem apply_leader : (wr.apply u w).leader = w.leader := by cases wr <;> rfl
@[simp] theorem apply_peerRelation : (wr.apply u w).peerRelation = w.peerRelation := by
  cases wr <;> rfl
@[simp] theorem apply_exposeExternal : (wr.apply u w).exposeExternal = w.exposeExternal := by
  cases wr <;> rfl
@[simp] theorem apply_lockGranted : (wr.apply u w).lockGranted = w.lockGranted := by
  cases wr <;> rfl

@[simp] theorem apply_isLeader (v : Nat) : (wr.apply u w).isLeader v = w.isLeader v := by
  simp [World.isLeader]

/-- Nobody writes another unit's databag. -/
theorem apply_units_of_ne {v : Nat} (h : v ≠ u) : (wr.apply u w).units v = w.units v := by
  cases wr <;> simp [apply, Function.update_noteq h]

theorem apply_lockRequested_of_ne {v : Nat} (h : v ≠ u) :
    (wr.apply u w).lockRequested v = w.lockRequested v := by
  cases wr <;> simp [apply, Function.update_noteq h]

end Write

end ZooKeeperK8s
