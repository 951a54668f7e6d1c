import ZooKeeperK8s.Env

/-!
# The hooks of `charm.py`

One definition per method of `ZooKeeperCharm`, in the source's order of branches and writes.
A hook runs on one unit and threads a `Run`: the store, the unit's status and workload
version, and the log of what it did. Every change of the store, every call that starts the
workload, every event emitted and every deferral is one `Op` of the log, tagged with its
`Site` (the line of `charm.py` it comes from) and the store it was taken in; the store after
it is `Op.post`.

An uncaught error (the health probe raising in `_on_cluster_relation_changed`) ends the hook
with `errored` set; `System.lean` then commits none of its databag writes or its status, as
Juju does for a failed hook, and keeps only the Kubernetes service it reconciled.
The rolling-ops library is not in the source: `runWithLock` models from the spec (§5) the
event that runs `_restart` while the unit holds the lock.
-/

namespace ZooKeeperK8s

/-- The places of `charm.py` that act on the store, the workload or the event queue. -/
inductive Site
  /-- `_on_install`, l. 215: a generated password for one of `CHARM_USERS`. -/
  | installPassword (user : String)
  /-- `_on_install`, l. 219: the default quorum. -/
  | installQuorum
  /-- `update_external_services`, l. 190. -/
  | removeService
  /-- `update_external_services`, l. 195 and l. 199. -/
  | applyService
  /-- `event.defer()`. -/
  | defer
  /-- `_on_cluster_relation_changed`, l. 285: `certificate_expiring.emit(...)`. -/
  | certificateExpiring
  /-- `_on_cluster_relation_changed`, l. 289: the stored certificate cleared. -/
  | clearCertificate
  /-- `_on_cluster_relation_changed`, l. 310: `acquire_lock.emit()`. -/
  | acquireLock
  /-- `_on_cluster_relation_changed`, l. 321: the health probe raised. -/
  | raise
  /-- `_restart`, l. 378: `workload.start(layer)`. -/
  | restartStart
  /-- `_restart`, l. 380: `workload.restart()`. -/
  | restartRestart
  /-- `_restart`, l. 384: `time.sleep(5)`. -/
  | settle
  /-- `_restart`, l. 386: the unit's `unified`, `quorum` and `password-rotated` flags. -/
  | restartFlags
  /-- `init_server`, l. 429-438: myid, JVM flags, dynamic and static properties, JAAS. -/
  | setConfig
  /-- `init_server`, l. 447-453: key and trust stores. -/
  | setTls
  /-- `init_server`, l. 456: `workload.start(layer)`. -/
  | initStart
  /-- `init_server`, l. 463: the unit's `state`, `unified` and `quorum` flags. -/
  | startedFlags
  /-- `update_quorum`, l. 483: the init leader marked `added`. -/
  | initLeaderAdded
  /-- `update_quorum`, l. 497: `quorum_manager.update_cluster()` written back. -/
  | updatedServers
  /-- `update_quorum`, l. 511 and l. 514: the quorum target. -/
  | quorumTarget
  /-- `update_quorum`, l. 520: `switching-encryption` cleared. -/
  | clearSwitchingEncryption
  /-- `disconnect_clients`, l. 531. -/
  | disconnectClient
  /-- `update_client_data`, l. 559. -/
  | updateClient
  /-- The rolling-ops lock released after `_restart` returns. -/
  | releaseLock
  deriving DecidableEq, Repr

/-- One action of a hook: who took it, where, what it wrote, and the store it was taken in. -/
structure Op where
  unit : Nat
  site : Site
  write : Write
  pre : World

/-- The store right after the op. -/
def Op.post (e : Op) : World := e.write.apply e.unit e.pre

/-- A hook in progress on `unit`. -/
structure Run where
  unit : Nat
  world : World
  status : UnitStatus
  version : String
  log : List Op
  errored : Bool

namespace Run

/-- The unit takes the action `site`, making the write `wr`. -/
def act (r : Run) (site : Site) (wr : Write) : Run :=
  { r with world := wr.apply r.unit r.world, log := r.log ++ [⟨r.unit, site, wr, r.world⟩] }

/-- `_set_status(key)`. -/
def setStatus (r : Run) (k : Status) : Run := { r with status := .key k }

/-- `unit.set_workload_version(v)`. -/
def setWorkloadVersion (r : Run) (v : String) : Run := { r with version := v }

/-- `event.defer()`. -/
def defer (r : Run) : Run := r.act .defer .none

/-- An uncaught exception: the hook stops and fails. -/
def raise (r : Run) : Run := { r.act .raise .none with errored := true }

/-- `self.unit.is_leader()`. -/
def isLeader (r : Run) : Bool := r.world.isLeader r.unit

/-- `self.state.unit_server`. -/
def unitServer (r : Run) : Databag := r.world.unitServer r.unit

variable (r : Run) (site : Site) (wr : Write) (k : Status) (v : String)

@[simp] theorem act_unit : (r.act site wr).unit = r.unit := rfl
@[simp] theorem act_world : (r.act site wr).world = wr.apply r.unit r.world := rfl
@[simp] theorem act_log : (r.act site wr).log = r.log ++ [⟨r.unit, site, wr, r.world⟩] := rfl
@[simp] theorem act_status : (r.act site wr).status = r.status := rfl
@[simp] theorem act_errored : (r.act site wr).errored = r.errored := rfl
@[simp] theorem setStatus_unit : (r.setStatus k).unit = r.unit := rfl
@[simp] theorem setStatus_world : (r.setStatus k).world = r.world := rfl
@[simp] theorem setStatus_log : (r.setStatus k).log = r.log := rfl
@[simp] theorem setStatus_status : (r.setStatus k).status = .key k := rfl
@[simp] theorem setStatus_errored : (r.setStatus k).errored = r.errored := rfl
@[simp] theorem setWorkloadVersion_unit : (r.setWorkloadVersion v).unit = r.unit := rfl
@[simp] theorem setWorkloadVersion_world : (r.setWorkloadVersion v).world = r.world := rfl
@[simp] theorem setWorkloadVersion_log : (r.setWorkloadVersion v).log = r.log := rfl
@[simp] theorem setWorkloadVersion_status : (r.setWorkloadVersion v).status = r.status := rfl
@[simp] theorem setWorkloadVersion_errored : (r.setWorkloadVersion v).errored = r.errored := rfl
@[simp] theorem isLeader_eq : r.isLeader = r.world.isLeader r.unit := rfl
@[simp] theorem unitServer_eq : r.unitServer = r.world.units r.unit := rfl

end Run

/-! ### Convenience methods -/

/-- `update_external_services`. -/
def updateExternalServices (r : Run) : Run :=
  if !(substrate == "k8s") || !r.isLeader then r
  else match r.world.exposeExternal with
    | .false => r.act .removeService (.service none)
    | .nodeport => (r.setStatus .serviceUnavailable).act .applyService (.service (some .nodeport))
    | .loadbalancer =>
      (r.setStatus .serviceUnavailable).act .applyService (.service (some .loadbalancer))

/-- The start-order check of `init_server` (l. 417-421): a next server with a unit exists and
it is another unit. -/
def notUnitTurn (env : Env) (w : World) (u : Nat) : Bool :=
  match env.state.nextServer w with
  | some v => v != u
  | none => false

/-- The flags `init_server` writes to the unit's databag (l. 463-469). -/
def serverFlags (w : World) : List (String × String) :=
  [("state", "started"),
   ("unified", if ZKCluster.switchingEncryption w.cluster then "true" else ""),
   ("quorum", ZKCluster.quorum w.cluster)]

/-- `init_server`. -/
def initServer (env : Env) (r : Run) : Run :=
  if !ZKCluster.internalUserCredentials r.world.cluster then r.setStatus .noPasswords
  else if !env.state.allUnitsRelated r.world then r.setStatus .notAllRelated
  else if notUnitTurn env r.world r.unit then r.setStatus .notUnitTurn
  else
    let r := r.act .setConfig .none
    let r := if ZKCluster.tls r.world.cluster && ZKServer.certificate r.unitServer != ""
        && env.state.caCert r.world != "" then r.act .setTls .none else r
    let r := r.act .initStart .none
    let r := r.setWorkloadVersion (env.workload.getVersion r.world)
    r.act .startedFlags (.unit (serverFlags r.world))

/-- `client.password in "".join(current_jaas)`. -/
def passwordLoaded (password : String) (jaas : List String) : Bool :=
  decide (password.data <:+: (String.join jaas).data)

/-- The data `update_client_data` publishes to a client (l. 560-569). -/
def ZKClient.relationData (c : ZKClient) : List (String × String) :=
  [("endpoints", c.endpoints), ("tls", c.tls), ("username", c.username),
   ("password", c.password), ("database", c.database), ("chroot", c.chroot), ("uris", c.uris)]

/-- One turn of the loop of `update_client_data` (l. 542-570). -/
def updateClient (env : Env) (r : Run) (rid : Nat) : Run :=
  let client := env.state.client r.world rid
  if client.password == "" || !passwordLoaded client.password (env.currentJaas r.world) then r
  else r.act .updateClient (.client rid client.relationData)

/-- `update_client_data`. -/
def updateClientData (env : Env) (r : Run) : Run :=
  if !r.isLeader then r
  else
    let r := r.setStatus (env.state.ready r.world)
    if !r.status.isActive then r
    else r.world.clients.foldl (updateClient env) r

/-- `disconnect_clients`. -/
def disconnectClients (r : Run) : Run :=
  if !r.isLeader then r
  else r.world.clients.foldl (fun r rid => r.act .disconnectClient (.client rid [("endpoints", "")])) r

/-- `update_quorum`, l. 479-483: the init leader is marked `added` once it started. -/
def addInitLeader (env : Env) (r : Run) : Run :=
  match env.state.initLeader r.world with
  | some v => if ZKServer.started (r.world.units v) then
      r.act .initLeaderAdded (.cluster [(toString v, "added")]) else r
  | none => r

/-- `update_quorum`, l. 485-497: the membership is recomputed on scale-up, on departures and
leader elections, and while the cluster is healthy. -/
def updateMembers (env : Env) (ev : Event) (r : Run) : Run :=
  if env.state.staleQuorum r.world || ev.isDepartedOrLeaderElected || env.state.healthy r.world
  then r.act .updatedServers (.cluster (env.updateCluster r.world))
  else r

/-- `update_quorum`, l. 505-521: once every unit is unified the quorum target follows `tls`,
and once every unit runs it the switch is over. -/
def advanceQuorum (r : Run) : Run :=
  if r.world.allUnitsUnified then
    let r := if ZKCluster.tls r.world.cluster then
        r.act .quorumTarget (.cluster [("quorum", "ssl")])
      else r.act .quorumTarget (.cluster [("quorum", "non-ssl")])
    if r.world.allUnitsQuorum then
      r.act .clearSwitchingEncryption (.cluster [("switching-encryption", "")])
    else r
  else r

/-- `update_quorum`. -/
def updateQuorum (env : Env) (ev : Event) (r : Run) : Run :=
  if !r.isLeader || ev.departingUnit == some r.unit then r
  else
    let r := updateMembers env ev (addInitLeader env r)
    let r := r.setStatus (env.state.stable r.world)
    if !r.status.isActive then r
    else updateClientData env (advanceQuorum r)

theorem updateQuorum_of_departing (env : Env) {ev : Event} {r : Run}
    (h : ev.departingUnit = some r.unit) : updateQuorum env ev r = r := by
  simp [updateQuorum, h]

/-! ### Core event handlers -/

/-- `_on_install`. -/
def onInstall (env : Env) (r : Run) : Run :=
  if r.world.peerRelation.isNone then
    ({ r with status := .waiting "waiting for peer relation" }).defer
  else
    let r := if r.isLeader && !ZKCluster.internalUserCredentials r.world.cluster then
        charmUsers.foldl (fun r user => r.act (.installPassword user)
          (.cluster [(user ++ "-password", env.workload.generatePassword r.world)])) r
      else r
    let r := if r.isLeader then
        r.act .installQuorum (.cluster [("quorum", "default - non-ssl")]) else r
    updateExternalServices (r.setWorkloadVersion (env.workload.getVersion r.world))

/-- `set(a) ^ set(b)` is not empty. -/
def symmDiffNonempty (a b : List String) : Bool :=
  a.any (fun x => !b.contains x) || b.any (fun x => !a.contains x)

/-- The SAN comparison of `_on_cluster_relation_changed` (l. 265-275). -/
def sansChanged (env : Env) (w : World) : Bool :=
  let currentSans := env.getCurrentSans w
  let currentSansIp := match currentSans with | some s => s.sansIp | none => []
  let expectedSansIp := if currentSans.isSome then (env.buildSans w).sansIp else []
  let currentSansDns := match currentSans with | some s => s.sansDns | none => []
  let expectedSansDns := if currentSans.isSome then (env.buildSans w).sansDns else []
  symmDiffNonempty currentSansIp expectedSansIp || symmDiffNonempty currentSansDns expectedSansDns

/-- `_on_cluster_relation_changed`, l. 302-310: a restart is asked for under the rolling-restart
lock when the config changed or an encryption switch is on, on a started unit, outside
upgrades. -/
def requestRestart (env : Env) (r : Run) : Run :=
  if (env.configChanged r.world || ZKCluster.switchingEncryption r.world.cluster)
      && ZKServer.started r.unitServer && env.idle r.world then
    r.act .acquireLock .requestLock
  else r

/-- `_on_cluster_relation_changed`, l. 312-314: a single unit keeps the event while switching. -/
def deferSingleUnit (r : Run) : Run :=
  if ZKCluster.switchingEncryption r.world.cluster && r.world.servers.length == 1 then r.defer
  else r

/-- `_on_cluster_relation_changed`, l. 316-326: the status the workload's state calls for. -/
def reportWorkload (env : Env) (r : Run) : Run :=
  if !env.workload.alive r.world then r.setStatus .serviceNotRunning
  else if ZKServer.started r.unitServer then
    match env.workload.healthy r.world with
    | none => r.raise
    | some false => r.setStatus .serviceUnhealthy
    | some true => (r.setWorkloadVersion (env.workload.getVersion r.world)).setStatus .active
  else (r.setWorkloadVersion (env.workload.getVersion r.world)).setStatus .active

/-- `_on_cluster_relation_changed`, the handler of every "something changed" event. -/
def onClusterRelationChanged (env : Env) (ev : Event) (r : Run) : Run :=
  if !env.workload.containerCanConnect r.world then (r.setStatus .containerNotConnected).defer
  else if r.world.peerRelation.isNone then r.setStatus .noPeerRelation
  else if env.state.isRestoreInProgress r.world then r
  else if !env.idle r.world then r.defer
  else
    let r := updateExternalServices (if !ZKServer.started r.unitServer then initServer env r else r)
    if (env.state.endpoints r.world).isEmpty then (disconnectClients r).defer
    else if sansChanged env r.world then
      (r.act .certificateExpiring .none).act .clearCertificate (.unit [("certificate", "")])
    else
      let r := updateQuorum env ev r
      if ev.departingUnit == some r.unit then r
      else reportWorkload env (deferSingleUnit (requestRestart env r))

/-- `_on_secret_changed`. -/
def onSecretChanged (env : Env) (label : String) (r : Run) : Run :=
  if label == "" then r
  else match r.world.peerRelation with
    | none => r
    | some id =>
      if label == env.generateSecretLabel peer id "extra" then
        onClusterRelationChanged env (.secretChanged label) r
      else r

/-- `_on_zookeeper_pebble_ready`, also the handler of `upgrade-charm` and `start`. -/
def onZookeeperPebbleReady (env : Env) (r : Run) : Run :=
  if !env.idle r.world then r
  else if !env.workload.containerCanConnect r.world || !ZKServer.started r.unitServer then
    (r.setStatus .containerNotConnected).defer
  else if env.workload.healthy r.world == some true then r
  else initServer env r

/-- The flags `_restart` writes to the unit's databag (l. 386-395). -/
def restartedFlags (env : Env) (w : World) : List (String × String) :=
  [("unified", if ZKCluster.switchingEncryption w.cluster then "true" else ""),
   ("quorum", ZKCluster.quorum w.cluster),
   ("password-rotated", if env.state.rotatePasswords w then "true" else "")]

/-- `_restart`, the rolling-restart callback. -/
def restart (env : Env) (r : Run) : Run :=
  let r := r.setStatus (env.state.stable r.world)
  if !r.status.isActive then r.defer
  else
    let r := if !env.workload.planIsLayer r.world then r.act .restartStart .none
      else r.act .restartRestart .none
    let r := r.act .settle .none
    r.act .restartFlags (.unit (restartedFlags env r.world))

/-- Modelled from the spec: the rolling-ops `RunWithLock` event (§5). The unit the lock is
granted to, while it still asks for it, runs `_restart` and releases the lock when the
callback returns. -/
def runWithLock (env : Env) (r : Run) : Run :=
  if r.world.lockGranted == some r.unit && r.world.lockRequested r.unit then
    (restart env r).act .releaseLock .releaseLock
  else r

/-- The observers `__init__` registers, and the rolling-ops callback. -/
def dispatch (env : Env) : Event → Run → Run
  | .install => onInstall env
  | .updateStatus => onClusterRelationChanged env .updateStatus
  | .upgradeCharm => onZookeeperPebbleReady env
  | .start => onZookeeperPebbleReady env
  | .zookeeperPebbleReady => onZookeeperPebbleReady env
  | .leaderElected => onClusterRelationChanged env .leaderElected
  | .configChanged => onClusterRelationChanged env .configChanged
  | .secretChanged label => onSecretChanged env label
  | .clusterRelationChanged => onClusterRelationChanged env .clusterRelationChanged
  | .clusterRelationJoined => onClusterRelationChanged env .clusterRelationJoined
  | .clusterRelationDeparted d => onClusterRelationChanged env (.clusterRelationDeparted d)
  | .runWithLock => runWithLock env

end ZooKeeperK8s
