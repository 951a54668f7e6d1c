import ZooKeeperK8s.Charm

/-!
# Runs of the whole application

Each unit's hooks run one at a time and see the store as the last committed hook left it;
the units interleave at hook granularity. Juju commits a hook's databag writes and status when
it succeeds, and none of them when it fails; the Kubernetes service calls of `k8s_manager`
(l. 190, l. 195, l. 199) act on the cluster at once, so a failed hook still leaves the service
it reconciled. Besides the hooks, the rolling-ops library on the
leader moves the `restart` lock; it is not in the source and is modelled from the spec (§5):
the free lock goes to a unit that asks for it, and a lock its holder released is freed.

`Sys.trace` keeps, for every step of a run, the state it was taken in and the ops it
logged; the run-level results are statements over it.
-/

namespace ZooKeeperK8s

/-- The deployment together with each unit's status and workload version. -/
structure Sys where
  world : World
  status : Nat → UnitStatus
  version : Nat → String

/-- One step of the application. -/
inductive Step
  /-- Unit `u` handles `ev`, its collaborators answering as `env`. -/
  | hook (u : Nat) (ev : Event) (env : Env)
  /-- The rolling-ops leader grants the free lock to `u`. -/
  | grant (u : Nat)
  /-- The rolling-ops leader frees a lock its holder released. -/
  | free

/-- Modelled from the spec: the lock goes to `u` if it is free and `u` asks for it. -/
def World.grantLock (w : World) (u : Nat) : World :=
  if w.lockGranted.isNone && w.lockRequested u then { w with lockGranted := some u } else w

/-- Modelled from the spec: a lock whose holder no longer asks for it is free again. -/
def World.freeLock (w : World) : World :=
  match w.lockGranted with
  | some v => if w.lockRequested v then w else { w with lockGranted := none }
  | none => w

namespace World
variable (w : World) (u : Nat)

@[simp] theorem grantLock_cluster : (w.grantLock u).cluster = w.cluster := by
  unfold grantLock; split <;> rfl
@[simp] theorem grantLock_units : (w.grantLock u).units = w.units := by
  unfold grantLock; split <;> rfl
@[simp] theorem grantLock_lockRequested : (w.grantLock u).lockRequested = w.lockRequested := by
  unfold grantLock; split <;> rfl
@[simp] theorem freeLock_cluster : w.freeLock.cluster = w.cluster := by
  unfold freeLock; split <;> (try split) <;> rfl
@[simp] theorem freeLock_units : w.freeLock.units = w.units := by
  unfold freeLock; split <;> (try split) <;> rfl
@[simp] theorem freeLock_lockRequested : w.freeLock.lockRequested = w.lockRequested := by
  unfold freeLock; split <;> (try split) <;> rfl
@[simp] theorem grantLock_servers : (w.grantLock u).servers = w.servers := by
  unfold grantLock; split <;> rfl
@[simp] theorem freeLock_servers : w.freeLock.servers = w.servers := by
  unfold freeLock; split <;> (try split) <;> rfl

end World

namespace Sys

/-- The hook of unit `u` starts from the committed state. -/
def start (s : Sys) (u : Nat) : Run := ⟨u, s.world, s.status u, s.version u, [], false⟩

/-- What a finished hook leaves: everything it did; or, if it failed, only the external service,
which is not rolled back with the databags. -/
def commit (s : Sys) (r : Run) : Sys :=
  if r.errored then { s with world := { s.world with service := r.world.service } }
  else ⟨r.world, Function.update s.status r.unit r.status, Function.update s.version r.unit r.version⟩

@[simp] theorem commit_world (s : Sys) (r : Run) :
    (s.commit r).world =
      if r.errored then { s.world with service := r.world.service } else r.world := by
  unfold commit; split <;> rfl

@[simp] theorem commit_service (s : Sys) (r : Run) :
    (s.commit r).world.service = r.world.service := by
  unfold commit; split <;> rfl

/-- One step, and the ops it logged. -/
def step (s : Sys) : Step → Sys × List Op
  | .hook u ev env => (s.commit (dispatch env ev (s.start u)), (dispatch env ev (s.start u)).log)
  | .grant u => ({ s with world := s.world.grantLock u }, [])
  | .free => ({ s with world := s.world.freeLock }, [])

/-- The state after the steps. -/
def run : Sys → List Step → Sys
  | s, [] => s
  | s, st :: sts => (s.step st).1.run sts

/-- Every step of a run with the state it was taken in and the ops it logged. -/
def trace : Sys → List Step → List (Sys × Step × List Op)
  | _, [] => []
  | s, st :: sts => (s, st, (s.step st).2) :: (s.step st).1.trace sts

/-- The ops of a run, in the order they were taken. -/
def ops (s : Sys) (steps : List Step) : List Op := (s.trace steps).flatMap (·.2.2)

@[simp] theorem ops_nil (s : Sys) : s.ops [] = [] := rfl
@[simp] theorem ops_cons (s : Sys) (st : Step) (sts : List Step) :
    s.ops (st :: sts) = (s.step st).2 ++ (s.step st).1.ops sts := rfl

end Sys

/-! ### A deployment

Three started units on the `non-ssl` quorum at the end of an encryption switch, unit 0 leading
and one client related; the witnesses of the results run on it. -/

/-- Collaborators of a healthy, settled cluster. -/
def Env.settled : Env where
  state :=
    { allUnitsRelated := fun _ => true
      nextServer := fun _ => none
      endpoints := fun _ => ["10.1.0.5:2181"]
      initLeader := fun _ => some 0
      staleQuorum := fun _ => false
      healthy := fun _ => true
      stable := fun _ => .active
      ready := fun _ => .active
      isRestoreInProgress := fun _ => false
      rotatePasswords := fun _ => false
      caCert := fun _ => ""
      client := fun _ _ => ⟨"10.1.0.5:2181", "disabled", "relation-7", "pw7", "/app", "/app",
        "10.1.0.5:2181/app"⟩ }
  workload :=
    { containerCanConnect := fun _ => true
      alive := fun _ => true
      healthy := fun _ => some true
      getVersion := fun _ => "3.8.4"
      generatePassword := fun _ => "pw"
      planIsLayer := fun _ => true }
  idle := fun _ => true
  updateCluster := fun _ => [("0", "added"), ("1", "added"), ("2", "added")]
  getCurrentSans := fun _ => none
  buildSans := fun _ => ⟨[], []⟩
  configChanged := fun _ => false
  currentJaas := fun _ => ["user_relation-7=pw7"]
  generateSecretLabel := fun _ _ _ => "cluster.1.extra.secret"

/-- Three started units, every one unified and on the cluster quorum, while
`switching-encryption` is still set. -/
def World.sample : World where
  cluster := Databag.empty.update [("super-password", "pw"), ("sync-password", "pw"),
    ("quorum", "non-ssl"), ("switching-encryption", "started")]
  units := fun _ => Databag.empty.update [("state", "started"), ("unified", "true"),
    ("quorum", "non-ssl")]
  servers := [0, 1, 2]
  clients := [7]
  clientData := fun _ => Databag.empty
  service := none
  leader := some 0
  peerRelation := some 1
  exposeExternal := .false
  lockRequested := fun _ => false
  lockGranted := none

/-- The sample deployment with every unit active. -/
def Sys.sample : Sys := ⟨World.sample, fun _ => .key .active, fun _ => "3.8.4"⟩

/-- A single unit, leading the peer relation before anything is written: no passwords yet and
the unit not started. -/
def World.fresh : World :=
  { World.sample with
    cluster := Databag.empty
    units := fun _ => Databag.empty
    servers := [0]
    clients := [] }

def Sys.fresh : Sys := ⟨World.fresh, fun _ => .waiting "waiting for peer relation", fun _ => ""⟩

/-- A step whose hook, if it is one, has the collaborators of the settled cluster. -/
def Step.Settled : Step → Prop
  | .hook _ _ env => env = Env.settled
  | _ => True

theorem Step.env_of_settled {steps : List Step} (h : ∀ st ∈ steps, st.Settled) {u : Nat}
    {ev : Event} {env : Env} (hm : Step.hook u ev env ∈ steps) : env = Env.settled :=
  h _ hm

end ZooKeeperK8s
