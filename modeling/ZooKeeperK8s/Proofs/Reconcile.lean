import ZooKeeperK8s.Proofs.Migration

/-!
# Where the reconcile gets to

Past its guards, with the endpoints known, the SANs as expected and the unit not leaving,
`_on_cluster_relation_changed` runs one path (l. 227-326): it starts the unit if it has not
started, reconciles the external service, runs `update_quorum`, and ends with the restart
request, the single-unit deferral and the workload report (`onClusterRelationChanged_of_ready`). Three results follow the hook along that path.

The leader's reconcile moves the migration on, the scenario of §8:
`charm_runs_refine_migration` says that no run moves the migration other than by
`Migration.Move`, and `leader_reconcile_advances_migration` that, once every unit reports
unified, a stable leader's reconcile commits the quorum target `tls` asks for, and ends the
switch once every unit also runs it. Nothing the hook does after the quorum step writes the
cluster databag, and the hook commits unless the health probe raises (l. 321), which would roll
the quorum step back with the rest of the hook.

The status `init_server` sets when a check fails does not last: the reconcile goes on after
`init_server` returns, and the workload report sets the status last
(`init_check_status_overridden`).

A switch drives the units' restarts: a started unit's reconcile that leaves switching-encryption
set has asked for the rolling-restart lock (l. 305-310), and on a single-server cluster it has
re-queued the event too (l. 312-314), since no other unit would trigger the next step
(`switching_unit_requests_restart`).

Step 6 of the reconcile, `update_external_services` (l. 182-200, l. 253), runs on every path
past the guards, and nothing after it writes the service. Its Kubernetes calls are not rolled
back when the hook fails, so on the leader the reconcile leaves the service `expose-external`
asks for, whichever path it then takes and whether or not it fails, and on any other unit it
leaves the service alone (`reconcile_exposes_configured_service`).
-/

namespace ZooKeeperK8s

/-! ### What a hook keeps -/

namespace Grows
variable {env : Env} {S : Site → Prop} {r₀ r : Run}

/-- A hook keeps what every op at one of its sites keeps. -/
theorem keeps {α : Type} (h : Grows env S r₀ r) (f : World → α)
    (hf : ∀ e : Op, S e.site → Site.Spec env r₀.world e → f e.post = f e.pre) :
    f r.world = f r₀.world := by
  obtain ⟨-, ⟨l, -, hc, hl⟩, -⟩ := h
  exact (hc.invariant (P := fun w => f w = f r₀.world) rfl
    fun e he hp => (hf e (hl e he).2.1 (hl e he).2.2).trans hp).1

/-- A hook keeps every field of the store that no write touches. -/
theorem field_eq {α : Type} (h : Grows env S r₀ r) (f : World → α)
    (hf : ∀ (u : Nat) (wr : Write) (w : World), f (wr.apply u w) = f w) :
    f r.world = f r₀.world :=
  h.keeps f fun e _ _ => hf e.unit e.write e.pre

theorem servers_eq (h : Grows env S r₀ r) : r.world.servers = r₀.world.servers :=
  h.field_eq World.servers Write.apply_servers

theorem peerRelation_eq (h : Grows env S r₀ r) : r.world.peerRelation = r₀.world.peerRelation :=
  h.field_eq World.peerRelation Write.apply_peerRelation

/-- A hook whose sites do not name the cluster key `k` keeps it. -/
theorem cluster_key (h : Grows env S r₀ r) (hm : MembershipOnly env) {k : String}
    (hk : ∀ s, S s → ¬s.WritesKey k) : r.world.cluster k = r₀.world.cluster k :=
  h.keeps (fun w => w.cluster k) fun _ hS hs =>
    Write.apply_cluster_of_keeps _ _ (hs.keeps hm (hk _ hS))

/-- A hook whose sites write no unit's databag keeps every unit's databag. -/
theorem units_eq (h : Grows env S r₀ r)
    (hS : ∀ s, S s → s ≠ .clearCertificate ∧ s ≠ .restartFlags ∧ s ≠ .startedFlags) :
    r.world.units = r₀.world.units :=
  h.keeps World.units fun e hS' hs => by
    have hne := hS _ hS'
    cases hw : e.write with
    | unit kvs =>
      rcases hs.unit_cases hw with ⟨h, -⟩ | ⟨h, -⟩ | ⟨h, -⟩ <;> simp [h] at hne
    | _ => simp [Op.post, hw]

end Grows

/-! ### The path to the quorum step -/

section
variable (env : Env) (ev : Event) (r : Run)

/-- The reconcile's attempt to start the unit (l. 248-250) logs the ops of `init_server` only. -/
theorem startup_grows : Grows env (· ∈ [Site.setConfig, .setTls, .initStart, .startedFlags]) r
    (if !ZKServer.started r.unitServer then initServer env r else r) :=
  .ite (fun h => initServer_grows (.refl r) (by decide) (.inl (by simpa using h))) fun _ => .refl r

/-- Past its guards, a reconcile whose collaborators report the endpoints known and the SANs
as expected starts the unit if it has not started, then runs `update_quorum`, the restart
request, the single-unit deferral and the workload report (l. 227-326). -/
theorem onClusterRelationChanged_of_ready {pid : Nat}
    (hc : env.workload.containerCanConnect r.world) (hp : r.world.peerRelation = some pid)
    (hres : env.state.isRestoreInProgress r.world = false) (hi : env.idle r.world)
    (hend : ∀ w, env.state.endpoints w ≠ []) (hsans : ∀ w, sansChanged env w = false)
    (hd : ev.departingUnit ≠ some r.unit) :
    onClusterRelationChanged env ev r = reportWorkload env (deferSingleUnit (requestRestart env
      (updateQuorum env ev (updateExternalServices
        (if !ZKServer.started r.unitServer then initServer env r else r))))) := by
  have h₁ := startup_grows env r
  dsimp only [onClusterRelationChanged]
  generalize (if !ZKServer.started r.unitServer then initServer env r else r) = r₁ at h₁ ⊢
  have hu := (updateQuorum_grows (updateExternalServices_grows (h₁.mono fun _ _ => trivial)
    fun _ _ => trivial) (fun _ _ => trivial) ev).unit
  simp [hc, hp, hres, hi, hend, hsans, hu, hd]

/-- On a stable leader, off its own departure, `update_quorum` runs the quorum step and then
`update_client_data` (l. 471-523). -/
theorem updateQuorum_of_stable (hl : r.world.isLeader r.unit)
    (hd : ev.departingUnit ≠ some r.unit)
    (hst : env.state.stable (updateMembers env ev (addInitLeader env r)).world = .active) :
    updateQuorum env ev r = updateClientData env
      (advanceQuorum ((updateMembers env ev (addInitLeader env r)).setStatus .active)) := by
  simp [updateQuorum, hl, hd, hst]

/-- Once every unit is unified, the quorum step writes the target `tls` asks for, and ends the
switch if every unit already runs that target (l. 505-521). -/
theorem advanceQuorum_target (hu : r.world.allUnitsUnified) :
    ZKCluster.quorum (advanceQuorum r).world.cluster = r.world.migration.mode ∧
      ((r.world.servers.all fun v => ZKServer.quorum (r.world.units v) == r.world.migration.mode) →
        ZKCluster.switchingEncryption (advanceQuorum r).world.cluster = false) := by
  by_cases ht : ZKCluster.tls r.world.cluster <;>
    simp only [advanceQuorum, hu, ht, Migration.mode, World.migration, if_true, if_false,
      Bool.false_eq_true] <;>
    split_ifs with hq <;> simp_all [World.allUnitsQuorum, ZKCluster.quorum,
      ZKCluster.switchingEncryption]

/-- The workload report writes nothing, and fails the hook only when the probe raises. -/
theorem reportWorkload_world : (reportWorkload env r).world = r.world := by
  unfold reportWorkload
  split_ifs <;> (try split) <;> rfl

theorem reportWorkload_errored (hp : env.workload.healthy r.world ≠ none) :
    (reportWorkload env r).errored = r.errored := by
  unfold reportWorkload
  split_ifs <;> (try split) <;> first | rfl | contradiction

/-- While a switch is on, a started unit outside upgrades asks for the rolling-restart lock
(l. 305-310). -/
theorem requestRestart_of_switching (hsw : ZKCluster.switchingEncryption r.world.cluster)
    (hst : ZKServer.started (r.world.units r.unit)) (hi : env.idle r.world) :
    requestRestart env r = r.act .acquireLock .requestLock := by
  simp [requestRestart, hsw, hst, hi]

theorem requestRestart_cluster : (requestRestart env r).world.cluster = r.world.cluster := by
  unfold requestRestart
  split_ifs <;> rfl

theorem requestRestart_errored : (requestRestart env r).errored = r.errored := by
  unfold requestRestart
  split_ifs <;> rfl

/-- The single-unit deferral re-queues the event and writes nothing (l. 312-314). -/
theorem deferSingleUnit_world : (deferSingleUnit r).world = r.world := by
  unfold deferSingleUnit
  split_ifs <;> rfl

theorem deferSingleUnit_errored : (deferSingleUnit r).errored = r.errored := by
  unfold deferSingleUnit
  split_ifs <;> rfl

theorem deferSingleUnit_of_single (hsw : ZKCluster.switchingEncryption r.world.cluster)
    (h : r.world.servers.length = 1) : deferSingleUnit r = r.defer := by
  simp [deferSingleUnit, hsw, h]

/-- After `update_quorum` the reconcile writes client data and the lock request only: the
cluster databag stays, and the hook fails no more than it had (l. 302-314). -/
theorem reconcileTail_keeps (hm : MembershipOnly env) :
    (deferSingleUnit (requestRestart env (updateClientData env r))).world.cluster = r.world.cluster ∧
      (deferSingleUnit (requestRestart env (updateClientData env r))).errored = r.errored := by
  have g : Grows env (· ∈ [Site.updateClient, .acquireLock, .defer]) r
      (deferSingleUnit (requestRestart env (updateClientData env r))) :=
    deferSingleUnit_grows (requestRestart_grows (updateClientData_grows (.refl r) (by decide))
      (by decide)) (by decide)
  exact ⟨funext fun k => g.cluster_key hm (by simp [Site.WritesKey]),
    g.errored.resolve_right (by decide)⟩

end

/-! ### The leader's reconcile -/

/-- Collaborators under which a started leader's reconcile reaches the quorum step and commits:
the unit's endpoints are known, its SANs are as expected, the cluster is stable, the health
probe answers, and the membership mapping holds per-unit entries only. -/
structure Env.Steady (env : Env) : Prop where
  endpoints : ∀ w, env.state.endpoints w ≠ []
  sans : ∀ w, sansChanged env w = false
  stable : ∀ w, env.state.stable w = .active
  probe : ∀ w, env.workload.healthy w ≠ none
  membershipOnly : MembershipOnly env

theorem Env.settled_steady : Env.settled.Steady where
  endpoints _ := List.cons_ne_nil _ _
  sans _ := rfl
  stable _ := rfl
  probe _ := Option.some_ne_none _
  membershipOnly := Env.settled_membershipOnly

/-- Once every unit reports unified, a reconcile of the started leader, with its container
answering, the peer relation up and no restore or upgrade running, commits the quorum target
`tls` asks for, and ends the switch when every unit already runs that target. -/
theorem leader_reconcile_advances_migration (s : Sys) (u : Nat) (ev : Event) (env : Env)
    {pid : Nat} (hev : ∀ r, dispatch env ev r = onClusterRelationChanged env ev r)
    (he : env.Steady) (hc : env.workload.containerCanConnect s.world)
    (hp : s.world.peerRelation = some pid) (hres : env.state.isRestoreInProgress s.world = false)
    (hi : env.idle s.world) (hl : s.world.isLeader u) (hst : ZKServer.started (s.world.units u))
    (hd : ev.departingUnit ≠ some u) (hu : s.world.allUnitsUnified) :
    (s.step (.hook u ev env)).1.world.migration.target = s.world.migration.mode ∧
      ((s.world.servers.all fun v => ZKServer.quorum (s.world.units v) == s.world.migration.mode) →
        (s.step (.hook u ev env)).1.world.migration.switching = false) := by
  -- up to the end of the quorum step the hook writes the service and the cluster only
  let r₁ := updateExternalServices (s.start u)
  let r₂ := (updateMembers env ev (addInitLeader env r₁)).setStatus .active
  have g₁ : Grows env (· ∈ [Site.removeService, .applyService, .initLeaderAdded, .updatedServers,
      .quorumTarget, .clearSwitchingEncryption]) (s.start u) r₁ :=
    updateExternalServices_grows (.refl _) (by decide)
  have g₂ := (updateMembers_grows (addInitLeader_grows g₁ (by decide) hl) (by decide) hl ev).setStatus
    .active
  have hunits : r₂.world.units = s.world.units := g₂.units_eq (by decide)
  have hservers : r₂.world.servers = s.world.servers := g₂.servers_eq
  have htls : r₂.world.cluster "tls" = s.world.cluster "tls" :=
    g₂.cluster_key he.membershipOnly fun s _ => Site.not_writesKey_tls s
  have hmode : r₂.world.migration.mode = s.world.migration.mode := by
    simp only [Migration.mode, World.migration, ZKCluster.tls, htls]
  have hq := advanceQuorum_target r₂ (by simpa [World.allUnitsUnified, hunits, hservers] using hu)
  have herr₂ : (advanceQuorum r₂).errored = false :=
    (advanceQuorum_grows g₂ (by decide) hl (he.stable _)).errored.resolve_right (by decide)
  -- after it the hook writes client data and the lock request only, and commits
  obtain ⟨hcluster, herr⟩ := reconcileTail_keeps env (advanceQuorum r₂) he.membershipOnly
  have hdispatch : dispatch env ev (s.start u) = reportWorkload env
      (deferSingleUnit (requestRestart env (updateClientData env (advanceQuorum r₂)))) := by
    rw [hev, onClusterRelationChanged_of_ready env ev (s.start u) hc hp hres hi he.endpoints
      he.sans hd, if_neg (by simpa [Sys.start] using hst),
      updateQuorum_of_stable env ev r₁ (g₁.isLeader ▸ hl) (g₁.unit ▸ hd) (he.stable _)]
  have hw : (s.step (.hook u ev env)).1.world.cluster = (advanceQuorum r₂).world.cluster := by
    simp only [Sys.step, Sys.commit_world, hdispatch, reportWorkload_errored env _ (he.probe _),
      herr, herr₂, Bool.false_eq_true, if_false, reportWorkload_world, hcluster]
  refine ⟨(congrArg ZKCluster.quorum hw).trans (hmode ▸ hq.1), fun h =>
    (congrArg ZKCluster.switchingEncryption hw).trans (hq.2 ?_)⟩
  rwa [hunits, hservers, hmode]

theorem sample_leader_ends_switch :
    (Sys.sample.step (.hook 0 .updateStatus Env.settled)).1.world.migration.target =
        World.sample.migration.mode ∧
      (Sys.sample.step (.hook 0 .updateStatus Env.settled)).1.world.migration.switching = false :=
  have h := leader_reconcile_advances_migration Sys.sample 0 .updateStatus Env.settled
    (fun _ => rfl) Env.settled_steady rfl rfl rfl rfl (by decide) (by decide) (by decide)
    (by decide)
  ⟨h.1, h.2 (by decide)⟩

/-- A started unit's reconcile past its guards, off its own departure, leaves no switch on
without a restart: if switching-encryption is still set once the hook commits, the unit has
asked for the rolling-restart lock, and on a single-server cluster it has also re-queued the
event, so that the switch is not left without a next event. -/
theorem switching_unit_requests_restart (s : Sys) (u : Nat) (ev : Event) (env : Env)
    {pid : Nat} (hev : ∀ r, dispatch env ev r = onClusterRelationChanged env ev r)
    (hc : env.workload.containerCanConnect s.world) (hp : s.world.peerRelation = some pid)
    (hres : env.state.isRestoreInProgress s.world = false) (hi : ∀ w, env.idle w)
    (hend : ∀ w, env.state.endpoints w ≠ []) (hsans : ∀ w, sansChanged env w = false)
    (hprobe : ∀ w, env.workload.healthy w ≠ none) (hst : ZKServer.started (s.world.units u))
    (hd : ev.departingUnit ≠ some u) :
    ZKCluster.switchingEncryption (s.step (.hook u ev env)).1.world.cluster →
      (s.step (.hook u ev env)).1.world.lockRequested u ∧
        (s.world.servers.length = 1 → ∃ e ∈ (s.step (.hook u ev env)).2, e.site = .defer) := by
  intro hsw
  -- up to the restart request the hook writes the service and the cluster only, and commits
  let r₂ := updateQuorum env ev (updateExternalServices (s.start u))
  have g₂ : Grows env (· ∈ [Site.removeService, .applyService] ++ updateQuorumSites)
      (s.start u) r₂ :=
    updateQuorum_grows (updateExternalServices_grows (.refl _) (by decide)) (by decide) ev
  have herr : r₂.errored = false := g₂.errored.resolve_right (by decide)
  have hst₂ : ZKServer.started (r₂.world.units r₂.unit) := by
    rw [g₂.units_eq (by decide), g₂.unit]
    exact hst
  have hdispatch : dispatch env ev (s.start u) = reportWorkload env
      (deferSingleUnit (requestRestart env r₂)) := by
    rw [hev, onClusterRelationChanged_of_ready env ev (s.start u) hc hp hres (hi _) hend hsans hd,
      if_neg (by simpa [Sys.start] using hst)]
  have hstep : (s.step (.hook u ev env)).1.world = (deferSingleUnit (requestRestart env r₂)).world := by
    simp only [Sys.step, Sys.commit_world, hdispatch, reportWorkload_errored env _ (hprobe _),
      reportWorkload_world, deferSingleUnit_errored, requestRestart_errored, herr,
      Bool.false_eq_true, if_false]
  by_cases hsw₂ : ZKCluster.switchingEncryption r₂.world.cluster
  · -- the switch is still on: the unit asks for the lock
    rw [requestRestart_of_switching env r₂ hsw₂ hst₂ (hi _)] at hstep hdispatch
    refine ⟨by simp [hstep, deferSingleUnit_world, g₂.unit, Sys.start], fun h1 => ?_⟩
    rw [deferSingleUnit_of_single _ (by simpa using hsw₂) (by simpa [g₂.servers_eq] using h1)]
      at hdispatch
    let r₃ := r₂.act .acquireLock .requestLock
    have g : Grows env (fun _ => True) r₃.defer (reportWorkload env r₃.defer) :=
      reportWorkload_grows (.refl _) trivial
    obtain ⟨-, ⟨l, hl, -⟩, -⟩ := g
    refine ⟨⟨r₃.unit, .defer, .none, r₃.world⟩, ?_, rfl⟩
    show _ ∈ (dispatch env ev (s.start u)).log
    rw [hdispatch, hl]
    simp [Run.defer]
  · -- the switch is off after the quorum step, and nothing after writes the cluster databag
    simp [hstep, deferSingleUnit_world, requestRestart_cluster, hsw₂] at hsw

theorem sample_follower_requests_restart :
    ZKCluster.switchingEncryption (Sys.sample.step (.hook 1 .updateStatus Env.settled)).1.world.cluster ∧
      (Sys.sample.step (.hook 1 .updateStatus Env.settled)).1.world.lockRequested 1 :=
  have hsw : ZKCluster.switchingEncryption
      (Sys.sample.step (.hook 1 .updateStatus Env.settled)).1.world.cluster := by decide
  ⟨hsw, (switching_unit_requests_restart Sys.sample 1 .updateStatus Env.settled (fun _ => rfl) rfl
    rfl rfl (fun _ => rfl) Env.settled_steady.endpoints Env.settled_steady.sans
    Env.settled_steady.probe (by decide) (by decide) hsw).1⟩

/-! ### The external service -/

/-- The service `update_external_services` leaves for each `expose-external` setting: removed when
disabled, else the kind asked for (l. 186-200). -/
def ExposeExternal.service : ExposeExternal → Option Service
  | .false => none
  | .nodeport => some .nodeport
  | .loadbalancer => some .loadbalancer

/-- A hook whose sites do not reconcile the service keeps it. -/
theorem Grows.service_eq {env : Env} {S : Site → Prop} {r₀ r : Run} (h : Grows env S r₀ r)
    (hS : ∀ s, S s → s ≠ .removeService ∧ s ≠ .applyService) :
    r.world.service = r₀.world.service :=
  h.keeps World.service fun e hS' hs => by
    have hne := hS _ hS'
    cases hw : e.write with
    | service x => rcases hs.service_cases hw with h | h <;> simp [h] at hne
    | _ => simp [Op.post, hw]

section
variable (env : Env) (ev : Event) (r : Run)

/-- On the leader `update_external_services` leaves the service `expose-external` asks for; on
any other unit it does nothing (l. 182-200). -/
theorem updateExternalServices_service :
    (updateExternalServices r).world.service =
      if r.world.isLeader r.unit then r.world.exposeExternal.service else r.world.service := by
  unfold updateExternalServices
  by_cases hl : r.world.isLeader r.unit <;>
    cases h : r.world.exposeExternal <;> simp [hl, h, substrate, ExposeExternal.service]

/-- Past its guards, nothing the reconcile does after `update_external_services` (l. 253) writes
the service, on any of its paths. -/
theorem onClusterRelationChanged_service {pid : Nat}
    (hc : env.workload.containerCanConnect r.world) (hp : r.world.peerRelation = some pid)
    (hres : env.state.isRestoreInProgress r.world = false) (hi : env.idle r.world) :
    (onClusterRelationChanged env ev r).world.service =
      if r.world.isLeader r.unit then r.world.exposeExternal.service else r.world.service := by
  -- the startup writes no service and keeps the leader and the setting
  have h₀ := startup_grows env r
  have hsvc := updateExternalServices_service
    (if !ZKServer.started r.unitServer then initServer env r else r)
  rw [h₀.isLeader, h₀.service_eq (by decide),
    h₀.field_eq World.exposeExternal Write.apply_exposeExternal] at hsvc
  rw [← hsvc]
  dsimp only [onClusterRelationChanged]
  rw [if_neg (by simp [hc]), if_neg (by simp [hp]), if_neg (by simp [hres]), if_neg (by simp [hi])]
  generalize updateExternalServices
    (if !ZKServer.started r.unitServer then initServer env r else r) = r₁
  -- after it each path writes client data, the certificate or the lock request only
  split_ifs
  · exact ((@disconnectClients_grows env (· ∈ [Site.disconnectClient, .defer]) r₁ r₁ (.refl _)
      (by decide)).defer (by decide)).service_eq (by decide)
  · simp
  · exact (@updateQuorum_grows env (· ∈ updateQuorumSites) r₁ r₁ (.refl _) (by decide) ev).service_eq
      (by decide)
  · have g : Grows env (· ∈ [Site.acquireLock, .defer] ++ updateQuorumSites) r₁
        (deferSingleUnit (requestRestart env (updateQuorum env ev r₁))) :=
      deferSingleUnit_grows (requestRestart_grows (updateQuorum_grows (.refl _) (by decide) ev)
        (by decide)) (by decide)
    rw [reportWorkload_world]
    exact g.service_eq (by decide)

end

/-- A reconcile past its guards commits on the leader the external service `expose-external` asks
for, whichever path it takes after the guards and whether or not it then fails, and leaves the
service unchanged on any other unit. -/
theorem reconcile_exposes_configured_service (s : Sys) (u : Nat) (ev : Event) (env : Env)
    {pid : Nat} (hev : ∀ r, dispatch env ev r = onClusterRelationChanged env ev r)
    (hc : env.workload.containerCanConnect s.world) (hp : s.world.peerRelation = some pid)
    (hres : env.state.isRestoreInProgress s.world = false) (hi : env.idle s.world) :
    (s.step (.hook u ev env)).1.world.service =
      if s.world.isLeader u then s.world.exposeExternal.service else s.world.service := by
  rw [Sys.step, Sys.commit_service, hev]
  exact onClusterRelationChanged_service env ev (s.start u) hc hp hres hi

theorem sample_leader_exposes_configured_service :
    (Sys.sample.step (.hook 0 .updateStatus Env.settled)).1.world.service =
      if World.sample.isLeader 0 then World.sample.exposeExternal.service else World.sample.service :=
  reconcile_exposes_configured_service Sys.sample 0 .updateStatus Env.settled (fun _ => rfl) rfl rfl
    rfl rfl

end ZooKeeperK8s
