import ZooKeeperK8s.Proofs.Encryption

/-!
# Who starts the workload

The workload is started at three places: `init_server` (l. 456) and the two branches of
`_restart` (l. 378 and l. 380). `init_server` gets there only past its three checks, on a unit
that has not started or whose health probe did not answer healthy. `_restart` runs only as the
rolling-restart callback of the unit holding the lock, on the store its hook started from, while
the cluster is stable. The lock is asked for only by the reconcile handler, on a started unit
outside upgrades (l. 302-310), and a unit's `state` flag, once `init_server` set it, is never
cleared; so in a run that starts with no lock requested, a unit that holds the lock has
started and asked for it in an earlier step (`lockRequested_run`). The request also needs a
changed configuration or an encryption switch, which `charm.py` never turns on: a run that
sees neither restarts nothing.
-/

namespace ZooKeeperK8s

/-- The calls that start or restart the workload. -/
def Site.startsWorkload : Site → Bool
  | .initStart | .restartStart | .restartRestart => true
  | _ => false

/-- Every unit that asks for the restart lock has started. -/
def LockStarted (w : World) : Prop :=
  ∀ u, w.lockRequested u → ZKServer.started (w.units u)

/-- `u` asked for the restart lock in a step of the run: from the reconcile handler, while it
had started and no upgrade was going on. -/
def LockAsked (s : Sys) (steps : List Step) (u : Nat) : Prop :=
  ∃ x ∈ s.trace steps, ∃ e ∈ x.2.2, e.unit = u ∧ e.site = .acquireLock ∧
    ∃ ev env, x.2.1 = .hook u ev env ∧ ZKServer.started (e.pre.units u) ∧ env.idle e.pre

/-! ### One op -/

section
variable {env : Env} {w₀ : World} {e : Op}

/-- A unit's `state` is kept, or set to `started` by `init_server` on its own unit past its
checks. -/
theorem Site.Spec.state_post (hs : Site.Spec env w₀ e) (v : Nat) :
    e.post.units v "state" = e.pre.units v "state" ∨
      (e.site = .startedFlags ∧ e.unit = v ∧ InitChecks env e.pre v ∧
        e.post.units v "state" = "started") := by
  by_cases hst : e.site = .startedFlags
  · obtain ⟨u, site, wr, pre⟩ := e
    simp only at hst
    subst hst
    obtain ⟨hw, hc⟩ := hs
    dsimp only at hw hc ⊢
    subst hw
    by_cases hv : v = u
    · subst hv
      exact .inr ⟨rfl, rfl, hc, by simp [Op.post, serverFlags]⟩
    · exact .inl (by simp [Op.post, Function.update_noteq hv])
  · exact .inl (Write.apply_units_of_keepsUnit _ _ (hs.keepsUnit_state hst) v)

theorem Site.Spec.started_post (hs : Site.Spec env w₀ e) {v : Nat}
    (h : ZKServer.started (e.pre.units v)) : ZKServer.started (e.post.units v) := by
  rcases hs.state_post v with h' | ⟨-, -, -, h'⟩ <;> simp_all [ZKServer.started]

/-- A unit's lock request is kept, or made by the reconcile handler (l. 310). -/
theorem Site.Spec.lockRequested_post (hs : Site.Spec env w₀ e) {u : Nat}
    (h : e.post.lockRequested u) : e.pre.lockRequested u ∨
      (e.unit = u ∧ e.site = .acquireLock ∧ ZKServer.started (e.pre.units u) ∧ env.idle e.pre) := by
  obtain ⟨v, site, wr, pre⟩ := e
  by_cases hu : u = v
  · subst hu
    cases wr with
    | requestLock =>
      cases site <;> simp only [Site.Spec, reduceCtorEq, false_and, and_false, exists_false] at hs
      -- only the reconcile handler's site writes a lock request
      exact .inr ⟨rfl, rfl, hs.2.1, hs.2.2.1⟩
    | _ => simp_all [Op.post]
  · exact .inl (by simpa [Op.post, Write.apply_lockRequested_of_ne _ _ _ hu] using h)

theorem Site.Spec.lockStarted (hs : Site.Spec env w₀ e) (h : LockStarted e.pre) :
    LockStarted e.post := fun u hu =>
  hs.started_post <| (hs.lockRequested_post hu).elim (h u) fun h' => h'.2.2.1

end

/-! ### Runs -/

namespace Sys
variable {s : Sys}

theorem step_lockStarted (st : Step) (h : LockStarted s.world) :
    LockStarted (s.step st).1.world :=
  step_invariant st h (fun _ _ _ _ _ hs => hs.lockStarted)
    (fun _ _ h u hu => by simpa using h u (by simpa using hu))
    (fun _ h u hu => by simpa using h u (by simpa using hu))

/-- A unit asking for the lock after a step asked before it, or asked in it. -/
theorem step_lockRequested (st : Step) {u : Nat} (h : (s.step st).1.world.lockRequested u) :
    s.world.lockRequested u ∨ LockAsked s [st] u := by
  cases st with
  | hook v ev env =>
    obtain ⟨hv, ⟨l, hlog, hc, hl⟩, -⟩ := dispatch_grows env ev (s.start v)
    have hlog : (dispatch env ev (s.start v)).log = l := by simpa [start] using hlog
    simp only [step_hook, commit_world] at h
    split at h
    · exact .inl h
    · rcases hc.origin (P := fun w => w.lockRequested u = true) (Q := fun e => e.unit = u ∧
          e.site = .acquireLock ∧ ZKServer.started (e.pre.units u) ∧ env.idle e.pre) h
          fun e he hp => (hl e he).2.2.lockRequested_post hp with
        h | ⟨e, he, hu, ha, hst, hi⟩
      · exact .inl h
      · obtain rfl : v = u := ((hl e he).1.symm.trans hu)
        exact .inr ⟨_, List.mem_singleton_self _, e, by simpa [step_hook, hlog] using he, hu, ha,
          ev, env, rfl, hst, hi⟩
  | grant w => exact .inl (by simpa [step] using h)
  | free => exact .inl (by simpa [step] using h)

/-- In a run from a store where every unit asking for the lock has started, a unit asking for
it at the end asked at the start or in a step of the run. -/
theorem lockRequested_run (steps : List Step) (h₀ : LockStarted s.world) {u : Nat}
    (h : (s.run steps).world.lockRequested u) : s.world.lockRequested u ∨ LockAsked s steps u := by
  induction steps generalizing s with
  | nil => exact .inl h
  | cons st sts ih =>
    rcases ih (step_lockStarted st h₀) h with h' | ⟨x, hx, hrest⟩
    · rcases step_lockRequested st h' with h'' | ⟨x, hx, hrest⟩
      · exact .inl h''
      · exact .inr ⟨x, by simp_all [trace], hrest⟩
    · exact .inr ⟨x, List.mem_cons_of_mem _ hx, hrest⟩

end Sys

/-- A unit that has started stays started for the rest of any run. -/
theorem started_flag_persists (s : Sys) (steps : List Step) (v : Nat)
    (h : ZKServer.started (s.world.units v)) : ZKServer.started ((s.run steps).world.units v) :=
  Sys.ops_invariant (P := fun w => ZKServer.started (w.units v)) h
    (fun _ _ _ _ _ _ _ hs => hs.started_post) (fun _ _ h => by simpa using h)
    (fun _ h => by simpa using h)

theorem sample_leader_stays_started :
    ZKServer.started ((Sys.sample.run [.hook 0 .updateStatus Env.settled,
      .hook 1 .updateStatus Env.settled, .grant 1, .hook 1 .runWithLock Env.settled]).world.units 0) :=
  started_flag_persists _ _ 0 (by decide)

/-- In a run from a store where every unit asking for the restart lock has started, so does
every unit asking for it in each later state. -/
theorem lock_requested_only_by_started_units (s : Sys) (steps : List Step)
    (h : LockStarted s.world) : LockStarted (s.run steps).world :=
  Sys.run_invariant (fun _ st _ h => Sys.step_lockStarted st h) h

theorem sample_lock_requesters_started :
    LockStarted (Sys.sample.run [.hook 1 .updateStatus Env.settled]).world :=
  lock_requested_only_by_started_units _ _ fun u hu => by simp [Sys.sample, World.sample] at hu

/-- In a run that starts with no unit asking for the restart lock, the workload is started only
by `init_server` past its checks, on a unit that has not started or whose health probe did not
answer healthy, or restarted by `_restart` on a started unit that holds the lock it asked for
from the reconcile handler, while the cluster is stable; and a unit's `state` flag is first set
only by `init_server` past its checks. -/
theorem workload_started_only_by_init_server_or_under_lock (s : Sys) (steps : List Step)
    (st : Step) (h₀ : ∀ u, s.world.lockRequested u = false) :
    ∀ e ∈ ((s.run steps).step st).2,
      (e.site.startsWorkload → ∃ ev env, st = .hook e.unit ev env ∧
        ((e.site = .initStart ∧ InitChecks env e.pre e.unit ∧
            (ZKServer.started (e.pre.units e.unit) = false ∨
              env.workload.healthy e.pre ≠ some true)) ∨
          (e.site ≠ .initStart ∧ e.pre = (s.run steps).world ∧
            env.state.stable e.pre = .active ∧ e.pre.lockGranted = some e.unit ∧
            e.pre.lockRequested e.unit ∧ ZKServer.started (e.pre.units e.unit) ∧
            LockAsked s steps e.unit))) ∧
      ∀ v, ZKServer.started (e.pre.units v) = false → ZKServer.started (e.post.units v) = true →
        e.site = .startedFlags ∧ e.unit = v ∧ ∃ ev env, st = .hook v ev env ∧
          InitChecks env e.pre v := by
  intro e he
  have hl₀ : LockStarted s.world := fun u hu => by simp [h₀ u] at hu
  obtain ⟨ev, env, rfl, -, hs⟩ := Sys.mem_step he
  refine ⟨fun hw => ⟨ev, env, rfl, ?_⟩, fun v h₁ h₂ => ?_⟩
  · obtain ⟨u, site, wr, pre⟩ := e
    cases site <;> simp only [Site.startsWorkload, Bool.false_eq_true] at hw
    case initStart =>
      obtain ⟨-, hc, hst | ⟨rfl, hh⟩⟩ := hs
      exacts [.inl ⟨rfl, hc, .inl hst⟩, .inl ⟨rfl, hc, .inr hh⟩]
    all_goals
      obtain ⟨-, rfl, hst, hg, hr⟩ := hs
      exact .inr ⟨by simp, rfl, hst, hg, hr,
        Sys.run_invariant (fun _ st _ h => Sys.step_lockStarted st h) hl₀ u hr,
        (Sys.lockRequested_run steps hl₀ hr).resolve_left (by simp [h₀])⟩
  · rcases hs.state_post v with h | ⟨hsite, hu, hc, -⟩
    · simp_all [ZKServer.started]
    · exact ⟨hsite, hu, ev, env, by rw [hu], hc⟩

theorem sample_restart_follows_lock_request :
    ∃ e ∈ ((Sys.sample.run [.hook 1 .updateStatus Env.settled, .grant 1]).step
        (.hook 1 .runWithLock Env.settled)).2,
      e.site = .restartRestart ∧ LockAsked Sys.sample [.hook 1 .updateStatus Env.settled, .grant 1] 1 := by
  obtain ⟨e, he, hsite, hu⟩ : ∃ e ∈ ((Sys.sample.run [.hook 1 .updateStatus Env.settled,
      .grant 1]).step (.hook 1 .runWithLock Env.settled)).2,
      e.site = .restartRestart ∧ e.unit = 1 := by decide
  obtain ⟨ev, env, hst, h | h⟩ := (workload_started_only_by_init_server_or_under_lock Sys.sample _ _
    (fun _ => rfl) e he).1 (by simp [hsite, Site.startsWorkload])
  · exact absurd (h.1.symm.trans hsite) (by decide)
  · exact ⟨e, he, hsite, hu ▸ h.2.2.2.2.2.2⟩

/-! ### Restarts only where needed -/

/-- No encryption switch is on and no unit asks for the restart lock. -/
structure World.Quiet (w : World) : Prop where
  noSwitch : ZKCluster.switchingEncryption w.cluster = false
  noRequest : ∀ u, w.lockRequested u = false

section
variable {env : Env} {w₀ : World} {e : Op}

/-- The reconcile handler asks for the lock only when the configuration changed or an
encryption switch is on (l. 305-306). -/
theorem Site.Spec.acquireLock_needed (hs : Site.Spec env w₀ e) (h : e.site = .acquireLock) :
    (env.configChanged e.pre || ZKCluster.switchingEncryption e.pre.cluster) = true := by
  obtain ⟨u, site, wr, pre⟩ := e
  simp only at h
  subst h
  exact hs.2.2.2

/-- `_restart` runs only on a unit that asks for the lock. -/
theorem Site.Spec.restart_requested (hs : Site.Spec env w₀ e)
    (h : e.site = .restartStart ∨ e.site = .restartRestart) : e.pre.lockRequested e.unit := by
  obtain ⟨u, site, wr, pre⟩ := e
  simp only at h
  rcases h with rfl | rfl <;> exact hs.2.2.2.2

theorem Site.Spec.quiet_post (hm : MembershipOnly env) (hc : ∀ w, env.configChanged w = false)
    (hs : Site.Spec env w₀ e) (h : e.pre.Quiet) : e.post.Quiet where
  noSwitch := hs.switching_post hm h.noSwitch
  noRequest u := by
    by_contra hr
    rcases hs.lockRequested_post (by simpa using hr) with h' | ⟨-, ha, -⟩
    · simp [h.noRequest u] at h'
    · simpa [hc, h.noSwitch] using hs.acquireLock_needed ha

end

/-- In a run whose hooks see no configuration change, from a store where no encryption switch is
on and no unit asks for the lock, no unit asks for the restart lock and none restarts:
`charm.py` restarts only where a changed configuration or an encryption switch needs it
(l. 302-310). -/
theorem no_restart_without_config_change_or_switch (s : Sys) (steps : List Step)
    (hm : ∀ u ev env, Step.hook u ev env ∈ steps → MembershipOnly env)
    (hc : ∀ u ev env, Step.hook u ev env ∈ steps → ∀ w, env.configChanged w = false)
    (h : s.world.Quiet) :
    ∀ e ∈ s.ops steps,
      e.site ≠ .acquireLock ∧ e.site ≠ .restartStart ∧ e.site ≠ .restartRestart := by
  intro e he
  obtain ⟨x, -, ev, env, -, hmem, -, hs⟩ := Sys.mem_ops he
  have hq := Sys.ops_pre_invariant h
    (fun _ _ _ hst _ _ _ hs => hs.quiet_post (hm _ _ _ hst) (hc _ _ _ hst))
    (fun _ _ h => ⟨by simpa using h.noSwitch, by simpa using h.noRequest⟩)
    (fun _ h => ⟨by simpa using h.noSwitch, by simpa using h.noRequest⟩) e he
  have hr : ¬(e.site = .restartStart ∨ e.site = .restartRestart) := fun h' => by
    simpa [hq.noRequest] using hs.restart_requested h'
  exact ⟨fun ha => by simpa [hc _ _ _ hmem, hq.noSwitch] using hs.acquireLock_needed ha,
    fun h' => hr (.inl h'), fun h' => hr (.inr h')⟩

theorem settled_cluster_never_restarts :
    ((Sys.sample.run [.hook 0 .updateStatus Env.settled]).ops [.hook 1 .updateStatus Env.settled,
      .grant 1, .hook 1 .runWithLock Env.settled, .hook 0 .install Env.settled]).all (fun e =>
        e.site != .acquireLock && e.site != .restartStart && e.site != .restartRestart) = true := by
  have hs : ∀ st ∈ [.hook 1 .updateStatus Env.settled, .grant 1, .hook 1 .runWithLock Env.settled,
      .hook 0 .install Env.settled], Step.Settled st := by simp [Step.Settled]
  refine List.all_eq_true.2 fun e he => ?_
  simpa [and_assoc] using no_restart_without_config_change_or_switch _ _
    (Step.membershipOnly_of_settled hs) (fun _ _ _ hm _ => by rw [Step.env_of_settled hs hm]; rfl)
    ⟨by decide, fun _ => rfl⟩ e he

end ZooKeeperK8s
