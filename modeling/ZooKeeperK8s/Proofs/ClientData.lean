import ZooKeeperK8s.Runs

/-!
# When the leader publishes client data

`update_client_data` (l. 533-570) writes a client's databag only on the leader, once the
cluster is `ready`, and only for a client whose password is set and already in the JAAS file.
It runs at the end of `update_quorum` (l. 523), past the `stable` check, which
`_on_cluster_relation_changed` reaches only once the endpoints are known and the SANs have not
changed (l. 257-294). The workload's `alive` and `healthy` probes (l. 316-323) come after
`update_quorum` and do not gate the write: a leader whose workload reports unhealthy still
publishes (`unhealthy_leader_publishes_client_data`). A probe that raises (l. 321) fails the
hook instead, and then none of the client data it wrote is committed.
-/

namespace ZooKeeperK8s

/-- The hook went on from `r` to `r'`, by ops taken one after another from `r`'s store. -/
def Run.Extends (r r' : Run) : Prop :=
  ∃ l, r'.log = r.log ++ l ∧ Chained r.world l r'.world

section
variable {env : Env} {S : Site → Prop} {r₀ r : Run}

theorem Grows.extends (h : Grows env S r₀ r) : r₀.Extends r :=
  let ⟨_, ⟨l, hlog, hc, _⟩, _⟩ := h
  ⟨l, hlog, hc⟩

/-- An op at a site the hook does not log was there before it. -/
theorem Grows.mem_log {site : Site} (h : Grows env S r₀ r) (hS : ¬S site) {e : Op}
    (he : e ∈ r.log) (hs : e.site = site) : e ∈ r₀.log := by
  obtain ⟨-, ⟨l, hlog, -, hl⟩, -⟩ := h
  rw [hlog, List.mem_append] at he
  exact he.resolve_right fun he => hS (hs ▸ (hl e he).2.1)

/-- The ops `update_client_data` adds come after it found the cluster ready. -/
theorem updateClientData_clients {e : Op} (he : e ∈ (updateClientData env r).log)
    (hr : e ∉ r.log) : env.state.ready r.world = .active ∧
      ∃ l, (updateClientData env r).log = r.log ++ l ∧ e ∈ l := by
  dsimp only [updateClientData] at he ⊢
  split_ifs at he ⊢ with hl ha
  · exact absurd he hr
  · exact absurd he hr
  · obtain ⟨-, ⟨l, hlog, -, -⟩, -⟩ := @updateClient_foldl_grows env (fun _ => True) _ _
      trivial (by simpa using hl) (r.setStatus (env.state.ready r.world)).world.clients
      (Grows.refl (r.setStatus (env.state.ready r.world)))
    rw [hlog] at he ⊢
    exact ⟨by simpa using ha, l, rfl, (List.mem_append.1 he).resolve_left hr⟩

/-- The client writes of `update_quorum` come after it found the cluster stable, and then
ready. -/
theorem updateQuorum_clients {ev : Event} {e : Op} (he : e ∈ (updateQuorum env ev r).log)
    (hs : e.site = .updateClient) (hr : e ∉ r.log) :
    ∃ r₂ r₃, r.Extends r₂ ∧ r₂.Extends r₃ ∧ env.state.stable r₂.world = .active ∧
      env.state.ready r₃.world = .active ∧
      ∃ l, (updateQuorum env ev r).log = r₃.log ++ l ∧ e ∈ l := by
  dsimp only [updateQuorum] at he ⊢
  split_ifs at he ⊢ with h1 h2
  · exact absurd he hr
  all_goals
    have hl : r.world.isLeader r.unit = true := by simp_all
    have h₂ : Grows env (· ≠ .updateClient) r (updateMembers env ev (addInitLeader env r)) :=
      updateMembers_grows (addInitLeader_grows (.refl r) (by decide) hl) (by decide) hl ev
  · exact absurd (h₂.mem_log (· rfl) he hs) hr
  · generalize updateMembers env ev (addInitLeader env r) = r₂ at h₂ h2 he ⊢
    have hl₂ : (r₂.setStatus (env.state.stable r₂.world)).world.isLeader r₂.unit :=
      h₂.isLeader.trans hl
    have hst : env.state.stable r₂.world = .active := by simpa using h2
    have h₃ := advanceQuorum_grows (h₂.setStatus (env.state.stable r₂.world)) (by decide) hl hst
    obtain ⟨hready, l, hlog, hel⟩ := updateClientData_clients he fun he' =>
      hr (h₃.mem_log (· rfl) he' hs)
    exact ⟨r₂, _, h₂.extends, (@advanceQuorum_grows env (fun _ => True) _ _
      (.refl (r₂.setStatus (env.state.stable r₂.world))) (fun _ _ => trivial) hl₂ hst).extends,
      hst, hready, l, hlog, hel⟩

end

/-! ### The reconcile handler -/

/-- On its own departure a unit's reconcile hook runs no part of `update_quorum` and does not
ask for a restart (l. 294-300). -/
theorem departing_unit_skips_quorum_and_restart (env : Env) (s : Sys) (u : Nat) :
    ∀ e ∈ (onClusterRelationChanged env (.clusterRelationDeparted (some u)) (s.start u)).log,
      e.site ∉ updateQuorumSites ∧ e.site ≠ .acquireLock := by
  suffices h : Grows env (fun s => s ∉ updateQuorumSites ∧ s ≠ .acquireLock) (s.start u)
      (onClusterRelationChanged env (.clusterRelationDeparted (some u)) (s.start u)) from
    fun e he => (h.of_nil rfl e he).2.1
  rcases onClusterRelationChanged_paths env (.clusterRelationDeparted (some u)) (s.start u) with
    h | ⟨r₁, h₁, ⟨-, heq⟩ | ⟨-, hc, heq⟩ | ⟨-, -, ⟨hd, heq⟩ | ⟨hd, -⟩⟩⟩
  · exact h.mono fun s hs => hs ▸ by decide
  all_goals
    have h₁' : Grows env (fun s => s ∉ updateQuorumSites ∧ s ≠ .acquireLock) (s.start u) r₁ :=
      h₁.mono (by decide)
  · exact heq ▸ (disconnectClients_grows h₁' (by decide)).defer (by decide)
  · exact heq ▸ (h₁'.act .certificateExpiring .none (by decide) ⟨rfl, hc⟩).act _ _ (by decide) rfl
  · rw [heq, updateQuorum_of_departing env (hd.trans (congrArg some h₁.unit.symm))]
    exact h₁'
  · exact absurd rfl hd

theorem departing_leader_skips_quorum :
    ((onClusterRelationChanged Env.settled (.clusterRelationDeparted (some 0))
      (Sys.sample.start 0)).log.all fun e =>
        !updateQuorumSites.contains e.site && e.site != .acquireLock) = true :=
  List.all_eq_true.2 fun e he => by
    simpa using departing_unit_skips_quorum_and_restart Env.settled Sys.sample 0 e he

/-- The collaborators of the settled cluster on a leader whose health probe fails. -/
def Env.unhealthy : Env :=
  { Env.settled with workload := { Env.settled.workload with healthy := fun _ => some false } }

theorem unhealthy_leader_publishes_client_data :
    ZKServer.started (World.sample.units 0) ∧ (∀ w, Env.unhealthy.workload.healthy w = some false) ∧
      (onClusterRelationChanged Env.unhealthy .updateStatus (Sys.sample.start 0)).status =
        .key .serviceUnhealthy ∧
      ∃ e ∈ (onClusterRelationChanged Env.unhealthy .updateStatus (Sys.sample.start 0)).log,
        e.site = .updateClient ∧ e.unit = 0 :=
  ⟨rfl, fun _ => rfl, by decide, by decide⟩

section
variable {env : Env} {ev : Event} {r : Run} {e : Op}

/-- The ops of the SAN-change branch (l. 284-291) write no client data. -/
theorem renewal_writes_no_client {r₁ : Run} (h₁ : Grows env (· ∈ startupSites) r r₁)
    (he : e ∈ ((r₁.act .certificateExpiring .none).act .clearCertificate
      (.unit [("certificate", "")])).log) (hs : e.site = .updateClient) : e ∈ r.log := by
  simp only [Run.act_log, List.mem_append, List.mem_singleton] at he
  rcases he with (he | rfl) | rfl
  · exact h₁.mem_log (by decide) he hs
  all_goals simp at hs

/-- The client writes of the reconcile handler come after it found the endpoints and no SAN
change, and `update_quorum` then found the cluster stable and ready. -/
theorem onClusterRelationChanged_clients (hr : e ∉ r.log)
    (he : e ∈ (onClusterRelationChanged env ev r).log) (hs : e.site = .updateClient) :
    ∃ r₁ r₂ r₃, r.Extends r₁ ∧ r₁.Extends r₂ ∧ r₂.Extends r₃ ∧
      env.state.endpoints r₁.world ≠ [] ∧ sansChanged env r₁.world = false ∧
      env.state.stable r₂.world = .active ∧ env.state.ready r₃.world = .active ∧
      ∃ l, (onClusterRelationChanged env ev r).log = r₃.log ++ l ∧ e ∈ l := by
  rcases onClusterRelationChanged_paths env ev r with
    h | ⟨r₁, h₁, ⟨-, heq⟩ | ⟨-, -, heq⟩ | ⟨hep, hsc, ⟨-, heq⟩ | ⟨-, heq⟩⟩⟩
  · exact absurd (h.mem_log (by decide) he hs) hr
  · have h₁' : Grows env (· ≠ .updateClient) r r₁ := h₁.mono (by decide)
    exact absurd (((disconnectClients_grows h₁' (by decide)).defer (by decide)).mem_log (· rfl)
      (heq ▸ he) hs) hr
  · exact absurd (renewal_writes_no_client h₁ (heq ▸ he) hs) hr
  all_goals have hr₁ : e ∉ r₁.log := fun he' => hr (h₁.mem_log (by decide) he' hs)
  · obtain ⟨r₂, r₃, h₁₂, h₂₃, hst, hrd, l, hlog, hel⟩ := updateQuorum_clients (heq ▸ he) hs hr₁
    exact ⟨r₁, r₂, r₃, h₁.extends, h₁₂, h₂₃, hep, hsc, hst, hrd, l, heq ▸ hlog, hel⟩
  · have hq : Grows env (· ∈ [Site.acquireLock, .defer, .raise]) (updateQuorum env ev r₁)
        (reportWorkload env (deferSingleUnit (requestRestart env (updateQuorum env ev r₁)))) :=
      reportWorkload_grows (deferSingleUnit_grows (requestRestart_grows (.refl _) (by decide))
        (by decide)) (by decide)
    obtain ⟨r₂, r₃, h₁₂, h₂₃, hst, hrd, l, hlog, hel⟩ :=
      updateQuorum_clients (hq.mem_log (by decide) (heq ▸ he) hs) hs hr₁
    obtain ⟨-, ⟨l', hlog', -, -⟩, -⟩ := hq
    exact ⟨r₁, r₂, r₃, h₁.extends, h₁₂, h₂₃, hep, hsc, hst, hrd, l ++ l',
      by rw [heq, hlog', hlog, List.append_assoc], List.mem_append_left _ hel⟩

end

/-- The client data the leader writes in a reconcile hook: the SAN check found the endpoints and
no SAN change, no renewal was emitted, the cluster was then found stable and ready, and the
client's password was set and in the JAAS file. -/
theorem client_data_written_only_after_checks (env : Env) (ev : Event) (s : Sys) (u : Nat) :
    ∀ e ∈ (onClusterRelationChanged env ev (s.start u)).log, e.site = .updateClient →
      (∀ e' ∈ (onClusterRelationChanged env ev (s.start u)).log,
        e'.site ≠ .certificateExpiring) ∧
      (∃ r₁ r₂ r₃, (s.start u).Extends r₁ ∧ r₁.Extends r₂ ∧ r₂.Extends r₃ ∧
        env.state.endpoints r₁.world ≠ [] ∧ sansChanged env r₁.world = false ∧
        env.state.stable r₂.world = .active ∧ env.state.ready r₃.world = .active ∧
        ∃ l, (onClusterRelationChanged env ev (s.start u)).log = r₃.log ++ l ∧ e ∈ l) ∧
      e.pre.isLeader e.unit ∧ ∃ rid, (env.state.client e.pre rid).password ≠ "" ∧
        passwordLoaded (env.state.client e.pre rid).password (env.currentJaas e.pre) ∧
        e.write = .client rid (env.state.client e.pre rid).relationData := by
  intro e he hs
  have hr : e ∉ (s.start u).log := List.not_mem_nil _
  refine ⟨?_, onClusterRelationChanged_clients hr he hs, ?_⟩
  · rcases onClusterRelationChanged_emits env ev (s.start u) with h | ⟨r₁, h₁, -, heq⟩
    · exact fun e' he' => (h.of_nil rfl e' he').2.1
    · exact absurd (renewal_writes_no_client h₁ (heq ▸ he) hs) hr
  · have hs' := (@onClusterRelationChanged_grows env (fun _ => True) (fun _ _ => trivial) ev
      (s.start u)).of_nil rfl e he
    obtain ⟨v, site, wr, pre⟩ := e
    subst hs
    exact hs'.2.2

theorem settled_leader_publishes_after_checks :
    ∃ e ∈ (onClusterRelationChanged Env.settled .updateStatus (Sys.sample.start 0)).log,
      e.site = .updateClient ∧ e.pre.isLeader e.unit ∧
      ∀ e' ∈ (onClusterRelationChanged Env.settled .updateStatus (Sys.sample.start 0)).log,
        e'.site ≠ .certificateExpiring := by
  obtain ⟨e, he, hs⟩ : ∃ e ∈ (onClusterRelationChanged Env.settled .updateStatus
      (Sys.sample.start 0)).log, e.site = .updateClient := by decide
  have h := client_data_written_only_after_checks Env.settled .updateStatus Sys.sample 0 e he hs
  exact ⟨e, he, hs, h.2.2.1, h.1⟩

end ZooKeeperK8s
