import ZooKeeperK8s.Proofs.Reconcile

/-!
# What the leader publishes to its clients

`update_client_data` (l. 533-570) walks the client relations and publishes to each one whose
password is set and already loaded in the JAAS file the data `state.clients` reports for it;
`disconnect_clients` (l. 525-531) clears every client's endpoints. Both loops write one client
databag per turn, so each client databag ends updated once with its own data or unchanged
(`foldl_client_writes`); and only these two loops write client databags
(`Site.Spec.client_cases`).

On the leader's reconcile past its guards the two loops are the two ways the clients hear of
the cluster (§4.2): with the endpoints unknown the leader clears every client's endpoints and
re-queues the event (`leader_reconcile_disconnects_clients`, l. 257-261); once the cluster is
stable and ready it publishes, to every client whose password the workload has loaded, exactly
the data `state.clients` gives for it, and leaves every other client databag as it was
(`leader_reconcile_publishes_clients`). Since each client databag is updated with data that
depends only on the collaborators' answers, a second such reconcile changes no client databag
(`leader_reconcile_republishes_nothing`).
-/

namespace ZooKeeperK8s

/-! ### Writes to client databags -/

/-- Only `disconnect_clients` (l. 531) and `update_client_data` (l. 559) write a client
databag. -/
theorem Site.Spec.client_cases {env : Env} {w₀ : World} {e : Op} (hs : Site.Spec env w₀ e)
    {rid : Nat} {kvs : List (String × String)} (hw : e.write = .client rid kvs) :
    e.site = .disconnectClient ∨ e.site = .updateClient := by
  obtain ⟨u, site, wr, pre⟩ := e
  dsimp only at hw ⊢
  subst hw
  cases site <;> simp only [Site.Spec, reduceCtorEq, false_and, and_false, exists_false,
    or_true, true_or] at hs ⊢

namespace Grows
variable {env : Env} {S : Site → Prop} {r₀ r : Run}

/-- A hook whose sites write no client databag keeps every client databag. -/
theorem clientData_eq (h : Grows env S r₀ r)
    (hS : ∀ s, S s → s ≠ .disconnectClient ∧ s ≠ .updateClient) :
    r.world.clientData = r₀.world.clientData :=
  h.keeps World.clientData fun e hS' hs => by
    have hne := hS _ hS'
    cases hw : e.write with
    | client rid kvs => rcases hs.client_cases hw with h | h <;> simp [h] at hne
    | _ => simp [Op.post, hw]

theorem clients_eq (h : Grows env S r₀ r) : r.world.clients = r₀.world.clients :=
  h.field_eq World.clients Write.apply_clients

end Grows

section
variable {f : Run → Nat → Run} {P : Nat → Bool} {kvs : Nat → List (String × String)}
  {site : Site}

/-- A loop over relation ids whose turn on `x` writes `kvs x` to client `x` when `P x` holds,
and nothing otherwise: each client databag ends updated with its own data if its id is in the
list and `P` holds for it, and unchanged otherwise. -/
theorem foldl_client_writes (hf : ∀ r x, f r x = if P x then r.act site (.client x (kvs x)) else r)
    (l : List Nat) (r : Run) (rid : Nat) :
    (l.foldl f r).world.clientData rid =
      if rid ∈ l ∧ P rid then (r.world.clientData rid).update (kvs rid) else r.world.clientData rid := by
  induction l generalizing r with
  | nil => simp
  | cons x l ih =>
    rw [List.foldl_cons, ih, hf]
    by_cases hr : rid = x
    · subst hr
      by_cases hx : P rid <;> simp [hx]
    · by_cases hx : P x <;> simp [hx, hr]

end

/-! ### The two loops -/

section
variable (env : Env) (r : Run)

theorem disconnectClients_of_leader (hl : r.world.isLeader r.unit) :
    disconnectClients r =
      r.world.clients.foldl (fun r rid => r.act .disconnectClient (.client rid [("endpoints", "")])) r := by
  simp [disconnectClients, hl]

/-- On a ready leader `update_client_data` runs its loop (l. 537-542). -/
theorem updateClientData_of_ready (hl : r.world.isLeader r.unit)
    (hr : env.state.ready r.world = .active) :
    updateClientData env r = r.world.clients.foldl (updateClient env) (r.setStatus .active) := by
  simp [updateClientData, hl, hr]

/-- With what `state.clients` and the JAAS file report fixed, one turn of the loop publishes
the client's data when its password is set and loaded, and does nothing otherwise
(l. 542-570). -/
theorem updateClient_of_fixed {clients : Nat → ZKClient} {jaas : List String}
    (hcl : ∀ w, env.state.client w = clients) (hj : ∀ w, env.currentJaas w = jaas) (rid : Nat) :
    updateClient env r rid =
      if !((clients rid).password == "" || !passwordLoaded (clients rid).password jaas) then
        r.act .updateClient (.client rid (clients rid).relationData)
      else r := by
  simp only [updateClient, hcl, hj]
  by_cases h : ((clients rid).password == "" || !passwordLoaded (clients rid).password jaas) <;>
    simp [h]

theorem requestRestart_clientData : (requestRestart env r).world.clientData = r.world.clientData := by
  unfold requestRestart
  split_ifs <;> rfl

/-- With the endpoints unknown, the reconcile past its guards disconnects the clients and
re-queues the event (l. 257-261). -/
theorem onClusterRelationChanged_of_no_endpoints (ev : Event) {pid : Nat}
    (hc : env.workload.containerCanConnect r.world) (hp : r.world.peerRelation = some pid)
    (hres : env.state.isRestoreInProgress r.world = false) (hi : env.idle r.world)
    (hend : ∀ w, env.state.endpoints w = []) :
    onClusterRelationChanged env ev r = (disconnectClients (updateExternalServices
      (if !ZKServer.started r.unitServer then initServer env r else r))).defer := by
  simp [onClusterRelationChanged, hc, hp, hres, hi, hend]

end

/-! ### The leader's reconcile -/

/-- With the endpoints unknown, a reconcile of the leader past its guards clears the endpoints
of every client relation, leaves the rest of the client databags as they were, commits, and
re-queues the event. -/
theorem leader_reconcile_disconnects_clients (s : Sys) (u : Nat) (ev : Event) (env : Env)
    {pid : Nat} (hev : ∀ r, dispatch env ev r = onClusterRelationChanged env ev r)
    (hc : env.workload.containerCanConnect s.world) (hp : s.world.peerRelation = some pid)
    (hres : env.state.isRestoreInProgress s.world = false) (hi : env.idle s.world)
    (hend : ∀ w, env.state.endpoints w = []) (hl : s.world.isLeader u) (rid : Nat) :
    (s.step (.hook u ev env)).1.world.clientData rid =
        (if rid ∈ s.world.clients then (s.world.clientData rid).update [("endpoints", "")]
        else s.world.clientData rid) ∧
      ∃ e ∈ (s.step (.hook u ev env)).2, e.site = .defer := by
  -- the startup of l. 249-253 writes no client databag and does not fail
  let r₁ := updateExternalServices
    (if !ZKServer.started (s.start u).unitServer then initServer env (s.start u) else s.start u)
  have g₁ : Grows env (· ∈ startupSites) (s.start u) r₁ :=
    updateExternalServices_grows ((startup_grows env _).mono (by decide)) (by decide)
  have hl₁ : r₁.world.isLeader r₁.unit := g₁.isLeader ▸ hl
  let r₂ := r₁.world.clients.foldl
    (fun r rid => r.act .disconnectClient (.client rid [("endpoints", "")])) r₁
  have hdispatch : dispatch env ev (s.start u) = r₂.defer := by
    rw [hev, onClusterRelationChanged_of_no_endpoints env (s.start u) ev hc hp hres hi hend,
      disconnectClients_of_leader r₁ hl₁]
  have g₂ : Grows env (· ∈ startupSites ++ [Site.disconnectClient, .defer]) (s.start u)
      (disconnectClients r₁).defer :=
    (disconnectClients_grows (g₁.mono fun _ h => List.mem_append_left _ h) (by decide)).defer
      (by decide)
  rw [disconnectClients_of_leader r₁ hl₁] at g₂
  have hw : (s.step (.hook u ev env)).1.world = r₂.world := by
    simp only [Sys.step, Sys.commit_world, hdispatch, g₂.errored.resolve_right (by decide)]
    rfl
  refine ⟨?_, ⟨⟨r₂.unit, .defer, .none, r₂.world⟩, by simp [Sys.step, hdispatch, Run.defer], rfl⟩⟩
  rw [hw, @foldl_client_writes (fun r rid => r.act .disconnectClient (.client rid [("endpoints", "")]))
    (fun _ => true) (fun _ => [("endpoints", "")]) .disconnectClient (fun _ _ => rfl),
    g₁.clientData_eq (by decide), g₁.clients_eq]
  simp [Sys.start]

/-- The collaborators of the settled cluster before the endpoints are known. -/
def Env.noEndpoints : Env :=
  { Env.settled with state := { Env.settled.state with endpoints := fun _ => [] } }

theorem sample_leader_disconnects_clients :
    (Sys.sample.step (.hook 0 .updateStatus Env.noEndpoints)).1.world.clientData 7 =
        (if 7 ∈ World.sample.clients then (World.sample.clientData 7).update [("endpoints", "")]
        else World.sample.clientData 7) ∧
      ∃ e ∈ (Sys.sample.step (.hook 0 .updateStatus Env.noEndpoints)).2, e.site = .defer :=
  leader_reconcile_disconnects_clients Sys.sample 0 .updateStatus Env.noEndpoints (fun _ => rfl)
    rfl rfl rfl rfl (fun _ => rfl) (by decide) 7

section
variable (env : Env) (ev : Event) (r : Run) {pid : Nat} {clients : Nat → ZKClient}
  {jaas : List String}

/-- The leader's reconcile past its guards, under collaborators that report the cluster stable
and ready and fix what `state.clients` and the JAAS file report, fails no more than it had and
leaves each client databag updated with the data `state.clients` gives for it, if its password
is set and loaded, and unchanged otherwise. -/
theorem reconcile_clientData (hev : ∀ r, dispatch env ev r = onClusterRelationChanged env ev r)
    (hc : env.workload.containerCanConnect r.world) (hp : r.world.peerRelation = some pid)
    (hres : env.state.isRestoreInProgress r.world = false) (hi : env.idle r.world)
    (hend : ∀ w, env.state.endpoints w ≠ []) (hsans : ∀ w, sansChanged env w = false)
    (hstable : ∀ w, env.state.stable w = .active) (hready : ∀ w, env.state.ready w = .active)
    (hprobe : ∀ w, env.workload.healthy w ≠ none) (hcl : ∀ w, env.state.client w = clients)
    (hj : ∀ w, env.currentJaas w = jaas) (hl : r.world.isLeader r.unit)
    (hd : ev.departingUnit ≠ some r.unit) :
    (dispatch env ev r).errored = r.errored ∧ ∀ rid, (dispatch env ev r).world.clientData rid =
      if rid ∈ r.world.clients ∧ (clients rid).password ≠ "" ∧
          passwordLoaded (clients rid).password jaas
      then (r.world.clientData rid).update (clients rid).relationData
      else r.world.clientData rid := by
  -- up to `update_client_data` the hook writes no client databag and does not fail
  let r₁ := updateExternalServices (if !ZKServer.started r.unitServer then initServer env r else r)
  let r₃ := advanceQuorum ((updateMembers env ev (addInitLeader env r₁)).setStatus .active)
  have g₁ : Grows env (· ∈ startupSites ++ [Site.initLeaderAdded, .updatedServers, .quorumTarget,
      .clearSwitchingEncryption]) r r₁ :=
    updateExternalServices_grows ((startup_grows env _).mono (by decide)) (by decide)
  have g₃ := advanceQuorum_grows ((updateMembers_grows (addInitLeader_grows g₁ (by decide) hl)
    (by decide) hl ev).setStatus .active) (by decide) hl (hstable _)
  have hl₃ : r₃.world.isLeader r₃.unit := g₃.isLeader ▸ hl
  -- the loop publishes, and nothing after it writes a client databag or fails
  let r₄ := r₃.world.clients.foldl (updateClient env) (r₃.setStatus .active)
  have herr : r₄.errored = r.errored :=
    ((updateClient_foldl_grows (S := (· = Site.updateClient)) rfl hl₃ _
      ((Grows.refl r₃).setStatus .active)).errored.resolve_right (by decide)).trans
      (g₃.errored.resolve_right (by decide))
  have hdispatch : dispatch env ev r = reportWorkload env (deferSingleUnit (requestRestart env r₄)) := by
    rw [hev, onClusterRelationChanged_of_ready env ev r hc hp hres hi hend hsans hd,
      updateQuorum_of_stable env ev r₁ (g₁.isLeader ▸ hl) (g₁.unit ▸ hd) (hstable _),
      updateClientData_of_ready env r₃ hl₃ (hready _)]
  refine ⟨?_, fun rid => ?_⟩
  · rw [hdispatch, reportWorkload_errored env _ (hprobe _), deferSingleUnit_errored,
      requestRestart_errored, herr]
  rw [hdispatch, reportWorkload_world, deferSingleUnit_world, requestRestart_clientData,
    foldl_client_writes (updateClient_of_fixed env · hcl hj), Run.setStatus_world,
    g₃.clientData_eq (by decide), g₃.clients_eq]
  simp [and_assoc]

end

/-- A reconcile of the leader past its guards, in a cluster its collaborators report stable and
ready, with what `state.clients` and the JAAS file report fixed during the hook, publishes to
every client relation whose password is set and loaded in the JAAS file exactly the data
`state.clients` gives for it, leaves every other client databag as it was, and commits. -/
theorem leader_reconcile_publishes_clients (s : Sys) (u : Nat) (ev : Event) (env : Env)
    {pid : Nat} (hev : ∀ r, dispatch env ev r = onClusterRelationChanged env ev r)
    (hc : env.workload.containerCanConnect s.world) (hp : s.world.peerRelation = some pid)
    (hres : env.state.isRestoreInProgress s.world = false) (hi : env.idle s.world)
    (hend : ∀ w, env.state.endpoints w ≠ []) (hsans : ∀ w, sansChanged env w = false)
    (hstable : ∀ w, env.state.stable w = .active) (hready : ∀ w, env.state.ready w = .active)
    (hprobe : ∀ w, env.workload.healthy w ≠ none) {clients : Nat → ZKClient} {jaas : List String}
    (hcl : ∀ w, env.state.client w = clients) (hj : ∀ w, env.currentJaas w = jaas)
    (hl : s.world.isLeader u) (hd : ev.departingUnit ≠ some u) (rid : Nat) :
    (s.step (.hook u ev env)).1.world.clientData rid =
      if rid ∈ s.world.clients ∧ (clients rid).password ≠ "" ∧
          passwordLoaded (clients rid).password jaas
      then (s.world.clientData rid).update (clients rid).relationData
      else s.world.clientData rid := by
  obtain ⟨herr, hdata⟩ := reconcile_clientData env ev (s.start u) hev hc hp hres hi hend hsans
    hstable hready hprobe hcl hj hl hd
  simp only [Sys.step, Sys.commit_world, herr]
  exact hdata rid

theorem sample_leader_publishes_clients :
    (Sys.sample.step (.hook 0 .updateStatus Env.settled)).1.world.clientData 7 =
      if 7 ∈ World.sample.clients ∧ (Env.settled.state.client World.sample 7).password ≠ "" ∧
          passwordLoaded (Env.settled.state.client World.sample 7).password
            (Env.settled.currentJaas World.sample)
      then (World.sample.clientData 7).update (Env.settled.state.client World.sample 7).relationData
      else World.sample.clientData 7 :=
  leader_reconcile_publishes_clients Sys.sample 0 .updateStatus Env.settled (fun _ => rfl) rfl rfl
    rfl rfl Env.settled_steady.endpoints Env.settled_steady.sans (fun _ => rfl) (fun _ => rfl)
    Env.settled_steady.probe (fun _ => rfl) (fun _ => rfl) (by decide) (by decide) 7

/-- Under collaborators whose answers do not change, a second reconcile of the leader leaves
every client databag as the first left it: what the leader publishes is a fixed point, so
publishing it again changes no client relation. -/
theorem leader_reconcile_republishes_nothing (s : Sys) (u : Nat) (ev : Event) (env : Env)
    {pid : Nat} (hev : ∀ r, dispatch env ev r = onClusterRelationChanged env ev r)
    (hc : ∀ w, env.workload.containerCanConnect w) (hp : s.world.peerRelation = some pid)
    (hres : ∀ w, env.state.isRestoreInProgress w = false) (hi : ∀ w, env.idle w)
    (hend : ∀ w, env.state.endpoints w ≠ []) (hsans : ∀ w, sansChanged env w = false)
    (hstable : ∀ w, env.state.stable w = .active) (hready : ∀ w, env.state.ready w = .active)
    (hprobe : ∀ w, env.workload.healthy w ≠ none) {clients : Nat → ZKClient} {jaas : List String}
    (hcl : ∀ w, env.state.client w = clients) (hj : ∀ w, env.currentJaas w = jaas)
    (hl : s.world.isLeader u) (hd : ev.departingUnit ≠ some u) :
    ((s.step (.hook u ev env)).1.step (.hook u ev env)).1.world.clientData =
      (s.step (.hook u ev env)).1.world.clientData := by
  obtain ⟨herr, hdata⟩ := reconcile_clientData env ev (s.start u) hev (hc _) hp (hres _) (hi _)
    hend hsans hstable hready hprobe hcl hj hl hd
  -- a hook that does not fail commits its store
  have hstep : ∀ s' : Sys, (dispatch env ev (s'.start u)).errored = false →
      (s'.step (.hook u ev env)).1.world = (dispatch env ev (s'.start u)).world := fun s' h => by
    simp only [Sys.step, Sys.commit_world, h]
    rfl
  -- the first keeps the peer relation, the leader and the client relations
  have g := dispatch_grows env ev (s.start u)
  have hw := hstep s herr
  have hl₁ : (s.step (.hook u ev env)).1.world.isLeader u := by
    have h := g.isLeader
    rw [g.unit] at h
    rw [hw]
    exact h.trans hl
  obtain ⟨herr₂, hdata₂⟩ := reconcile_clientData env ev ((s.step (.hook u ev env)).1.start u) hev
    (hc _) ((hw.symm ▸ g.peerRelation_eq).trans hp) (hres _) (hi _) hend hsans hstable hready
    hprobe hcl hj hl₁ hd
  -- the second publishes the same data to the same relations
  have hsw : ∀ s' : Sys, (s'.start u).world = s'.world := fun _ => rfl
  funext rid
  rw [hstep _ herr₂, hdata₂ rid, hsw, hw, hdata rid, g.clients_eq]
  split_ifs <;> simp

theorem sample_leader_republishes_nothing :
    ((Sys.sample.step (.hook 0 .updateStatus Env.settled)).1.step
        (.hook 0 .updateStatus Env.settled)).1.world.clientData =
      (Sys.sample.step (.hook 0 .updateStatus Env.settled)).1.world.clientData :=
  leader_reconcile_republishes_nothing Sys.sample 0 .updateStatus Env.settled (fun _ => rfl)
    (fun _ => rfl) rfl (fun _ => rfl) (fun _ => rfl) Env.settled_steady.endpoints
    Env.settled_steady.sans (fun _ => rfl) (fun _ => rfl) Env.settled_steady.probe (fun _ => rfl)
    (fun _ => rfl) (by decide) (by decide)

end ZooKeeperK8s
