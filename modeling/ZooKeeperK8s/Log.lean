import ZooKeeperK8s.Charm

/-!
# What a hook can do

`Site.Spec env w₀ e` says, site by site, what the op `e` wrote and what held in the store it
was taken in, for a hook with collaborators `env` that started on the store `w₀`.
`Grows env r₀ r` says that the hook went from `r₀` to `r` by ops taken one after another,
each meeting its spec. Every method of the charm keeps `Grows` (`initServer_grows`, ...,
`dispatch_grows`); the results about the application read what they need off `Site.Spec` and
never unfold a hook again.
-/

namespace ZooKeeperK8s

/-- The checks `init_server` passes before it starts the workload (l. 406-424). -/
def InitChecks (env : Env) (w : World) (u : Nat) : Prop :=
  ZKCluster.internalUserCredentials w.cluster ∧ env.state.allUnitsRelated w ∧
    notUnitTurn env w u = false

/-- What the op `e` of a hook with collaborators `env`, started on `w₀`, did and relied on. -/
def Site.Spec (env : Env) (w₀ : World) (e : Op) : Prop :=
  match e.site with
  | .installPassword user => e.pre.isLeader e.unit ∧ user ∈ charmUsers ∧
      ZKCluster.internalUserCredentials w₀.cluster = false ∧
      e.write = .cluster [(user ++ "-password", env.workload.generatePassword e.pre)]
  | .installQuorum => e.pre.isLeader e.unit ∧ e.write = .cluster [("quorum", "default - non-ssl")]
  | .removeService => e.pre.isLeader e.unit ∧ e.write = .service none
  | .applyService => e.pre.isLeader e.unit ∧ ∃ s, e.write = .service (some s)
  | .defer | .raise | .settle | .setConfig | .setTls => e.write = .none
  | .certificateExpiring => e.write = .none ∧ sansChanged env e.pre
  | .clearCertificate => e.write = .unit [("certificate", "")]
  | .acquireLock => e.write = .requestLock ∧ ZKServer.started (e.pre.units e.unit) ∧
      env.idle e.pre ∧ (env.configChanged e.pre || ZKCluster.switchingEncryption e.pre.cluster)
  | .restartStart | .restartRestart => e.write = .none ∧ e.pre = w₀ ∧
      env.state.stable e.pre = .active ∧ e.pre.lockGranted = some e.unit ∧ e.pre.lockRequested e.unit
  | .restartFlags => e.write = .unit (restartedFlags env e.pre)
  | .initStart => e.write = .none ∧ InitChecks env e.pre e.unit ∧
      (ZKServer.started (e.pre.units e.unit) = false ∨
        (e.pre = w₀ ∧ env.workload.healthy w₀ ≠ some true))
  | .startedFlags => e.write = .unit (serverFlags e.pre) ∧ InitChecks env e.pre e.unit
  | .initLeaderAdded => e.pre.isLeader e.unit ∧
      ∃ v, ZKServer.started (e.pre.units v) ∧ e.write = .cluster [(toString v, "added")]
  | .updatedServers => e.pre.isLeader e.unit ∧ e.write = .cluster (env.updateCluster e.pre)
  | .quorumTarget => e.pre.isLeader e.unit ∧ e.pre.allUnitsUnified ∧
      env.state.stable e.pre = .active ∧
      e.write = .cluster [("quorum", if ZKCluster.tls e.pre.cluster then "ssl" else "non-ssl")]
  | .clearSwitchingEncryption => e.pre.isLeader e.unit ∧
      e.write = .cluster [("switching-encryption", "")] ∧
      e.pre.allUnitsUnified ∧ e.pre.allUnitsQuorum ∧
      ZKCluster.quorum e.pre.cluster = if ZKCluster.tls e.pre.cluster then "ssl" else "non-ssl"
  | .disconnectClient => e.pre.isLeader e.unit ∧ ∃ rid, e.write = .client rid [("endpoints", "")]
  | .updateClient => e.pre.isLeader e.unit ∧ ∃ rid,
      (env.state.client e.pre rid).password ≠ "" ∧
      passwordLoaded (env.state.client e.pre rid).password (env.currentJaas e.pre) ∧
      e.write = .client rid (env.state.client e.pre rid).relationData
  | .releaseLock => e.write = .releaseLock

/-! ### Chains of ops -/

/-- The ops `l` were taken one after another from `w`, ending in `w'`. -/
def Chained : World → List Op → World → Prop
  | w, [], w' => w' = w
  | w, e :: l, w' => e.pre = w ∧ Chained e.post l w'

namespace Chained
variable {w w' : World} {l : List Op}

theorem snoc {e : Op} (h : Chained w l w') (he : e.pre = w') : Chained w (l ++ [e]) e.post := by
  induction l generalizing w with
  | nil => exact ⟨he.trans h, rfl⟩
  | cons e' l ih => exact ⟨h.1, ih h.2⟩

/-- A property of stores that every op of the chain keeps holds at its end, and before each
of its ops. -/
theorem invariant {P : World → Prop} (h : Chained w l w') (hw : P w)
    (hstep : ∀ e ∈ l, P e.pre → P e.post) : P w' ∧ ∀ e ∈ l, P e.pre := by
  induction l generalizing w with
  | nil => exact ⟨h ▸ hw, by simp⟩
  | cons e l ih =>
    have hpre : P e.pre := h.1 ▸ hw
    have := ih h.2 (hstep e (by simp) hpre) fun e' he' => hstep e' (by simp [he'])
    exact ⟨this.1, by simpa [hpre] using this.2⟩

/-- What holds at the end of the chain held at its start, or an op of the chain brought it. -/
theorem origin {P : World → Prop} {Q : Op → Prop} (h : Chained w l w') (hP : P w')
    (hstep : ∀ e ∈ l, P e.post → P e.pre ∨ Q e) : P w ∨ ∃ e ∈ l, Q e := by
  induction l generalizing w with
  | nil => exact .inl (h ▸ hP)
  | cons e l ih =>
    rcases ih h.2 fun e' he' => hstep e' (by simp [he']) with hp | ⟨e', he', hq⟩
    · exact (hstep e (by simp) hp).imp (h.1 ▸ ·) fun hq => ⟨e, by simp, hq⟩
    · exact .inr ⟨e', by simp [he'], hq⟩

theorem leader (h : Chained w l w') : w'.leader = w.leader :=
  (h.invariant (P := fun x => x.leader = w.leader) rfl fun e _ he => by simpa [Op.post]).1

end Chained

/-! ### Hooks grow the log by specified ops -/

/-- The hook went from `r₀` to `r` by ops taken one after another, each at a site `S` allows
and meeting its spec; it can have failed only if `S` allows the site that raises. -/
structure Grows (env : Env) (S : Site → Prop) (r₀ r : Run) : Prop where
  unit : r.unit = r₀.unit
  log : ∃ l, r.log = r₀.log ++ l ∧ Chained r₀.world l r.world ∧
    ∀ e ∈ l, e.unit = r₀.unit ∧ S e.site ∧ Site.Spec env r₀.world e
  errored : r.errored = r₀.errored ∨ S .raise

namespace Grows
variable {env : Env} {S : Site → Prop} {r₀ r : Run}

theorem refl (r : Run) : Grows env S r r := ⟨rfl, ⟨[], by simp, rfl, by simp⟩, .inl rfl⟩

theorem act (h : Grows env S r₀ r) (site : Site) (wr : Write) (hS : S site)
    (hs : Site.Spec env r₀.world ⟨r.unit, site, wr, r.world⟩) :
    Grows env S r₀ (r.act site wr) := by
  obtain ⟨hu, ⟨l, hlog, hc, hl⟩, he⟩ := h
  refine ⟨hu, ⟨l ++ [⟨r.unit, site, wr, r.world⟩], by simp [hlog],
    hc.snoc (e := ⟨r.unit, site, wr, r.world⟩) rfl, ?_⟩, he⟩
  simp only [List.mem_append, List.mem_singleton]
  rintro e (he | rfl)
  exacts [hl e he, ⟨hu, hS, hs⟩]

theorem setStatus (h : Grows env S r₀ r) (k : Status) : Grows env S r₀ (r.setStatus k) :=
  ⟨h.1, h.2, h.3⟩

theorem setWorkloadVersion (h : Grows env S r₀ r) (v : String) :
    Grows env S r₀ (r.setWorkloadVersion v) := ⟨h.1, h.2, h.3⟩

theorem defer (h : Grows env S r₀ r) (hS : S .defer) : Grows env S r₀ r.defer :=
  h.act .defer .none hS rfl

theorem raise (h : Grows env S r₀ r) (hS : S .raise) : Grows env S r₀ r.raise :=
  ⟨(h.act .raise .none hS rfl).1, (h.act .raise .none hS rfl).2, .inr hS⟩

/-- Each branch of an `if` grows the log. -/
theorem ite {c : Prop} [Decidable c] {a b : Run} (ha : c → Grows env S r₀ a)
    (hb : ¬c → Grows env S r₀ b) : Grows env S r₀ (if c then a else b) := by
  split_ifs with hc
  exacts [ha hc, hb hc]

theorem mono {S' : Site → Prop} (h : Grows env S r₀ r) (hS : ∀ s, S s → S' s) :
    Grows env S' r₀ r := by
  obtain ⟨hu, ⟨l, hlog, hc, hl⟩, he⟩ := h
  exact ⟨hu, ⟨l, hlog, hc, fun e he' => (hl e he').imp_right (And.imp_left (hS _))⟩,
    he.imp_right (hS _)⟩

theorem isLeader (h : Grows env S r₀ r) :
    r.world.isLeader r.unit = r₀.world.isLeader r₀.unit := by
  obtain ⟨hu, ⟨l, -, hc, -⟩, -⟩ := h
  simp [World.isLeader, hu, hc.leader]

/-- The ops of a hook that started with an empty log. -/
theorem of_nil (h : Grows env S r₀ r) (h₀ : r₀.log = []) :
    ∀ e ∈ r.log, e.unit = r₀.unit ∧ S e.site ∧ Site.Spec env r₀.world e := by
  obtain ⟨-, ⟨l, hlog, -, hl⟩, -⟩ := h
  simpa [hlog, h₀] using hl

end Grows

/-! ### Every method grows the log by specified ops

Each lemma lists the sites the method can log; `S` must allow them. -/

section
variable {env : Env} {S : Site → Prop} {r₀ r : Run}

theorem allow_sub {L L' : List Site} (hS : ∀ s ∈ L, S s) (h : L' ⊆ L) : ∀ s ∈ L', S s :=
  fun s hs => hS s (h hs)

theorem updateExternalServices_grows (h : Grows env S r₀ r)
    (hS : ∀ s ∈ [Site.removeService, .applyService], S s) :
    Grows env S r₀ (updateExternalServices r) := by
  unfold updateExternalServices
  split_ifs with hl
  · exact h
  · have hl : r.world.isLeader r.unit := by simpa [substrate] using hl
    split
    · exact h.act _ _ (hS _ (by simp)) ⟨hl, rfl⟩
    · exact (h.setStatus _).act _ _ (hS _ (by simp)) ⟨hl, _, rfl⟩
    · exact (h.setStatus _).act _ _ (hS _ (by simp)) ⟨hl, _, rfl⟩

theorem initServer_grows (h : Grows env S r₀ r)
    (hS : ∀ s ∈ [Site.setConfig, .setTls, .initStart, .startedFlags], S s)
    (hcall : ZKServer.started (r.world.units r.unit) = false ∨
      (r.world = r₀.world ∧ env.workload.healthy r₀.world ≠ some true)) :
    Grows env S r₀ (initServer env r) := by
  unfold initServer
  split_ifs with h1 h2 h3
  · exact h.setStatus _
  · exact h.setStatus _
  · exact h.setStatus _
  · have hc : InitChecks env r.world r.unit :=
      ⟨by simpa using h1, by simpa using h2, by simpa using h3⟩
    dsimp only
    split_ifs
    · exact ((((h.act .setConfig .none (hS _ (by simp)) rfl).act .setTls .none (hS _ (by simp))
        rfl).act .initStart .none (hS _ (by simp)) ⟨rfl, hc, hcall⟩).setWorkloadVersion _).act
        .startedFlags _ (hS _ (by simp)) ⟨rfl, hc⟩
    · exact (((h.act .setConfig .none (hS _ (by simp)) rfl).act .initStart .none (hS _ (by simp))
        ⟨rfl, hc, hcall⟩).setWorkloadVersion _).act .startedFlags _ (hS _ (by simp)) ⟨rfl, hc⟩

theorem updateClient_grows (h : Grows env S r₀ r) (hS : S .updateClient)
    (hl : r₀.world.isLeader r₀.unit) (rid : Nat) : Grows env S r₀ (updateClient env r rid) := by
  dsimp only [updateClient]
  split_ifs with hp
  · exact h
  · simp only [Bool.or_eq_true, beq_iff_eq, Bool.not_eq_true', not_or, Bool.not_eq_false] at hp
    exact h.act _ _ hS ⟨h.isLeader ▸ hl, rid, hp.1, hp.2, rfl⟩

theorem updateClient_foldl_grows (hS : S .updateClient) (hl : r₀.world.isLeader r₀.unit)
    (l : List Nat) (h : Grows env S r₀ r) : Grows env S r₀ (l.foldl (updateClient env) r) := by
  induction l generalizing r with
  | nil => exact h
  | cons rid l ih => exact ih (updateClient_grows h hS hl rid)

theorem updateClientData_grows (h : Grows env S r₀ r) (hS : S .updateClient) :
    Grows env S r₀ (updateClientData env r) := by
  dsimp only [updateClientData]
  split_ifs with hl
  · exact h
  · exact h.setStatus _
  · exact updateClient_foldl_grows hS (h.isLeader ▸ by simpa using hl) _ (h.setStatus _)

theorem disconnectClients_grows (h : Grows env S r₀ r) (hS : S .disconnectClient) :
    Grows env S r₀ (disconnectClients r) := by
  unfold disconnectClients
  split_ifs with hr
  · exact h
  · have hl : r₀.world.isLeader r₀.unit := h.isLeader ▸ by simpa using hr
    clear hr
    generalize r.world.clients = l
    induction l generalizing r with
    | nil => exact h
    | cons rid l ih =>
      exact ih (h.act .disconnectClient (.client rid [("endpoints", "")]) hS
        ⟨h.isLeader ▸ hl, rid, rfl⟩)

theorem addInitLeader_grows (h : Grows env S r₀ r) (hS : S .initLeaderAdded)
    (hl : r₀.world.isLeader r₀.unit) : Grows env S r₀ (addInitLeader env r) := by
  unfold addInitLeader
  split
  · split_ifs with hv
    · exact h.act _ _ hS ⟨h.isLeader ▸ hl, _, hv, rfl⟩
    · exact h
  · exact h

theorem updateMembers_grows (h : Grows env S r₀ r) (hS : S .updatedServers)
    (hl : r₀.world.isLeader r₀.unit) (ev : Event) : Grows env S r₀ (updateMembers env ev r) := by
  unfold updateMembers
  split_ifs
  · exact h.act _ _ hS ⟨h.isLeader ▸ hl, rfl⟩
  · exact h

theorem advanceQuorum_grows (h : Grows env S r₀ r)
    (hS : ∀ s ∈ [Site.quorumTarget, .clearSwitchingEncryption], S s)
    (hl : r₀.world.isLeader r₀.unit) (hst : env.state.stable r.world = .active) :
    Grows env S r₀ (advanceQuorum r) := by
  have hl' : r.world.isLeader r.unit := h.isLeader ▸ hl
  have hq : S .quorumTarget := hS _ (by simp)
  have hc : S .clearSwitchingEncryption := hS _ (by simp)
  dsimp only [advanceQuorum]
  split_ifs with hu ht hu' hu'
  · have ht : r.world.cluster "tls" ≠ "" := by simpa [ZKCluster.tls] using ht
    exact (h.act .quorumTarget (.cluster [("quorum", "ssl")]) hq
      ⟨hl', hu, hst, by simp [ZKCluster.tls, ht]⟩).act _ _ hc
      ⟨by simpa using hl', rfl, by simpa [World.allUnitsUnified] using hu, hu',
        by simp [ZKCluster.quorum, ZKCluster.tls, ht]⟩
  · exact h.act _ _ hq ⟨hl', hu, hst, by simp [ht]⟩
  · have ht : r.world.cluster "tls" = "" := by simpa [ZKCluster.tls] using ht
    exact (h.act .quorumTarget (.cluster [("quorum", "non-ssl")]) hq
      ⟨hl', hu, hst, by simp [ZKCluster.tls, ht]⟩).act _ _ hc
      ⟨by simpa using hl', rfl, by simpa [World.allUnitsUnified] using hu, hu',
        by simp [ZKCluster.quorum, ZKCluster.tls, ht]⟩
  · exact h.act _ _ hq ⟨hl', hu, hst, by simp [ht]⟩
  · exact h

/-- The sites `update_quorum` can log, with those of `update_client_data`. -/
def updateQuorumSites : List Site :=
  [.initLeaderAdded, .updatedServers, .quorumTarget, .clearSwitchingEncryption, .updateClient]

theorem updateQuorum_grows (h : Grows env S r₀ r) (hS : ∀ s ∈ updateQuorumSites, S s)
    (ev : Event) : Grows env S r₀ (updateQuorum env ev r) := by
  dsimp only [updateQuorum]
  split_ifs with hr ha
  · exact h
  all_goals
    have hl : r₀.world.isLeader r₀.unit := h.isLeader ▸ by simp_all
    have hm := updateMembers_grows (addInitLeader_grows h (hS _ (by decide)) hl)
      (hS _ (by decide)) hl ev
  · exact hm.setStatus _
  · exact updateClientData_grows (advanceQuorum_grows (hm.setStatus _)
      (allow_sub hS (by decide)) hl (by simpa using ha)) (hS _ (by decide))

theorem requestRestart_grows (h : Grows env S r₀ r) (hS : S .acquireLock) :
    Grows env S r₀ (requestRestart env r) := by
  unfold requestRestart
  split_ifs with hc
  · simp only [Bool.and_eq_true] at hc
    exact h.act _ _ hS ⟨rfl, hc.1.2, hc.2, hc.1.1⟩
  · exact h

theorem deferSingleUnit_grows (h : Grows env S r₀ r) (hS : S .defer) :
    Grows env S r₀ (deferSingleUnit r) := by
  unfold deferSingleUnit
  split_ifs
  exacts [h.defer hS, h]

theorem reportWorkload_grows (h : Grows env S r₀ r) (hS : S .raise) :
    Grows env S r₀ (reportWorkload env r) := by
  unfold reportWorkload
  split_ifs
  · exact h.setStatus _
  · split
    · exact h.raise hS
    · exact h.setStatus _
    · exact (h.setWorkloadVersion _).setStatus _
  · exact (h.setWorkloadVersion _).setStatus _

/-- The sites `_on_cluster_relation_changed` can log, its callees' included. -/
def reconcileSites : List Site :=
  [.defer, .setConfig, .setTls, .initStart, .startedFlags, .removeService, .applyService,
    .disconnectClient, .certificateExpiring, .clearCertificate, .acquireLock, .raise] ++
    updateQuorumSites

/-- The sites `init_server` and `update_external_services` can log. -/
def startupSites : List Site :=
  [.setConfig, .setTls, .initStart, .startedFlags, .removeService, .applyService]

/-- The ways `_on_cluster_relation_changed` can go: a guard returns (l. 229-246); or, past the
startup of l. 249-253, the endpoints are unknown (l. 257-261), the SANs changed (l. 284-291),
or it goes on to `update_quorum` and, unless the unit is leaving, to the restart and status
checks (l. 294-326). -/
theorem onClusterRelationChanged_paths (env : Env) (ev : Event) (r : Run) :
    Grows env (· = .defer) r (onClusterRelationChanged env ev r) ∨
    ∃ r₁, Grows env (· ∈ startupSites) r r₁ ∧
      ((env.state.endpoints r₁.world = [] ∧
          onClusterRelationChanged env ev r = (disconnectClients r₁).defer) ∨
        (env.state.endpoints r₁.world ≠ [] ∧ sansChanged env r₁.world ∧
          onClusterRelationChanged env ev r =
            (r₁.act .certificateExpiring .none).act .clearCertificate (.unit [("certificate", "")])) ∨
        (env.state.endpoints r₁.world ≠ [] ∧ sansChanged env r₁.world = false ∧
          ((ev.departingUnit = some r.unit ∧
              onClusterRelationChanged env ev r = updateQuorum env ev r₁) ∨
            (ev.departingUnit ≠ some r.unit ∧ onClusterRelationChanged env ev r =
              reportWorkload env (deferSingleUnit (requestRestart env (updateQuorum env ev r₁))))))) := by
  dsimp only [onClusterRelationChanged]
  by_cases h1 : (!env.workload.containerCanConnect r.world) = true
  · exact .inl (by rw [if_pos h1]; exact ((Grows.refl r).setStatus _).defer rfl)
  by_cases h2 : r.world.peerRelation.isNone = true
  · exact .inl (by rw [if_neg h1, if_pos h2]; exact (Grows.refl r).setStatus _)
  by_cases h3 : env.state.isRestoreInProgress r.world = true
  · exact .inl (by rw [if_neg h1, if_neg h2, if_pos h3]; exact .refl r)
  by_cases h4 : (!env.idle r.world) = true
  · exact .inl (by rw [if_neg h1, if_neg h2, if_neg h3, if_pos h4]; exact (Grows.refl r).defer rfl)
  rw [if_neg h1, if_neg h2, if_neg h3, if_neg h4]
  have h₁ : Grows env (· ∈ startupSites) r (updateExternalServices
      (if (!ZKServer.started r.unitServer) = true then initServer env r else r)) :=
    updateExternalServices_grows (.ite (fun h5 => initServer_grows (.refl r) (by decide)
      (.inl (by simpa using h5))) fun _ => .refl r) (by decide)
  generalize updateExternalServices
    (if (!ZKServer.started r.unitServer) = true then initServer env r else r) = r₁ at h₁ ⊢
  refine .inr ⟨r₁, h₁, ?_⟩
  have hu : (updateQuorum env ev r₁).unit = r.unit :=
    (@updateQuorum_grows env (fun _ => True) r₁ r₁ (.refl r₁) (fun _ _ => trivial) ev).unit.trans
      h₁.unit
  split_ifs with h6 h7 h8
  · exact .inl ⟨by simpa using h6, rfl⟩
  · exact .inr (.inl ⟨by simpa using h6, h7, rfl⟩)
  · exact .inr (.inr ⟨by simpa using h6, by simpa using h7, .inl ⟨by simpa [hu] using h8, rfl⟩⟩)
  · exact .inr (.inr ⟨by simpa using h6, by simpa using h7, .inr ⟨by simpa [hu] using h8, rfl⟩⟩)

theorem onClusterRelationChanged_grows (hS : ∀ s ∈ reconcileSites, S s) (ev : Event) (r : Run) :
    Grows env S r (onClusterRelationChanged env ev r) := by
  have hsub : ∀ s ∈ startupSites, S s := allow_sub hS (by decide)
  rcases onClusterRelationChanged_paths env ev r with
    h | ⟨r₁, h₁, ⟨-, heq⟩ | ⟨-, hc, heq⟩ | ⟨-, -, ⟨-, heq⟩ | ⟨-, heq⟩⟩⟩
  · exact h.mono fun s hs => hs ▸ hS _ (by decide)
  all_goals
    have h₁ := h₁.mono hsub
    rw [heq]
  · exact (disconnectClients_grows h₁ (hS _ (by decide))).defer (hS _ (by decide))
  · exact (h₁.act .certificateExpiring .none (hS _ (by decide)) ⟨rfl, hc⟩).act _ _
      (hS _ (by decide)) rfl
  · exact updateQuorum_grows h₁ (allow_sub hS (by decide)) ev
  · exact reportWorkload_grows (deferSingleUnit_grows (requestRestart_grows
      (updateQuorum_grows h₁ (allow_sub hS (by decide)) ev) (hS _ (by decide)))
      (hS _ (by decide))) (hS _ (by decide))

/-- `_on_cluster_relation_changed` emits no renewal, or emits one right before it clears the
certificate and returns, after a startup that emits none and cannot fail. -/
theorem onClusterRelationChanged_emits (env : Env) (ev : Event) (r : Run) :
    Grows env (· ≠ .certificateExpiring) r (onClusterRelationChanged env ev r) ∨
    ∃ r₁, Grows env (· ∈ startupSites) r r₁ ∧ sansChanged env r₁.world ∧
      onClusterRelationChanged env ev r =
        (r₁.act .certificateExpiring .none).act .clearCertificate (.unit [("certificate", "")]) := by
  rcases onClusterRelationChanged_paths env ev r with
    h | ⟨r₁, h₁, ⟨-, heq⟩ | ⟨-, hc, heq⟩ | ⟨-, -, ⟨-, heq⟩ | ⟨-, heq⟩⟩⟩
  · exact .inl (h.mono fun s hs => hs ▸ by decide)
  · exact .inl (heq ▸ (disconnectClients_grows (h₁.mono (by decide)) (by decide)).defer
      (by decide))
  · exact .inr ⟨r₁, h₁, hc, heq⟩
  · exact .inl (heq ▸ updateQuorum_grows (h₁.mono (by decide)) (by decide) ev)
  · exact .inl (heq ▸ reportWorkload_grows (deferSingleUnit_grows (requestRestart_grows
      (updateQuorum_grows (h₁.mono (by decide)) (by decide) ev) (by decide)) (by decide))
      (by decide))

theorem installPasswords_grows (hS : ∀ user, S (.installPassword user))
    (hl : r₀.world.isLeader r₀.unit) (hc : ZKCluster.internalUserCredentials r₀.world.cluster = false)
    (l : List String)
    (hu : ∀ user ∈ l, user ∈ charmUsers) (h : Grows env S r₀ r) :
    Grows env S r₀ (l.foldl (fun r user => r.act (.installPassword user)
      (.cluster [(user ++ "-password", env.workload.generatePassword r.world)])) r) := by
  induction l generalizing r with
  | nil => exact h
  | cons user l ih =>
    exact ih (fun x hx => hu x (by simp [hx])) (h.act (.installPassword user) _ (hS user)
      ⟨h.isLeader ▸ hl, hu user (by simp), hc, rfl⟩)

theorem onInstall_grows (h : Grows env S r₀ r) (hr : r.world = r₀.world)
    (hS : ∀ user, S (.installPassword user))
    (hS' : ∀ s ∈ [Site.defer, .installQuorum, .removeService, .applyService], S s) :
    Grows env S r₀ (onInstall env r) := by
  dsimp only [onInstall]
  split
  · exact Grows.defer ⟨h.1, h.2, h.3⟩ (hS' _ (by simp))
  · refine updateExternalServices_grows (Grows.setWorkloadVersion ?_ _) (allow_sub hS' (by decide))
    have hl : r.world.isLeader r.unit → r₀.world.isLeader r₀.unit := fun hl => h.isLeader ▸ hl
    split_ifs with h1 h2 h2
    · simp only [Bool.and_eq_true, Bool.not_eq_true', Run.isLeader_eq] at h1
      have hp := installPasswords_grows hS (hl h1.1) (hr ▸ h1.2) charmUsers (fun _ hx => hx) h
      exact hp.act _ _ (hS' _ (by simp)) ⟨hp.isLeader ▸ hl h1.1, rfl⟩
    · simp only [Bool.and_eq_true, Bool.not_eq_true', Run.isLeader_eq] at h1
      have hp := installPasswords_grows hS (hl h1.1) (hr ▸ h1.2) charmUsers (fun _ hx => hx) h
      simp [hp.isLeader, hl h1.1] at h2
    · exact h.act _ _ (hS' _ (by simp)) ⟨by simpa using h2, rfl⟩
    · exact h

theorem onZookeeperPebbleReady_grows (h : Grows env S r₀ r) (hr : r.world = r₀.world)
    (hS : ∀ s ∈ [Site.defer, .setConfig, .setTls, .initStart, .startedFlags], S s) :
    Grows env S r₀ (onZookeeperPebbleReady env r) := by
  unfold onZookeeperPebbleReady
  split_ifs with h1 h2 h3
  · exact h
  · exact (h.setStatus _).defer (hS _ (by simp))
  · exact h
  · exact initServer_grows h (allow_sub hS (by decide)) (.inr ⟨hr, by simpa [hr] using h3⟩)

theorem restart_grows (h : Grows env S r₀ r) (hr : r.world = r₀.world)
    (hS : ∀ s ∈ [Site.defer, .restartStart, .restartRestart, .settle, .restartFlags], S s)
    (hlock : r.world.lockGranted = some r.unit ∧ r.world.lockRequested r.unit) :
    Grows env S r₀ (restart env r) := by
  dsimp only [restart]
  split_ifs with ha hp
  · exact (h.setStatus _).defer (hS _ (by simp))
  all_goals have hs : env.state.stable r.world = .active := by simpa using ha
  · exact (((h.setStatus _).act .restartStart .none (hS _ (by simp)) ⟨rfl, hr, hs, hlock⟩).act .settle
      .none (hS _ (by simp)) rfl).act _ _ (hS _ (by simp)) rfl
  · exact (((h.setStatus _).act .restartRestart .none (hS _ (by simp)) ⟨rfl, hr, hs, hlock⟩).act
      .settle .none (hS _ (by simp)) rfl).act _ _ (hS _ (by simp)) rfl

theorem runWithLock_grows (h : Grows env S r₀ r) (hr : r.world = r₀.world)
    (hS : ∀ s ∈ [Site.defer, .restartStart, .restartRestart, .settle, .restartFlags,
      .releaseLock], S s) : Grows env S r₀ (runWithLock env r) := by
  unfold runWithLock
  split_ifs with hl
  · exact (restart_grows h hr (allow_sub hS (by decide)) (by simpa using hl)).act _ _
      (hS _ (by simp)) rfl
  · exact h

theorem onSecretChanged_grows (hS : ∀ s ∈ reconcileSites, S s) (label : String) (r : Run) :
    Grows env S r (onSecretChanged env label r) := by
  unfold onSecretChanged
  split_ifs
  · exact .refl r
  · split
    · exact .refl r
    · split_ifs
      exacts [onClusterRelationChanged_grows hS _ r, .refl r]

/-- The sites of `_restart` and the lock release, which only the rolling-restart callback
logs. -/
def Site.underLock : Site → Bool
  | .restartStart | .restartRestart | .settle | .restartFlags | .releaseLock => true
  | _ => false

theorem not_underLock_of_all {ev : Event} {l : List Site} (h : l.all (!·.underLock)) :
    ∀ s ∈ l, s.underLock → ev = .runWithLock := by
  intro s hs hu
  have := List.all_eq_true.1 h s hs
  simp_all

/-- Every hook grows its log by specified ops, and only the rolling-restart callback logs a
site of `_restart` or the lock release. -/
theorem dispatch_grows (env : Env) (ev : Event) (r : Run) :
    Grows env (fun s => s.underLock → ev = .runWithLock) r (dispatch env ev r) := by
  cases ev
  case install =>
    exact onInstall_grows (.refl r) rfl (fun _ h => by simp [Site.underLock] at h)
      (not_underLock_of_all rfl)
  case upgradeCharm | start | zookeeperPebbleReady =>
    exact onZookeeperPebbleReady_grows (.refl r) rfl (not_underLock_of_all rfl)
  case secretChanged label => exact onSecretChanged_grows (not_underLock_of_all rfl) label r
  case runWithLock => exact runWithLock_grows (.refl r) rfl fun _ _ _ => rfl
  all_goals exact onClusterRelationChanged_grows (not_underLock_of_all rfl) _ r

end

end ZooKeeperK8s
