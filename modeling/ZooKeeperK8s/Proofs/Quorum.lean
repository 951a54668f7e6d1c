import ZooKeeperK8s.Runs
import ZooKeeperK8s.Proofs.Frame

/-!
# The quorum target

The cluster quorum is written in two places: `_on_install` gives the cluster the default
`default - non-ssl` (l. 219), and `update_quorum` moves it to `ssl` or `non-ssl` as `tls` asks,
once the cluster is stable and every unit is unified (l. 501-514). A unit copies the cluster
quorum into its own databag when it starts (l. 463-469) and after each rolling restart
(l. 386-395). So the target moves only under those guards, and every quorum the store holds
stays one of the modes the charm writes.
-/

namespace ZooKeeperK8s

/-- The quorum values `charm.py` writes, and the unset one. -/
def quorumModes : List String := ["", "default - non-ssl", "ssl", "non-ssl"]

/-- Every quorum the store holds, the cluster's and each unit's, is one of `quorumModes`. -/
structure World.QuorumsKnown (w : World) : Prop where
  cluster : ZKCluster.quorum w.cluster ∈ quorumModes
  units : ∀ v, ZKServer.quorum (w.units v) ∈ quorumModes

/-- Only `_on_install` (l. 219) and `update_quorum` (l. 511-514) name the quorum. -/
theorem Site.not_writesKey_quorum {site : Site} (h : site ≠ .installQuorum)
    (h' : site ≠ .quorumTarget) : ¬site.WritesKey "quorum" := by
  cases site <;> simp_all [Site.WritesKey, charmUsers]
  case installPassword => rintro (rfl | rfl) <;> decide
  all_goals exact fun n => (toString_ne_of_not_isDigit (c := 'q') (by decide) (by decide)).symm

section
variable {env : Env} {w₀ : World} {e : Op}

/-- An op keeps the cluster quorum, or is the leader's write of the install default or, on a
stable cluster whose units are all unified, of the mode `tls` asks for. -/
theorem Site.Spec.quorum_cases (hm : MembershipOnly env) (hs : Site.Spec env w₀ e) :
    ZKCluster.quorum e.post.cluster = ZKCluster.quorum e.pre.cluster ∨
      e.pre.isLeader e.unit = true ∧
      ((e.site = .installQuorum ∧ ZKCluster.quorum e.post.cluster = "default - non-ssl") ∨
       (e.site = .quorumTarget ∧ e.pre.allUnitsUnified = true ∧ env.state.stable e.pre = .active ∧
         ZKCluster.quorum e.post.cluster =
           if ZKCluster.tls e.pre.cluster then "ssl" else "non-ssl")) := by
  obtain ⟨u, site, wr, pre⟩ := e
  by_cases h : site = .installQuorum
  · subst h
    obtain ⟨hl, rfl⟩ := hs
    exact .inr ⟨hl, .inl ⟨rfl, by simp [Op.post, ZKCluster.quorum]⟩⟩
  by_cases h' : site = .quorumTarget
  · subst h'
    obtain ⟨hl, hu, hst, hw⟩ := hs
    dsimp only at hw
    subst hw
    exact .inr ⟨hl, .inr ⟨rfl, hu, hst, by simp [Op.post, ZKCluster.quorum]⟩⟩
  exact .inl (Write.apply_cluster_of_keeps u pre (hs.keeps hm (Site.not_writesKey_quorum h h')))

/-- A unit's quorum changes only to the cluster quorum, which `init_server` (l. 467) and
`_restart` (l. 390) copy. -/
theorem Site.Spec.unitQuorum_cases (hs : Site.Spec env w₀ e) (v : Nat) :
    ZKServer.quorum (e.post.units v) = ZKServer.quorum (e.pre.units v) ∨
      ZKServer.quorum (e.post.units v) = ZKCluster.quorum e.pre.cluster := by
  by_cases hv : v = e.unit
  · subst hv
    cases hw : e.write with
    | unit kvs =>
      rcases hs.unit_cases hw with ⟨-, rfl⟩ | ⟨-, rfl⟩ | ⟨-, rfl⟩
      · exact .inl (by simp [Op.post, hw, ZKServer.quorum])
      · exact .inr (by simp [Op.post, hw, ZKServer.quorum, restartedFlags])
      · exact .inr (by simp [Op.post, hw, ZKServer.quorum, serverFlags])
    | _ => exact .inl (by simp [Op.post, hw])
  · exact .inl (congrArg ZKServer.quorum (Write.apply_units_of_ne _ _ _ hv))

theorem Site.Spec.quorumsKnown_post (hm : MembershipOnly env) (hs : Site.Spec env w₀ e)
    (h : e.pre.QuorumsKnown) : e.post.QuorumsKnown where
  cluster := by
    rcases hs.quorum_cases hm with h' | ⟨-, ⟨-, h'⟩ | ⟨-, -, -, h'⟩⟩
    · exact h' ▸ h.cluster
    · simp [h', quorumModes]
    · rw [h']; split <;> simp [quorumModes]
  units v := (hs.unitQuorum_cases v).elim (· ▸ h.units v) (· ▸ h.cluster)

end

/-- Over any interleaving of hooks whose membership mappings hold per-unit entries only, every
quorum the store holds stays unset or one of the modes `charm.py` writes. -/
theorem quorums_stay_known (s : Sys) (steps : List Step)
    (hm : ∀ u ev env, Step.hook u ev env ∈ steps → MembershipOnly env)
    (h : s.world.QuorumsKnown) : (s.run steps).world.QuorumsKnown :=
  Sys.ops_invariant h (fun _ _ _ hst _ _ _ hs => hs.quorumsKnown_post (hm _ _ _ hst))
    (fun _ _ h => ⟨by simpa using h.cluster, by simpa using h.units⟩)
    (fun _ h => ⟨by simpa using h.cluster, by simpa using h.units⟩)

theorem sample_quorums_known :
    (Sys.sample.run [.hook 0 .install Env.settled, .hook 1 .updateStatus Env.settled,
      .hook 0 .updateStatus Env.settled]).world.QuorumsKnown :=
  quorums_stay_known _ _ (Step.membershipOnly_of_settled (by simp [Step.Settled]))
    ⟨by decide, fun _ => by simp only [Sys.sample, World.sample]; decide⟩

/-- Over any interleaving of hooks whose membership mappings hold per-unit entries only, the
cluster quorum target changes only by the leader's writes in the hook that logged them: the
install default, or, on a cluster whose units are all unified and that this hook's collaborators
report stable, the mode `tls` asks for. -/
theorem quorum_target_moves_only_when_unified (s : Sys) (steps : List Step)
    (hm : ∀ u ev env, Step.hook u ev env ∈ steps → MembershipOnly env) :
    ∀ x ∈ s.trace steps, ∀ e ∈ x.2.2,
      ZKCluster.quorum e.post.cluster ≠ ZKCluster.quorum e.pre.cluster →
      ∃ ev env, x.2.1 = .hook e.unit ev env ∧ e.pre.isLeader e.unit = true ∧
        ((e.site = .installQuorum ∧ ZKCluster.quorum e.post.cluster = "default - non-ssl") ∨
         (e.site = .quorumTarget ∧ e.pre.allUnitsUnified = true ∧
           env.state.stable e.pre = .active ∧
           ZKCluster.quorum e.post.cluster =
             if ZKCluster.tls e.pre.cluster then "ssl" else "non-ssl")) := by
  intro x hx e he hne
  obtain ⟨ev, env, hst, hmem, -, hs⟩ := Sys.mem_trace hx he
  refine ⟨ev, env, hst, ?_⟩
  rcases hs.quorum_cases (hm _ _ _ hmem) with h | ⟨hl, h | ⟨hsite, hu, hstab, h⟩⟩
  · exact absurd h hne
  · exact ⟨hl, .inl h⟩
  · exact ⟨hl, .inr ⟨hsite, hu, hstab, h⟩⟩

theorem sample_quorum_returns_to_nonSsl :
    ∃ x ∈ Sys.sample.trace [.hook 0 .install Env.settled, .hook 0 .updateStatus Env.settled],
      ∃ e ∈ x.2.2, ZKCluster.quorum e.pre.cluster = "default - non-ssl" ∧
        ZKCluster.quorum e.post.cluster = "non-ssl" ∧ e.site = .quorumTarget ∧
        e.pre.allUnitsUnified = true ∧
        ∃ ev env, x.2.1 = .hook e.unit ev env ∧ env.state.stable e.pre = .active := by
  obtain ⟨x, hx, e, he, h₁, h₂⟩ : ∃ x ∈ Sys.sample.trace [.hook 0 .install Env.settled,
      .hook 0 .updateStatus Env.settled], ∃ e ∈ x.2.2,
      ZKCluster.quorum e.pre.cluster = "default - non-ssl" ∧
      ZKCluster.quorum e.post.cluster = "non-ssl" := by
    decide
  obtain ⟨ev, env, hst, -, h | ⟨hsite, hu, hstab, -⟩⟩ :=
    quorum_target_moves_only_when_unified Sys.sample _
      (Step.membershipOnly_of_settled (by simp [Step.Settled])) x hx e he (by rw [h₁, h₂]; decide)
  · exact absurd (h₂.symm.trans h.2) (by decide)
  · exact ⟨x, hx, e, he, h₁, h₂, hsite, hu, ev, env, hst, hstab⟩

end ZooKeeperK8s
