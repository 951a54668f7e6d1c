import ZooKeeperK8s.Runs
import ZooKeeperK8s.Proofs.Frame

/-!
# The encryption switch ends only in a settled cluster

`switching-encryption` is set outside `charm.py` (by the TLS handlers) and cleared by
`update_quorum` at l. 520 only: every other write of the cluster databag names a password, the
quorum, or a unit's membership key `str(unit_id)`, and a string of digits is never a flag's
key. The clearing write happens after `all_units_unified` held and the quorum target was
written from `tls`, and `all_units_quorum` is read against that new target, so the state right
after it has every unit unified and on the cluster quorum.

The membership mapping `quorum_manager.update_cluster()` returns is not in the source; the
results here assume, as its contract, that it holds per-unit entries only (`MembershipOnly`).
-/

namespace ZooKeeperK8s

@[simp] theorem switchingEncryption_ne_toString (n : Nat) : "switching-encryption" ≠ toString n :=
  (toString_ne_of_not_isDigit (c := '-') (by decide) (by decide)).symm

/-! ### Which writes keep the flag -/

section
variable {env : Env} {w₀ : World} {e : Op}

/-- Only the write of l. 520 names `switching-encryption`. -/
theorem Site.not_writesKey_switching {site : Site} (h : site ≠ .clearSwitchingEncryption) :
    ¬site.WritesKey "switching-encryption" := by
  cases site <;> simp_all [Site.WritesKey, charmUsers]
  rintro (rfl | rfl) <;> decide

/-- An op that clears `switching-encryption` is the leader's write of l. 520, and right after
it the quorum follows `tls` and every server is unified and on that quorum. -/
theorem Site.Spec.switching_cleared (hm : MembershipOnly env) (hs : Site.Spec env w₀ e)
    (h₁ : ZKCluster.switchingEncryption e.pre.cluster = true)
    (h₂ : ZKCluster.switchingEncryption e.post.cluster = false) :
    e.site = .clearSwitchingEncryption ∧ e.pre.isLeader e.unit = true ∧
      ZKCluster.quorum e.post.cluster = (if ZKCluster.tls e.post.cluster then "ssl" else "non-ssl") ∧
      (∀ v ∈ e.post.servers, ZKServer.unified (e.post.units v) = "true") ∧
      (∀ v ∈ e.post.servers, ZKServer.quorum (e.post.units v) = ZKCluster.quorum e.post.cluster) := by
  by_cases hne : e.site = .clearSwitchingEncryption
  · obtain ⟨u, site, wr, pre⟩ := e
    simp only at hne
    subst hne
    obtain ⟨hl, rfl, hu, hq, ht⟩ := hs
    simp only [World.allUnitsUnified, World.allUnitsQuorum, List.all_eq_true, beq_iff_eq] at hu hq
    simp_all [Op.post, ZKCluster.quorum, ZKCluster.tls]
  · have := Write.apply_cluster_of_keeps e.unit e.pre
      (hs.keeps hm (Site.not_writesKey_switching hne))
    simp_all [Op.post, ZKCluster.switchingEncryption]

/-- `charm.py` writes `switching-encryption` only to clear it. -/
theorem Site.Spec.switching_post (hm : MembershipOnly env) (hs : Site.Spec env w₀ e)
    (h : ZKCluster.switchingEncryption e.pre.cluster = false) :
    ZKCluster.switchingEncryption e.post.cluster = false := by
  by_cases hne : e.site = .clearSwitchingEncryption
  · obtain ⟨u, site, wr, pre⟩ := e
    simp only at hne
    subst hne
    obtain ⟨-, rfl, -⟩ := hs
    simp [Op.post, ZKCluster.switchingEncryption]
  · have := Write.apply_cluster_of_keeps e.unit e.pre
      (hs.keeps hm (Site.not_writesKey_switching hne))
    simp_all [Op.post, ZKCluster.switchingEncryption]

end

/-- Over any interleaving of the units' hooks, an op that clears `switching-encryption` is the
leader's write in `update_quorum`, and right after it the cluster quorum follows `tls` and
every server is unified and on that quorum. -/
theorem switching_encryption_cleared_only_when_settled (s : Sys) (steps : List Step)
    (hm : ∀ u ev env, Step.hook u ev env ∈ steps → MembershipOnly env) :
    ∀ e ∈ s.ops steps, ZKCluster.switchingEncryption e.pre.cluster = true →
      ZKCluster.switchingEncryption e.post.cluster = false →
      e.site = .clearSwitchingEncryption ∧ e.pre.isLeader e.unit = true ∧
      ZKCluster.quorum e.post.cluster = (if ZKCluster.tls e.post.cluster then "ssl" else "non-ssl") ∧
      (∀ v ∈ e.post.servers, ZKServer.unified (e.post.units v) = "true") ∧
      (∀ v ∈ e.post.servers, ZKServer.quorum (e.post.units v) = ZKCluster.quorum e.post.cluster) := by
  intro e he h₁ h₂
  obtain ⟨x, -, ev, env, -, hmem, -, hs⟩ := Sys.mem_ops he
  exact Site.Spec.switching_cleared (hm _ _ _ hmem) hs h₁ h₂

theorem sample_switch_ends_on_nonSsl_quorum :
    ∃ e ∈ Sys.sample.ops [.hook 0 .updateStatus Env.settled],
      ZKCluster.switchingEncryption e.pre.cluster = true ∧
      ZKCluster.switchingEncryption e.post.cluster = false ∧
      e.site = .clearSwitchingEncryption ∧ ZKCluster.quorum e.post.cluster = "non-ssl" := by
  obtain ⟨e, he, h₁, h₂, ht⟩ : ∃ e ∈ Sys.sample.ops [.hook 0 .updateStatus Env.settled],
      ZKCluster.switchingEncryption e.pre.cluster = true ∧
      ZKCluster.switchingEncryption e.post.cluster = false ∧ ZKCluster.tls e.post.cluster = false := by
    decide
  have := switching_encryption_cleared_only_when_settled Sys.sample _
    (Step.membershipOnly_of_settled (by simp [Step.Settled])) e he h₁ h₂
  exact ⟨e, he, h₁, h₂, this.1, by simpa [ht] using this.2.2.1⟩

/-- `charm.py` never sets `switching-encryption`: over any run of hooks whose membership
mappings hold per-unit entries only, a cluster that is not switching encryption stays so. -/
theorem switching_encryption_never_set (s : Sys) (steps : List Step)
    (hm : ∀ u ev env, Step.hook u ev env ∈ steps → MembershipOnly env)
    (h : ZKCluster.switchingEncryption s.world.cluster = false) :
    ZKCluster.switchingEncryption (s.run steps).world.cluster = false :=
  Sys.ops_invariant (P := fun w => ZKCluster.switchingEncryption w.cluster = false) h
    (fun _ _ _ hst _ _ _ hs => hs.switching_post (hm _ _ _ hst))
    (fun _ _ h => by simpa using h) (fun _ h => by simpa using h)

theorem sample_switch_stays_off :
    ZKCluster.switchingEncryption ((Sys.sample.run [.hook 0 .updateStatus Env.settled]).run
      [.hook 1 .updateStatus Env.settled, .hook 0 .install Env.settled]).world.cluster = false :=
  switching_encryption_never_set _ _ (Step.membershipOnly_of_settled (by simp [Step.Settled]))
    (by decide)

end ZooKeeperK8s
