import ZooKeeperK8s.Runs
import ZooKeeperK8s.Proofs.Frame

/-!
# Internal credentials are generated once

`_on_install` generates the passwords of `CHARM_USERS` only on the leader, and only when the
cluster holds no internal credentials when the hook starts (l. 211-216): the leader's install
leaves every internal user with a password (`leader_install_sets_credentials`). No other write
of the cluster databag names a password key (`Site.Spec.cluster_keys`), so once every internal
user has a password no hook of any unit changes one.
-/

namespace ZooKeeperK8s

theorem password_ne_toString (n : Nat) (user : String) : user ++ "-password" ≠ toString n :=
  fun h => toString_ne_of_not_isDigit (c := '-') (List.mem_append_right _ (by decide))
    (by decide) h.symm

/-- Only `_on_install` (l. 215) names a charm user's password. -/
theorem Site.not_writesKey_password {site : Site} (h : ∀ user, site ≠ .installPassword user)
    {user : String} (hu : user ∈ charmUsers) : ¬site.WritesKey (user ++ "-password") := by
  simp only [charmUsers, List.mem_cons, List.mem_singleton, List.not_mem_nil, or_false] at hu
  cases site <;> simp_all [Site.WritesKey, password_ne_toString]
  all_goals rcases hu with rfl | rfl <;> decide

section
variable (env : Env) (r : Run)

end

/-- Once every internal user has a password, no hook changes one: over any run of hooks whose
membership mappings hold per-unit entries only. -/
theorem internal_credentials_never_regenerated (s : Sys) (steps : List Step)
    (hm : ∀ u ev env, Step.hook u ev env ∈ steps → MembershipOnly env)
    (hc : ZKCluster.internalUserCredentials s.world.cluster) :
    ∀ user ∈ charmUsers,
      (s.run steps).world.cluster (user ++ "-password") = s.world.cluster (user ++ "-password") := by
  refine Sys.ops_invariant (P := fun w => ∀ user ∈ charmUsers,
      w.cluster (user ++ "-password") = s.world.cluster (user ++ "-password")) (fun _ _ => rfl)
    (fun u ev env hst w₀ e h₀ hs hp user hu => ?_) (fun _ _ h => by simpa using h)
    (fun _ h => by simpa using h)
  have hc₀ : ZKCluster.internalUserCredentials w₀.cluster := by
    simp only [ZKCluster.internalUserCredentials, List.all_eq_true] at hc ⊢
    exact fun user hu => h₀ user hu ▸ hc user hu
  have hne : ∀ user, e.site ≠ .installPassword user := fun user h => by
    simp only [Site.Spec, h] at hs
    simp [hs.2.2.1] at hc₀
  rw [Op.post, Write.apply_cluster_of_keeps _ _
    (hs.keeps (hm u ev env hst) (Site.not_writesKey_password hne hu))]
  exact hp user hu

theorem sample_install_keeps_passwords :
    (Sys.sample.run [.hook 0 .install Env.settled, .hook 0 .updateStatus Env.settled]).world.cluster
      ("super" ++ "-password") = "pw" :=
  (internal_credentials_never_regenerated Sys.sample _
    (Step.membershipOnly_of_settled (by simp [Step.Settled])) (by decide) "super" (by decide)).trans
    (by decide)

end ZooKeeperK8s
