import ZooKeeperK8s.Log
import ZooKeeperK8s.System

/-!
# A unit that does not lead writes only its own databags

Every write to the cluster databag, to a client databag or to the external service sits behind
an `is_leader()` check (`Site.Spec`), and leadership does not change during a hook. So a hook
of a unit that is not the leader changes the store only in that unit's `cluster` databag and
its `restart` lock request, whatever the collaborators answer.
-/

namespace ZooKeeperK8s

/-- Writes to the writer's own databags only. -/
def Write.IsOwn : Write → Prop
  | .none | .unit _ | .requestLock | .releaseLock => True
  | _ => False

/-- `w'` is `w` with at most unit `u`'s databag and lock request replaced. -/
def World.OwnChange (u : Nat) (w w' : World) : Prop :=
  ∃ d b, w' =
    { w with units := Function.update w.units u d, lockRequested := Function.update w.lockRequested u b }

namespace World.OwnChange
variable {u : Nat} {w w' : World}

theorem refl (w : World) (u : Nat) : OwnChange u w w :=
  ⟨w.units u, w.lockRequested u, by simp⟩

theorem leader (h : OwnChange u w w') : w'.leader = w.leader := by
  obtain ⟨d, b, rfl⟩ := h; rfl

theorem apply {wr : Write} (h : OwnChange u w w') (hw : wr.IsOwn) :
    OwnChange u w (wr.apply u w') := by
  obtain ⟨d, b, rfl⟩ := h
  cases wr with
  | none => exact ⟨d, b, rfl⟩
  | unit kvs => exact ⟨d.update kvs, b, by simp⟩
  | requestLock => exact ⟨d, true, by simp⟩
  | releaseLock => exact ⟨d, false, by simp⟩
  | _ => exact hw.elim

end World.OwnChange

/-- The write does not name the cluster key `k`. -/
def Write.Keeps (k : String) : Write → Prop
  | .cluster kvs => ∀ p ∈ kvs, p.1 ≠ k
  | _ => True

/-- The write does not name the key `k` of the writer's databag. -/
def Write.KeepsUnit (k : String) : Write → Prop
  | .unit kvs => ∀ p ∈ kvs, p.1 ≠ k
  | _ => True

namespace Write
variable {k : String} {wr : Write} (u : Nat) (w : World)

theorem apply_cluster_of_keeps (h : wr.Keeps k) : (wr.apply u w).cluster k = w.cluster k := by
  cases wr with
  | cluster kvs => exact Databag.update_of_forall_ne h
  | _ => rfl

theorem apply_units_of_keepsUnit (h : wr.KeepsUnit k) (v : Nat) :
    (wr.apply u w).units v k = w.units v k := by
  by_cases hv : v = u
  · subst hv
    cases wr with
    | unit kvs => simpa using Databag.update_of_forall_ne h
    | _ => rfl
  · exact congrFun (apply_units_of_ne u wr w hv) k

end Write

section
variable {env : Env} {w₀ : World} {e : Op}

/-- The writes of a unit's own databag: the SAN check clears the certificate (l. 289), and
`_restart` (l. 386-395) and `init_server` (l. 463-469) write their flags. -/
theorem Site.Spec.unit_cases (hs : Site.Spec env w₀ e) {kvs : List (String × String)}
    (hw : e.write = .unit kvs) :
    (e.site = .clearCertificate ∧ kvs = [("certificate", "")]) ∨
      (e.site = .restartFlags ∧ kvs = restartedFlags env e.pre) ∨
      (e.site = .startedFlags ∧ kvs = serverFlags e.pre) := by
  obtain ⟨u, site, wr, pre⟩ := e
  dsimp only at hw ⊢
  subst hw
  cases site <;> simp only [Site.Spec, Write.unit.injEq, reduceCtorEq, false_and, and_false,
    exists_false] at hs
  case clearCertificate => exact .inl ⟨rfl, hs⟩
  case restartFlags => exact .inr (.inl ⟨rfl, hs⟩)
  case startedFlags => exact .inr (.inr ⟨rfl, hs.1⟩)

/-- Only `init_server` (l. 463) writes a unit's `state`. -/
theorem Site.Spec.keepsUnit_state (hs : Site.Spec env w₀ e) (hne : e.site ≠ .startedFlags) :
    e.write.KeepsUnit "state" := by
  cases hw : e.write with
  | unit kvs =>
    rcases hs.unit_cases hw with ⟨-, rfl⟩ | ⟨-, rfl⟩ | ⟨h, -⟩
    · simp [Write.KeepsUnit]
    · simp [Write.KeepsUnit, restartedFlags]
    · exact absurd h hne
  | _ => trivial

/-- Only the SAN check (l. 289) writes a unit's `certificate`. -/
theorem Site.Spec.keepsUnit_certificate (hs : Site.Spec env w₀ e)
    (hne : e.site ≠ .clearCertificate) : e.write.KeepsUnit "certificate" := by
  cases hw : e.write with
  | unit kvs =>
    rcases hs.unit_cases hw with ⟨h, -⟩ | ⟨-, rfl⟩ | ⟨-, rfl⟩
    · exact absurd h hne
    · simp [Write.KeepsUnit, restartedFlags]
    · simp [Write.KeepsUnit, serverFlags]
  | _ => trivial

end

/-! ### Cluster keys -/

theorem isDigit_of_mem_toDigitsCore {fuel n : Nat} {ds : List Char} (hds : ∀ c ∈ ds, c.isDigit) :
    ∀ c ∈ Nat.toDigitsCore 10 fuel n ds, c.isDigit := by
  have hd : ∀ m, (Nat.digitChar (m % 10)).isDigit := fun m => by
    have : ∀ d : Fin 10, (Nat.digitChar d).isDigit = true := by decide
    exact this ⟨m % 10, Nat.mod_lt _ (by decide)⟩
  induction fuel generalizing n ds with
  | zero => exact hds
  | succ fuel ih =>
    have hcons : ∀ c ∈ Nat.digitChar (n % 10) :: ds, c.isDigit := fun c hc => by
      rcases List.mem_cons.1 hc with rfl | hc
      exacts [hd n, hds c hc]
    show ∀ c ∈ (if n / 10 = 0 then Nat.digitChar (n % 10) :: ds
      else Nat.toDigitsCore 10 fuel (n / 10) (Nat.digitChar (n % 10) :: ds)), c.isDigit
    split
    · exact hcons
    · exact ih hcons

/-- `str(n)` differs from any key holding a character that is not a digit. -/
theorem toString_ne_of_not_isDigit {n : Nat} {k : String} {c : Char} (hc : c ∈ k.data)
    (hd : c.isDigit = false) : toString n ≠ k := by
  rintro rfl
  have hdata : (toString n).data = Nat.toDigitsCore 10 (n + 1) n [] := rfl
  have := @isDigit_of_mem_toDigitsCore (n + 1) n [] (by simp) c (hdata ▸ hc)
  simp_all

/-- The membership mapping of `update_cluster` holds per-unit entries only. -/
def MembershipOnly (env : Env) : Prop :=
  ∀ w, ∀ p ∈ env.updateCluster w, ∃ n : Nat, p.1 = toString n

theorem Env.settled_membershipOnly : MembershipOnly Env.settled := by
  intro w p hp
  simp only [Env.settled, List.mem_cons, List.mem_singleton, List.not_mem_nil, or_false] at hp
  rcases hp with rfl | rfl | rfl
  exacts [⟨0, rfl⟩, ⟨1, rfl⟩, ⟨2, rfl⟩]

theorem Step.membershipOnly_of_settled {steps : List Step} (h : ∀ st ∈ steps, st.Settled) :
    ∀ u ev env, Step.hook u ev env ∈ steps → MembershipOnly env :=
  fun _ _ _ hm => Step.env_of_settled h hm ▸ Env.settled_membershipOnly

/-- The cluster keys a site's write can name: a charm user's password (l. 215), the quorum
(l. 219, l. 511-514), `switching-encryption` (l. 520) or a membership key `str(unit_id)`
(l. 483, l. 497). -/
def Site.WritesKey : Site → String → Prop
  | .installPassword user, k => user ∈ charmUsers ∧ k = user ++ "-password"
  | .installQuorum, k | .quorumTarget, k => k = "quorum"
  | .clearSwitchingEncryption, k => k = "switching-encryption"
  | .initLeaderAdded, k | .updatedServers, k => ∃ n : Nat, k = toString n
  | _, _ => False

section
variable {env : Env} {w₀ : World} {e : Op}

theorem Site.Spec.cluster_keys (hm : MembershipOnly env) (hs : Site.Spec env w₀ e)
    {kvs : List (String × String)} (hw : e.write = .cluster kvs) :
    ∀ p ∈ kvs, e.site.WritesKey p.1 := by
  obtain ⟨u, site, wr, pre⟩ := e
  dsimp only at hw
  subst hw
  cases site <;> simp only [Site.Spec, Write.cluster.injEq, reduceCtorEq, false_and, and_false,
    exists_false] at hs
  case installPassword user =>
    obtain ⟨-, hu, -, rfl⟩ := hs
    simpa [Site.WritesKey] using hu
  case installQuorum => obtain ⟨-, rfl⟩ := hs; simp [Site.WritesKey]
  case quorumTarget => rw [hs.2.2.2]; simp [Site.WritesKey]
  case clearSwitchingEncryption => rw [hs.2.1]; simp [Site.WritesKey]
  case initLeaderAdded =>
    obtain ⟨-, v, -, rfl⟩ := hs
    exact fun p hp => ⟨v, by rw [List.mem_singleton.1 hp]⟩
  case updatedServers =>
    obtain ⟨-, rfl⟩ := hs
    exact hm pre

/-- A write keeps every cluster key its site does not name. -/
theorem Site.Spec.keeps (hm : MembershipOnly env) (hs : Site.Spec env w₀ e) {k : String}
    (hk : ¬e.site.WritesKey k) : e.write.Keeps k := by
  cases hw : e.write with
  | cluster kvs => exact fun p hp heq => hk (heq ▸ hs.cluster_keys hm hw p hp)
  | _ => trivial

end

/-- An op taken by a unit that does not lead writes only its own databags. -/
theorem Site.Spec.isOwn {env : Env} {w₀ : World} {e : Op} (hs : Site.Spec env w₀ e)
    (hl : e.pre.isLeader e.unit = false) : e.write.IsOwn := by
  obtain ⟨u, site, wr, pre⟩ := e
  dsimp only at hl
  cases site <;> simp only [Site.Spec, hl, Bool.false_eq_true, false_and] at hs
  -- the leader's sites are gone; every other site's spec starts with its own write
  all_goals (obtain ⟨rfl, -⟩ := hs; trivial)

/-- A hook of a unit that is not the leader leaves the cluster databag, every client databag
and the external service as they were: only its own databag and lock request may change. -/
theorem nonLeader_hook_writes_own_data_only (env : Env) (ev : Event) (r : Run)
    (hl : r.world.isLeader r.unit = false) :
    World.OwnChange r.unit r.world (dispatch env ev r).world := by
  obtain ⟨hu, ⟨l, -, hc, hops⟩, -⟩ := dispatch_grows env ev r
  refine (hc.invariant (.refl r.world r.unit) fun e he hpre => ?_).1
  obtain ⟨heu, -, hs⟩ := hops e he
  have hl' : e.pre.isLeader e.unit = false := by
    simpa [World.isLeader, hpre.leader, heu] using hl
  exact heu ▸ hpre.apply (hs.isOwn hl')

theorem follower_reconcile_writes_own_data :
    World.sample.isLeader 1 = false ∧
      World.OwnChange 1 World.sample (dispatch Env.settled .updateStatus (Sys.sample.start 1)).world :=
  ⟨by decide, nonLeader_hook_writes_own_data_only Env.settled .updateStatus (Sys.sample.start 1)
    (by decide)⟩

end ZooKeeperK8s
