import ZooKeeperK8s.Proofs.Startup
import ZooKeeperK8s.Proofs.Credentials

/-!
# Startup order and membership

Two invariants of §3 that `charm.py` keeps together with collaborators whose code is not in the
source, stated as contracts of those collaborators.

`state.next_server` names the server whose turn it is to start (l. 417-421). If it names one
whose lower-numbered servers have all started, and none only once every server has, then
`init_server` starts a unit only after every lower one has started, and the started servers stay
the lowest ones (`servers_start_in_order`): a unit's `state` is set only by `init_server` past
its turn check, and never cleared.

`update_quorum` marks the init leader `added` only once it has started (l. 479-483), and writes
back what `quorum_manager.update_cluster()` returns (l. 497); no other write of `charm.py` names
a membership key `str(unit_id)` with the value `added`. If the resolver marks only started units
`added`, then in every reachable state each unit the cluster databag holds as `added` has
started (`added_units_started`).

`_on_zookeeper_pebble_ready`, the handler of `start`, `upgrade-charm` and `zookeeper-pebble-ready`,
only fires after the peer-relation-driven start (l. 353-357): on a unit that has not started it
writes nothing, and on one that has it re-runs `init_server`, whose flags that unit already has.
So none of these hooks changes which units have started (`pebble_ready_keeps_started_units`).
-/

namespace ZooKeeperK8s

/-! ### Membership keys -/

theorem toDigitsCore_ten {f n : Nat} (ds : List Char) (h : n < f) :
    Nat.toDigitsCore 10 f n ds = Nat.toDigits 10 n ++ ds := by
  have hstep : ∀ g m es, Nat.toDigitsCore 10 (g + 1) m es = if m / 10 = 0 then
      Nat.digitChar (m % 10) :: es
    else Nat.toDigitsCore 10 g (m / 10) (Nat.digitChar (m % 10) :: es) := fun _ _ _ => rfl
  induction n using Nat.strong_induction_on generalizing f ds with
  | _ n ih =>
    obtain ⟨f, rfl⟩ : ∃ g, f = g + 1 := ⟨f - 1, by omega⟩
    show _ = Nat.toDigitsCore 10 (n + 1) n [] ++ ds
    rw [hstep, hstep]
    split
    · rfl
    · have hlt : n / 10 < n := Nat.div_lt_self (by omega) (by decide)
      rw [ih _ hlt _ (by omega), ih _ hlt _ hlt]
      simp

/-- The decimal digits of `n`: those of `n / 10`, then the last one. -/
theorem toDigits_ten (n : Nat) : Nat.toDigits 10 n =
    (if n / 10 = 0 then [] else Nat.toDigits 10 (n / 10)) ++ [Nat.digitChar (n % 10)] := by
  show Nat.toDigitsCore 10 (n + 1) n [] = _
  have hstep : Nat.toDigitsCore 10 (n + 1) n [] = if n / 10 = 0 then [Nat.digitChar (n % 10)]
      else Nat.toDigitsCore 10 n (n / 10) [Nat.digitChar (n % 10)] := rfl
  rw [hstep]
  split
  · rfl
  · exact toDigitsCore_ten _ (Nat.div_lt_self (by omega) (by decide))

theorem digitChar_toNat {d : Nat} (h : d < 10) : (Nat.digitChar d).toNat = d + 48 := by
  have : ∀ d : Fin 10, (Nat.digitChar d).toNat = d + 48 := by decide
  exact this ⟨d, h⟩

/-- `str` is injective on unit numbers: two units have different membership keys. -/
theorem toString_injective : Function.Injective (toString : Nat → String) := by
  intro a b h
  replace h : Nat.toDigits 10 a = Nat.toDigits 10 b := congrArg String.data h
  induction a using Nat.strong_induction_on generalizing b with
  | _ a ih =>
    rw [toDigits_ten a, toDigits_ten b] at h
    obtain ⟨hinit, hlast⟩ := List.append_inj' h rfl
    have hmod : a % 10 = b % 10 := by
      have := congrArg Char.toNat (List.singleton_inj.1 hlast)
      rwa [digitChar_toNat (Nat.mod_lt _ (by decide)), digitChar_toNat (Nat.mod_lt _ (by decide)),
        Nat.add_right_cancel_iff] at this
    have hdiv : a / 10 = b / 10 := by
      split_ifs at hinit with ha hb hb
      · rw [ha, hb]
      · exact absurd hinit.symm (by rw [toDigits_ten]; simp)
      · exact absurd hinit (by rw [toDigits_ten]; simp)
      · exact ih _ (Nat.div_lt_self (by omega) (by decide)) hinit
    omega

/-! ### Startup order -/

/-- Modelled from the spec (§4.1.1, §8): `state.next_server` is a server whose lower-numbered
servers have all started, and there is none only once every server has started. -/
structure NextServerInOrder (env : Env) : Prop where
  some : ∀ w v, env.state.nextServer w = some v →
    ∀ v' ∈ w.servers, v' < v → ZKServer.started (w.units v')
  none : ∀ w, env.state.nextServer w = none → ∀ v ∈ w.servers, ZKServer.started (w.units v)

/-- Modelled from the spec (§2, §3): the membership resolver marks a unit `added` only once it
has started. -/
def AddsStartedOnly (env : Env) : Prop :=
  ∀ w n, (toString n, "added") ∈ env.updateCluster w → ZKServer.started (w.units n)

/-- The lowest-numbered server that has not started. -/
def World.nextUnstarted (w : World) : Option Nat :=
  (w.servers.filter fun v => !ZKServer.started (w.units v)).min?

/-- The started servers, each marked `added`. -/
def World.addedServers (w : World) : List (String × String) :=
  (w.servers.filter fun v => ZKServer.started (w.units v)).map fun v => (toString v, "added")

/-- The collaborators of the settled cluster, with the lowest unstarted server as the next one
to start and a resolver that adds the started servers. -/
def Env.ordered : Env :=
  { Env.settled with
    state := { Env.settled.state with nextServer := World.nextUnstarted }
    updateCluster := World.addedServers }

theorem Env.ordered_nextServerInOrder : NextServerInOrder Env.ordered where
  some w v h v' hv' hlt := by
    obtain ⟨-, hle⟩ := List.min?_eq_some_iff'.1 h
    by_contra hns
    exact absurd (hle v' (List.mem_filter.2 ⟨hv', by simpa using hns⟩)) (by omega)
  none w h v hv := by
    by_contra hns
    have : v ∈ w.servers.filter fun v => !ZKServer.started (w.units v) :=
      List.mem_filter.2 ⟨hv, by simpa using hns⟩
    rw [List.min?_eq_none_iff.1 h] at this
    simp at this

theorem Env.ordered_addsStartedOnly : AddsStartedOnly Env.ordered := by
  intro w n hp
  obtain ⟨v, hv, heq⟩ := List.mem_map.1 hp
  obtain rfl : v = n := toString_injective (Prod.mk.inj heq).1
  exact (List.mem_filter.1 hv).2

/-- Past the turn check of `init_server` (l. 417-421) every lower-numbered server has started. -/
theorem NextServerInOrder.lower_started {env : Env} (hn : NextServerInOrder env) {w : World}
    {u : Nat} (h : notUnitTurn env w u = false) :
    ∀ v ∈ w.servers, v < u → ZKServer.started (w.units v) := by
  cases hns : env.state.nextServer w with
  | none => exact fun v hv _ => hn.none w hns v hv
  | some v =>
    obtain rfl : v = u := by simpa [notUnitTurn, hns] using h
    exact hn.some w v hns

/-- The started servers are the lowest ones: below a started server every server has started. -/
def World.StartedInOrder (w : World) : Prop :=
  ∀ v ∈ w.servers, ZKServer.started (w.units v) →
    ∀ v' ∈ w.servers, v' < v → ZKServer.started (w.units v')

section
variable {env : Env} {w₀ : World} {e : Op}

/-- A unit started after the op had started before it, or `init_server` started it past its
checks. -/
theorem Site.Spec.started_cases (hs : Site.Spec env w₀ e) {v : Nat}
    (h : ZKServer.started (e.post.units v)) : ZKServer.started (e.pre.units v) ∨
      (e.site = .startedFlags ∧ e.unit = v ∧ InitChecks env e.pre v) := by
  rcases hs.state_post v with h' | ⟨hsite, hu, hc, -⟩
  · exact .inl (by simpa [ZKServer.started, h'] using h)
  · exact .inr ⟨hsite, hu, hc⟩

theorem Site.Spec.startedInOrder_post (hn : NextServerInOrder env) (hs : Site.Spec env w₀ e)
    (h : e.pre.StartedInOrder) : e.post.StartedInOrder := by
  intro v hv hsv v' hv' hlt
  simp only [Op.post, Write.apply_servers] at hv hv'
  apply hs.started_post
  rcases hs.started_cases hsv with hpre | ⟨-, rfl, hc⟩
  · exact h v hv hpre v' hv' hlt
  · exact hn.lower_started hc.2.2 v' hv' hlt

/-- `init_server` starts the workload only past its turn check (l. 417-421, l. 456). -/
theorem Site.Spec.initStart_in_order (hn : NextServerInOrder env) (hs : Site.Spec env w₀ e)
    (h : e.site = .initStart) :
    ∀ v ∈ e.pre.servers, v < e.unit → ZKServer.started (e.pre.units v) := by
  obtain ⟨u, site, wr, pre⟩ := e
  simp only at h
  subst h
  exact hn.lower_started hs.2.1.2.2

end

/-- Over any run whose hooks' collaborators name the next server in order, `init_server` starts
a unit's workload only once every lower-numbered server has started; and from a store whose
started servers are the lowest ones, they stay the lowest ones. -/
theorem servers_start_in_order (s : Sys) (steps : List Step)
    (hn : ∀ u ev env, Step.hook u ev env ∈ steps → NextServerInOrder env)
    (h : s.world.StartedInOrder) :
    (∀ e ∈ s.ops steps, e.site = .initStart →
      ∀ v ∈ e.pre.servers, v < e.unit → ZKServer.started (e.pre.units v)) ∧
    (s.run steps).world.StartedInOrder := by
  refine ⟨fun e he hi => ?_, Sys.ops_invariant h
    (fun u ev env hm _ _ _ hs hp => hs.startedInOrder_post (hn u ev env hm) hp)
    (fun _ _ hw => by simpa [World.StartedInOrder] using hw)
    (fun _ hw => by simpa [World.StartedInOrder] using hw)⟩
  obtain ⟨x, -, ev, env, -, hm, -, hs⟩ := Sys.mem_ops he
  exact hs.initStart_in_order (hn _ ev env hm) hi

theorem sample_servers_start_in_order :
    (∀ e ∈ Sys.sample.ops [.hook 0 .updateStatus Env.ordered], e.site = .initStart →
      ∀ v ∈ e.pre.servers, v < e.unit → ZKServer.started (e.pre.units v)) ∧
    (Sys.sample.run [.hook 0 .updateStatus Env.ordered]).world.StartedInOrder :=
  servers_start_in_order Sys.sample _
    (fun _ _ _ hm => by cases List.mem_singleton.1 hm; exact Env.ordered_nextServerInOrder)
    (fun _ _ _ _ _ _ => by simp only [Sys.sample, World.sample]; decide)

/-! ### Re-initialisation -/

/-- A hook whose ops all belong to a unit that had started keeps which units have started: the
only op that starts a unit starts its own. -/
theorem Grows.started_eq {env : Env} {S : Site → Prop} {r₀ r : Run} (h : Grows env S r₀ r)
    (hst : ZKServer.started (r₀.world.units r₀.unit)) (v : Nat) :
    ZKServer.started (r.world.units v) = ZKServer.started (r₀.world.units v) := by
  obtain ⟨-, ⟨l, -, hc, hl⟩, -⟩ := h
  refine (hc.invariant (P := fun w => ∀ v, ZKServer.started (w.units v) =
    ZKServer.started (r₀.world.units v)) (fun _ => rfl) fun e he hp v => ?_).1 v
  obtain ⟨hu, -, hs⟩ := hl e he
  rw [← hp v]
  cases hpost : ZKServer.started (e.post.units v)
  · -- a started flag stays, so the unit had not started before the op either
    cases hpre : ZKServer.started (e.pre.units v)
    · rfl
    · simpa [hpost] using hs.started_post hpre
  · rcases hs.started_cases hpost with hpre | ⟨-, rfl, -⟩
    · exact hpre.symm
    · rw [hp, hu]
      exact hst.symm

/-- On a unit that has not started, `_on_zookeeper_pebble_ready` sets its status and defers, or
returns during an upgrade: it writes nothing (l. 350-357). -/
theorem onZookeeperPebbleReady_world_of_not_started (env : Env) (r : Run)
    (h : ZKServer.started r.unitServer = false) : (onZookeeperPebbleReady env r).world = r.world := by
  unfold onZookeeperPebbleReady
  split_ifs with h₁ h₂ <;> simp_all [Run.defer]

/-- The `start`, `upgrade-charm` and `zookeeper-pebble-ready` hooks never change which units have
started; on a unit that has not started they write nothing. -/
theorem pebble_ready_keeps_started_units (s : Sys) (u : Nat) (ev : Event) (env : Env)
    (hev : ev ∈ [Event.start, .upgradeCharm, .zookeeperPebbleReady]) :
    (∀ v, ZKServer.started ((s.step (.hook u ev env)).1.world.units v) =
      ZKServer.started (s.world.units v)) ∧
    (ZKServer.started (s.world.units u) = false → (s.step (.hook u ev env)).1.world = s.world) := by
  -- the handler logs no site that raises, so the hook commits
  have g : Grows env (· ∈ [Site.defer, .setConfig, .setTls, .initStart, .startedFlags]) (s.start u)
      (onZookeeperPebbleReady env (s.start u)) :=
    onZookeeperPebbleReady_grows (.refl _) rfl fun _ h => h
  have herr : (onZookeeperPebbleReady env (s.start u)).errored = false :=
    g.errored.resolve_right (by decide)
  have hw : (s.step (.hook u ev env)).1.world = (onZookeeperPebbleReady env (s.start u)).world := by
    simp only [List.mem_cons, List.mem_singleton, List.not_mem_nil, or_false] at hev
    rcases hev with rfl | rfl | rfl <;> simp only [Sys.step, Sys.commit_world, dispatch, herr] <;> rfl
  have hnot : ZKServer.started (s.world.units u) = false →
      (s.step (.hook u ev env)).1.world = s.world := fun h => by
    rw [hw, onZookeeperPebbleReady_world_of_not_started env (s.start u) h]
    rfl
  refine ⟨fun v => ?_, hnot⟩
  cases hst : ZKServer.started (s.world.units u)
  · rw [hnot hst]
  · rw [hw]
    exact g.started_eq hst v

theorem fresh_pebble_ready_keeps_started_units :
    (∀ v, ZKServer.started ((Sys.fresh.step (.hook 0 .zookeeperPebbleReady Env.settled)).1.world.units v) =
      ZKServer.started (Sys.fresh.world.units v)) ∧
    ZKServer.started (Sys.fresh.world.units 0) = false ∧
      (Sys.fresh.step (.hook 0 .zookeeperPebbleReady Env.settled)).1.world = Sys.fresh.world :=
  have h := pebble_ready_keeps_started_units Sys.fresh 0 .zookeeperPebbleReady Env.settled (by simp)
  have hst : ZKServer.started (Sys.fresh.world.units 0) = false := rfl
  ⟨h.1, hst, h.2 hst⟩

/-! ### Membership -/

/-- Every unit the cluster databag holds as `added` has started. -/
def World.AddedStarted (w : World) : Prop :=
  ∀ n, w.cluster (toString n) = "added" → ZKServer.started (w.units n)

section
variable {env : Env} {w₀ : World} {e : Op}

/-- A cluster write that marks a unit `added` is the init leader's mark of a started unit
(l. 483) or the resolver's mapping (l. 497); the passwords, the quorum and the switch are other
keys or other values. -/
theorem Site.Spec.added_started (ha : AddsStartedOnly env) (hs : Site.Spec env w₀ e)
    {kvs : List (String × String)} (hw : e.write = .cluster kvs) {n : Nat}
    (hp : (toString n, "added") ∈ kvs) : ZKServer.started (e.pre.units n) := by
  obtain ⟨u, site, wr, pre⟩ := e
  dsimp only at hw ⊢
  subst hw
  cases site <;> simp only [Site.Spec, Write.cluster.injEq, reduceCtorEq, false_and, and_false,
    exists_false] at hs
  case installPassword user =>
    rw [hs.2.2.2] at hp
    exact absurd (Prod.mk.inj (List.mem_singleton.1 hp)).1.symm (password_ne_toString n user)
  case installQuorum => simp [hs.2] at hp
  case quorumTarget => rw [hs.2.2.2] at hp; split at hp <;> simp at hp
  case clearSwitchingEncryption => simp [hs.2.1] at hp
  case initLeaderAdded =>
    obtain ⟨-, v, hv, rfl⟩ := hs
    obtain rfl : n = v := toString_injective (Prod.mk.inj (List.mem_singleton.1 hp)).1
    exact hv
  case updatedServers =>
    rw [hs.2] at hp
    exact ha pre n hp

theorem Site.Spec.addedStarted_post (ha : AddsStartedOnly env) (hs : Site.Spec env w₀ e)
    (h : e.pre.AddedStarted) : e.post.AddedStarted := by
  intro n hn
  apply hs.started_post
  cases hw : e.write with
  | cluster kvs =>
    simp only [Op.post, hw, Write.apply_cluster, Databag.update] at hn
    cases hl : kvs.lookup (toString n) with
    | none => exact h n (by simpa [hl] using hn)
    | some v =>
      obtain rfl : v = "added" := by simpa [hl] using hn
      obtain ⟨l₁, l₂, rfl, -⟩ := List.lookup_eq_some_iff.1 hl
      exact hs.added_started ha hw (by simp)
  | _ => exact h n (by simpa [Op.post, hw] using hn)

end

/-- Over any run whose hooks' membership resolver marks only started units `added`, from a
store where every unit held as `added` has started, every unit the cluster databag holds as
`added` has started. -/
theorem added_units_started (s : Sys) (steps : List Step)
    (ha : ∀ u ev env, Step.hook u ev env ∈ steps → AddsStartedOnly env)
    (h : s.world.AddedStarted) : (s.run steps).world.AddedStarted :=
  Sys.ops_invariant h (fun u ev env hm _ _ _ hs hp => hs.addedStarted_post (ha u ev env hm) hp)
    (fun _ _ hw => by simpa [World.AddedStarted] using hw)
    (fun _ hw => by simpa [World.AddedStarted] using hw)

theorem sample_added_units_started :
    (Sys.sample.run [.hook 0 .updateStatus Env.ordered, .hook 0 .leaderElected Env.ordered]).world.AddedStarted :=
  added_units_started Sys.sample _
    (fun _ _ _ hm => by
      simp only [List.mem_cons, List.mem_singleton, Step.hook.injEq, List.not_mem_nil,
        or_false] at hm
      rcases hm with ⟨-, -, rfl⟩ | ⟨-, -, rfl⟩ <;> exact Env.ordered_addsStartedOnly)
    (fun _ _ => by simp only [Sys.sample, World.sample]; decide)

end ZooKeeperK8s
