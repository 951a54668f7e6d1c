import ZooKeeperK8s.Runs
import ZooKeeperK8s.Proofs.Frame

/-!
# One certificate renewal in flight

`_on_cluster_relation_changed` emits `certificate_expiring` only when the certificate's SANs
differ from the expected ones (l. 265-285), and then clears the stored certificate and returns
(l. 286-291): the hook ends there, and nothing before it in the hook can fail. No hook writes a
non-empty certificate. So, as long as `get_current_sans` reports no SANs for an empty
certificate, a unit emits a renewal at most once while it holds a certificate, and never after.
-/

namespace ZooKeeperK8s

/-- `set(a) ^ set(b)` is empty when both sets are. -/
theorem sansChanged_of_getCurrentSans_none {env : Env} {w : World}
    (h : env.getCurrentSans w = none) : sansChanged env w = false := by
  simp [sansChanged, h, symmDiffNonempty]

/-- An op keeps a unit's certificate or clears it. -/
theorem Site.Spec.certificate_cases {env : Env} {w₀ : World} {e : Op} (hs : Site.Spec env w₀ e)
    (v : Nat) : ZKServer.certificate (e.post.units v) = ZKServer.certificate (e.pre.units v) ∨
      ZKServer.certificate (e.post.units v) = "" := by
  by_cases hc : e.site = .clearCertificate
  · obtain ⟨u, site, wr, pre⟩ := e
    simp only at hc
    subst hc
    have hw : wr = .unit [("certificate", "")] := hs
    subst hw
    by_cases hv : v = u
    · subst hv; simp [Op.post, ZKServer.certificate]
    · simp [Op.post, Function.update_noteq hv]
  · exact .inl (Write.apply_units_of_keepsUnit _ _ (hs.keepsUnit_certificate hc) v)

theorem Site.Spec.certificate_post {env : Env} {w₀ : World} {e : Op} (hs : Site.Spec env w₀ e)
    {v : Nat} (h : ZKServer.certificate (e.pre.units v) = "") :
    ZKServer.certificate (e.post.units v) = "" :=
  (hs.certificate_cases v).elim (·.trans h) id

/-! ### The hook that emits -/

/-- A hook emits no renewal, or emits one right before it clears the certificate and ends,
after a startup that emits none and cannot fail. -/
theorem dispatch_emits (env : Env) (ev : Event) (r : Run) :
    Grows env (· ≠ .certificateExpiring) r (dispatch env ev r) ∨
    ∃ r₁, Grows env (· ∈ startupSites) r r₁ ∧ sansChanged env r₁.world ∧ dispatch env ev r =
      (r₁.act .certificateExpiring .none).act .clearCertificate (.unit [("certificate", "")]) := by
  cases ev
  case install => exact .inl (onInstall_grows (.refl r) rfl (fun _ => nofun) (by decide))
  case upgradeCharm | start | zookeeperPebbleReady =>
    exact .inl (onZookeeperPebbleReady_grows (.refl r) rfl (by decide))
  case runWithLock => exact .inl (runWithLock_grows (.refl r) rfl (by decide))
  case secretChanged label =>
    dsimp only [dispatch, onSecretChanged]
    split_ifs
    · exact .inl (.refl r)
    split
    · exact .inl (.refl r)
    split_ifs
    exacts [onClusterRelationChanged_emits env _ r, .inl (.refl r)]
  all_goals exact onClusterRelationChanged_emits env _ r

/-! ### Runs -/

/-- The op is a renewal emitted by unit `u`. -/
def Op.isRenewal (u : Nat) (e : Op) : Bool := e.unit == u && e.site == .certificateExpiring

/-- The renewals unit `u` may still emit: one while it holds a certificate. -/
def renewalsLeft (w : World) (u : Nat) : Nat :=
  if ZKServer.certificate (w.units u) = "" then 0 else 1

theorem renewalsLeft_le_one (w : World) (u : Nat) : renewalsLeft w u ≤ 1 := by
  unfold renewalsLeft; split <;> omega

/-- A store that loses no unit's emptied certificate leaves no more renewals. -/
theorem renewalsLeft_le {w w' : World} {u : Nat}
    (h : ZKServer.certificate (w.units u) = "" → ZKServer.certificate (w'.units u) = "") :
    renewalsLeft w' u ≤ renewalsLeft w u := by
  unfold renewalsLeft
  split_ifs with h₁ h₂ h₂
  · exact le_rfl
  · exact Nat.zero_le _
  · exact absurd (h h₂) h₁
  · exact le_rfl

/-- A hook logs no renewal of `u` if it runs on another unit or logs no renewal at all. -/
theorem countP_isRenewal_eq_zero {env : Env} {S : Site → Prop} {r r' : Run} {u : Nat}
    (h : Grows env S r r') (hr : r.log = []) (hS : r.unit ≠ u ∨ ¬S .certificateExpiring) :
    r'.log.countP (Op.isRenewal u) = 0 := by
  rw [List.countP_eq_zero]
  intro e he
  obtain ⟨hu, hs, -⟩ := h.of_nil hr e he
  rcases hS with hS | hS
  · simp [Op.isRenewal, hu, hS]
  · simp only [Op.isRenewal, Bool.and_eq_true, beq_iff_eq, not_and]
    exact fun _ h => hS (h ▸ hs)

namespace Sys
variable {s : Sys}

/-- The certificate of a unit other than the hook's is left as it was. -/
theorem step_units_of_ne {u v : Nat} {ev : Event} {env : Env} (hv : v ≠ u) :
    ((s.step (.hook v ev env)).1.world.units u) = s.world.units u := by
  obtain ⟨hu, ⟨l, -, hc, hl⟩, -⟩ := dispatch_grows env ev (s.start v)
  simp only [step_hook, commit_world]
  split
  · rfl
  · refine (hc.invariant (P := fun w => w.units u = s.world.units u) rfl fun e he h => ?_).1
    have heu : e.unit = v := (hl e he).1
    rw [← h]
    exact Write.apply_units_of_ne _ _ _ (heu ▸ hv.symm)

theorem step_certificate (st : Step) (v : Nat) :
    ZKServer.certificate ((s.step st).1.world.units v) = ZKServer.certificate (s.world.units v) ∨
      ZKServer.certificate ((s.step st).1.world.units v) = "" :=
  step_invariant (P := fun w => ZKServer.certificate (w.units v) =
      ZKServer.certificate (s.world.units v) ∨ ZKServer.certificate (w.units v) = "") st (.inl rfl)
    (fun _ _ _ _ _ hs h => (hs.certificate_cases v).elim
      (fun h' => by dsimp only at h ⊢; rw [h']; exact h) .inr)
    (fun _ _ h => by simpa using h) (fun _ h => by simpa using h)

theorem step_certificate_empty (st : Step) {u : Nat}
    (h : ZKServer.certificate (s.world.units u) = "") :
    ZKServer.certificate ((s.step st).1.world.units u) = "" :=
  (step_certificate st u).elim (·.trans h) id

/-- A step of unit `u` emits a renewal only while `u` holds a certificate, and leaves it
without one. -/
theorem step_renewals (st : Step) (u : Nat)
    (hsans : ∀ ev env, st = .hook u ev env →
      ∀ w, ZKServer.certificate (w.units u) = "" → env.getCurrentSans w = none) :
    (s.step st).2.countP (Op.isRenewal u) + renewalsLeft (s.step st).1.world u ≤
      renewalsLeft s.world u := by
  cases st with
  | grant v => simp [step, renewalsLeft]
  | free => simp [step, renewalsLeft]
  | hook v ev env =>
    by_cases hv : v = u
    · subst hv
      rcases dispatch_emits env ev (s.start v) with h | ⟨r₁, h₁, hsc, heq⟩
      · have hc : (s.step (.hook v ev env)).2.countP (Op.isRenewal v) = 0 :=
          countP_isRenewal_eq_zero h rfl (.inr fun h => h rfl)
        rw [hc, Nat.zero_add]
        exact renewalsLeft_le (step_certificate_empty (.hook v ev env))
      · have hleft : renewalsLeft s.world v = 1 := by
          refine if_neg fun hcert => ?_
          obtain ⟨-, ⟨l, hlog, hc, hl⟩, -⟩ := h₁
          have := (hc.invariant (P := fun w => ZKServer.certificate (w.units v) = "") hcert
            fun e he => (hl e he).2.2.certificate_post).1
          simp [sansChanged_of_getCurrentSans_none (hsans ev env rfl _ this)] at hsc
        have hdone : renewalsLeft (s.step (.hook v ev env)).1.world v = 0 := by
          simp only [step_hook, commit_world, heq, Run.act_errored,
            h₁.errored.resolve_right (by decide)]
          simp [start, renewalsLeft, ZKServer.certificate, h₁.unit]
        rw [hleft, hdone]
        show (dispatch env ev (s.start v)).log.countP _ + 0 ≤ 1
        rw [heq]
        simp [countP_isRenewal_eq_zero h₁ rfl (.inr (by decide)), Op.isRenewal, h₁.unit, start]
    · have hc : (s.step (.hook v ev env)).2.countP (Op.isRenewal u) = 0 :=
        countP_isRenewal_eq_zero (dispatch_grows env ev (s.start v)) rfl (.inl hv)
      simp only [hc, renewalsLeft, step_units_of_ne hv, Nat.zero_add, le_refl]

/-- Over a run, unit `u` emits no more renewals than it may at the start. -/
theorem renewals_run (steps : List Step) (u : Nat)
    (hsans : ∀ ev env, Step.hook u ev env ∈ steps →
      ∀ w, ZKServer.certificate (w.units u) = "" → env.getCurrentSans w = none) :
    (s.ops steps).countP (Op.isRenewal u) ≤ renewalsLeft s.world u := by
  induction steps generalizing s with
  | nil => simp
  | cons st sts ih =>
    have h₁ := step_renewals (s := s) st u fun ev env hst => hsans ev env (hst ▸ List.mem_cons_self _ _)
    have h₂ := ih (s := (s.step st).1) fun ev env hm => hsans ev env (List.mem_cons_of_mem _ hm)
    rw [ops_cons, List.countP_append]
    omega

end Sys

/-- No hook writes a non-empty certificate: over any run a unit's stored certificate stays as
it was or ends cleared. -/
theorem certificate_kept_or_cleared (s : Sys) (steps : List Step) (v : Nat) :
    ZKServer.certificate ((s.run steps).world.units v) = ZKServer.certificate (s.world.units v) ∨
      ZKServer.certificate ((s.run steps).world.units v) = "" := by
  refine Sys.run_invariant (P := fun w => ZKServer.certificate (w.units v) =
    ZKServer.certificate (s.world.units v) ∨ ZKServer.certificate (w.units v) = "")
    (fun t st _ h => ?_) (.inl rfl)
  rcases Sys.step_certificate (s := t) st v with h' | h'
  · rw [h']; exact h
  · exact .inr h'

/-- In every run, as long as `get_current_sans` reports no SANs for an empty certificate, a
unit emits `certificate_expiring` at most once. -/
theorem certificate_renewal_emitted_at_most_once (s : Sys) (steps : List Step) (u : Nat)
    (hsans : ∀ ev env, Step.hook u ev env ∈ steps →
      ∀ w, ZKServer.certificate (w.units u) = "" → env.getCurrentSans w = none) :
    (s.ops steps).countP (Op.isRenewal u) ≤ 1 :=
  (Sys.renewals_run steps u hsans).trans (renewalsLeft_le_one _ _)

/-- The settled collaborators, on a unit 0 whose certificate was issued for another address. -/
def Env.renewing : Env :=
  { Env.settled with
    getCurrentSans := fun w =>
      if ZKServer.certificate (w.units 0) = "" then none else some ⟨["10.1.0.9"], []⟩
    buildSans := fun _ => ⟨["10.1.0.5"], []⟩ }

/-- The sample deployment with every unit holding a certificate. -/
def Sys.certified : Sys :=
  { Sys.sample with
    world := { World.sample with units := fun _ => Databag.empty.update [("state", "started"),
      ("unified", "true"), ("quorum", "non-ssl"), ("certificate", "cert")] } }

theorem certified_renewed_once :
    (Sys.certified.step (.hook 0 .updateStatus Env.renewing)).2.countP (Op.isRenewal 0) = 1 ∧
      (Sys.certified.ops [.hook 0 .updateStatus Env.renewing, .hook 0 .updateStatus Env.renewing,
        .hook 0 .configChanged Env.renewing]).countP (Op.isRenewal 0) ≤ 1 :=
  ⟨by decide, certificate_renewal_emitted_at_most_once _ _ 0 fun ev env hm w hw => by
    simp only [List.mem_cons, Step.hook.injEq, List.mem_singleton, List.not_mem_nil, or_false] at hm
    obtain ⟨-, -, rfl⟩ | ⟨-, -, rfl⟩ | ⟨-, -, rfl⟩ := hm <;> simp [Env.renewing, hw]⟩

end ZooKeeperK8s
