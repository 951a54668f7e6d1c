import ZooKeeperK8s.Log
import ZooKeeperK8s.System

/-!
# Ops of a run

Every op of `Sys.trace` was logged by the hook of its own unit in the state of that step, so it
meets its `Site.Spec` with that hook's collaborators; the lock steps of the rolling-ops
library log nothing. Results about runs go through `Sys.mem_trace`.
-/

namespace ZooKeeperK8s

/-- Only `update_external_services` (l. 189, l. 194, l. 198) writes the external service. -/
theorem Site.Spec.service_cases {env : Env} {w₀ : World} {e : Op} (hs : Site.Spec env w₀ e)
    {x : Option Service} (hw : e.write = .service x) :
    e.site = .removeService ∨ e.site = .applyService := by
  obtain ⟨u, site, wr, pre⟩ := e
  dsimp only at hw ⊢
  subst hw
  cases site <;> simp only [Site.Spec, reduceCtorEq, false_and, and_false, exists_false,
    or_true, true_or] at hs ⊢

/-- A hook that changed the service ran on the leader: every op that writes the service asks for
it, and no op changes who leads. -/
theorem Grows.leader_of_service {env : Env} {S : Site → Prop} {r₀ r : Run} (h : Grows env S r₀ r)
    (hne : r.world.service ≠ r₀.world.service) : r₀.world.isLeader r₀.unit := by
  obtain ⟨-, ⟨l, -, hc, hl⟩, -⟩ := h
  have hlead := (hc.invariant (P := fun w => w.leader = r₀.world.leader) rfl
    fun e _ he => by simpa [Op.post] using he).2
  -- an op that changes the service writes it, at a site that asks for the leader
  have hstep : ∀ e ∈ l, e.post.service = r.world.service →
      e.pre.service = r.world.service ∨ e.pre.isLeader e.unit := by
    rintro ⟨u, site, wr, pre⟩ he hp
    have hs := (hl _ he).2.2
    cases wr with
    | service x => rcases hs.service_cases rfl with rfl | rfl <;> exact .inr hs.1
    | _ => exact .inl hp
  rcases hc.origin (P := fun w => w.service = r.world.service) rfl hstep with h | ⟨e, he, hq⟩
  · exact absurd h.symm hne
  · simpa [World.isLeader, hlead e he, (hl e he).1] using hq

namespace Sys
variable {s : Sys} {steps : List Step}

theorem step_hook (u : Nat) (ev : Event) (env : Env) :
    s.step (.hook u ev env) = (s.commit (dispatch env ev (s.start u)), (dispatch env ev (s.start u)).log) :=
  rfl

/-- An op of a step was taken by a hook of its unit, in the state of the step. -/
theorem mem_step {st : Step} {e : Op} (he : e ∈ (s.step st).2) :
    ∃ ev env, st = .hook e.unit ev env ∧ e ∈ (dispatch env ev (s.start e.unit)).log ∧
      Site.Spec env s.world e := by
  cases st with
  | hook u ev env =>
    obtain ⟨heu, -, hs⟩ := (dispatch_grows env ev (s.start u)).of_nil rfl e he
    obtain rfl : u = e.unit := heu.symm
    exact ⟨ev, env, rfl, he, hs⟩
  | grant u => simp [step] at he
  | free => simp [step] at he

/-- An op of a run was taken by a hook of its unit, in the state of its step. -/
theorem mem_trace {x : Sys × Step × List Op} (hx : x ∈ s.trace steps) {e : Op} (he : e ∈ x.2.2) :
    ∃ ev env, x.2.1 = .hook e.unit ev env ∧ Step.hook e.unit ev env ∈ steps ∧
      x.2.2 = (dispatch env ev (x.1.start e.unit)).log ∧ Site.Spec env x.1.world e := by
  induction steps generalizing s with
  | nil => simp [trace] at hx
  | cons st sts ih =>
    simp only [trace, List.mem_cons] at hx
    rcases hx with rfl | hx
    · obtain ⟨ev, env, rfl, -, hs⟩ := mem_step he
      exact ⟨ev, env, rfl, by simp, rfl, hs⟩
    · obtain ⟨ev, env, h1, h2, h3, h4⟩ := ih hx
      exact ⟨ev, env, h1, List.mem_cons_of_mem _ h2, h3, h4⟩

/-- A property of stores that every op of the step's hook and the lock steps keep holds after
the step. -/
theorem step_invariant {P : World → Prop} (st : Step) (h : P s.world)
    (hop : ∀ u ev env, st = .hook u ev env → ∀ e, Site.Spec env s.world e → P e.pre → P e.post)
    (hgrant : ∀ w u, P w → P (w.grantLock u)) (hfree : ∀ w, P w → P w.freeLock) :
    P (s.step st).1.world := by
  cases st with
  | hook u ev env =>
    obtain ⟨-, ⟨l, -, hc, hl⟩, -⟩ := dispatch_grows env ev (s.start u)
    simp only [step_hook, commit_world]
    split
    · -- a failed hook leaves only the service, as one op of the leader's at its site would
      by_cases hsv : (dispatch env ev (s.start u)).world.service = s.world.service
      · rw [hsv]
        exact h
      · have hlead : s.world.isLeader u :=
          (dispatch_grows env ev (s.start u)).leader_of_service hsv
        cases hx : (dispatch env ev (s.start u)).world.service with
        | none => exact hop u ev env rfl ⟨u, .removeService, .service none, s.world⟩ ⟨hlead, rfl⟩ h
        | some k =>
          exact hop u ev env rfl ⟨u, .applyService, .service (some k), s.world⟩ ⟨hlead, k, rfl⟩ h
    · exact (hc.invariant h fun e he => hop u ev env rfl e (hl e he).2.2).1
  | grant u => exact hgrant _ u h
  | free => exact hfree _ h

/-- A property of stores that every step of the run keeps holds after the run. -/
theorem run_invariant {P : World → Prop}
    (hstep : ∀ (s : Sys) st, st ∈ steps → P s.world → P (s.step st).1.world)
    (h : P s.world) : P (s.run steps).world := by
  induction steps generalizing s with
  | nil => exact h
  | cons st sts ih =>
    exact ih (fun s' st' hm => hstep s' st' (List.mem_cons_of_mem _ hm))
      (hstep s st (List.mem_cons_self _ _) h)

/-- A property of stores that every op of the run's hooks keeps, from a hook start where it
held, and that the lock steps keep, holds after the run. -/
theorem ops_invariant {P : World → Prop} (h : P s.world)
    (hop : ∀ u ev env, Step.hook u ev env ∈ steps →
      ∀ w₀ e, P w₀ → Site.Spec env w₀ e → P e.pre → P e.post)
    (hgrant : ∀ w u, P w → P (w.grantLock u)) (hfree : ∀ w, P w → P w.freeLock) :
    P (s.run steps).world :=
  run_invariant (fun t st hst ht => step_invariant st ht
    (fun u ev env heq e hs => hop u ev env (heq ▸ hst) t.world e ht hs) hgrant hfree) h

/-- A property of stores that every op of the run's hooks keeps, from a hook start where it
held, and that the lock steps keep, holds before every op of the run. -/
theorem ops_pre_invariant {P : World → Prop} (h : P s.world)
    (hop : ∀ u ev env, Step.hook u ev env ∈ steps →
      ∀ w₀ e, P w₀ → Site.Spec env w₀ e → P e.pre → P e.post)
    (hgrant : ∀ w u, P w → P (w.grantLock u)) (hfree : ∀ w, P w → P w.freeLock) :
    ∀ e ∈ s.ops steps, P e.pre := by
  induction steps generalizing s with
  | nil => simp
  | cons st sts ih =>
    have hst := step_invariant st h (fun u ev env heq e hs =>
      hop u ev env (heq ▸ List.mem_cons_self _ _) _ e h hs) hgrant hfree
    simp only [ops_cons, List.mem_append]
    rintro e (he | he)
    · obtain ⟨ev, env, rfl, -, -⟩ := mem_step he
      obtain ⟨-, ⟨l, hlog, hc, hl⟩, -⟩ := dispatch_grows env ev (s.start e.unit)
      rw [step_hook, hlog, start] at he
      exact (hc.invariant h fun e' he' =>
        hop _ ev env (List.mem_cons_self _ _) _ e' h (hl e' he').2.2).2 e (by simpa using he)
    · exact ih hst (fun u ev env hm => hop u ev env (List.mem_cons_of_mem _ hm)) e he

theorem mem_ops {e : Op} (he : e ∈ s.ops steps) :
    ∃ x ∈ s.trace steps, ∃ ev env, x.2.1 = .hook e.unit ev env ∧ Step.hook e.unit ev env ∈ steps ∧
      x.2.2 = (dispatch env ev (x.1.start e.unit)).log ∧ Site.Spec env x.1.world e := by
  obtain ⟨x, hx, he⟩ := List.mem_flatMap.1 he
  exact ⟨x, hx, mem_trace hx he⟩

end Sys

end ZooKeeperK8s
