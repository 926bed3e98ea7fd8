import Mathlib
import Superstep.Proofs.Runner

/-!
# How far a run gets

A run moves by `Task.step`. `Task.finish` takes steps until the run is over or its fuel is spent,
and a run in the background takes the same steps in portions (`Task.advanceTo`), each of which
is what `finish` takes with some smaller fuel (`Task.advanceTo_eq_finish`). Portions compose
(`Task.finish_add`), and once a run is over more fuel changes nothing (`Task.finish_eq_of_isDone`).

A run that has begun at most its graph's limit of supersteps is over within `Task.remaining`
steps (`Task.step_remaining`), so the budget `Task.budget` always suffices
(`Task.finish_budget_isDone`). Neither the instance a run leaves nor the events it reports depend
on its clock (`Task.SameRun.finish`): the clock only stamps the events and says when the steps
are due.
-/

namespace Superstep

namespace Instance

variable (inst : Instance)

@[simp] theorem dispatch_graph (n : Nat) (d : Delivery) : (inst.dispatch n d).1.graph = inst.graph := by
  unfold dispatch
  rcases d with ⟨t, m⟩ | ⟨t, rid, q, r⟩ <;> dsimp only [Delivery.target] <;> split <;> rfl

@[simp] theorem deliver_graph (n : Nat) (s : Step) (d : Delivery) :
    (deliver n s d).inst.graph = s.inst.graph := by
  simp [deliver, publish_fst]

theorem foldl_deliver_graph (n : Nat) (ds : List Delivery) (s : Step) :
    (ds.foldl (deliver n) s).inst.graph = s.inst.graph := by
  induction ds generalizing s with
  | nil => rfl
  | cons d ds ih => rw [List.foldl_cons, ih, deliver_graph]

@[simp] theorem superstep_graph (n start : Nat) (ds : List Delivery) :
    (inst.superstep n start ds).inst.graph = inst.graph := by
  simp [superstep, foldl_deliver_graph]

end Instance

namespace Task

variable (inst : Instance)

/-- A step never changes the workflow's graph. -/
@[simp] theorem step_graph (t : Task) : (step inst t).1.graph = inst.graph := by
  rcases t with ⟨n, next | ⟨next, failure, endsAt⟩ | state, c⟩
  · simp only [step]
    split <;> simp [Instance.failRun]
  · simp only [step]
    cases failure with
    | some details => simp [Instance.failRun]
    | none => cases (inst.machine.converge next).2 <;> rfl
  · rfl

/-- What one step of a run does, by where the run stands. -/
inductive Stepped (inst : Instance) (t : Task) : Instance → Task → List Stamped → Prop
  /-- A run that is over stays as it is. -/
  | ended (s : RunState) : t.phase = .done s → Stepped inst t inst t []
  /-- Out of supersteps, the run fails. -/
  | limit (next : List Delivery) : t.phase = .ready next →
      inst.graph.maxSupersteps ≤ t.supersteps →
      Stepped inst t (inst.failRun t.clock ⟨.maxSuperstepsExceeded, "Workflow did not converge within " ++
          toString inst.graph.maxSupersteps ++ " supersteps", none⟩).1
        { t with phase := .done .failed }
        (inst.failRun t.clock ⟨.maxSuperstepsExceeded, "Workflow did not converge within " ++
          toString inst.graph.maxSupersteps ++ " supersteps", none⟩).2
  /-- The next superstep runs its handlers over the run's deliveries. -/
  | superstep (next : List Delivery) : t.phase = .ready next →
      t.supersteps < inst.graph.maxSupersteps →
      Stepped inst t (inst.superstep (t.supersteps + 1) t.clock next).inst
        { t with supersteps := t.supersteps + 1,
                 phase := .closing (inst.superstep (t.supersteps + 1) t.clock next).next
                   (inst.superstep (t.supersteps + 1) t.clock next).failure
                   (inst.superstep (t.supersteps + 1) t.clock next).clock }
        (inst.superstep (t.supersteps + 1) t.clock next).events
  /-- A superstep in which a handler failed ends the run. -/
  | failure (next : List Delivery) (details : Failure) (endsAt : Nat) :
      t.phase = .closing next (some details) endsAt →
      Stepped inst t (inst.failRun endsAt details).1 { t with clock := endsAt, phase := .done .failed }
        (inst.failRun endsAt details).2
  /-- Nothing is left to deliver: the run ends in the state the machine chose. -/
  | converge (next : List Delivery) (endsAt : Nat) (s : RunState) :
      t.phase = .closing next none endsAt → (inst.machine.converge next).2 = .error s →
      Stepped inst t { inst with machine := (inst.machine.converge next).1 }
        { t with clock := endsAt, phase := .done s } [⟨endsAt, .status s Timestamp.epoch⟩]
  /-- The next superstep gets the deliveries left, absorbed responses last. -/
  | next (next : List Delivery) (endsAt : Nat) (ds : List Delivery) :
      t.phase = .closing next none endsAt → (inst.machine.converge next).2 = .ok ds →
      Stepped inst t { inst with machine := (inst.machine.converge next).1 }
        { t with clock := endsAt, phase := .ready ds } []

/-- Every step is one of the `Stepped` cases. -/
theorem stepped (t : Task) : Stepped inst t (step inst t).1 (step inst t).2.1 (step inst t).2.2 := by
  rcases t with ⟨n, next | ⟨next, failure, endsAt⟩ | state, c⟩
  · by_cases hl : inst.graph.maxSupersteps ≤ n
    · simpa [step, hl] using Stepped.limit (t := ⟨n, .ready next, c⟩) next rfl hl
    · simpa [step, hl] using Stepped.superstep (t := ⟨n, .ready next, c⟩) next rfl
        (show n < inst.graph.maxSupersteps by omega)
  · cases failure with
    | some details => exact .failure next details endsAt rfl
    | none =>
      cases ho : (inst.machine.converge next).2 with
      | error s =>
        simpa [step, ho] using Stepped.converge (t := ⟨n, .closing next none endsAt, c⟩) next endsAt s rfl ho
      | ok ds =>
        simpa [step, ho] using Stepped.next (t := ⟨n, .closing next none endsAt, c⟩) next endsAt ds rfl ho
  · exact .ended state rfl

theorem isDone_iff_dueAt (t : Task) : t.isDone = true ↔ t.dueAt = none := by
  simp [isDone]

theorem finish_succ_of_not_done {t : Task} (h : t.isDone = false) (n : Nat) :
    finish inst t (n + 1) =
      ((finish (step inst t).1 (step inst t).2.1 n).1, (finish (step inst t).1 (step inst t).2.1 n).2.1,
        (step inst t).2.2 ++ (finish (step inst t).1 (step inst t).2.1 n).2.2) := by
  simp [finish, h]

/-- A run that is over takes no more steps, whatever the fuel. -/
theorem finish_of_isDone {t : Task} (h : t.isDone = true) (n : Nat) :
    finish inst t n = (inst, t, []) := by
  cases n <;> simp [finish, h]

/-- Steps taken with fuel `a` and then `b` are the steps taken with fuel `a + b`. -/
theorem finish_add {t t₁ t₂ : Task} {inst₁ inst₂ : Instance} {es₁ es₂ : List Stamped} {a b : Nat}
    (h₁ : finish inst t a = (inst₁, t₁, es₁)) (h₂ : finish inst₁ t₁ b = (inst₂, t₂, es₂)) :
    finish inst t (a + b) = (inst₂, t₂, es₁ ++ es₂) := by
  induction a generalizing inst t es₁ with
  | zero =>
    obtain ⟨rfl, rfl, rfl⟩ : inst = inst₁ ∧ t = t₁ ∧ [] = es₁ := by simpa [finish] using h₁
    simpa using h₂
  | succ a ih =>
    rw [Nat.add_right_comm]
    cases hd : t.isDone with
    | true =>
      obtain ⟨rfl, rfl, rfl⟩ : inst = inst₁ ∧ t = t₁ ∧ [] = es₁ := by
        simpa [finish_of_isDone inst hd] using h₁
      rw [finish_of_isDone inst hd] at h₂ ⊢
      simpa using h₂
    | false =>
      rw [finish_succ_of_not_done inst hd] at h₁ ⊢
      simp only [Prod.mk.injEq] at h₁
      obtain ⟨h1, h2, h3⟩ := h₁
      rw [ih _ (Prod.ext h1 (Prod.ext h2 rfl))]
      simp [← h3]

/-- A portion of a run in the background is what `finish` takes with some fuel. -/
theorem advanceTo_eq_finish (time : Nat) (t : Task) (fuel : Nat) :
    ∃ k ≤ fuel, advanceTo time inst t fuel = finish inst t k := by
  induction fuel generalizing inst t with
  | zero => exact ⟨0, le_rfl, rfl⟩
  | succ fuel ih =>
    cases hdue : t.dueAt with
    | none => exact ⟨0, Nat.zero_le _, by simp [advanceTo, hdue, finish]⟩
    | some due =>
      by_cases hle : due ≤ time
      · have hd : t.isDone = false := by simp [isDone, hdue]
        obtain ⟨k, hk, hadv⟩ := ih (step inst t).1 (step inst t).2.1
        refine ⟨k + 1, by omega, ?_⟩
        rw [finish_succ_of_not_done inst hd, ← hadv]
        simp [advanceTo, hdue, hle]
      · exact ⟨0, Nat.zero_le _, by simp [advanceTo, hdue, hle, finish]⟩

/-! ## Every run ends -/

/-- The most steps a run still takes when it has begun at most `limit` supersteps: two for each
superstep left, one to fail at the limit or to end the last superstep. -/
def remaining (limit : Nat) (t : Task) : Nat :=
  match t.phase with
  | .ready _ => 2 * (limit - t.supersteps) + 1
  | .closing .. => 2 * (limit - t.supersteps) + 2
  | .done _ => 0

theorem remaining_eq_zero_iff {limit : Nat} {t : Task} : remaining limit t = 0 ↔ t.isDone = true := by
  rcases t with ⟨n, _ | _ | _, c⟩ <;> simp [remaining, isDone, dueAt]

/-- A step of a run that is not over stays within the limit of supersteps and brings the run
closer to its end. -/
theorem step_remaining {t : Task} (h : t.isDone = false)
    (hs : t.supersteps ≤ inst.graph.maxSupersteps) :
    (step inst t).2.1.supersteps ≤ inst.graph.maxSupersteps ∧
      remaining inst.graph.maxSupersteps (step inst t).2.1 < remaining inst.graph.maxSupersteps t := by
  rcases t with ⟨n, next | ⟨next, failure, endsAt⟩ | state, c⟩ <;> dsimp only at hs
  · simp only [step]
    split
    · simp only [remaining]
      omega
    · simp only [remaining]
      omega
  · simp only [step]
    cases failure with
    | some details => simp only [remaining]; omega
    | none =>
      cases (inst.machine.converge next).2 <;> simp only [remaining] <;> omega
  · simp [isDone, dueAt] at h

/-- With fuel for the steps it has left, a run ends. -/
theorem finish_isDone {t : Task} (n : Nat) (hs : t.supersteps ≤ inst.graph.maxSupersteps)
    (hn : remaining inst.graph.maxSupersteps t ≤ n) : (finish inst t n).2.1.isDone = true := by
  induction n generalizing inst t with
  | zero =>
    have h0 : remaining inst.graph.maxSupersteps t = 0 := by omega
    simpa [finish] using remaining_eq_zero_iff.1 h0
  | succ n ih =>
    cases hd : t.isDone with
    | true => simp [finish_of_isDone inst hd, hd]
    | false =>
      obtain ⟨hs', hlt⟩ := step_remaining inst hd hs
      rw [finish_succ_of_not_done inst hd]
      exact ih _ (by rwa [step_graph]) (by rw [step_graph]; omega)

/-- The budget of a run is enough for all its steps. -/
theorem remaining_le_budget {t : Task} (hs : t.supersteps ≤ inst.graph.maxSupersteps) :
    remaining inst.graph.maxSupersteps t ≤ budget inst := by
  rcases t with ⟨n, _ | _ | _, c⟩ <;> simp only [remaining, budget] <;> omega

theorem finish_budget_isDone {t : Task} (hs : t.supersteps ≤ inst.graph.maxSupersteps) :
    (finish inst t (budget inst)).2.1.isDone = true :=
  finish_isDone inst _ hs (remaining_le_budget inst hs)

/-- Two runs of a task that both end take the same steps: the fuel left over changes nothing. -/
theorem finish_eq_of_isDone {t : Task} {a b : Nat} (ha : (finish inst t a).2.1.isDone = true)
    (hb : (finish inst t b).2.1.isDone = true) : finish inst t a = finish inst t b := by
  -- the run with less fuel has ended, so the rest of the larger fuel is spent on nothing
  have hext : ∀ {a b : Nat}, a ≤ b → (finish inst t a).2.1.isDone = true →
      finish inst t b = finish inst t a := by
    intro a b hab hdone
    obtain ⟨c, rfl⟩ := Nat.exists_eq_add_of_le hab
    rw [finish_add inst (rfl : finish inst t a = _) (finish_of_isDone _ hdone c)]
    simp
  rcases le_total a b with hab | hba
  · exact (hext hab ha).symm
  · exact hext hba hb

end Task

/-! ## The clock of a run -/

/-- A phase with the time at which its superstep ends left out. -/
def Phase.untimed : Phase → Phase
  | .closing next failure _ => .closing next failure 0
  | p => p

namespace Instance

/-- Two states of a superstep that differ at most in their clocks and in the times of their
events. -/
def Step.SameBut (s s' : Step) : Prop :=
  s.inst = s'.inst ∧ s.next = s'.next ∧ s.failure = s'.failure ∧
    s.events.map (·.event) = s'.events.map (·.event)

theorem Step.SameBut.deliver {s s' : Step} (h : s.SameBut s') (n : Nat) (d : Delivery) :
    (Instance.deliver n s d).SameBut (Instance.deliver n s' d) := by
  obtain ⟨hi, hn, hf, he⟩ := h
  rcases s with ⟨i, es, c, next, f⟩
  rcases s' with ⟨i', es', c', next', f'⟩
  dsimp only at hi hn hf he
  subst hi hn hf
  refine ⟨rfl, rfl, rfl, ?_⟩
  simp [Instance.deliver, he, Function.comp_def]

theorem Step.SameBut.foldl {s s' : Step} (h : s.SameBut s') (n : Nat) (ds : List Delivery) :
    (ds.foldl (Instance.deliver n) s).SameBut (ds.foldl (Instance.deliver n) s') := by
  induction ds generalizing s s' with
  | nil => exact h
  | cons d ds ih => exact ih (h.deliver n d)

/-- What a superstep does, and the events it reports, do not depend on when it starts. -/
theorem superstep_sameBut (inst : Instance) (n start start' : Nat) (ds : List Delivery) :
    (inst.superstep n start ds).SameBut (inst.superstep n start' ds) := by
  have h : Step.SameBut ⟨inst, [⟨start, .superstepStarted n⟩], start, [], none⟩
      ⟨inst, [⟨start', .superstepStarted n⟩], start', [], none⟩ := ⟨rfl, rfl, rfl, rfl⟩
  obtain ⟨hi, hn, hf, he⟩ := h.foldl n ds
  exact ⟨hi, hn, hf, by simp [superstep, he]⟩

end Instance

namespace Task

variable (inst : Instance)

/-- Two tasks of one run that differ at most in their times. -/
def SameRun (t t' : Task) : Prop := t.supersteps = t'.supersteps ∧ t.phase.untimed = t'.phase.untimed

theorem SameRun.refl (t : Task) : t.SameRun t := ⟨rfl, rfl⟩

theorem SameRun.isDone {t t' : Task} (h : t.SameRun t') : t.isDone = t'.isDone := by
  obtain ⟨-, hp⟩ := h
  rcases t with ⟨n, _ | _ | _, c⟩ <;> rcases t' with ⟨n', _ | _ | _, c'⟩ <;> cases hp <;> rfl

theorem SameRun.finalState {t t' : Task} (h : t.SameRun t') (inst : Instance) :
    t.finalState inst = t'.finalState inst := by
  obtain ⟨-, hp⟩ := h
  rcases t with ⟨n, _ | _ | _, c⟩ <;> rcases t' with ⟨n', _ | _ | _, c'⟩ <;> cases hp <;> rfl

/-- A step does the same to the instance, and reports the same events, whatever the times of
the run. -/
theorem SameRun.step {t t' : Task} (h : t.SameRun t') :
    (step inst t).1 = (step inst t').1 ∧
      (step inst t).2.2.map (·.event) = (step inst t').2.2.map (·.event) ∧
      (step inst t).2.1.SameRun (step inst t').2.1 := by
  obtain ⟨hn, hp⟩ := h
  rcases t with ⟨n, next | ⟨next, failure, endsAt⟩ | state, c⟩ <;>
    rcases t' with ⟨n', next' | ⟨next', failure', endsAt'⟩ | state', c'⟩ <;>
    dsimp only at hn <;> subst hn <;> cases hp
  · simp only [Task.step]
    split
    · exact ⟨rfl, rfl, rfl, rfl⟩
    · obtain ⟨hi, hnx, hf, he⟩ := inst.superstep_sameBut (n + 1) c c' next
      exact ⟨hi, he, rfl, by simp [Phase.untimed, hnx, hf]⟩
  · simp only [Task.step]
    cases failure with
    | some details => exact ⟨rfl, rfl, rfl, rfl⟩
    | none => cases (inst.machine.converge next).2 <;> exact ⟨rfl, rfl, rfl, rfl⟩
  · exact ⟨rfl, rfl, rfl, rfl⟩

/-- **A run does not depend on its clock.** Runs that differ at most in their times leave the same
instance and report the same events. -/
theorem SameRun.finish {t t' : Task} (h : t.SameRun t') (n : Nat) :
    (Task.finish inst t n).1 = (Task.finish inst t' n).1 ∧
      (Task.finish inst t n).2.2.map (·.event) = (Task.finish inst t' n).2.2.map (·.event) ∧
      (Task.finish inst t n).2.1.SameRun (Task.finish inst t' n).2.1 := by
  induction n generalizing inst t t' with
  | zero => exact ⟨rfl, rfl, h⟩
  | succ n ih =>
    cases hd : t.isDone with
    | true =>
      rw [finish_of_isDone inst hd, finish_of_isDone inst (h.isDone ▸ hd)]
      exact ⟨rfl, rfl, h⟩
    | false =>
      rw [finish_succ_of_not_done inst hd, finish_succ_of_not_done inst (h.isDone ▸ hd)]
      obtain ⟨hi, he, hs⟩ := h.step inst
      obtain ⟨hi', he', hs'⟩ := ih (Task.step inst t).1 hs
      refine ⟨by simpa [hi] using hi', ?_, by simpa [hi] using hs'⟩
      simp only [List.map_append, he]
      rw [← hi, he']

end Task

end Superstep
