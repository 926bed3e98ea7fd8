import Mathlib
import Superstep.Proofs.Trace
import Superstep.Proofs.Schedule

/-!
# The superstep limit

A run takes its steps one at a time, each on the instance as it stands when the step is taken
(`Task.along`): between two steps other calls may absorb responses into the run or register
nothing at all, but the graph stays. Whatever happens between the steps, and whatever the
handlers do, a run of a graph with a limit of `M ≥ 1` supersteps begins at most `M` of them,
numbered `1, 2, …` in order, and is over after `2 * M + 1` steps. It fails for the limit,
reporting `MaxSuperstepsExceeded` with no executor and the message naming `M`, exactly when the
end of superstep `M` found no handler failure and, with the absorbed responses added, deliveries
left for a superstep `M + 1` (`Task.GoesOnAfter`); superstep `M + 1` never starts.

The step lemmas are stated on `Task.Stepped`, one case per kind of step; the run lemmas follow
by induction on the instances the steps are taken on. The main statement is `superstep_limit`.
-/

namespace Superstep

/-- The superstep an event opens. -/
def Event.superstepStarted? : Event → Option Nat
  | .superstepStarted n => some n
  | _ => none

/-- The failures reported among timed events. -/
def Stamped.failures (es : List Stamped) : List Failure := (es.map (·.event)).filterMap Event.failure?

@[simp] theorem Stamped.failures_nil : Stamped.failures [] = [] := rfl

theorem Stamped.failures_append (es es' : List Stamped) :
    Stamped.failures (es ++ es') = Stamped.failures es ++ Stamped.failures es' := by
  simp [Stamped.failures]

/-- The failure of a run of `g` that is out of supersteps. -/
def Graph.limitFailure (g : Graph) : Failure :=
  ⟨.maxSuperstepsExceeded, "Workflow did not converge within " ++ toString g.maxSupersteps ++
    " supersteps", none⟩

theorem Event.superstepStarted?_of_inSuperstep {e : Event} (h : e.inSuperstep = true)
    (hs : ∀ n, e ≠ .superstepStarted n) : e.superstepStarted? = none := by
  cases e <;> simp_all [inSuperstep, superstepStarted?]

theorem Event.failure?_of_inSuperstep {e : Event} (h : e.inSuperstep = true) : e.failure? = none := by
  cases e <;> simp_all [inSuperstep, failure?]

/-- A superstep reports its own start, once, and no failure. -/
theorem superstepTrace_started (k : Nat) (bs : List Invoked) :
    (superstepTrace k bs).filterMap Event.superstepStarted? = [k] ∧
      (superstepTrace k bs).filterMap Event.failure? = [] := by
  have hblocks : ∀ e ∈ bs.flatMap (Invoked.events k),
      e.inSuperstep = true ∧ ∀ n, e ≠ .superstepStarted n := by
    intro e he
    obtain ⟨b, -, hb⟩ := List.mem_flatMap.1 he
    refine ⟨Invoked.inSuperstep e hb, fun n hn => ?_⟩
    subst hn
    simp [Invoked.events] at hb
    obtain ⟨x, -, hx⟩ := hb
    cases x <;> simp [Effect.event] at hx
  have hstarted : (bs.flatMap (Invoked.events k)).filterMap Event.superstepStarted? = [] :=
    List.filterMap_eq_nil_iff.2 fun e he =>
      Event.superstepStarted?_of_inSuperstep (hblocks e he).1 (hblocks e he).2
  have hfailed : (bs.flatMap (Invoked.events k)).filterMap Event.failure? = [] :=
    List.filterMap_eq_nil_iff.2 fun e he => Event.failure?_of_inSuperstep (hblocks e he).1
  constructor
  · rw [superstepTrace, List.filterMap_append,
      List.filterMap_cons_some (f := Event.superstepStarted?) rfl, hstarted]
    rfl
  · rw [superstepTrace, List.filterMap_append, List.filterMap_cons_none (f := Event.failure?) rfl,
      hfailed]
    rfl

namespace Instance

/-- A failing run reports its failure once. -/
theorem failRun_failures (inst : Instance) (time : Nat) (details : Failure) :
    Stamped.failures (inst.failRun time details).2 = [details] ∧
      ((inst.failRun time details).2.map (·.event)).filterMap Event.superstepStarted? = [] := by
  simp [Stamped.failures, failRun, Event.failure?, Event.superstepStarted?]

/-- The failure of a superstep is a handler's. -/
theorem superstep_failure_kind (inst : Instance) (n start : Nat) (ds : List Delivery)
    {f : Failure} (h : (inst.superstep n start ds).failure = some f) : f.kind = .executorFailure := by
  simp only [superstep, foldl_deliver_failure, Option.none_or] at h
  obtain ⟨p, -, hp⟩ := List.exists_of_findSome?_eq_some h
  obtain ⟨e, -, rfl⟩ := Invocation.failure?_eq_some_iff.1 hp
  rfl

end Instance

namespace Task

/-- The steps of a run, each taken on the instance as it stands when the step is taken, with
the run they leave and the events they report. -/
def along (t : Task) : List Instance → Task × List Stamped
  | [] => (t, [])
  | inst :: insts =>
    (((step inst t).2.1.along insts).1, (step inst t).2.2 ++ ((step inst t).2.1.along insts).2)

/-- The run is between supersteps, `k` of them begun. -/
def Between (k : Nat) (t : Task) : Prop := t.supersteps = k ∧ ∃ ds, t.phase = .ready ds

/-- The run's next step, taken on `inst`, ends superstep `k` with no handler failure and with
deliveries for a next superstep once the responses absorbed meanwhile join those handed on. -/
def ClosesOpen (k : Nat) (t : Task) (inst : Instance) : Prop :=
  t.supersteps = k ∧ ∃ next endsAt, t.phase = .closing next none endsAt ∧
    next ++ inst.machine.injected ≠ []

/-- Along the steps taken on `insts`, the end of superstep `k` found no handler failure and
deliveries for a next superstep. -/
def GoesOnAfter (k : Nat) (t : Task) : List Instance → Prop
  | [] => False
  | inst :: insts => ClosesOpen k t inst ∨ GoesOnAfter k (step inst t).2.1 insts

/-- A superstep waiting to end with a failure ends on a handler's failure. -/
def HandlerFailures (t : Task) : Prop :=
  ∀ next f endsAt, t.phase = .closing next (some f) endsAt → f.kind = .executorFailure

theorem along_of_isDone {t : Task} (h : t.isDone = true) (inst : Instance) :
    ∀ insts : List Instance, t.along (inst :: insts) = (t, []) := by
  intro insts
  induction insts generalizing inst with
  | nil => simp [along, step_of_isDone inst h]
  | cons inst' insts ih => simp [along, step_of_isDone inst h] at ih ⊢; exact ih inst'

theorem along_eq_of_isDone {t : Task} (h : t.isDone = true) :
    ∀ insts : List Instance, t.along insts = (t, [])
  | [] => rfl
  | inst :: insts => along_of_isDone h inst insts

theorem not_goesOnAfter_of_isDone {t : Task} (h : t.isDone = true) (k : Nat) :
    ∀ insts : List Instance, ¬ GoesOnAfter k t insts
  | [] => id
  | inst :: insts => by
    rintro (⟨-, next, endsAt, hp, -⟩ | hrest)
    · simp [isDone, dueAt, hp] at h
    · rw [step_of_isDone inst h] at hrest
      exact not_goesOnAfter_of_isDone h k insts hrest

/-! ## One step -/

variable {inst inst' : Instance} {t t' : Task} {es : List Stamped}

/-- A step begins at most one superstep, the next in order, and reports its start. -/
theorem Stepped.started (e : Stepped inst t inst' t' es) :
    t.supersteps ≤ t'.supersteps ∧ (es.map (·.event)).filterMap Event.superstepStarted? =
      List.range' (t.supersteps + 1) (t'.supersteps - t.supersteps) := by
  cases e with
  | ended s hs => simp
  | limit next hp hl => simpa using (inst.failRun_failures _ _).2
  | superstep next hp hl =>
    obtain ⟨bs, -, he⟩ := inst.superstep_events (t.supersteps + 1) t.clock next
    simp [he, (superstepTrace_started _ bs).1]
  | failure next details endsAt hp => simpa using (inst.failRun_failures _ _).2
  | converge next endsAt s hp hs => simp [Event.superstepStarted?]
  | next next endsAt ds hp hds => simp

/-- A step stays within the limit of supersteps. -/
theorem Stepped.supersteps_le (e : Stepped inst t inst' t' es)
    (hs : t.supersteps ≤ inst.graph.maxSupersteps) : t'.supersteps ≤ inst.graph.maxSupersteps := by
  cases e with
  | superstep next hp hl => exact hl
  | _ => exact hs

theorem Stepped.handlerFailures (e : Stepped inst t inst' t' es) (h : t.HandlerFailures) :
    t'.HandlerFailures := by
  intro next f endsAt hp
  cases e with
  | ended s hs => exact h next f endsAt hp
  | superstep next' hp' hl =>
    simp only [Phase.closing.injEq] at hp
    exact inst.superstep_failure_kind _ _ _ hp.2.1
  | _ => cases hp

/-- **What a step reports as failure.** A step from between supersteps at the limit reports
the limit's failure; the end of a superstep with a handler failure reports that failure; no other
step reports one. -/
theorem Stepped.failures_eq_limit_iff (e : Stepped inst t inst' t' es) (hf : t.HandlerFailures)
    (hs : t.supersteps ≤ inst.graph.maxSupersteps) :
    Stamped.failures es = [inst.graph.limitFailure] ↔ Between inst.graph.maxSupersteps t := by
  cases e with
  | ended s hs' => simp [Stamped.failures, Between, hs']
  | limit next hp hl =>
    simp [(inst.failRun_failures _ _).1, Graph.limitFailure, Between, hp, Nat.le_antisymm hs hl]
  | superstep next hp hl =>
    obtain ⟨bs, -, he⟩ := inst.superstep_events (t.supersteps + 1) t.clock next
    have hnil : Stamped.failures (inst.superstep (t.supersteps + 1) t.clock next).events = [] := by
      rw [Stamped.failures, he, (superstepTrace_started _ bs).2]
    simp only [hnil, Between, hp]
    simp
    omega
  | failure next details endsAt hp =>
    have hk := hf next details endsAt hp
    simp only [(inst.failRun_failures _ _).1, List.cons.injEq, and_true, Between, hp,
      reduceCtorEq, exists_false, and_false, iff_false]
    intro heq
    rw [heq] at hk
    cases hk
  | converge next endsAt s hp hs' =>
    simp [Stamped.failures, List.filterMap_cons, Event.failure?, Between, hp]
  | next next endsAt ds hp hds => simp [Stamped.failures, Between, hp]

/-- A step that reports a failure ends the run `FAILED`. -/
theorem Stepped.failed_of_failures (e : Stepped inst t inst' t' es)
    (h : Stamped.failures es ≠ []) : t'.phase = .done .failed := by
  cases e with
  | limit next hp hl => rfl
  | failure next details endsAt hp => rfl
  | superstep next hp hl =>
    obtain ⟨bs, -, he⟩ := inst.superstep_events (t.supersteps + 1) t.clock next
    rw [Stamped.failures, he, (superstepTrace_started _ bs).2] at h
    exact absurd rfl h
  | _ => simp [Stamped.failures, Event.failure?] at h

/-- A step lands between supersteps at `k` exactly when it ends superstep `k` with deliveries
left for a next one. -/
theorem Stepped.between_iff (e : Stepped inst t inst' t' es) (k : Nat) :
    Between k t' ↔ ClosesOpen k t inst := by
  cases e with
  | ended s hs => simp [Between, ClosesOpen, hs]
  | limit next hp hl => simp [Between, ClosesOpen, hp]
  | superstep next hp hl => simp [Between, ClosesOpen, hp]
  | failure next details endsAt hp => simp [Between, ClosesOpen, hp]
  | converge next endsAt s hp hs =>
    have hnil : next ++ inst.machine.injected = [] := by
      rw [Machine.converge_snd] at hs
      split at hs
      · exact List.isEmpty_iff.1 ‹_›
      · cases hs
    obtain ⟨h1, h2⟩ := List.append_eq_nil_iff.1 hnil
    simp [Between, ClosesOpen, hp, h1, h2]
  | next next endsAt ds hp hds =>
    have hne : next ++ inst.machine.injected ≠ [] := by
      rw [Machine.converge_snd] at hds
      split at hds
      · cases hds
      · exact fun h => by simp_all
    simp only [Between, ClosesOpen, hp, Phase.closing.injEq, true_and, ne_eq]
    constructor
    · intro hb
      exact ⟨hb.1, next, endsAt, ⟨rfl, rfl⟩, hne⟩
    · intro hc
      exact ⟨hc.1, ds, rfl⟩

/-! ## A whole run -/

section Along

variable {g : Graph} {insts : List Instance}

/-- The steps of a run begin its supersteps in order, and stay within the limit. -/
theorem along_started (hg : ∀ i ∈ insts, i.graph = g) {t : Task}
    (hs : t.supersteps ≤ g.maxSupersteps) :
    t.supersteps ≤ (t.along insts).1.supersteps ∧ (t.along insts).1.supersteps ≤ g.maxSupersteps ∧
      ((t.along insts).2.map (·.event)).filterMap Event.superstepStarted? =
        List.range' (t.supersteps + 1) ((t.along insts).1.supersteps - t.supersteps) := by
  induction insts generalizing t with
  | nil => simp [along, hs]
  | cons inst insts ih =>
    have e := stepped inst t
    have hinst := hg inst List.mem_cons_self
    obtain ⟨hle, hstart⟩ := e.started
    obtain ⟨hle', hmax, hrest⟩ :=
      ih (fun i hi => hg i (List.mem_cons_of_mem _ hi)) (hinst ▸ e.supersteps_le (hinst ▸ hs))
    refine ⟨hle.trans hle', hmax, ?_⟩
    simp only [along, List.map_append, List.filterMap_append, hstart, hrest]
    rw [show (step inst t).2.1.supersteps + 1 =
        t.supersteps + 1 + ((step inst t).2.1.supersteps - t.supersteps) by omega,
      List.range'_append_1]
    congr 1
    omega

/-- A run that is at most at the limit is over once it has taken the steps it has left. -/
theorem along_isDone (hg : ∀ i ∈ insts, i.graph = g) {t : Task}
    (hs : t.supersteps ≤ g.maxSupersteps) (hn : remaining g.maxSupersteps t ≤ insts.length) :
    (t.along insts).1.isDone = true := by
  induction insts generalizing t with
  | nil =>
    show t.isDone = true
    exact remaining_eq_zero_iff.1 (by simpa using hn)
  | cons inst insts ih =>
    cases hd : t.isDone with
    | true => rw [along_of_isDone hd]; exact hd
    | false =>
      have hinst := hg inst List.mem_cons_self
      obtain ⟨hs', hlt⟩ := step_remaining inst hd (hinst ▸ hs)
      rw [hinst] at hs' hlt
      exact ih (fun i hi => hg i (List.mem_cons_of_mem _ hi)) hs' (by simp at hn; omega)

/-- A run that reports a failure ends `FAILED`. -/
theorem along_failed (t : Task) :
    ∀ insts : List Instance, Stamped.failures (t.along insts).2 ≠ [] →
      (t.along insts).1.phase = .done .failed
  | [] => fun h => absurd rfl h
  | inst :: insts => by
    intro h
    have e := stepped inst t
    by_cases hrest : Stamped.failures ((step inst t).2.1.along insts).2 = []
    · have hfirst : Stamped.failures (step inst t).2.2 ≠ [] := by
        rwa [along, Stamped.failures_append, hrest, List.append_nil] at h
      have hdone := e.failed_of_failures hfirst
      rw [along, along_eq_of_isDone (by simp [isDone, dueAt, hdone])]
      exact hdone
    · exact along_failed _ insts hrest

/-- **The limit's failure along a whole run.** A run within the limit, whose pending superstep
failure is a handler's if any, reports exactly the limit's failure by the time it is over when
it stands between supersteps at the limit, or when a later end of superstep `M` leaves
deliveries for a next one. -/
theorem along_limitFailure (hg : ∀ i ∈ insts, i.graph = g) {t : Task}
    (hs : t.supersteps ≤ g.maxSupersteps) (hf : t.HandlerFailures)
    (hd : (t.along insts).1.isDone = true) :
    Stamped.failures (t.along insts).2 = [g.limitFailure] ↔
      Between g.maxSupersteps t ∨ GoesOnAfter g.maxSupersteps t insts := by
  induction insts generalizing t with
  | nil =>
    have hdone : t.isDone = true := hd
    simp only [along, Stamped.failures, List.map_nil, List.filterMap_nil, GoesOnAfter, or_false]
    constructor
    · intro h
      cases h
    · intro hb
      obtain ⟨-, ds, hp⟩ := hb
      simp [isDone, dueAt, hp] at hdone
  | cons inst insts ih =>
    have e := stepped inst t
    have hinst := hg inst List.mem_cons_self
    have hlim := e.failures_eq_limit_iff hf (hinst ▸ hs)
    rw [hinst] at hlim
    have ih' := ih (fun i hi => hg i (List.mem_cons_of_mem _ hi))
      (hinst ▸ e.supersteps_le (hinst ▸ hs)) (e.handlerFailures hf) hd
    rw [along, Stamped.failures_append, GoesOnAfter, ← e.between_iff]
    by_cases hfirst : Stamped.failures (step inst t).2.2 = []
    · have hnot : ¬ Between g.maxSupersteps t := fun hb => by
        rw [← hlim, hfirst] at hb
        cases hb
      rw [hfirst, List.nil_append, ih']
      simp [hnot]
    · have hdone := e.failed_of_failures hfirst
      have hover : (step inst t).2.1.isDone = true := by simp [isDone, dueAt, hdone]
      have hnotb : ¬ Between g.maxSupersteps (step inst t).2.1 := by
        intro hb
        obtain ⟨-, ds, hp⟩ := hb
        rw [hdone] at hp
        cases hp
      rw [along_eq_of_isDone hover]
      simp only [Stamped.failures_nil, List.append_nil]
      rw [hlim]
      simp [hnotb, not_goesOnAfter_of_isDone hover]

/-- A synchronous run is one such course of steps, each taken on the instance the step before
it left. -/
theorem finish_eq_along (inst : Instance) (t : Task) (n : Nat) :
    ∃ insts : List Instance, (∀ i ∈ insts, i.graph = inst.graph) ∧
      t.along insts = ((finish inst t n).2.1, (finish inst t n).2.2) := by
  induction n generalizing inst t with
  | zero => exact ⟨[], by simp, rfl⟩
  | succ n ih =>
    cases hd : t.isDone with
    | true => exact ⟨[], by simp, by simp [finish_of_isDone inst hd, along]⟩
    | false =>
      obtain ⟨insts, hg, h⟩ := ih (step inst t).1 (step inst t).2.1
      refine ⟨inst :: insts, ?_, ?_⟩
      · intro i hi
        rcases List.mem_cons.1 hi with rfl | hi
        · rfl
        · rw [hg i hi, step_graph]
      · rw [finish_succ_of_not_done inst hd, along, h]

end Along

end Task

/-- **The superstep limit.** Take a run of any instance whose graph allows `M ≥ 1` supersteps,
from any first deliveries, and let it take its steps on any instances of the graph, as other
calls change the instance between the steps; the handlers may do anything. The run begins the
supersteps `1, 2, …` in order and at most `M` of them, so never superstep `M + 1`, and it is
over after `2 * M + 1` steps. Once over, it has ended `FAILED` reporting the failure
`MaxSuperstepsExceeded`, with no executor and the message "Workflow did not converge within `M`
supersteps", exactly when the end of superstep `M` found no handler failure and deliveries for a
next superstep, the responses absorbed meanwhile included. -/
theorem superstep_limit (inst : Instance) (initial : List Delivery) (time : Nat)
    (hmax : 0 < inst.graph.maxSupersteps) (insts : List Instance)
    (hg : ∀ i ∈ insts, i.graph = inst.graph) :
    ((Task.start inst initial time).2.1.along insts).1.supersteps ≤ inst.graph.maxSupersteps ∧
      (((Task.start inst initial time).2.2 ++
          ((Task.start inst initial time).2.1.along insts).2).map (·.event)).filterMap
          Event.superstepStarted? =
        List.range' 1 ((Task.start inst initial time).2.1.along insts).1.supersteps ∧
      (2 * inst.graph.maxSupersteps + 1 ≤ insts.length →
        ((Task.start inst initial time).2.1.along insts).1.isDone = true) ∧
      (((Task.start inst initial time).2.1.along insts).1.isDone = true →
        (((Task.start inst initial time).2.1.along insts).1.phase = .done .failed ∧
            Stamped.failures ((Task.start inst initial time).2.2 ++
              ((Task.start inst initial time).2.1.along insts).2) =
              [⟨.maxSuperstepsExceeded, "Workflow did not converge within " ++
                toString inst.graph.maxSupersteps ++ " supersteps", none⟩] ↔
          Task.GoesOnAfter inst.graph.maxSupersteps (Task.start inst initial time).2.1 insts)) := by
  have hs : (Task.start inst initial time).2.1.supersteps ≤ inst.graph.maxSupersteps :=
    Nat.zero_le _
  have hf : (Task.start inst initial time).2.1.HandlerFailures := fun _ _ _ hp => by cases hp
  have hopen : Stamped.failures (Task.start inst initial time).2.2 = [] ∧
      ((Task.start inst initial time).2.2.map (·.event)).filterMap Event.superstepStarted? = [] :=
    ⟨rfl, rfl⟩
  obtain ⟨-, hle, hstarted⟩ := Task.along_started hg hs
  refine ⟨hle, ?_, fun hn => Task.along_isDone hg hs (by simp [Task.remaining, Task.start]; omega),
    fun hd => ?_⟩
  · rw [List.map_append, List.filterMap_append, hopen.2, hstarted]
    rfl
  · have hnot : ¬ Task.Between inst.graph.maxSupersteps (Task.start inst initial time).2.1 := by
      intro hb
      have h0 := hb.1
      simp [Task.start] at h0
      omega
    have key := Task.along_limitFailure hg hs hf hd
    rw [or_iff_right hnot] at key
    rw [Stamped.failures_append, hopen.1, List.nil_append, ← key]
    constructor
    · intro h
      exact h.2
    · intro h
      exact ⟨Task.along_failed _ insts (by rw [h]; simp), h⟩

/-- Upper-cased text sent round forever: one executor whose only edge leads back to itself, with
a limit of five supersteps. -/
def Nodes.upperLoop : Graph :=
  { name := "loop", start := "loop", nodes := [Nodes.upperCaser "loop"],
    edges := [("loop", ["loop"])], maxSupersteps := 5 }

/-- The loop, its steps all taken on a fresh instance, begins five supersteps and fails for the
limit. -/
theorem upper_loop_limited :
    0 < (Instance.new Nodes.upperLoop).graph.maxSupersteps ∧
      (∀ i ∈ List.replicate 11 (Instance.new Nodes.upperLoop),
        i.graph = (Instance.new Nodes.upperLoop).graph) ∧
      (((Task.start (Instance.new Nodes.upperLoop) [.message "loop" (Nodes.text "a")] 0).2.1.along
          (List.replicate 11 (Instance.new Nodes.upperLoop))).1.supersteps ≤
          (Instance.new Nodes.upperLoop).graph.maxSupersteps ∧
        (((Task.start (Instance.new Nodes.upperLoop) [.message "loop" (Nodes.text "a")] 0).2.2 ++
            ((Task.start (Instance.new Nodes.upperLoop) [.message "loop" (Nodes.text "a")] 0).2.1.along
              (List.replicate 11 (Instance.new Nodes.upperLoop))).2).map (·.event)).filterMap
            Event.superstepStarted? =
          List.range' 1 ((Task.start (Instance.new Nodes.upperLoop)
            [.message "loop" (Nodes.text "a")] 0).2.1.along
              (List.replicate 11 (Instance.new Nodes.upperLoop))).1.supersteps ∧
        (2 * (Instance.new Nodes.upperLoop).graph.maxSupersteps + 1 ≤
            (List.replicate 11 (Instance.new Nodes.upperLoop)).length →
          ((Task.start (Instance.new Nodes.upperLoop) [.message "loop" (Nodes.text "a")] 0).2.1.along
            (List.replicate 11 (Instance.new Nodes.upperLoop))).1.isDone = true) ∧
        (((Task.start (Instance.new Nodes.upperLoop) [.message "loop" (Nodes.text "a")] 0).2.1.along
            (List.replicate 11 (Instance.new Nodes.upperLoop))).1.isDone = true →
          (((Task.start (Instance.new Nodes.upperLoop) [.message "loop" (Nodes.text "a")] 0).2.1.along
              (List.replicate 11 (Instance.new Nodes.upperLoop))).1.phase = .done .failed ∧
            Stamped.failures ((Task.start (Instance.new Nodes.upperLoop)
                [.message "loop" (Nodes.text "a")] 0).2.2 ++
              ((Task.start (Instance.new Nodes.upperLoop) [.message "loop" (Nodes.text "a")] 0).2.1.along
                (List.replicate 11 (Instance.new Nodes.upperLoop))).2) =
              [⟨.maxSuperstepsExceeded, "Workflow did not converge within " ++
                toString (Instance.new Nodes.upperLoop).graph.maxSupersteps ++ " supersteps", none⟩] ↔
            Task.GoesOnAfter (Instance.new Nodes.upperLoop).graph.maxSupersteps
              (Task.start (Instance.new Nodes.upperLoop) [.message "loop" (Nodes.text "a")] 0).2.1
              (List.replicate 11 (Instance.new Nodes.upperLoop))))) ∧
      (Stamped.failures ((Task.start (Instance.new Nodes.upperLoop)
          [.message "loop" (Nodes.text "a")] 0).2.1.along
            (List.replicate 11 (Instance.new Nodes.upperLoop))).2).map (·.kind) =
        [.maxSuperstepsExceeded] := by
  have hg : ∀ i ∈ List.replicate 11 (Instance.new Nodes.upperLoop),
      i.graph = (Instance.new Nodes.upperLoop).graph := by
    intro i hi
    rw [List.eq_of_mem_replicate hi]
  exact ⟨by decide, hg, superstep_limit _ _ _ (by decide) _ hg, by decide⟩

end Superstep
