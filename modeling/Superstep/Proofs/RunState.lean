import Mathlib
import Superstep.Proofs.World
import Superstep.Proofs.Handlers

/-!
# One run at a time, and a run state that agrees with its tables

Every world a fresh instance reaches satisfies `World.Inv`: at most one run has not ended, the
instance is `RUNNING` exactly while one has not, its run state agrees with its tables
(`Machine.Consistent`: at rest no request is pending, waiting for responses some are, and only a
run in flight has absorbed responses), and the pending requests are registered ones, in the order
their `request_info` events reported them. The invariant is shown once for each kind of move
(`World.Inv.moves`) and carried along every history (`Reachable.inv`).

The main statements are `run_exclusive` (the guard against a second run) and
`machine_consistent` (the run-state machine's own invariant and what follows for responses).
-/

namespace Superstep

/-- A request that starts a run: a first message, or a non-empty list of responses, not
both. -/
def RunRequest.Starts (req : RunRequest) : Prop :=
  (req.message.isSome ∧ ∀ rs ∈ req.responses, rs = []) ∨
    (req.message = none ∧ ∃ rs ∈ req.responses, rs ≠ [])

namespace Machine

/-- The run state agrees with the tables: at rest no request is pending, waiting for responses
some are, and only a run in flight has absorbed responses. -/
structure Consistent (m : Machine) : Prop where
  rest : m.state = .idle ∨ m.state = .failed → m.pending = []
  waiting : m.state = .idleWithPendingRequests → m.pending ≠ []
  absorbed : m.state ≠ .running → m.injected = []

theorem Consistent.of_running {m : Machine} (h : m.state = .running) : m.Consistent :=
  ⟨fun h' => by rcases h' with h' | h' <;> simp [h] at h', fun h' => by simp [h] at h',
    fun h' => absurd h h'⟩

theorem consistent_fail (m : Machine) : m.fail.Consistent :=
  ⟨fun _ => rfl, fun h => by simp [fail] at h, fun _ => rfl⟩

/-- Ending a superstep keeps the run state in agreement with the tables. -/
theorem Consistent.converge {m : Machine} (h : m.Consistent) (next : List Delivery) :
    (m.converge next).1.Consistent := by
  rw [converge_fst]
  split
  · refine ⟨fun hs => ?_, fun hs => ?_, fun _ => rfl⟩
    · rcases hs with hs | hs <;> split at hs <;> simp_all
    · split at hs <;> simp_all
  · exact ⟨h.rest, h.waiting, fun _ => rfl⟩

/-- A machine in agreement with its tables, with requests pending and no run in flight, is waiting
for responses. -/
theorem Consistent.waiting_of_pending {m : Machine} (hc : m.Consistent) (hp : m.pending ≠ [])
    (hr : m.state ≠ .running) : m.state = .idleWithPendingRequests := by
  cases hs : m.state with
  | idle => exact absurd (hc.rest (.inl hs)) hp
  | running => exact absurd hs hr
  | idleWithPendingRequests => rfl
  | failed => exact absurd (hc.rest (.inr hs)) hp

end Machine

open Machine in
/-- **A step of a run in flight.** On a machine `RUNNING` and in agreement with its tables, a step
of a run leaves the machine `RUNNING` exactly when the run goes on, and in agreement with its
tables; and the pending requests after it are the earlier ones, some dropped, then those it
registered. -/
theorem StepEffect.running {inst : Instance} {t t' : Task} {m' : Machine} {regs : List Request}
    (e : StepEffect inst t m' t' regs) (hr : inst.machine.state = .running)
    (hc : inst.machine.Consistent) :
    (m'.state = .running ↔ t'.isDone = false) ∧ m'.Consistent ∧
      (m'.pending.map (·.requestId)).Sublist
        (inst.machine.pending.map (·.requestId) ++ regs.map (·.requestId)) := by
  cases e with
  | fail _ hd _ _ => exact ⟨by simp [Machine.fail, hd], consistent_fail _, by simp [Machine.fail]⟩
  | superstep regs _ hd _ _ => exact ⟨by simp [hr, hd], .of_running (by simp [hr]), by simp⟩
  | converge _ hd _ _ =>
    refine ⟨?_, hc.converge _, by simp [converge_fst]; split <;> simp⟩
    rw [hd, converge_fst, converge_snd]
    split <;> simp [hr, Except.toBool]
    split <;> simp

/-- The number of runs of a world that have not ended. -/
def World.inFlight (w : World) : Nat := w.runs.countP (!·.isDone)

theorem World.inFlight_pos_iff (w : World) : 0 < w.inFlight ↔ ∃ t ∈ w.runs, t.isDone = false := by
  simp [inFlight]

namespace World

/-- The invariant of every world a fresh instance reaches, with the events produced on the
way. -/
structure Inv (w : World) (log : List Event) : Prop where
  /-- At most one run has not ended. -/
  exclusive : w.inFlight ≤ 1
  /-- The instance is `RUNNING` exactly while a run has not ended. -/
  running : w.inst.runState = .running ↔ w.inFlight = 1
  /-- The run state agrees with the tables. -/
  consistent : w.inst.machine.Consistent
  /-- The pending requests are registered ones, in the order their events reported them. -/
  registered : (w.inst.pending.map (·.requestId)).Sublist (log.filterMap Event.requestId?)

theorem inv_init (g : Graph) : Inv (init g) [] where
  exclusive := by simp [inFlight, init]
  running := by simp [inFlight, init, Instance.runState, Instance.new]
  consistent := ⟨fun _ => rfl, fun h => by simp [init, Instance.new] at h, fun _ => rfl⟩
  registered := by simp [init, Instance.pending, Instance.new]

/-- A run in flight means the instance is `RUNNING`. -/
theorem Inv.running_of_mem {w : World} {log : List Event} (hi : w.Inv log) {i : Nat} {t : Task}
    (ht : w.runs[i]? = some t) (hd : t.isDone = false) : w.inst.runState = .running := by
  have hpos : 0 < w.inFlight :=
    (inFlight_pos_iff w).2 ⟨t, List.mem_of_getElem? ht, hd⟩
  exact hi.running.2 (by have := hi.exclusive; omega)

/-- Dropping the runner of the run in flight abandons the run, which fails. -/
theorem Inv.drop_machine {w : World} {log : List Event} (hi : w.Inv log) {i : Nat} {t : Task}
    (ht : w.runs[i]? = some t) (hd : t.isDone = false) :
    (Task.drop w.inst t).machine = w.inst.machine.fail := by
  have hr : w.inst.machine.state = .running := hi.running_of_mem ht hd
  simp [Task.drop, hd, Machine.abandon, hr]

theorem countP_eraseIdx_add {l : List Task} {i : Nat} (h : i < l.length)
    (p : Task → Bool) : (l.eraseIdx i).countP p + (if p l[i] then 1 else 0) = l.countP p := by
  rw [← (List.getElem_cons_eraseIdx_perm h).countP_eq p, List.countP_cons]

/-- A run that starts on a machine `RUNNING`, in a world with none in flight, keeps the
invariant when its machine keeps only pending requests, in order, and has absorbed nothing. -/
theorem Inv.opened {w : World} {log : List Event} (hi : w.Inv log)
    (hidle : w.inst.runState ≠ .running) {machine : Machine} (hrun : machine.state = .running)
    (hsub : machine.pending.Sublist w.inst.machine.pending) (ds : List Delivery) (time : Nat) :
    (w.opened machine ds time).Inv (log ++ opening w.inst) := by
  have h0 : w.inFlight = 0 := by
    have := hi.exclusive
    have := mt hi.running.2 hidle
    omega
  have h1 : (w.opened machine ds time).inFlight = 1 := by
    simp only [inFlight, opened_runs, List.countP_append, List.countP_singleton] at h0 ⊢
    rw [h0]
    rfl
  refine ⟨by omega, by simp [h1, Instance.runState, hrun], .of_running hrun, ?_⟩
  show (machine.pending.map _).Sublist ((log ++ opening w.inst).filterMap _)
  rw [List.filterMap_append]
  exact ((hsub.map _).trans hi.registered).trans (List.sublist_append_left _ _)

/-- **Every move keeps the invariant.** -/
theorem Inv.moves {w w' : World} {a : Action} {log events : List Event} (hi : w.Inv log)
    (hm : Moves w a w' events) : w'.Inv (log ++ events) := by
  cases hm with
  | stay => simpa using hi
  | fresh req m time hidle => exact hi.opened hidle rfl (List.nil_sublist _) _ time
  | resume a rs time hidle _ hv => exact hi.opened hidle rfl (Machine.take_answered hv).sublist _ time
  | absorb rs time hr _ hv =>
    have hs : w.inst.machine.state = .running := hr
    refine ⟨hi.exclusive, ?_, .of_running hs, ?_⟩
    · simpa [inFlight, Instance.runState, hs] using hi.running.1 hr
    · simpa [Instance.pending] using (((Machine.take_answered hv).sublist.map _).trans
        hi.registered)
  | reset stores hidle =>
    exact ⟨hi.exclusive, hi.running, hi.consistent, by simpa [Instance.pending] using hi.registered⟩
  | step i t ht hd =>
    obtain ⟨regs, he, hreqs⟩ := Task.step_effect w.inst hd
    have hids : ((Task.step w.inst t).2.2.map (·.event)).filterMap Event.requestId? =
        regs.map (·.requestId) := by
      rw [Event.filterMap_requestId?, hreqs]
    obtain ⟨hstate, hcons, hsub⟩ := he.running (hi.running_of_mem ht hd) hi.consistent
    obtain ⟨hlt, rfl⟩ := List.getElem?_eq_some_iff.1 ht
    have h1 : w.inFlight = 1 := hi.running.1 (hi.running_of_mem ht hd)
    have hcount : (World.mk (Task.step w.inst w.runs[i]).1
        (w.runs.set i (Task.step w.inst w.runs[i]).2.1)).inFlight =
        if (Task.step w.inst w.runs[i]).2.1.isDone then 0 else 1 := by
      simp only [inFlight, List.countP_set hlt, hd] at h1 ⊢
      cases (Task.step w.inst w.runs[i]).2.1.isDone <;> simp [h1]
    refine ⟨by rw [hcount]; split <;> omega, ?_, hcons, ?_⟩
    · rw [hcount]
      simp only [Instance.runState, hstate]
      split <;> simp_all
    · simp only [Instance.pending, List.filterMap_append, hids]
      exact hsub.trans (hi.registered.append (List.Sublist.refl _))
  | drop i t ht =>
    obtain ⟨hlt, rfl⟩ := List.getElem?_eq_some_iff.1 ht
    have hcount := countP_eraseIdx_add hlt (!·.isDone)
    cases hd : w.runs[i].isDone with
    | true =>
      simp only [hd, Bool.not_true, Bool.false_eq_true, ↓reduceIte, Nat.add_zero] at hcount
      refine ⟨?_, ?_, ?_, ?_⟩
      · simpa [inFlight, hcount] using hi.exclusive
      · simpa [inFlight, hcount, Task.drop, hd, Instance.runState] using hi.running
      · simpa [Task.drop, hd] using hi.consistent
      · simpa [Task.drop, hd, Instance.pending] using hi.registered
    | false =>
      have hr := hi.running_of_mem ht hd
      have h0 : (World.mk (Task.drop w.inst w.runs[i]) (w.runs.eraseIdx i)).inFlight = 0 := by
        have := hi.running.1 hr
        simp only [inFlight, hd, Bool.not_false, ↓reduceIte] at hcount this ⊢
        omega
      have hm := hi.drop_machine ht hd
      refine ⟨by omega, ?_, ?_, ?_⟩
      · simp [h0, Instance.runState, hm, Machine.fail]
      · rw [hm]
        exact Machine.consistent_fail _
      · simp [Instance.pending, hm, Machine.fail]

end World

/-- **The invariant holds in every world an instance reaches.** -/
theorem Reachable.inv {w : World} {log : List Event} (h : Reachable w log) : w.Inv log := by
  induction h with
  | init g => exact World.inv_init g
  | step a _ ih => exact ih.moves (World.apply_moves _ a)

/-- A refused batch is refused for an id or a kind, never as a second run. -/
theorem Machine.Refused.ne_concurrent {pending : List Request} {batch : List (String × Message)}
    {e : FlowError} (h : Machine.Refused pending batch e) : e ≠ .concurrentRunRejected := by
  obtain ⟨pre, x, post, -, -, hr⟩ := h
  rcases hr with _ | _ | _ <;> simp

namespace Instance

/-- While the instance is `RUNNING`, a request that starts a run is refused as a second run. -/
theorem begin_of_running {inst : Instance} (h : inst.runState = .running) {req : RunRequest}
    (hs : req.Starts) : inst.begin req = .error .concurrentRunRejected := by
  have hr : inst.machine.state = .running := h
  unfold begin
  dsimp only
  rcases hs with ⟨hm, hrs⟩ | ⟨hm, rs, hrs, hne⟩
  · obtain ⟨m, hm⟩ := Option.isSome_iff_exists.1 hm
    have hnone : req.responses.filter (!·.isEmpty) = none := by
      cases h' : req.responses with
      | none => rfl
      | some rs => simp [hrs rs h']
    simp [hm, hnone, Machine.ensureNotRunning, hr, bind, Except.bind]
  · have hsome : req.responses.filter (!·.isEmpty) = some rs := by
      simp [Option.mem_def.1 hrs, hne]
    simp [hm, hsome, Machine.beginWithResponses_of_running hr, bind, Except.bind]

/-- The guard refuses no start while the instance is not `RUNNING`. -/
theorem begin_ne_concurrent {inst : Instance} (h : inst.runState ≠ .running) (req : RunRequest) :
    inst.begin req ≠ .error .concurrentRunRejected := by
  have hr : inst.machine.state ≠ .running := h
  unfold begin
  dsimp only
  intro hb
  cases hm : req.message with
  | none =>
    cases hrs : req.responses.filter (!·.isEmpty) with
    | none => simp [hm, hrs] at hb
    | some rs =>
      simp only [hm, hrs, bind, Except.bind] at hb
      split at hb
      · rename_i e he
        cases hb
        exact ((Machine.beginWithResponses_eq_error_iff hr).1 he).ne_concurrent rfl
      · cases hb
  | some m =>
    cases hrs : req.responses.filter (!·.isEmpty) with
    | some rs => simp [hm, hrs] at hb
    | none =>
      simp only [hm, hrs, Machine.ensureNotRunning, hr, ↓reduceIte, bind, Except.bind] at hb
      split at hb
      · split at hb <;> simp [Machine.beginFresh, Machine.ensureNotRunning, hr, bind,
          Except.bind, pure, Except.pure, throw, throwThe, MonadExceptOf.throw] at hb
      · simp [throw, throwThe, MonadExceptOf.throw] at hb

/-- A synchronous run fails exactly as its start does. -/
theorem run_eq_error_iff {inst : Instance} {req : RunRequest} {e : FlowError} :
    inst.run req = .error e ↔ inst.begin req = .error e := by
  unfold run
  cases inst.begin req <;> simp [bind, Except.bind, pure, Except.pure]

/-- Responses alone start a run as the machine resumes one. -/
theorem begin_responses_eq_error_iff {inst : Instance} {rs : List (String × Message)}
    (hne : rs ≠ []) {e : FlowError} :
    inst.begin { responses := some rs } = .error e ↔
      inst.machine.beginWithResponses rs = .error e := by
  have hf : (some rs).filter (!·.isEmpty) = some rs := by simp [hne]
  unfold begin
  simp only [hf]
  cases inst.machine.beginWithResponses rs <;> simp [bind, Except.bind, pure, Except.pure]

end Instance

/-- A background run fails to start exactly as its start does. -/
theorem Background.start_eq_error_iff {inst : Instance} {req : RunRequest} {time : Nat}
    {e : FlowError} : Background.start inst req time = .error e ↔ inst.begin req = .error e := by
  unfold Background.start
  cases inst.begin req <;> simp [bind, Except.bind, pure, Except.pure]

namespace World

variable {w : World} {log : List Event}

theorem Inv.running_iff (hi : w.Inv log) :
    w.inst.runState = .running ↔ ∃ t ∈ w.runs, t.isDone = false := by
  rw [hi.running, ← inFlight_pos_iff]
  have := hi.exclusive
  omega

/-- With the instance not `RUNNING`, every run has ended. -/
theorem Inv.all_done (hi : w.Inv log) (h : w.inst.runState ≠ .running) :
    ∀ t ∈ w.runs, t.isDone = true := by
  intro t ht
  by_contra hd
  exact h (hi.running_iff.2 ⟨t, ht, by simpa using hd⟩)

end World

/-- **At most one run in flight.** In every world an instance reaches, whatever the interleaving
of starts, responses, resets, steps of runs and dropped runners, at most one run has not ended,
and the instance is `RUNNING` exactly while one has not. So while one is in flight every start,
synchronous or in the background, and every reset is refused as a second run; responses restart
a run only when every run has ended; and with the instance not `RUNNING` no start is refused as a
second run. -/
theorem run_exclusive {w : World} {log : List Event} (h : Reachable w log) :
    w.inFlight ≤ 1 ∧
    (w.inst.runState = .running ↔ ∃ t ∈ w.runs, t.isDone = false) ∧
    (w.inst.runState = .running →
      (∀ req : RunRequest, req.Starts → w.inst.run req = .error .concurrentRunRejected ∧
        ∀ time, Background.start w.inst req time = .error .concurrentRunRejected) ∧
      w.inst.reset = .error .concurrentRunRejected) ∧
    (∀ rs m' ds, w.inst.machine.respond rs = .ok (m', .restart ds) →
      ∀ t ∈ w.runs, t.isDone = true) ∧
    (w.inst.runState ≠ .running → ∀ req : RunRequest,
      w.inst.run req ≠ .error .concurrentRunRejected ∧
      ∀ time, Background.start w.inst req time ≠ .error .concurrentRunRejected) := by
  have hi := h.inv
  refine ⟨hi.exclusive, hi.running_iff, fun hr => ⟨fun req hs => ?_, ?_⟩, ?_, ?_⟩
  · have hb := Instance.begin_of_running hr hs
    exact ⟨Instance.run_eq_error_iff.2 hb, fun _ => Background.start_eq_error_iff.2 hb⟩
  · simp [Instance.reset, hr]
  · intro rs m' ds hrs
    exact hi.all_done (Machine.respond_eq_restart hrs).2.2
  · intro hr req
    have hb := Instance.begin_ne_concurrent hr req
    exact ⟨mt Instance.run_eq_error_iff.1 hb, fun _ => mt Background.start_eq_error_iff.1 hb⟩

/-- The approval gate's run is begun, and while it is in flight a second run, a reset and an
answer to a request never made are tried. None of them takes: one run is in flight, and a run and
a reset are still refused. -/
theorem approval_gate_contended_exclusive :
    ∃ w log, w = (World.init Nodes.approvalGate).after
        [.begin { message := some (Nodes.text "draft") } 0,
         .begin { message := some (Nodes.text "again") } 1, .reset,
         .respond [("nope", Nodes.Approval.toMessage { approved := true })] 2] ∧
      Reachable w log ∧ w.runs.length = 1 ∧ w.inFlight ≤ 1 ∧ w.inst.runState = .running ∧
      w.inst.run { message := some (Nodes.text "again") } = .error .concurrentRunRejected ∧
      w.inst.reset = .error .concurrentRunRejected := by
  have h := (Reachable.init Nodes.approvalGate).after
    [.begin { message := some (Nodes.text "draft") } 0,
     .begin { message := some (Nodes.text "again") } 1, .reset,
     .respond [("nope", Nodes.Approval.toMessage { approved := true })] 2]
  obtain ⟨hone, -, hbusy, -, -⟩ := run_exclusive h
  obtain ⟨hbegin, hreset⟩ := hbusy (by decide)
  exact ⟨_, _, rfl, h, by decide, hone, by decide, (hbegin _ (.inl ⟨rfl, by simp⟩)).1, hreset⟩

/-- **The run-state machine agrees with its tables in every world an instance reaches.** At rest
(`IDLE` or `FAILED`) no request is pending, waiting for responses some are, and only a run in
flight has absorbed responses. A step of a run that changes the machine, as registering a request
does, is taken only while the instance is `RUNNING`; and when every request reported has an id of
its own, the pending ids are distinct. So responses restart a run only from
`IDLE_WITH_PENDING_REQUESTS`, and at rest a batch of responses that is not empty is refused,
through a handle or by a synchronous run, for the id of its first response. -/
theorem machine_consistent {w : World} {log : List Event} (h : Reachable w log) :
    w.inst.machine.Consistent ∧
    (∀ t ∈ w.runs, (Task.step w.inst t).1.machine ≠ w.inst.machine →
      w.inst.runState = .running) ∧
    ((log.filterMap Event.requestId?).Nodup → (w.inst.pending.map (·.requestId)).Nodup) ∧
    (∀ rs m' ds, w.inst.machine.respond rs = .ok (m', .restart ds) →
      w.inst.runState = .idleWithPendingRequests) ∧
    (w.inst.runState = .idle ∨ w.inst.runState = .failed → ∀ id r rest,
      w.inst.machine.respond ((id, r) :: rest) = .error (.invalidRequestId id) ∧
      w.inst.run { responses := some ((id, r) :: rest) } = .error (.invalidRequestId id)) := by
  have hi := h.inv
  refine ⟨hi.consistent, ?_, fun hn => hi.registered.nodup hn, ?_, ?_⟩
  · intro t ht hne
    obtain ⟨i, hti⟩ := List.mem_iff_getElem?.1 ht
    cases hd : t.isDone with
    | false => exact hi.running_of_mem hti hd
    | true => exact absurd (by rw [Task.step_of_isDone _ hd]) hne
  · intro rs m' ds hrs
    obtain ⟨hne, hv, hr⟩ := Machine.respond_eq_restart hrs
    obtain ⟨x, rest, rfl⟩ := List.exists_cons_of_ne_nil hne
    exact hi.consistent.waiting_of_pending hv.pending_ne_nil hr
  · intro hrest id r rest
    have hp : w.inst.machine.pending = [] := hi.consistent.rest hrest
    have hr : w.inst.machine.state ≠ .running := by
      rcases hrest with hs | hs <;> simp [Instance.runState] at hs <;> simp [hs]
    have hrf := hp ▸ Machine.refused_of_pending_nil id r rest
    refine ⟨Machine.respond_eq_error_iff.2 ⟨by simp, hrf⟩, ?_⟩
    exact Instance.run_eq_error_iff.2 ((Instance.begin_responses_eq_error_iff (by simp)).2
      ((Machine.beginWithResponses_eq_error_iff hr).2 hrf))

/-- The approval gate's run registers its request and converges waiting for it, and approving
the request restarts the run. Waiting, the machine agrees with its one pending request, and that
the answer restarts the run shows it was waiting; restarted, it is running and agrees again. -/
theorem approval_gate_restart_consistent :
    ∃ v log, v = (World.init Nodes.approvalGate).after
        [.begin { message := some (Nodes.text "draft") } 0, .step 0, .step 0] ∧
      Reachable v log ∧ v.inst.machine.Consistent ∧ (v.inst.pending.map (·.requestId)).Nodup ∧
      v.inst.runState = .idleWithPendingRequests ∧
      ∃ w log', w = (v.apply (.respond (v.inst.pending.map fun r =>
          (r.requestId, Nodes.Approval.toMessage { approved := true })) 5)).1 ∧
        Reachable w log' ∧ w.inst.machine.Consistent ∧ w.inst.runState = .running := by
  have hv := (Reachable.init Nodes.approvalGate).after
    [.begin { message := some (Nodes.text "draft") } 0, .step 0, .step 0]
  obtain ⟨hcv, -, hnv, hrv, -⟩ := machine_consistent hv
  have hwaiting := hrv (((World.init Nodes.approvalGate).after
    [.begin { message := some (Nodes.text "draft") } 0, .step 0, .step 0]).inst.pending.map fun r =>
      (r.requestId, Nodes.Approval.toMessage { approved := true })) _ _ rfl
  exact ⟨_, _, rfl, hv, hcv, hnv (by decide), hwaiting, _, _, rfl, hv.step _,
    (machine_consistent (hv.step _)).1, by decide⟩

end Superstep
