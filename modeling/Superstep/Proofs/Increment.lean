import Mathlib
import Superstep.Proofs.Admission
import Superstep.Proofs.Progress
import Superstep.Proofs.Handlers
import Superstep.Proofs.Exact

/-!
# Counting round a loop

The increment executor reads an integer from its message, adds its increment with a check
against the signed 64-bit range, and yields the sum once it reaches the executor's limit, or
sends it on as a number. A number travels as a double, so a sum sent on reads back as itself
exactly when its magnitude is at most `2^53` (`Nodes.number_asI64`); above that the next hop
reads the nearest double (`increment_sum_rounds_above_2_53`).

A loop of increment executors started with a number therefore takes one superstep per addition,
each superstep sending the sum on to the one executor that takes numbers next, until a sum
reaches the limit: that superstep yields it, hands nothing on, and the run ends `IDLE`
(`Instance.run_increment_loop`). The run lemma is an induction on the additions left, each step
of it two steps of the run (`Task.hop_below`, `Task.hop_limit`).
-/

namespace Superstep

theorem JsonNumber.i64Min_eq : JsonNumber.i64Min = -9223372036854775808 := rfl

theorem JsonNumber.i64Max_eq : JsonNumber.i64Max = 9223372036854775807 := rfl

/-- A sum of a number read exactly and a positive increment is checked only against the upper
end of the 64-bit range. -/
theorem JsonNumber.add_inRange {x d : Int} (hlo : -2 ^ 53 ≤ x) (hd : 1 ≤ d)
    (hmax : x + d ≤ JsonNumber.i64Max) :
    JsonNumber.i64Min ≤ x + d ∧ x + d ≤ JsonNumber.i64Max := by
  rw [JsonNumber.i64Min_eq]
  rw [JsonNumber.i64Max_eq] at hmax ⊢
  omega

namespace Nodes

variable {id : String} {d : Int} {limit : Option Int} {m : Message} {c : Context}

theorem incrementer_handle_of_not_integer (h : m.body.asI64? = none) :
    ((incrementer id d limit).handle m).run.run c =
      (.error (.invalidPayload m.kind "expected an integer body"), c) := by
  simp only [incrementer, simple, h, Handler.run_bind, run_lift_error]

theorem incrementer_handle_of_overflow {x : Int} (h : m.body.asI64? = some x)
    (hr : ¬ (JsonNumber.i64Min ≤ x + d ∧ x + d ≤ JsonNumber.i64Max)) :
    ((incrementer id d limit).handle m).run.run c =
      (.error (.executionFailed (toString x ++ " + " ++ toString d ++ " overflows")), c) := by
  simp only [incrementer, simple, h, lift_ok, incremented, hr, if_false, Handler.run_bind,
    Handler.run_pure, run_lift_error]

theorem incrementer_handle_of_limit {x l : Int} (h : m.body.asI64? = some x)
    (hr : JsonNumber.i64Min ≤ x + d ∧ x + d ≤ JsonNumber.i64Max) (hl : l ≤ x + d) :
    ((incrementer id d (some l)).handle m).run.run c =
      (.ok (), { c with effects := c.effects ++ [.output (Value.ofInt (x + d))] }) := by
  simp only [incrementer, simple, h, lift_ok, incremented, hr, and_self, if_true, hl,
    Handler.run_bind, Handler.run_pure, Handler.run_yieldOutput]

theorem incrementer_handle_of_below {x : Int} (h : m.body.asI64? = some x)
    (hr : JsonNumber.i64Min ≤ x + d ∧ x + d ≤ JsonNumber.i64Max)
    (hl : ∀ l, limit = some l → x + d < l) :
    ((incrementer id d limit).handle m).run.run c =
      (.ok (), { c with outbox := c.outbox ++ [⟨number (x + d), none⟩] }) := by
  cases limit with
  | none =>
    simp only [incrementer, simple, h, lift_ok, incremented, hr, and_self, if_true,
      Handler.run_bind, Handler.run_pure, Handler.run_send]
  | some l =>
    have hlt : ¬ l ≤ x + d := not_le.2 (hl l rfl)
    simp only [incrementer, simple, h, lift_ok, incremented, hr, and_self, if_true, hlt, if_false,
      Handler.run_bind, Handler.run_pure, Handler.run_send]

/-- An integer of magnitude at most `2^53` sent as a number reads back as itself. -/
theorem number_asI64 {y : Int} (hy : y.natAbs ≤ 2 ^ 53) : (number y).body.asI64? = some y := by
  obtain ⟨hint, -, htrunc⟩ := Binary64.truncSat_ofInt hy
  simp [number, Value.ofInt, Value.asI64?, hint, htrunc]

end Nodes

/-- A graph whose executors all add `d` to the integers they get, yield those that reach `limit`,
and send the others on to exactly one executor; the start is one of them. -/
structure Graph.IncrementLoop (g : Graph) (d limit : Int) : Prop where
  handle : ∀ e ∈ g.nodes, e.handle = (Nodes.incrementer e.id d (some limit)).handle
  accepts : ∀ e ∈ g.nodes, e.caps.canHandle Nodes.numberKind = true
  next : ∀ e ∈ g.nodes, ∃ t, g.route e.id Nodes.numberKind none = [t]
  start : (g.executor? g.start).isSome = true

/-- A receiver of a message is an executor of the graph. -/
theorem Graph.executor?_of_mem_route {g : Graph} {source kind r : String} {target : Option String}
    (h : r ∈ g.route source kind target) : (g.executor? r).isSome = true := by
  unfold Graph.route at h
  obtain ⟨-, hr⟩ := List.mem_filter.1 h
  cases he : g.executor? r with
  | none => simp [he] at hr
  | some e => rfl

namespace Instance

variable {g : Graph} {d limit : Int} {inst : Instance} {s : String} {e : Executor} {x : Int}

theorem dispatch_number (hg : g.IncrementLoop d limit) (hinst : inst.graph = g)
    (he : g.executor? s = some e) (hx : (Nodes.number x).body.asI64? = some x)
    (hr : JsonNumber.i64Min ≤ x + d ∧ x + d ≤ JsonNumber.i64Max) (n : Nat) :
    (inst.dispatch n (.message s (Nodes.number x))).2 =
      if limit ≤ x + d then ⟨[], [.output (Value.ofInt (x + d))], .ok (), e.pause⟩
      else ⟨[⟨Nodes.number (x + d), none⟩], [], .ok (), e.pause⟩ := by
  have hmem : e ∈ g.nodes := List.mem_of_find?_eq_some he
  have hkind : (Nodes.number x).kind = Nodes.numberKind := rfl
  unfold dispatch
  simp only [Delivery.target, hinst, he, hkind, hg.accepts e hmem, if_true, hg.handle e hmem]
  by_cases hl : limit ≤ x + d
  · rw [Nodes.incrementer_handle_of_limit hx hr hl, if_pos hl]
    rfl
  · rw [Nodes.incrementer_handle_of_below hx hr fun l hl' => by cases hl'; exact not_le.1 hl,
      if_neg hl]
    rfl

end Instance

namespace Task

variable {g : Graph} {d limit : Int} {inst : Instance} {t : Task} {s : String} {e : Executor}
  {x : Int}

theorem step_number (hg : g.IncrementLoop d limit) (hinst : inst.graph = g)
    (hp : t.phase = .ready [.message s (Nodes.number x)]) (hl : t.supersteps < g.maxSupersteps)
    (he : g.executor? s = some e) (hx : (Nodes.number x).body.asI64? = some x)
    (hr : JsonNumber.i64Min ≤ x + d ∧ x + d ≤ JsonNumber.i64Max) :
    (step inst t).1.graph = g ∧ (step inst t).1.machine = inst.machine ∧
      (step inst t).2.1 = { t with
        supersteps := t.supersteps + 1
        phase := .closing (if limit ≤ x + d then [] else
            (g.route s Nodes.numberKind none).map fun r => .message r (Nodes.number (x + d)))
          none (t.clock + e.pause) } ∧
      ((step inst t).2.2.map (·.event)).filterMap Event.asOutput? =
        if limit ≤ x + d then [Value.ofInt (x + d)] else [] := by
  have hd := Instance.dispatch_number hg hinst he hx hr (t.supersteps + 1)
  unfold step
  rw [hp]
  simp only [hinst, Nat.not_le.2 hl, if_false, Instance.superstep, List.foldl, Instance.deliver, hd]
  have hkind : (Nodes.number (x + d)).kind = Nodes.numberKind := rfl
  by_cases hlim : limit ≤ x + d
  · simp [hlim, Instance.publish, Delivery.target, hinst, Instance.routeAll, List.filterMap_cons,
      Event.asOutput?]
  · simp [hlim, Instance.publish, Delivery.target, hinst, Instance.routeAll, hkind,
      List.filterMap_cons, Event.asOutput?]

/-- The end of a superstep of a run with nothing pending or absorbed hands its deliveries to the
next superstep. -/
theorem step_closing_of_ne_nil {next : List Delivery} {endsAt : Nat}
    (hm : inst.machine = { state := .running }) (hp : t.phase = .closing next none endsAt)
    (hne : next ≠ []) :
    step inst t = (inst, { t with clock := endsAt, phase := .ready next }, []) := by
  have hempty : next.isEmpty = false := List.isEmpty_eq_false_iff.2 hne
  unfold step
  rw [hp]
  simp only [Machine.converge, hm, List.append_nil, hempty, Bool.false_eq_true, if_false]
  rw [← hm]

/-- The end of a superstep that handed nothing on, with nothing pending or absorbed, ends the
run `IDLE`. -/
theorem step_closing_nil {endsAt : Nat} (hm : inst.machine = { state := .running })
    (hp : t.phase = .closing [] none endsAt) :
    (step inst t).2.1.phase = .done .idle ∧
      ((step inst t).2.2.map (·.event)).filterMap Event.asOutput? = [] := by
  unfold step
  rw [hp]
  simp [Machine.converge, hm, Event.asOutput?]

/-- A superstep and its end are the first two steps of a task that is ready. -/
theorem finish_two {ds next : List Delivery} {failure : Option Failure} {endsAt : Nat}
    (hp : t.phase = .ready ds) (hc : (step inst t).2.1.phase = .closing next failure endsAt) :
    finish inst t 2 = ((step (step inst t).1 (step inst t).2.1).1,
      (step (step inst t).1 (step inst t).2.1).2.1,
      (step inst t).2.2 ++ (step (step inst t).1 (step inst t).2.1).2.2) := by
  have h1 : t.isDone = false := by simp [isDone, dueAt, hp]
  have h2 : (step inst t).2.1.isDone = false := by simp [isDone, dueAt, hc]
  rw [finish_succ_of_not_done inst h1, finish_succ_of_not_done _ h2]
  simp [finish]

section Hop

variable (hg : g.IncrementLoop d limit) (hinst : inst.graph = g)
  (hm : inst.machine = { state := .running }) (hp : t.phase = .ready [.message s (Nodes.number x)])
  (hl : t.supersteps < g.maxSupersteps) (he : g.executor? s = some e)
  (hx : (Nodes.number x).body.asI64? = some x)
  (hr : JsonNumber.i64Min ≤ x + d ∧ x + d ≤ JsonNumber.i64Max)
include hg hinst hm hp hl he hx hr

/-- A number whose sum stays below the limit: the superstep and its end send the sum on to the one
executor numbers go to, and yield nothing. -/
theorem hop_below (hlim : x + d < limit) :
    ∃ r, (g.executor? r).isSome = true ∧ (finish inst t 2).1.graph = g ∧
      (finish inst t 2).1.machine = { state := .running } ∧
      (finish inst t 2).2.1.supersteps = t.supersteps + 1 ∧
      (finish inst t 2).2.1.phase = .ready [.message r (Nodes.number (x + d))] ∧
      ((finish inst t 2).2.2.map (·.event)).filterMap Event.asOutput? = [] := by
  obtain ⟨hgraph, hmach, htask, hout⟩ := step_number hg hinst hp hl he hx hr
  have hmem : e ∈ g.nodes := List.mem_of_find?_eq_some he
  have hid : e.id = s := by simpa using List.find?_some he
  obtain ⟨r, hroute⟩ := hg.next e hmem
  rw [hid] at hroute
  have hnext : (if limit ≤ x + d then [] else
      (g.route s Nodes.numberKind none).map fun r => Delivery.message r (Nodes.number (x + d))) =
      [.message r (Nodes.number (x + d))] := by
    rw [if_neg (not_le.2 hlim), hroute]
    rfl
  rw [hnext] at htask
  rw [if_neg (not_le.2 hlim)] at hout
  have hclosing : (step inst t).2.1.phase =
      .closing [.message r (Nodes.number (x + d))] none (t.clock + e.pause) := by
    rw [htask]
  have hclose : step (step inst t).1 (step inst t).2.1 = ((step inst t).1,
      ⟨t.supersteps + 1, .ready [.message r (Nodes.number (x + d))], t.clock + e.pause⟩,
      []) := by
    rw [step_closing_of_ne_nil (hmach.trans hm) hclosing (List.cons_ne_nil _ _), htask]
  rw [finish_two hp hclosing, hclose]
  refine ⟨r, Graph.executor?_of_mem_route (by rw [hroute]; exact List.mem_singleton_self r),
    hgraph, hmach.trans hm, rfl, rfl, ?_⟩
  simpa using hout

/-- A number whose sum reaches the limit: the superstep yields the sum, and its end finds nothing
to deliver and ends the run `IDLE`. -/
theorem hop_limit (hlim : limit ≤ x + d) :
    (finish inst t 2).2.1.phase = .done .idle ∧
      ((finish inst t 2).2.2.map (·.event)).filterMap Event.asOutput? = [Value.ofInt (x + d)] := by
  obtain ⟨-, hmach, htask, hout⟩ := step_number hg hinst hp hl he hx hr
  rw [if_pos hlim] at htask hout
  have hclosing : (step inst t).2.1.phase = .closing [] none (t.clock + e.pause) := by rw [htask]
  obtain ⟨hdone, hquiet⟩ := step_closing_nil (hmach.trans hm) hclosing
  rw [finish_two hp hclosing]
  refine ⟨hdone, ?_⟩
  simp only [List.map_append, List.filterMap_append, hout, hquiet, List.append_nil]

end Hop

/-- **A run round an increment loop.** A number `x` that the loop adds `d ≥ 1` to `i` times
below the limit and once more to reach it, with every number sent of magnitude at most `2^53`,
ends the run `IDLE` after `i + 1` supersteps, yielding the last sum and nothing else. -/
theorem loop_finish (hg : g.IncrementLoop d limit) (hd : 1 ≤ d) (i : Nat) :
    ∀ (inst : Instance) (t : Task) (s : String) (x : Int), inst.graph = g →
      inst.machine = { state := .running } → t.phase = .ready [.message s (Nodes.number x)] →
      (g.executor? s).isSome = true → t.supersteps + i + 1 ≤ g.maxSupersteps →
      -2 ^ 53 ≤ x → x + i * d ≤ 2 ^ 53 →
      (∀ j : Nat, 1 ≤ j → j ≤ i → x + j * d < limit) →
      limit ≤ x + (i + 1) * d → x + (i + 1) * d ≤ JsonNumber.i64Max →
      (finish inst t (2 * (i + 1))).2.1.phase = .done .idle ∧
        ((finish inst t (2 * (i + 1))).2.2.map (·.event)).filterMap Event.asOutput? =
          [Value.ofInt (x + (i + 1) * d)] := by
  induction i with
  | zero =>
    intro inst t s x hinst hm hp hs hl hlo hhi _ hlim hmax
    obtain ⟨e, he⟩ := Option.isSome_iff_exists.1 hs
    have hx : (Nodes.number x).body.asI64? = some x := Nodes.number_asI64 (by omega)
    have hr := JsonNumber.add_inRange hlo hd (by simpa using hmax)
    simpa using hop_limit hg hinst hm hp (by omega) he hx hr (by simpa using hlim)
  | succ i ih =>
    intro inst t s x hinst hm hp hs hl hlo hhi hbelow hlim hmax
    push_cast at hhi hlim hmax
    obtain ⟨e, he⟩ := Option.isSome_iff_exists.1 hs
    have hstep : 0 ≤ ((i : Int) + 1) * d := by positivity
    have hx : (Nodes.number x).body.asI64? = some x := Nodes.number_asI64 (by omega)
    have hr := JsonNumber.add_inRange hlo hd (by nlinarith)
    have hfirst : x + d < limit := by simpa using hbelow 1 le_rfl (by omega)
    obtain ⟨r, hrs, hgraph, hmach, hsup, hphase, hout⟩ :=
      hop_below hg hinst hm hp (by omega) he hx hr hfirst
    have hbelow' : ∀ j : Nat, 1 ≤ j → j ≤ i → x + d + j * d < limit := by
      intro j hj hji
      have h := hbelow (j + 1) (by omega) (by omega)
      push_cast at h
      linarith
    have hrest := ih (finish inst t 2).1 (finish inst t 2).2.1 r (x + d) hgraph hmach hphase hrs
      (by omega) (by omega) (by nlinarith) hbelow' (by nlinarith) (by nlinarith)
    have h₁ : finish inst t 2 =
        ((finish inst t 2).1, (finish inst t 2).2.1, (finish inst t 2).2.2) := rfl
    have h₂ : finish (finish inst t 2).1 (finish inst t 2).2.1 (2 * (i + 1)) =
        ((finish (finish inst t 2).1 (finish inst t 2).2.1 (2 * (i + 1))).1,
          (finish (finish inst t 2).1 (finish inst t 2).2.1 (2 * (i + 1))).2.1,
          (finish (finish inst t 2).1 (finish inst t 2).2.1 (2 * (i + 1))).2.2) := rfl
    rw [show 2 * (i + 1 + 1) = 2 + 2 * (i + 1) by ring, finish_add inst h₁ h₂]
    refine ⟨hrest.1, ?_⟩
    rw [List.map_append, List.filterMap_append, hout, hrest.2, List.nil_append]
    congr 2
    push_cast
    ring

end Task

namespace Instance

/-- **Numbers round an increment loop.** Started with the number `n`, a loop whose executors add
`d ≥ 1` and yield what reaches `limit` ends `IDLE` with exactly one output, `n + k * d` for the
least `k ≥ 1` reaching the limit, when `k` supersteps are allowed, every number sent has magnitude
at most `2^53` and the last sum fits 64 bits. -/
theorem run_increment_loop {inst : Instance} {d limit : Int}
    (hg : inst.graph.IncrementLoop d limit) (hidle : inst.runState ≠ .running) (hd : 1 ≤ d)
    (n : Int) (k : Nat) (hk : 1 ≤ k) (hmaxk : k ≤ inst.graph.maxSupersteps)
    (hbelow : ∀ j : Nat, 1 ≤ j → j < k → n + j * d < limit) (hlim : limit ≤ n + k * d)
    (hlo : -2 ^ 53 ≤ n) (hhi : n + ((k : Int) - 1) * d ≤ 2 ^ 53)
    (hmax : n + k * d ≤ JsonNumber.i64Max) :
    ∃ inst' r, inst.run { message := some (Nodes.number n) } = .ok (inst', r) ∧
      r.finalState = .idle ∧ r.events.filterMap Event.asOutput? = [Value.ofInt (n + k * d)] := by
  obtain ⟨i, rfl⟩ : ∃ i, k = i + 1 := ⟨k - 1, by omega⟩
  push_cast at hlim hhi hmax
  simp only [add_sub_cancel_right] at hhi
  obtain ⟨e, he⟩ := Option.isSome_iff_exists.1 hg.start
  have haccepts : inst.graph.startAccepts Nodes.numberKind = true := by
    simp [Graph.startAccepts, he, hg.accepts e (List.mem_of_find?_eq_some he)]
  have hbegin : inst.begin { message := some (Nodes.number n) } =
      .ok ({ inst with machine := { state := .running } },
        [.message inst.graph.start (Nodes.number n)]) := by
    rw [begin_of_message rfl (by simp), if_neg hidle]
    exact if_pos haccepts
  set inst₁ : Instance := { inst with machine := { state := .running }, ids := inst.ids + 1 }
  set t₀ : Task := { phase := .ready [.message inst.graph.start (Nodes.number n)], clock := 0 }
  have hloop := Task.loop_finish hg hd i inst₁ t₀ inst.graph.start n rfl rfl rfl hg.start
    (by show 0 + i + 1 ≤ _; omega) hlo (by simpa using hhi)
    (fun j hj hji => hbelow j hj (by omega)) (by simpa using hlim) (by simpa using hmax)
  set fin := Task.finish inst₁ t₀ (2 * (i + 1))
  have hdone : fin.2.1.isDone = true := by simp [Task.isDone, Task.dueAt, hloop.1]
  have hfin : Task.finish inst₁ t₀ (Task.budget inst₁) = (fin.1, fin.2.1, fin.2.2 ++ []) := by
    have hfin₀ : Task.finish inst₁ t₀ (2 * (i + 1)) = (fin.1, fin.2.1, fin.2.2) := rfl
    have h := Task.finish_add inst₁ hfin₀
      (Task.finish_of_isDone fin.1 hdone (Task.budget inst₁ - 2 * (i + 1)))
    have hmax₁ : inst₁.graph.maxSupersteps = inst.graph.maxSupersteps := rfl
    rwa [show 2 * (i + 1) + (Task.budget inst₁ - 2 * (i + 1)) = Task.budget inst₁ by
      simp only [Task.budget, hmax₁]; omega] at h
  have hrun : inst.run { message := some (Nodes.number n) } = .ok (fin.1,
      ⟨(([⟨0, .started (Uuid.generated inst.ids) Timestamp.epoch⟩,
          ⟨0, .status .running Timestamp.epoch⟩] : List Stamped) ++
            (fin.2.2 ++ [])).map Stamped.event,
        fin.2.1.finalState fin.1⟩) := by
    simp only [Instance.run, hbegin, bind, Except.bind, pure, Except.pure, Instance.execute,
      Task.start]
    rw [hfin]
  refine ⟨_, _, hrun, ?_, ?_⟩
  · simp [Task.finalState, hloop.1]
  · simp only [List.append_nil, List.map_append, List.filterMap_append, hloop.2]
    simp [Event.asOutput?]

end Instance

/-- Two executors that pass a number back and forth, adding one each time, until it reaches
ten. -/
def Nodes.pingPong : Graph :=
  { name := "ping-pong", start := "ping",
    nodes := [Nodes.incrementer "ping" 1 (some 10), Nodes.incrementer "pong" 1 (some 10)],
    edges := [("ping", ["pong"]), ("pong", ["ping"])], maxSupersteps := 100 }

theorem Nodes.pingPong_incrementLoop : Nodes.pingPong.IncrementLoop 1 10 := by
  have hnodes : ∀ e ∈ Nodes.pingPong.nodes,
      e = Nodes.incrementer "ping" 1 (some 10) ∨ e = Nodes.incrementer "pong" 1 (some 10) := by
    simp [Nodes.pingPong]
  refine ⟨fun e he => ?_, fun e he => ?_, fun e he => ?_, by decide⟩ <;>
    rcases hnodes e he with rfl | rfl
  · rfl
  · rfl
  · decide
  · decide
  · exact ⟨"pong", by decide⟩
  · exact ⟨"ping", by decide⟩

/-- **The increment executor counts exactly up to `2^53`.** A message whose body is no integer
fails with `InvalidPayload`; an integer `x` whose sum `x + d` leaves the signed 64-bit range fails
with `ExecutionFailed`; otherwise the handler makes exactly one effect carrying `x + d`: an
output once the limit is set and reached, and else the number `x + d` sent on. A number of
magnitude at most `2^53` reads back as itself. So a loop of increment executors adding `d ≥ 1`,
started with `n`, ends `IDLE` with exactly one output, `n + k * d` for the least `k ≥ 1`
reaching the limit, when `k` supersteps are allowed, the numbers sent on stay within `2^53` in
magnitude and the last sum fits 64 bits. -/
theorem increment_counts_exactly (id : String) (d : Int) (limit : Option Int) (m : Message)
    (c : Context) :
    (m.body.asI64? = none → ((Nodes.incrementer id d limit).handle m).run.run c =
        (.error (.invalidPayload m.kind "expected an integer body"), c)) ∧
      (∀ x, m.body.asI64? = some x → ¬ (JsonNumber.i64Min ≤ x + d ∧ x + d ≤ JsonNumber.i64Max) →
        ((Nodes.incrementer id d limit).handle m).run.run c =
          (.error (.executionFailed (toString x ++ " + " ++ toString d ++ " overflows")), c)) ∧
      (∀ x l, m.body.asI64? = some x → JsonNumber.i64Min ≤ x + d ∧ x + d ≤ JsonNumber.i64Max →
        limit = some l → l ≤ x + d → ((Nodes.incrementer id d limit).handle m).run.run c =
          (.ok (), { c with effects := c.effects ++ [.output (Value.ofInt (x + d))] })) ∧
      (∀ x, m.body.asI64? = some x → JsonNumber.i64Min ≤ x + d ∧ x + d ≤ JsonNumber.i64Max →
        (∀ l, limit = some l → x + d < l) → ((Nodes.incrementer id d limit).handle m).run.run c =
          (.ok (), { c with outbox := c.outbox ++ [⟨Nodes.number (x + d), none⟩] })) ∧
      (∀ y : Int, y.natAbs ≤ 2 ^ 53 → (Nodes.number y).body.asI64? = some y) ∧
      ∀ (inst : Instance) (inc lim n : Int) (k : Nat), inst.graph.IncrementLoop inc lim →
        inst.runState ≠ .running → 1 ≤ inc → 1 ≤ k → k ≤ inst.graph.maxSupersteps →
        (∀ j : Nat, 1 ≤ j → j < k → n + j * inc < lim) → lim ≤ n + k * inc →
        -2 ^ 53 ≤ n → n + ((k : Int) - 1) * inc ≤ 2 ^ 53 → n + k * inc ≤ JsonNumber.i64Max →
        ∃ inst' r, inst.run { message := some (Nodes.number n) } = .ok (inst', r) ∧
          r.finalState = .idle ∧ r.events.filterMap Event.asOutput? = [Value.ofInt (n + k * inc)] := by
  refine ⟨Nodes.incrementer_handle_of_not_integer, fun x hx hr => ?_, fun x l hx hr hl hle => ?_,
    fun x hx hr hl => Nodes.incrementer_handle_of_below hx hr hl, fun y hy => Nodes.number_asI64 hy,
    fun inst inc lim n k hg hidle hinc hk hmaxk hbelow hlim hlo hhi hmax =>
      Instance.run_increment_loop hg hidle hinc n k hk hmaxk hbelow hlim hlo hhi hmax⟩
  · exact Nodes.incrementer_handle_of_overflow hx hr
  · subst hl
    exact Nodes.incrementer_handle_of_limit hx hr hle

/-- The ping-pong loop started with `0` ends `IDLE` with the one output `10`. -/
theorem ping_pong_counts_to_ten :
    Nodes.pingPong.IncrementLoop 1 10 ∧ (Instance.new Nodes.pingPong).runState ≠ .running ∧
      ∃ inst' r, (Instance.new Nodes.pingPong).run { message := some (Nodes.number 0) } =
        .ok (inst', r) ∧ r.finalState = .idle ∧ r.events.filterMap Event.asOutput? = [Value.ofInt 10] := by
  have hidle : (Instance.new Nodes.pingPong).runState ≠ .running := by decide
  refine ⟨Nodes.pingPong_incrementLoop, hidle, ?_⟩
  have h := (increment_counts_exactly "ping" 1 (some 10) (Nodes.number 0)
    { executorId := "ping", superstep := 1 }).2.2.2.2.2 (Instance.new Nodes.pingPong) 1 10 0 10
    Nodes.pingPong_incrementLoop hidle le_rfl (by norm_num) (by decide)
    (fun j _ hj => by omega) (by norm_num) (by norm_num) (by norm_num)
    (by rw [JsonNumber.i64Max_eq]; norm_num)
  simpa using h

/-- Above `2^53` a sum is not read back: the sum `2^53 + 1` that an increment by one sends on
reads back as `2^53`. -/
theorem increment_sum_rounds_above_2_53 :
    ((Nodes.incrementer "a" 1 none).handle (Nodes.number (2 ^ 53))).run.run
        { executorId := "a", superstep := 1 } =
      (.ok (), { executorId := "a", superstep := 1, outbox := [⟨Nodes.number (2 ^ 53 + 1), none⟩] }) ∧
    (Nodes.number (2 ^ 53 + 1)).body.asI64? = some (2 ^ 53) := by
  refine ⟨?_, by decide +kernel⟩
  rw [Nodes.incrementer_handle_of_below (x := 2 ^ 53) (by decide +kernel) (by decide) (by simp)]
  rfl

end Superstep
