import Mathlib
import Superstep.Proofs.Console
import Superstep.Proofs.Settle
import Superstep.Proofs.Admission
import Superstep.Proofs.Increment

/-!
# The synchronous loop of `flow run` answers exactly the pending requests

Without `--background`, `flow run` goes in rounds (`Cli.runRound`): a run, then one line of
input for each `request_info` event of the run, read as the event is shown (`Cli.answerTo`: an
approval request is approved by `y` or `yes` in any case and denied otherwise, and any other
request gets a message of the kind it asked for). When the run left requests waiting, the
answers start the next run.

A round whose run may start (`Cli.Round.Ready`) ends in one of four ways (`Cli.Round.Outcome`):
its first message is refused; the input runs out before every request the run reported is
answered; the run left nothing waiting, and the loop stops; or the next round resumes the run
with a batch that names every pending request once, in the order reported, with the kind it
asked for. This holds because a run settles its requests (`Instance.execute_settles`): it starts
from none pending, since a first message drops them and a batch answers all of them, and it ends
with none, or with exactly those it reported.

The main statement is `sync_loop_answers_pending`. Request ids are random in the original
program; the statement asks of the runs of the loop that none reports an id twice
(`Cli.Round.FreshIds`).
-/

namespace Superstep

namespace Cli

open Relation

/-! ## Answers typed on standard input -/

/-- The answer a line of input gives to a pending request: the request's id, and the response
the line, without its surrounding blanks, types for the kind the request asked for. -/
def answerTo (p : Request) (line : String) : String × Message :=
  (p.requestId, typedResponse p.responseKind (Text.trim line))

theorem typedMessage_kind (kind text : String) : (typedMessage kind text).kind = kind := by
  unfold typedMessage
  split <;> rfl

/-- Every typed response has the kind it was typed for. -/
theorem typedResponse_kind (kind answer : String) : (typedResponse kind answer).kind = kind := by
  unfold typedResponse
  split
  · exact typedMessage_kind kind answer
  · rename_i hk
    have hk : kind = Nodes.approvalResponseKind := by simpa using hk
    split <;> exact hk.symm

/-- In a table without repeated ids, the first request with a member's id is that member. -/
theorem find?_requestId_of_mem {ps : List Request} {p : Request}
    (hn : (ps.map (·.requestId)).Nodup) (hp : p ∈ ps) :
    ps.find? (·.requestId == p.requestId) = some p := by
  induction ps with
  | nil => cases hp
  | cons q qs ih =>
    rw [List.map_cons, List.nodup_cons] at hn
    rcases List.mem_cons.1 hp with rfl | hq
    · exact List.find?_cons_of_pos (by simp)
    · have hne : q.requestId ≠ p.requestId := fun h => hn.1 (h ▸ List.mem_map_of_mem hq)
      rw [List.find?_cons_of_neg (by simpa using hne)]
      exact ih hn.2 hq

/-- The ids a batch of answers names are the first ids of the table, one per line. -/
theorem map_fst_answers (ps : List Request) (lines : List String) :
    (List.zipWith answerTo ps lines).map Prod.fst = (ps.map (·.requestId)).take lines.length := by
  induction ps generalizing lines with
  | nil => simp
  | cons p ps ih =>
    cases lines with
    | nil => simp
    | cons l ls =>
      rw [List.zipWith_cons_cons, List.map_cons, ih ls]
      simp [answerTo]

/-- Answering pending requests in order, one line each, passes the check when no id repeats:
each answer names its own request and has the kind it asked for. -/
theorem valid_answers {ps : List Request} (hn : (ps.map (·.requestId)).Nodup)
    (lines : List String) : Machine.Valid ps (List.zipWith answerTo ps lines) := by
  refine ⟨?_, fun x hx => ?_⟩
  · rw [map_fst_answers]
    exact hn.sublist (List.take_sublist _ _)
  · obtain ⟨i, hi, rfl⟩ := List.getElem_of_mem hx
    rw [List.getElem_zipWith]
    exact ⟨_, find?_requestId_of_mem hn (List.getElem_mem _), (typedResponse_kind _ _).symm⟩

/-- Answering requests, one line each, gives at least one answer when there is a request. -/
theorem answers_ne_nil {ps : List Request} {lines : List String} (hne : ps ≠ [])
    (hlen : ps.length ≤ lines.length) : List.zipWith answerTo ps lines ≠ [] := by
  rw [Ne, List.zipWith_eq_nil_iff, not_or]
  exact ⟨hne, List.ne_nil_of_length_pos (by have := List.length_pos_iff.2 hne; omega)⟩

/-- Answering every pending request in order, one line each, leaves none. -/
theorem take_answers (ps : List Request) {lines : List String} (hlen : ps.length ≤ lines.length) :
    (Machine.take ps (List.zipWith answerTo ps lines)).1 = [] := by
  induction ps generalizing lines with
  | nil => rfl
  | cons p ps ih =>
    cases lines with
    | nil => simp at hlen
    | cons l ls =>
      have hfirst : (p :: ps).find? (·.requestId == p.requestId) = some p :=
        List.find?_cons_of_pos (by simp)
      have herase : (p :: ps).eraseP (·.requestId == p.requestId) = ps :=
        List.eraseP_cons_of_pos (by simp)
      simp only [List.zipWith_cons_cons, answerTo, Machine.take, hfirst, herase]
      exact ih (by simpa using hlen)

/-! ## Showing events and reading answers -/

theorem simulate_showEvent (e : Event) (s : Console.Session) :
    ∃ out, Console.simulate (showEvent e).run s = (.ok (), { s with out }) := by
  unfold showEvent
  cases eventLine e with
  | none => exact ⟨s.out, rfl⟩
  | some line => exact ⟨_, Action.simulate_say line⟩

theorem Event.eq_requestInfo {e : Event} {p : Request} (h : e.request? = some p) :
    e = .requestInfo p.requestId p.source p.request p.responseKind := by
  cases e <;> simp only [Event.request?, reduceCtorEq, Option.some.injEq] at h
  subst h
  rfl

/-- An event that reports no request is answered by nothing, and reads no input. -/
theorem simulate_answerRequest_none {e : Event} (h : e.request? = none) (s : Console.Session) :
    Console.simulate (answerRequest e).run s = (.ok none, s) := by
  cases e with
  | requestInfo => simp [Event.request?] at h
  | _ => rfl

variable {p : Request} {line : String} {s : Console.Session}

/-- A request is answered by the next line of input. -/
theorem simulate_answerRequest_cons {rest : List String} (h : s.input = line :: rest) :
    ∃ out, Console.simulate
        (answerRequest (.requestInfo p.requestId p.source p.request p.responseKind)).run s =
      (.ok (some (answerTo p line)), { s with input := rest, out }) := by
  have h' : ∀ out, ({ s with out } : Console.Session).input = line :: rest := fun _ => h
  unfold answerRequest
  dsimp only
  split
  all_goals
    rw [Action.simulate_bind_ok (Action.simulate_say _),
      Action.simulate_bind_ok (Action.simulate_getLine_cons (h' _))]
    exact ⟨_, rfl⟩

/-- With no input left, a request ends the command. -/
theorem simulate_answerRequest_nil (h : s.input = []) :
    ∃ out, Console.simulate
        (answerRequest (.requestInfo p.requestId p.source p.request p.responseKind)).run s =
      (.error ⟨"stdin closed while request " ++ p.requestId ++ " was pending", []⟩, { s with out }) := by
  have h' : ∀ out, ({ s with out } : Console.Session).input = [] := fun _ => h
  unfold answerRequest
  dsimp only
  split
  all_goals
    rw [Action.simulate_bind_ok (Action.simulate_say _),
      Action.simulate_bind_ok (Action.simulate_getLine_nil (h' _))]
    exact ⟨_, rfl⟩

/-- With a line for every request the events report, each request is answered by its line, in
order, and those lines are read. -/
theorem simulate_showAndAnswer_of_le (es : List Event) (s : Console.Session)
    (h : (es.filterMap Event.request?).length ≤ s.input.length) :
    ∃ out, Console.simulate (showAndAnswer es).run s =
      (.ok (List.zipWith answerTo (es.filterMap Event.request?) s.input),
        { s with input := s.input.drop (es.filterMap Event.request?).length, out }) := by
  induction es generalizing s with
  | nil => exact ⟨s.out, rfl⟩
  | cons e rest ih =>
    obtain ⟨out₁, hshow⟩ := simulate_showEvent e s
    rw [showAndAnswer, Action.simulate_bind_ok hshow]
    cases hq : e.request? with
    | none =>
      have hlen : (rest.filterMap Event.request?).length ≤ s.input.length := by
        simpa [List.filterMap_cons, hq] using h
      obtain ⟨out₂, hrest⟩ := ih { s with out := out₁ } hlen
      rw [Action.simulate_bind_ok (simulate_answerRequest_none hq _), Action.simulate_bind_ok hrest]
      exact ⟨out₂, by simp [hq]⟩
    | some p =>
      obtain rfl := Event.eq_requestInfo hq
      obtain ⟨l, ls, hs⟩ := List.exists_cons_of_ne_nil (l := s.input) fun h0 => by
        simp [Event.request?, h0] at h
      have hlen : (rest.filterMap Event.request?).length ≤ ls.length := by
        simpa [List.filterMap_cons, Event.request?, hs] using h
      obtain ⟨out₂, hans⟩ := simulate_answerRequest_cons (p := p) (s := { s with out := out₁ }) hs
      obtain ⟨out₃, hrest⟩ := ih { s with input := ls, out := out₂ } hlen
      rw [Action.simulate_bind_ok hans, Action.simulate_bind_ok hrest]
      exact ⟨out₃, by simp [Event.request?, hs, answerTo]⟩

/-- With fewer lines than requests, the command ends at the first request left without a line,
once every line is read. -/
theorem simulate_showAndAnswer_of_lt (es : List Event) (s : Console.Session)
    (h : s.input.length < (es.filterMap Event.request?).length) :
    ∃ p out, (es.filterMap Event.request?)[s.input.length]? = some p ∧
      Console.simulate (showAndAnswer es).run s =
        (.error ⟨"stdin closed while request " ++ p.requestId ++ " was pending", []⟩,
          { s with input := [], out }) := by
  induction es generalizing s with
  | nil => simp at h
  | cons e rest ih =>
    obtain ⟨out₁, hshow⟩ := simulate_showEvent e s
    rw [showAndAnswer, Action.simulate_bind_ok hshow]
    cases hq : e.request? with
    | none =>
      have hlen : s.input.length < (rest.filterMap Event.request?).length := by
        simpa [List.filterMap_cons, hq] using h
      obtain ⟨p, out₂, hp, hrest⟩ := ih { s with out := out₁ } hlen
      rw [Action.simulate_bind_ok (simulate_answerRequest_none hq _),
        Action.simulate_bind_error hrest]
      exact ⟨p, out₂, by simpa [List.filterMap_cons, hq] using hp, rfl⟩
    | some p =>
      obtain rfl := Event.eq_requestInfo hq
      by_cases hs0 : s.input = []
      · obtain ⟨out₂, hans⟩ := simulate_answerRequest_nil (p := p) (s := { s with out := out₁ }) hs0
        rw [Action.simulate_bind_error hans]
        exact ⟨p, out₂, by simp [Event.request?, hs0], by simp [hs0]⟩
      · obtain ⟨l, ls, hs⟩ := List.exists_cons_of_ne_nil hs0
        have hlen : ls.length < (rest.filterMap Event.request?).length := by
          simpa [List.filterMap_cons, Event.request?, hs] using h
        obtain ⟨out₂, hans⟩ := simulate_answerRequest_cons (p := p) (s := { s with out := out₁ }) hs
        obtain ⟨q, out₃, hq', hrest⟩ := ih { s with input := ls, out := out₂ } hlen
        rw [Action.simulate_bind_ok hans, Action.simulate_bind_error hrest]
        exact ⟨q, out₃, by simpa [List.filterMap_cons, Event.request?, hs] using hq', rfl⟩

/-- With no request pending, the summary shows the final state and nothing else. -/
theorem simulate_summary_of_pending {inst : Instance} (h : inst.pending = [])
    (s : Console.Session) : Console.simulate (summary inst).run s =
      (.ok (), { s with out := s.out ++ ["", "📊 Final state: " ++ inst.runState.name] }) := by
  unfold summary
  rw [Action.simulate_bind_ok (Action.simulate_say _), Action.simulate_bind_ok (Action.simulate_say _)]
  simp [h]

/-! ## Rounds of the loop -/

/-- Where the synchronous loop stands before one of its rounds: the instance, the request the
round's run starts with, and the console session. -/
structure Round where
  inst : Instance
  req : RunRequest
  session : Console.Session

namespace Round

/-- Round `x` goes on to round `y`: its run left requests waiting, and `y` starts from the
answers read. -/
def Next (x y : Round) : Prop :=
  Console.simulate (runRound x.inst x.req).run x.session = (.ok (y.inst, some y.req), y.session)

/-- The run of round `x` reports no request id twice. -/
def FreshIds (x : Round) : Prop :=
  ∀ inst' r, x.inst.run x.req = .ok (inst', r) → (r.events.filterMap Event.requestId?).Nodup

/-- A round whose run may start: no run is in flight, and the round starts from a first message
or from a batch that answers every pending request once, each with the kind it asked for. -/
def Ready (x : Round) : Prop :=
  x.inst.runState ≠ .running ∧
    ((∃ m, x.req = { message := some m }) ∨
      ∃ batch, x.req = { responses := some batch } ∧ batch ≠ [] ∧
        Machine.Valid x.inst.pending batch ∧ (Machine.take x.inst.pending batch).1 = [])

/-- What one round of the loop does, with its result and the session it leaves. -/
inductive Outcome (x : Round) : Except Trouble (Instance × Option RunRequest) × Console.Session →
    Prop
  /-- The first message is refused before any run. -/
  | refused {e : FlowError} : x.inst.begin x.req = .error e → x.req.message.isSome →
      Outcome x (.error (Trouble.ofFlow e), x.session)
  /-- The input runs out at the request `p` of the run. -/
  | closed {inst' : Instance} {r : RunResult} {p : Request} {s' : Console.Session} :
      x.inst.run x.req = .ok (inst', r) →
      (r.events.filterMap Event.request?)[x.session.input.length]? = some p →
      Outcome x (.error ⟨"stdin closed while request " ++ p.requestId ++ " was pending", []⟩, s')
  /-- The run ended `IDLE` or `FAILED`, with nothing pending, and the loop stops. -/
  | stops {inst' : Instance} {r : RunResult} {s' : Console.Session} :
      x.inst.run x.req = .ok (inst', r) → (r.finalState = .idle ∨ r.finalState = .failed) →
      inst'.pending = [] → Outcome x (.ok (inst', none), s')
  /-- The run left the requests it reported waiting, under ids of their own, and the lines read
  answer them in order. -/
  | resumes {inst' : Instance} {r : RunResult} {lines : List String} {s' : Console.Session} :
      x.inst.run x.req = .ok (inst', r) → inst'.runState = .idleWithPendingRequests →
      inst'.pending = r.events.filterMap Event.request? → inst'.pending ≠ [] →
      (inst'.pending.map (·.requestId)).Nodup →
      x.session.input = lines ++ s'.input → lines.length = inst'.pending.length →
      Outcome x (.ok (inst', some { responses := some (List.zipWith answerTo inst'.pending lines) }),
        s')

/-- Round `y` goes on to round `z`, which resumes the run: the run of `y` left requests waiting,
and `z` answers each of them once, in the order reported, with the response the next line of
input types for the kind it asked for. The batch passes the check and leaves nothing pending,
and the run it starts is not refused. -/
structure Resumes (y z : Round) : Prop where
  waiting : z.inst.runState = .idleWithPendingRequests
  answered : ∃ lines, y.session.input = lines ++ z.session.input ∧
    lines.length = z.inst.pending.length ∧
    z.req = { responses := some (List.zipWith answerTo z.inst.pending lines) }
  exact : ∀ batch, z.req.responses = some batch →
    Machine.Valid z.inst.pending batch ∧ (Machine.take z.inst.pending batch).1 = []
  runs : ∃ inst' r, z.inst.run z.req = .ok (inst', r)

/-- How the loop from round `x` ended, with the result `res`. -/
inductive Ends (x : Round) : Except Trouble Instance → Prop
  /-- After the round `y`, whose run ended `IDLE` or `FAILED` with nothing pending. -/
  | settled {y : Round} {inst' : Instance} {r : RunResult} : ReflTransGen Next x y →
      y.inst.run y.req = .ok (inst', r) → (r.finalState = .idle ∨ r.finalState = .failed) →
      inst'.pending = [] → Ends x (.ok inst')
  /-- When the input ran out at the request `p` of the run of round `y`. -/
  | closed {y : Round} {inst' : Instance} {r : RunResult} {p : Request} : ReflTransGen Next x y →
      y.inst.run y.req = .ok (inst', r) →
      (r.events.filterMap Event.request?)[y.session.input.length]? = some p →
      Ends x (.error ⟨"stdin closed while request " ++ p.requestId ++ " was pending", []⟩)
  /-- With the refusal of the first run. -/
  | refused {e : FlowError} : x.inst.begin x.req = .error e → Ends x (.error (Trouble.ofFlow e))

/-- The loop from round `x`, given `fuel` rounds, answers exactly the pending requests: every
round after the first resumes the run it follows, the loop ends as `Ends` says, and the summary
after it reports no request left unanswered. -/
structure AnswersExactly (x : Round) (fuel : Nat) : Prop where
  resumes : ∀ y z, ReflTransGen Next x y → y.Next z → Resumes y z
  ends : Ends x (Console.simulate (runRounds x.inst x.req fuel).run x.session).1
  quiet : ∀ inst', (Console.simulate (runRounds x.inst x.req fuel).run x.session).1 = .ok inst' →
    ∀ s, Console.simulate (summary inst').run s =
      (.ok (), { s with out := s.out ++ ["", "📊 Final state: " ++ inst'.runState.name] })

/-! ## Computing the rounds of the loop -/

/-- The round after `x`, when its run left requests waiting and answers were read. -/
def successor? (x : Round) : Option Round :=
  match Console.simulate (runRound x.inst x.req).run x.session with
  | (.ok (inst, some req), session) => some ⟨inst, req, session⟩
  | _ => none

/-- The loop goes on from a round to one round only, the one `successor?` computes. -/
theorem next_iff_successor {x y : Round} : x.Next y ↔ x.successor? = some y := by
  unfold Next successor?
  obtain ⟨i, q, s⟩ := y
  generalize Console.simulate (runRound x.inst x.req).run x.session = R
  obtain ⟨_ | ⟨inst, _ | req⟩, session⟩ := R <;> simp [and_assoc]

/-- The rounds the loop from `x` goes through, in order, when it stops within `n` rounds; `none`
when it would go on past them. -/
def rounds (x : Round) : Nat → Option (List Round)
  | 0 => none
  | n + 1 =>
    match x.successor? with
    | none => some [x]
    | some y => (y.rounds n).map (x :: ·)

/-- Every round the loop reaches is one of the rounds it goes through. -/
theorem mem_rounds_of_reaches {n : Nat} {x y : Round} {ys : List Round} (hr : x.rounds n = some ys)
    (h : ReflTransGen Next x y) : y ∈ ys := by
  -- the loop is deterministic: from `x` it can only go to `x.successor?`
  induction n generalizing x ys with
  | zero => cases hr
  | succ n ih =>
    cases hs : x.successor? with
    | none =>
      simp only [rounds, hs, Option.some.injEq] at hr
      subst hr
      rcases h.cases_head with rfl | ⟨z, hxz, -⟩
      · exact List.mem_singleton_self _
      · rw [next_iff_successor, hs] at hxz
        cases hxz
    | some x' =>
      simp only [rounds, hs, Option.map_eq_some_iff] at hr
      obtain ⟨ys', hr', rfl⟩ := hr
      rcases h.cases_head with rfl | ⟨z, hxz, hzy⟩
      · exact List.mem_cons_self
      · rw [next_iff_successor, hs, Option.some_inj] at hxz
        subst hxz
        exact List.mem_cons_of_mem _ (ih hr' hzy)

theorem freshIds_iff (x : Round) : x.FreshIds ↔
    ∀ p ∈ (x.inst.run x.req).toOption, (p.2.events.filterMap Event.requestId?).Nodup := by
  unfold FreshIds
  cases x.inst.run x.req with
  | error e => simp [Except.toOption]
  | ok p =>
    obtain ⟨i, r⟩ := p
    simp [Except.toOption]

instance : DecidablePred FreshIds := fun x => decidable_of_iff _ (freshIds_iff x).symm

/-- When the loop from `x` stops within `n` rounds, its runs report no id twice as soon as those
of the rounds it goes through do. -/
theorem freshIds_of_rounds {x : Round} {n : Nat} (hr : (x.rounds n).isSome)
    (hf : ∀ y ∈ (x.rounds n).getD [], y.FreshIds) : ∀ y, ReflTransGen Next x y → y.FreshIds := by
  intro y hy
  obtain ⟨ys, hys⟩ := Option.isSome_iff_exists.1 hr
  rw [hys, Option.getD_some] at hf
  exact hf y (mem_rounds_of_reaches hys hy)

/-! ## One round -/

/-- The run of a round that may start is refused only for a first message; otherwise it starts
with nothing pending and settles its requests. -/
theorem Ready.run {x : Round} (h : x.Ready) :
    (∃ e, x.inst.begin x.req = .error e ∧ x.req.message.isSome) ∨
      ∃ inst' r, x.inst.run x.req = .ok (inst', r) ∧ inst'.Settles [] r := by
  obtain ⟨hidle, ⟨m, hm⟩ | ⟨batch, hb, hne, hv, htake⟩⟩ := h
  · have hbegin : x.inst.begin x.req = _ :=
      Instance.begin_of_message (show x.req.message = some m by rw [hm]) (by simp [hm])
    rw [if_neg hidle] at hbegin
    by_cases ha : x.inst.graph.startAccepts m.kind = true
    · rw [if_pos ha] at hbegin
      exact .inr (Instance.run_settles_of_begin hbegin rfl)
    · rw [if_neg ha] at hbegin
      exact .inl ⟨_, hbegin, by simp [hm]⟩
  · have hbegin : x.inst.begin x.req = _ :=
      Instance.begin_of_responses (show x.req.message = none by rw [hb])
        (show x.req.responses = some batch by rw [hb]) hne
    rw [Machine.beginWithResponses_of_valid hidle hv] at hbegin
    exact .inr (Instance.run_settles_of_begin hbegin htake)

/-- **One round** of the loop, from a round whose run may start and reports no id twice. -/
theorem Ready.round {x : Round} (h : x.Ready) (hf : x.FreshIds) :
    x.Outcome (Console.simulate (runRound x.inst x.req).run x.session) := by
  rcases h.run with ⟨e, hb, hmsg⟩ | ⟨inst', r, hrun, hset⟩
  · have hrun : x.inst.run x.req = .error e := Instance.run_eq_error_iff.2 hb
    rw [runRound, hrun, Action.simulate_bind_error Action.simulate_attempt_error]
    exact .refused hb hmsg
  rw [runRound, hrun, Action.simulate_bind_ok Action.simulate_attempt_ok]
  by_cases hlen : (r.events.filterMap Event.request?).length ≤ x.session.input.length
  swap
  · obtain ⟨p, out, hp, hsa⟩ := simulate_showAndAnswer_of_lt r.events x.session (by omega)
    rw [Action.simulate_bind_error hsa]
    exact .closed hrun hp
  obtain ⟨out, hsa⟩ := simulate_showAndAnswer_of_le r.events x.session hlen
  rw [Action.simulate_bind_ok hsa]
  by_cases hw : r.finalState = .idleWithPendingRequests
  · obtain ⟨hpend, hne⟩ := hset.waiting hw
    rw [List.nil_append] at hpend
    rw [← hpend] at hlen ⊢
    have hans := answers_ne_nil hne hlen
    have hzip : List.zipWith answerTo inst'.pending x.session.input =
        List.zipWith answerTo inst'.pending (x.session.input.take inst'.pending.length) := by
      rw [List.zipWith_eq_zipWith_take_min, min_eq_left hlen, List.take_length]
    rw [if_neg (by simp [hw, hans]), Action.simulate_pure, hzip]
    refine .resumes hrun (by rw [hset.state, hw]) hpend hne ?_ (List.take_append_drop _ _).symm
      (List.length_take_of_le hlen)
    rw [hpend, ← Event.filterMap_requestId?]
    exact hf _ _ hrun
  · rw [if_pos (by simp [hw]), Action.simulate_pure]
    obtain ⟨hfin, hempty⟩ := hset.done hw
    exact .stops hrun hfin hempty

/-- A round that goes on is resumed by the next one, which may start again, with less input. -/
theorem Ready.next {x z : Round} (h : x.Ready) (hf : x.FreshIds) (hn : x.Next z) :
    x.Resumes z ∧ z.Ready ∧ z.session.input.length < x.session.input.length := by
  have ho := h.round hf
  obtain ⟨zi, zq, zs⟩ := z
  unfold Next at hn
  generalize hR : Console.simulate (runRound x.inst x.req).run x.session = R at ho hn
  cases ho with
  | refused => cases hn
  | closed => cases hn
  | stops => cases hn
  | resumes hrun hwait hpend hne hnodup hsplit hlen =>
    rename_i inst' r lines s'
    simp only [Prod.mk.injEq, Except.ok.injEq, Option.some.injEq] at hn
    obtain ⟨⟨rfl, rfl⟩, rfl⟩ := hn
    have hready : Ready ⟨inst', { responses := some (List.zipWith answerTo inst'.pending lines) }, s'⟩ :=
      ⟨by simp [hwait], .inr ⟨_, rfl, answers_ne_nil hne hlen.ge, valid_answers hnodup lines,
        take_answers _ hlen.ge⟩⟩
    refine ⟨⟨hwait, ⟨lines, hsplit, hlen, rfl⟩, fun batch hb => ?_, ?_⟩, hready, ?_⟩
    · obtain rfl : _ = batch := Option.some.inj hb
      exact ⟨valid_answers hnodup lines, take_answers _ hlen.ge⟩
    · rcases hready.run with ⟨e, -, hmsg⟩ | ⟨inst'', r', hrun', -⟩
      · simp at hmsg
      · exact ⟨inst'', r', hrun'⟩
    · show s'.input.length < x.session.input.length
      have hpos := List.length_pos_iff.2 hne
      rw [hsplit, List.length_append]
      omega

/-- Every round the loop reaches may start. -/
theorem ready_of_reaches {x y : Round} (hx : x.Ready) (hf : ∀ z, ReflTransGen Next x z → z.FreshIds)
    (h : ReflTransGen Next x y) : y.Ready := by
  induction h with
  | refl => exact hx
  | tail hxy hyz ih => exact (ih.next (hf _ hxy) hyz).2.1

/-- An ending of the loop from a round that the loop reaches from `x`, where the first message
is not refused, is an ending of the loop from `x`. -/
theorem Ends.head {x z : Round} {res : Except Trouble Instance} (hn : x.Next z)
    (hruns : ∃ inst' r, z.inst.run z.req = .ok (inst', r)) (h : Ends z res) : Ends x res := by
  cases h with
  | settled hzy hrun hfin hpend => exact .settled (.head hn hzy) hrun hfin hpend
  | closed hzy hrun hp => exact .closed (.head hn hzy) hrun hp
  | refused hb =>
    obtain ⟨inst', r, hrun⟩ := hruns
    rw [Instance.run_eq_error_iff.2 hb] at hrun
    cases hrun

/-- **The loop ends**, given a round for every line of input and one more: every round that
goes on reads a line. -/
theorem ends_of_runRounds (fuel : Nat) {x : Round} (hx : x.Ready)
    (hf : ∀ z, ReflTransGen Next x z → z.FreshIds) (hfuel : x.session.input.length < fuel) :
    Ends x (Console.simulate (runRounds x.inst x.req fuel).run x.session).1 := by
  induction fuel generalizing x with
  | zero => omega
  | succ n ih =>
    have ho := hx.round (hf x .refl)
    rw [runRounds]
    generalize hR : Console.simulate (runRound x.inst x.req).run x.session = R at ho
    cases ho with
    | refused hb _ =>
      rw [Action.simulate_bind_error hR]
      exact .refused hb
    | closed hrun hp =>
      rw [Action.simulate_bind_error hR]
      exact .closed .refl hrun hp
    | stops hrun hfin hpend =>
      rw [Action.simulate_bind_ok hR]
      exact .settled .refl hrun hfin hpend
    | resumes hrun hwait hpend hne hnodup hsplit hlen =>
      rename_i inst' r lines s'
      have hn : x.Next ⟨inst', _, s'⟩ := hR
      obtain ⟨hres, hz, hshort⟩ := hx.next (hf x .refl) hn
      have hlt : s'.input.length < n := by
        have h' : s'.input.length < x.session.input.length := hshort
        omega
      rw [Action.simulate_bind_ok hR]
      exact (ih hz (fun w hw => hf w (.head hn hw)) hlt).head hn hres.runs

end Round

/-! ## The loop -/

/-- **The synchronous loop of `flow run` answers exactly the pending requests.** For every
instance with no run in flight, every first message and every input, given a round for every
line of input and one more, and given that no run of the loop reports a request id twice:
every round after the first resumes the run it follows with a batch that names each request the
run left waiting once, in the order reported, with the response its line types for the kind it
asked for, so the batch passes the check, leaves nothing pending, and its run is not refused;
the loop ends after the first run that ended `IDLE` or `FAILED`, with nothing pending, so the
summary shows the final state only; or when the input runs out, naming the request it was asking
about; or, for a first message the start executor does not accept, with that refusal. -/
theorem sync_loop_answers_pending (inst : Instance) (m : Message) (s : Console.Session)
    (fuel : Nat) (hidle : inst.runState ≠ .running) (hfuel : s.input.length < fuel)
    (hfresh : ∀ y, ReflTransGen Round.Next ⟨inst, { message := some m }, s⟩ y → y.FreshIds) :
    Round.AnswersExactly ⟨inst, { message := some m }, s⟩ fuel := by
  have hx : Round.Ready ⟨inst, { message := some m }, s⟩ := ⟨hidle, .inl ⟨m, rfl⟩⟩
  have hends := Round.ends_of_runRounds fuel hx hfresh hfuel
  refine ⟨fun y z hy hn => ((Round.ready_of_reaches hx hfresh hy).next (hfresh y hy) hn).1,
    hends, fun inst' hres s' => ?_⟩
  rw [hres] at hends
  cases hends with
  | settled _ _ _ hpend => exact simulate_summary_of_pending hpend s'

/-- The loop on one approval gate, given the answer `y`, answers exactly the pending requests. -/
theorem approval_gate_loop_answered :
    Round.AnswersExactly ⟨Instance.new Nodes.approvalGate, { message := some (Nodes.text "draft") },
      { input := ["y"] }⟩ 2 :=
  sync_loop_answers_pending _ _ _ 2 (by decide) (by decide)
    (Round.freshIds_of_rounds (n := 2) (by decide +kernel) (by decide +kernel))

/-- A first message of a kind the start executor does not accept fails the loop at once, with the
refusal: not after a run, and not for want of input. -/
theorem refused_first_message_fails_loop :
    (Console.simulate (runRounds (Instance.new Nodes.pingPong)
        { message := some (typedMessage "text" "5") } 2).run { input := [] }).1 =
      .error (Trouble.ofFlow (.workflow (.unsupportedMessage "ping" "text"))) ∧
    (Trouble.ofFlow (.workflow (.unsupportedMessage "ping" "text"))).message =
      "Workflow error: Start executor 'ping' does not accept message kind 'text'" ∧
    ∀ rid, (Trouble.ofFlow (.workflow (.unsupportedMessage "ping" "text"))).message ≠
      "stdin closed while request " ++ rid ++ " was pending" := by
  have hidle : ¬ (Instance.new Nodes.pingPong).runState = .running := by decide
  have hkind : ¬ (Instance.new Nodes.pingPong).graph.startAccepts "text" = true := by decide
  have hb : (Instance.new Nodes.pingPong).begin { message := some (typedMessage "text" "5") } =
      .error (.workflow (.unsupportedMessage "ping" "text")) := by
    rw [Instance.begin_of_message rfl (by simp), if_neg hidle, typedMessage_kind, if_neg hkind]
    rfl
  have hmsg : (Trouble.ofFlow (.workflow (.unsupportedMessage "ping" "text"))).message =
      "Workflow error: Start executor 'ping' does not accept message kind 'text'" := by
    decide +kernel
  refine ⟨?_, hmsg, fun rid h => ?_⟩
  · rw [runRounds, runRound, Instance.run_eq_error_iff.2 hb,
      Action.simulate_bind_error (Action.simulate_bind_error Action.simulate_attempt_error)]
  · rw [hmsg] at h
    have h1 := congrArg (fun t => t.toList.take 1) h
    simp only [String.toList_append, List.append_assoc] at h1
    rw [List.take_append_of_le_length (by decide +kernel)] at h1
    exact absurd h1 (by decide +kernel)

end Cli

end Superstep
