import Mathlib
import Superstep.Proofs.RunState

/-!
# The ledger of requests and responses

Along every history of an instance, requests and the responses to them are kept as in a ledger
(`World.Ledger`). No id is both pending and answered, and none is answered twice, as long as
every request reported has an id of its own. Each pending request is the one its `request_info`
event reported. Each response delivery created answers a reported request: it is addressed to the
executor that made the request, carries the request's message, and a response of the declared
kind. And every response created is, exactly once, handed to its handler, still waiting (absorbed,
or held by the run in flight for its next superstep), or dropped when that run failed or was
abandoned.

Only the run in flight holds deliveries (`World.Inv.others_done`), so what waits is what it holds
and what was absorbed. The ledger is kept by every move (`World.Ledger.moves`), and one move
changes the pending requests as `World.Moves.pending_iff` says: the requests it registers join,
and a request leaves when it is answered, a run begins from a first message, or a run fails or is
abandoned.
-/

namespace Superstep

/-- The id of the request a delivery answers, for a response. -/
def Delivery.answers? : Delivery → Option String
  | .message .. => none
  | .response _ id _ _ => some id

/-- The `request_info` event that reports a request. -/
def Request.info (p : Request) : Event :=
  .requestInfo p.requestId p.source p.request p.responseKind

/-- The delivery of a response to a request: to the executor that made it, with the request's id
and message. -/
def Request.answer (p : Request) (response : Message) : Delivery :=
  .response p.source p.requestId p.request response

@[simp] theorem Request.answers?_answer (p : Request) (response : Message) :
    (p.answer response).answers? = some p.requestId := rfl

@[simp] theorem Request.requestId?_info (p : Request) : p.info.requestId? = some p.requestId := rfl

/-- Every request a list of events reports is reported there by its own event. -/
theorem Event.info_mem {es : List Event} {p : Request} (h : p ∈ es.filterMap Event.request?) :
    p.info ∈ es := by
  obtain ⟨e, he, hp⟩ := List.mem_filterMap.1 h
  cases e <;> simp only [Event.request?, reduceCtorEq, Option.some.injEq] at hp
  subst hp
  exact he

theorem Event.mem_requestIds {es : List Event} {p : Request} (h : p.info ∈ es) :
    p.requestId ∈ es.filterMap Event.requestId? :=
  List.mem_filterMap.2 ⟨p.info, h, rfl⟩

namespace Machine

variable {pending : List Request} {batch : List (String × Message)} {left : List Request}
  {ds : List Delivery}

/-- The requests a valid batch finds are the ones with its ids, in batch order. -/
theorem Valid.found_ids (hv : Valid pending batch) :
    (batch.filterMap fun x => pending.find? (·.requestId == x.1)).map (·.requestId) =
      batch.map Prod.fst := by
  induction batch with
  | nil => rfl
  | cons x rest ih =>
    obtain ⟨-, ⟨p, hp, -⟩, hrest⟩ := valid_cons_iff.1 hv
    have hid : p.requestId = x.1 := by simpa using List.find?_some hp
    simp [hp, hid, ih hrest]

/-- The ids left and the ids answered make up the pending ids. -/
theorem Answered.ids_perm (h : Answered pending batch left ds) (hv : Valid pending batch) :
    (left.map (·.requestId) ++ batch.map Prod.fst).Perm (pending.map (·.requestId)) := by
  have hp := h.perm.map (·.requestId)
  rwa [List.map_append, hv.found_ids] at hp

/-- With distinct pending ids, a request is left exactly when it was pending and the batch does
not name it. -/
theorem Answered.mem_left_iff (h : Answered pending batch left ds) (hv : Valid pending batch)
    (hn : (pending.map (·.requestId)).Nodup) {r : String} :
    r ∈ left.map (·.requestId) ↔ r ∈ pending.map (·.requestId) ∧ r ∉ batch.map Prod.fst := by
  have hp := h.ids_perm hv
  have hnd := hp.nodup_iff.2 hn
  constructor
  · intro hr
    exact ⟨hp.subset (List.mem_append_left _ hr),
      fun hb => (List.nodup_append.1 hnd).2.2 r hr r hb rfl⟩
  · rintro ⟨hr, hb⟩
    rcases List.mem_append.1 (hp.symm.subset hr) with h | h
    · exact h
    · exact absurd h hb

/-- Each response of a batch is delivered for the id it names, in batch order. -/
theorem Answered.answers (h : Answered pending batch left ds) :
    ds.filterMap Delivery.answers? = batch.map Prod.fst := by
  obtain ⟨-, -, hds⟩ := h
  induction hds with
  | nil => rfl
  | cons hxd _ ih =>
    obtain ⟨p, -, rfl⟩ := hxd
    simp [Delivery.answers?, ih]

/-- Each delivery of a valid batch answers a pending request, with the kind it declared. -/
theorem Answered.answer_of_mem (h : Answered pending batch left ds) (hv : Valid pending batch)
    {d : Delivery} (hd : d ∈ ds) :
    ∃ p ∈ pending, ∃ response, d = p.answer response ∧ response.kind = p.responseKind := by
  obtain ⟨-, -, hds⟩ := h
  have hk := hv.2
  clear hv
  induction hds with
  | nil => cases hd
  | @cons x d' rest ds' hxd _ ih =>
    rcases List.mem_cons.1 hd with rfl | hd
    · obtain ⟨p, hp, rfl⟩ := hxd
      obtain ⟨p', hp', hkind⟩ := hk x (by simp)
      obtain rfl : p = p' := Option.some.inj (hp.symm.trans hp')
      have hid : p.requestId = x.1 := by simpa using List.find?_some hp
      exact ⟨p, List.mem_of_find?_eq_some hp, x.2, by rw [Request.answer, hid], hkind.symm⟩
    · exact ih hd fun y hy => hk y (List.mem_cons_of_mem _ hy)

end Machine

@[simp] theorem Task.upcoming_of_isDone {t : Task} (h : t.isDone = true) : t.upcoming = [] := by
  rcases t with ⟨n, _ | _ | _, c⟩ <;> simp_all [Task.isDone, Task.dueAt, Task.upcoming]

theorem Task.flatMap_upcoming_of_done {runs : List Task} (h : ∀ t ∈ runs, t.isDone = true) :
    runs.flatMap Task.upcoming = [] :=
  List.flatMap_eq_nil_iff.2 fun t ht => Task.upcoming_of_isDone (h t ht)

namespace World

variable {w : World} {log : List Event}

/-- Every run but the one in flight has ended. -/
theorem Inv.others_done (hi : w.Inv log) {i : Nat} {t : Task} (ht : w.runs[i]? = some t)
    (hd : t.isDone = false) : ∀ u ∈ w.runs.eraseIdx i, u.isDone = true := by
  obtain ⟨hlt, rfl⟩ := List.getElem?_eq_some_iff.1 ht
  have hcount := countP_eraseIdx_add hlt (!·.isDone)
  have h1 : w.inFlight = 1 := hi.running.1 (hi.running_of_mem ht hd)
  simp only [inFlight, hd, Bool.not_false, ↓reduceIte] at hcount h1
  have h0 : (w.runs.eraseIdx i).countP (!·.isDone) = 0 := by omega
  intro u hu
  simpa using List.countP_eq_zero.1 h0 u hu

/-- With no run in flight, no response waits. -/
theorem Inv.waiting_eq_nil (hi : w.Inv log) (h : w.inst.runState ≠ .running) : w.waiting = [] := by
  have hinj : w.inst.machine.injected = [] := hi.consistent.absorbed h
  simp [waiting, hinj, Task.flatMap_upcoming_of_done (hi.all_done h)]

/-- When the run in flight is replaced by `t'`, what waits is what the instance `inst'` absorbed
and what `t'` holds. -/
theorem Inv.waiting_set (hi : w.Inv log) {i : Nat} {t : Task} (ht : w.runs[i]? = some t)
    (hd : t.isDone = false) (inst' : Instance) (t' : Task) :
    (World.mk inst' (w.runs.set i t')).waiting.Perm
      ((inst'.machine.injected ++ t'.upcoming).filter (·.isResponse)) := by
  have hlt : i < w.runs.length := (List.getElem?_eq_some_iff.1 ht).1
  have hperm : (w.runs.set i t').Perm (t' :: w.runs.eraseIdx i) := by
    have h := (List.getElem_cons_eraseIdx_perm (l := w.runs.set i t') (by simpa using hlt)).symm
    simpa [List.eraseIdx_set_eq] using h
  have hflat := hperm.flatMap_right Task.upcoming
  rw [List.flatMap_cons, Task.flatMap_upcoming_of_done (hi.others_done ht hd),
    List.append_nil] at hflat
  exact ((hflat.append_left _).filter _)

/-- With a run in flight, what waits is what was absorbed and what the run holds. -/
theorem Inv.waiting_perm (hi : w.Inv log) {i : Nat} {t : Task} (ht : w.runs[i]? = some t)
    (hd : t.isDone = false) :
    w.waiting.Perm ((w.inst.machine.injected ++ t.upcoming).filter (·.isResponse)) := by
  obtain ⟨hlt, rfl⟩ := List.getElem?_eq_some_iff.1 ht
  have h := hi.waiting_set ht hd w.inst w.runs[i]
  rwa [List.set_getElem_self] at h

/-- Dropping a run that has ended leaves what waits as it was. -/
theorem waiting_eraseIdx_of_done {i : Nat} {t : Task} (ht : w.runs[i]? = some t)
    (hd : t.isDone = true) : (World.mk w.inst (w.runs.eraseIdx i)).waiting.Perm w.waiting := by
  obtain ⟨hlt, rfl⟩ := List.getElem?_eq_some_iff.1 ht
  have hflat := (List.getElem_cons_eraseIdx_perm hlt).flatMap_right Task.upcoming
  rw [List.flatMap_cons, Task.upcoming_of_isDone hd, List.nil_append] at hflat
  exact ((hflat.append_left _).filter _)

/-- The deliveries of a valid batch are all responses. -/
theorem take_responses {pending : List Request} {rs : List (String × Message)}
    (hv : Machine.Valid pending rs) :
    (Machine.take pending rs).2.filter (·.isResponse) = (Machine.take pending rs).2 := by
  refine List.filter_eq_self.2 fun d hd => ?_
  obtain ⟨p, -, response, rfl, -⟩ := (Machine.take_answered hv).answer_of_mem hv hd
  rfl

/-- A run that starts with no run in flight waits on what its machine absorbed and on the
responses among its first deliveries. -/
theorem Inv.waiting_opened (hi : w.Inv log) (hidle : w.inst.runState ≠ .running)
    (machine : Machine) (ds : List Delivery) (time : Nat) :
    (w.opened machine ds time).waiting = (machine.injected ++ ds).filter (·.isResponse) := by
  simp [waiting, Task.flatMap_upcoming_of_done (hi.all_done hidle), Task.upcoming]

/-! ## The ledger -/

/-- The bookkeeping of requests and responses along a history that produced the events `log`,
created the responses `C`, handed `D` to their handlers and dropped `L`. -/
structure Ledger (w : World) (log : List Event) (C D L : List Delivery) : Prop where
  /-- The invariant of every world reached. -/
  inv : w.Inv log
  /-- No id is both pending and answered, and none is answered twice. -/
  distinct : (w.inst.pending.map (·.requestId) ++ C.filterMap Delivery.answers?).Nodup
  /-- Each pending request is the one its `request_info` event reported. -/
  reported : ∀ p ∈ w.inst.pending, p.info ∈ log
  /-- Each response created answers a reported request, with the kind it declared. -/
  answered : ∀ d ∈ C, ∃ (p : Request) (response : Message), d = p.answer response ∧ p.info ∈ log ∧
    response.kind = p.responseKind
  /-- Each response created was handed to its handler, waits, or was dropped, once. -/
  conserved : C.Perm (D ++ w.waiting ++ L)

theorem ledger_init (g : Graph) : Ledger (init g) [] [] [] [] where
  inv := inv_init g
  distinct := by simp [init, Instance.pending, Instance.new]
  reported := by simp [init, Instance.pending, Instance.new]
  answered := by simp
  conserved := by simp [waiting, init, Instance.new]

variable {C D L : List Delivery}

/-- Every id pending or answered was reported. -/
theorem Ledger.logged (hl : Ledger w log C D L) {r : String}
    (hr : r ∈ w.inst.pending.map (·.requestId) ++ C.filterMap Delivery.answers?) :
    r ∈ log.filterMap Event.requestId? := by
  rcases List.mem_append.1 hr with hr | hr
  · obtain ⟨p, hp, rfl⟩ := List.mem_map.1 hr
    exact Event.mem_requestIds (hl.reported p hp)
  · obtain ⟨d, hd, hdr⟩ := List.mem_filterMap.1 hr
    obtain ⟨p, response, rfl, hinfo, -⟩ := hl.answered d hd
    simp only [Request.answers?_answer, Option.some.injEq] at hdr
    subst hdr
    exact Event.mem_requestIds hinfo

/-- No id is answered twice. -/
theorem Ledger.answers_nodup (hl : Ledger w log C D L) : (C.filterMap Delivery.answers?).Nodup :=
  (List.nodup_append.1 hl.distinct).2.1

/-- Responses that join those waiting, with nothing handed on or dropped, keep every response
counted once. -/
theorem Ledger.conserved_join (hl : Ledger w log C D L) {A W' : List Delivery}
    (hw : W'.Perm (w.waiting ++ A)) : (C ++ A).Perm (D ++ W' ++ L) := by
  classical
  refine List.perm_iff_count.2 fun x => ?_
  have hc := List.perm_iff_count.1 hl.conserved x
  have hw' := List.perm_iff_count.1 hw x
  simp only [List.count_append] at hc hw' ⊢
  omega

/-- The answers recorded stay answered once more events happen. -/
theorem Ledger.answered_append (hl : Ledger w log C D L) (events : List Event) :
    ∀ d ∈ C, ∃ (p : Request) (response : Message), d = p.answer response ∧ p.info ∈ log ++ events ∧
      response.kind = p.responseKind := by
  intro d hd
  obtain ⟨p, response, rfl, hinfo, hkind⟩ := hl.answered d hd
  exact ⟨p, response, rfl, List.mem_append_left _ hinfo, hkind⟩

/-- Answering a valid batch moves its ids from the pending requests to the answers, and each
answer is to a reported request, with the kind it declared. -/
theorem Ledger.answer (hl : Ledger w log C D L) {rs : List (String × Message)}
    (hv : Machine.Valid w.inst.machine.pending rs) (events : List Event) :
    ((Machine.take w.inst.machine.pending rs).1.map (·.requestId) ++
        (C ++ (Machine.take w.inst.machine.pending rs).2).filterMap Delivery.answers?).Nodup ∧
      (∀ p ∈ (Machine.take w.inst.machine.pending rs).1, p.info ∈ log ++ events) ∧
      ∀ d ∈ C ++ (Machine.take w.inst.machine.pending rs).2, ∃ (p : Request) (response : Message), d = p.answer response ∧
        p.info ∈ log ++ events ∧ response.kind = p.responseKind := by
  have ha := Machine.take_answered hv
  refine ⟨?_, fun p hp => List.mem_append_left _ (hl.reported p (ha.sublist.subset hp)), ?_⟩
  · have hperm : ((Machine.take w.inst.machine.pending rs).1.map (·.requestId) ++
        (C ++ (Machine.take w.inst.machine.pending rs).2).filterMap Delivery.answers?).Perm
        (w.inst.pending.map (·.requestId) ++ C.filterMap Delivery.answers?) := by
      rw [List.filterMap_append, ha.answers]
      refine (List.perm_append_comm.append_left _).trans ?_
      rw [← List.append_assoc]
      exact (ha.ids_perm hv).append_right _
    exact hperm.nodup_iff.2 hl.distinct
  · intro d hd
    rcases List.mem_append.1 hd with hd | hd
    · exact hl.answered_append events d hd
    · obtain ⟨p, hp, response, rfl, hkind⟩ := ha.answer_of_mem hv hd
      exact ⟨p, response, rfl, List.mem_append_left _ (hl.reported p hp), hkind⟩

/-- Requests registered with fresh ids stay apart from the pending and the answered ones. -/
theorem Ledger.register (hl : Ledger w log C D L) {events : List Event} {regs : List Request}
    (hreqs : events.filterMap Event.request? = regs)
    (hn : ((log ++ events).filterMap Event.requestId?).Nodup) :
    ((w.inst.pending ++ regs).map (·.requestId) ++ C.filterMap Delivery.answers?).Nodup := by
  have hids : events.filterMap Event.requestId? = regs.map (·.requestId) := by
    rw [Event.filterMap_requestId?, hreqs]
  rw [List.filterMap_append, hids] at hn
  obtain ⟨-, hnew, hsep⟩ := List.nodup_append.1 hn
  have hperm : ((w.inst.pending ++ regs).map (·.requestId) ++ C.filterMap Delivery.answers?).Perm
      ((w.inst.pending.map (·.requestId) ++ C.filterMap Delivery.answers?) ++
        regs.map (·.requestId)) := by
    rw [List.map_append, List.append_assoc, List.append_assoc]
    exact List.perm_append_comm.append_left _
  refine hperm.nodup_iff.2 (List.nodup_append.2 ⟨hl.distinct, hnew, ?_⟩)
  intro r hr r' hr' heq
  exact hsep r (hl.logged hr) r' hr' heq

/-- A step of the run in flight keeps the ledger: a superstep hands what the run held to the
handlers and registers fresh requests, the end of a superstep moves what was absorbed into the
next one, and a failure drops everything waiting. -/
theorem Ledger.step (hl : Ledger w log C D L) {i : Nat} {t : Task} (ht : w.runs[i]? = some t)
    (hd : t.isDone = false)
    (hn : ((log ++ ((Task.step w.inst t).2.2.map (·.event))).filterMap Event.requestId?).Nodup) :
    Ledger ⟨(Task.step w.inst t).1, w.runs.set i (Task.step w.inst t).2.1⟩
      (log ++ ((Task.step w.inst t).2.2.map (·.event))) (C ++ w.created (.step i))
      (D ++ w.dispatched (.step i)) (L ++ w.lost (.step i)) := by
  have hinv := hl.inv.moves (.step w i t ht hd)
  have hw : w.waiting.Perm (w.inst.machine.injected.filter (·.isResponse) ++
      t.upcoming.filter (·.isResponse)) := by
    simpa [List.filter_append] using hl.inv.waiting_perm ht hd
  have hwait' := hl.inv.waiting_set ht hd (Task.step w.inst t).1 (Task.step w.inst t).2.1
  have hdisp : w.dispatched (.step i) = (t.dispatched w.inst).filter (·.isResponse) := by
    simp [dispatched, ht]
  have hlost : w.lost (.step i) =
      if (Task.step w.inst t).2.1.failed then w.waiting else [] := by
    simp [lost, ht, hd]
  have hcreated : w.created (.step i) = [] := rfl
  obtain ⟨regs, he, hreqs⟩ := Task.step_effect w.inst hd
  rw [hcreated, List.append_nil]
  have hpend : (Task.step w.inst t).1.pending = (Task.step w.inst t).1.machine.pending := rfl
  generalize hm' : (Task.step w.inst t).1.machine = m' at he hwait' hpend
  generalize ht' : (Task.step w.inst t).2.1 = t' at he hwait' hlost hinv
  cases he with
  | fail hf _ hup hd' =>
    have hnil : (World.mk (Task.step w.inst t).1 (w.runs.set i t')).waiting = [] := by
      simpa [Machine.fail, hup] using hwait'
    refine ⟨hinv, ?_, by simp [hpend, Machine.fail], hl.answered_append _, ?_⟩
    · simpa [hpend, Machine.fail] using hl.answers_nodup
    · refine hl.conserved.trans ?_
      simpa [hdisp, hlost, hf, hd', hnil] using List.perm_append_comm.append_left D
  | superstep regs hf _ hd' hup =>
    refine ⟨hinv, by simpa [hm', Instance.pending] using hl.register hreqs hn, ?_,
      hl.answered_append _, ?_⟩
    · intro p hp
      rcases List.mem_append.1 (by simpa [hpend] using hp) with hp | hp
      · exact List.mem_append_left _ (hl.reported p hp)
      · exact List.mem_append_right _ (Event.info_mem (hreqs ▸ hp))
    · have hw' : (World.mk (Task.step w.inst t).1 (w.runs.set i t')).waiting.Perm
          (w.inst.machine.injected.filter (·.isResponse)) := by
        simpa [List.filter_append, hup] using hwait'
      rw [hdisp, hlost, hf, hd']
      simp only [Bool.false_eq_true, ↓reduceIte, List.append_nil]
      refine (((hl.conserved.trans ((hw.append_left D).append_right L)).trans ?_).trans
        ((hw'.symm.append_left _).append_right L))
      rw [List.append_assoc D (t.upcoming.filter _)]
      exact (List.perm_append_comm.append_left D).append_right L
  | converge hf _ hd' hup =>
    have hw' : (World.mk (Task.step w.inst t).1 (w.runs.set i t')).waiting.Perm
        (t.upcoming.filter (·.isResponse) ++ w.inst.machine.injected.filter (·.isResponse)) := by
      simpa [List.filter_append, hup] using hwait'
    refine ⟨hinv, by simpa [hm', Instance.pending] using hl.distinct, fun p hp => ?_,
      hl.answered_append _, ?_⟩
    · exact List.mem_append_left _ (hl.reported p (by simpa [hm', Instance.pending] using hp))
    · rw [hdisp, hlost, hf, hd']
      simp only [Bool.false_eq_true, ↓reduceIte, List.append_nil, List.filter_nil]
      exact ((hl.conserved.trans ((hw.append_left D).append_right L)).trans
        ((List.perm_append_comm.append_left D).append_right L)).trans
        ((hw'.symm.append_left D).append_right L)

/-- Dropping a runner keeps the ledger: one that has ended changes nothing, and one in flight
abandons its run, which drops everything waiting. -/
theorem Ledger.drop (hl : Ledger w log C D L) {i : Nat} {t : Task} (ht : w.runs[i]? = some t) :
    Ledger ⟨Task.drop w.inst t, w.runs.eraseIdx i⟩ log (C ++ w.created (.drop i))
      (D ++ w.dispatched (.drop i)) (L ++ w.lost (.drop i)) := by
  have hinv := hl.inv.moves (.drop w i t ht)
  rw [List.append_nil] at hinv
  have hc : w.created (.drop i) = [] := rfl
  have hd : w.dispatched (.drop i) = [] := rfl
  rw [hc, hd, List.append_nil, List.append_nil]
  cases hdone : t.isDone with
  | true =>
    have hinst : Task.drop w.inst t = w.inst := by simp [Task.drop, hdone]
    have hlost : w.lost (.drop i) = [] := by simp [lost, ht, hdone]
    rw [hinst] at hinv ⊢
    rw [hlost, List.append_nil]
    exact ⟨hinv, hl.distinct, hl.reported, hl.answered, hl.conserved.trans
      (((waiting_eraseIdx_of_done ht hdone).symm.append_left D).append_right L)⟩
  | false =>
    have hm := hl.inv.drop_machine ht hdone
    have hlost : w.lost (.drop i) = w.waiting := by simp [lost, ht, hdone]
    have hnil : (World.mk (Task.drop w.inst t) (w.runs.eraseIdx i)).waiting = [] := by
      simp [waiting, hm, Machine.fail, Task.flatMap_upcoming_of_done (hl.inv.others_done ht hdone)]
    refine ⟨hinv, ?_, by simp [Instance.pending, hm, Machine.fail], hl.answered, ?_⟩
    · simpa [Instance.pending, hm, Machine.fail] using hl.answers_nodup
    · rw [hlost, hnil, List.append_nil]
      refine hl.conserved.trans ?_
      rw [List.append_assoc]
      exact List.perm_append_comm.append_left D

/-- **Every move keeps the ledger**, as long as the requests its events report have ids of their
own. -/
theorem Ledger.moves (hl : Ledger w log C D L) {a : Action} {w' : World} {events : List Event}
    (hm : Moves w a w' events) (hn : ((log ++ events).filterMap Event.requestId?).Nodup) :
    Ledger w' (log ++ events) (C ++ w.created a) (D ++ w.dispatched a) (L ++ w.lost a) := by
  have hinv := hl.inv.moves hm
  cases hm with
  | stay _ _ hc hd hlo =>
    rw [hc, hd, hlo, List.append_nil, List.append_nil, List.append_nil, List.append_nil]
    exact hl
  | fresh req m time hidle _ _ hc =>
    have hw : (w.opened { state := .running } [.message w.inst.graph.start m] time).waiting =
        [] := by
      simp [hl.inv.waiting_opened hidle, Delivery.isResponse]
    have hdl : w.dispatched (.begin req time) = [] ∧ w.lost (.begin req time) = [] := ⟨rfl, rfl⟩
    rw [hc, hdl.1, hdl.2, List.append_nil, List.append_nil, List.append_nil]
    refine ⟨hinv, ?_, by simp [Instance.pending], hl.answered_append _, ?_⟩
    · simpa [Instance.pending] using hl.answers_nodup
    · simpa [hw, hl.inv.waiting_eq_nil hidle] using hl.conserved
  | resume a rs time hidle _ hv hact _ hc =>
    obtain ⟨hdist, hrep, hans⟩ := hl.answer hv (opening w.inst)
    have hinj : w.inst.machine.injected = [] := hl.inv.consistent.absorbed hidle
    have hdl : w.dispatched a = [] ∧ w.lost a = [] := by
      rcases hact with rfl | ⟨req, rfl⟩ <;> exact ⟨rfl, rfl⟩
    rw [hc, hdl.1, hdl.2, List.append_nil, List.append_nil]
    refine ⟨hinv, by simpa [Instance.pending] using hdist, by simpa [Instance.pending] using hrep,
      hans, ?_⟩
    rw [hl.inv.waiting_opened hidle, hinj, List.nil_append, take_responses hv]
    exact hl.conserved_join (by rw [hl.inv.waiting_eq_nil hidle, List.nil_append])
  | absorb rs time hr _ hv _ hc =>
    obtain ⟨hdist, hrep, hans⟩ := hl.answer hv []
    have hdl : w.dispatched (.respond rs time) = [] ∧ w.lost (.respond rs time) = [] :=
      ⟨rfl, rfl⟩
    rw [hc, hdl.1, hdl.2, List.append_nil, List.append_nil]
    rw [List.append_nil] at hinv ⊢
    refine ⟨hinv, by simpa [Instance.pending] using hdist, by simpa [Instance.pending] using hrep,
      by simpa using hans, ?_⟩
    refine hl.conserved_join ?_
    simp only [waiting, List.filter_append, take_responses hv, List.append_assoc]
    exact List.perm_append_comm.append_left _
  | reset stores hidle =>
    have hcdl : w.created .reset = [] ∧ w.dispatched .reset = [] ∧ w.lost .reset = [] :=
      ⟨rfl, rfl, rfl⟩
    rw [hcdl.1, hcdl.2.1, hcdl.2.2, List.append_nil, List.append_nil, List.append_nil,
      List.append_nil]
    rw [List.append_nil] at hinv
    exact ⟨hinv, hl.distinct, hl.reported, hl.answered, hl.conserved⟩
  | step i t ht hd => exact hl.step ht hd hn
  | drop i t ht => simpa using hl.drop ht

end World


/-- **What one move does to the pending requests.** With distinct pending ids, a request is
pending after a move exactly when it was before and the move did not release it, or the move
registered it. -/
theorem Moves.pending_iff {w w' : World} {a : Action} {log events : List Event} (hi : w.Inv log)
    (hn : (w.inst.pending.map (·.requestId)).Nodup) (hm : Moves w a w' events) (r : String) :
    r ∈ w'.inst.pending.map (·.requestId) ↔
      (r ∈ w.inst.pending.map (·.requestId) ∧ ¬ w.Releases a r) ∨
        r ∈ events.filterMap Event.requestId? := by
  cases hm with
  | stay _ hrel => simp [hrel r]
  | fresh req m time _ _ hrel => simp [Instance.pending, hrel r, World.opening, Event.requestId?]
  | resume a rs time _ _ hv _ hrel =>
    simp only [World.opened_inst, Instance.pending] at hn ⊢
    rw [(Machine.take_answered hv).mem_left_iff hv hn, hrel r]
    simp [World.opening, Event.requestId?]
  | absorb rs time _ _ hv hrel =>
    simp only [Instance.pending] at hn ⊢
    rw [(Machine.take_answered hv).mem_left_iff hv hn, hrel r]
    simp
  | reset stores => simp [Instance.pending, World.Releases]
  | step i t ht hd =>
    have hrel : w.Releases (.step i) r ↔ (Task.step w.inst t).2.1.failed = true := by
      simp [World.Releases, ht, hd]
    obtain ⟨regs, he, hreqs⟩ := Task.step_effect w.inst hd
    rw [hrel, Event.filterMap_requestId?, hreqs]
    have hpend : (Task.step w.inst t).1.pending = (Task.step w.inst t).1.machine.pending := rfl
    rw [hpend]
    generalize (Task.step w.inst t).1.machine = m' at he
    generalize (Task.step w.inst t).2.1 = t' at he
    cases he with
    | fail hf => simp [Machine.fail, hf]
    | superstep regs hf => simp [Instance.pending, hf]
    | converge hf => simp [Instance.pending, hf]
  | drop i t ht =>
    have hrel : w.Releases (.drop i) r ↔ t.isDone = false := by simp [World.Releases, ht]
    rw [hrel]
    cases hd : t.isDone with
    | true => simp [Task.drop, hd]
    | false => simp [Instance.pending, hi.drop_machine ht hd, Machine.fail]

end Superstep
