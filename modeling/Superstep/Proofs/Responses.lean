import Mathlib
import Superstep.Engine.Machine

/-!
# Answering pending requests

A batch of responses is answered as a whole (`Machine.resolve`): the whole batch is checked
first, and only a batch that passes touches the pending requests. This module says which batches
pass (`Valid`: no id twice, and each response names a pending request that declared its kind),
and for a batch that does not, which error is reported: the one of the first response, in batch
order, that repeats an earlier id, names no pending request, or has another kind than its request
declared (`Refused`). A batch that passes removes exactly the requests it names, leaves the others
in their order, and turns each response into one delivery to the executor that made the request
(`Answered`).

The main statement is `responses_atomic`, which carries this over to `respond` (absorbed into the
run in flight, or restarting a run that converged) and to `beginWithResponses` (behind the guard
against a second run). A refused batch returns no machine, so the caller's machine is the one it
had.
-/

namespace Superstep

namespace Machine

/-! ## What the check accepts and refuses -/

/-- A batch that passes the check: no id twice, and each response names a pending request (the
first with its id) that declared the response's kind. -/
def Valid (pending : List Request) (batch : List (String × Message)) : Prop :=
  (batch.map Prod.fst).Nodup ∧
    ∀ x ∈ batch, ∃ p, pending.find? (·.requestId == x.1) = some p ∧ p.responseKind = x.2.kind

/-- Why the check refuses a response after the ids `earlier` of the batch, and with which
error. -/
inductive Rejects (pending : List Request) (earlier : List String) :
    String × Message → FlowError → Prop
  /-- The id was answered earlier in the batch. -/
  | repeated {id : String} {r : Message} : id ∈ earlier →
      Rejects pending earlier (id, r) (.invalidRequestId id)
  /-- No pending request has the id. -/
  | unknown {id : String} {r : Message} : id ∉ earlier → (∀ p ∈ pending, p.requestId ≠ id) →
      Rejects pending earlier (id, r) (.invalidRequestId id)
  /-- The request declared another kind. -/
  | mismatch {id : String} {r : Message} {p : Request} : id ∉ earlier →
      pending.find? (·.requestId == id) = some p → p.responseKind ≠ r.kind →
      Rejects pending earlier (id, r) (.responseTypeMismatch id p.responseKind r.kind)

/-- A batch refused with `e`: `e` is the error of its first offending response. -/
def Refused (pending : List Request) (batch : List (String × Message)) (e : FlowError) : Prop :=
  ∃ pre x post, batch = pre ++ x :: post ∧ Valid pending pre ∧
    Rejects pending (pre.map Prod.fst) x e

/-- What answering a batch leaves of the pending requests (`left`) and delivers (`ds`): the
requests the batch names leave and the others keep their order, and each response becomes, in
batch order, the delivery of the response to the executor that made its request. -/
structure Answered (pending : List Request) (batch : List (String × Message))
    (left : List Request) (ds : List Delivery) : Prop where
  sublist : left.Sublist pending
  perm : (left ++ batch.filterMap fun x => pending.find? (·.requestId == x.1)).Perm pending
  deliveries : List.Forall₂ (fun x d => ∃ p, pending.find? (·.requestId == x.1) = some p ∧
    d = .response p.source x.1 p.request x.2) batch ds

@[simp] theorem valid_nil (pending : List Request) : Valid pending [] := by
  simp [Valid]

theorem valid_cons_iff {pending : List Request} {x : String × Message}
    {xs : List (String × Message)} :
    Valid pending (x :: xs) ↔ x.1 ∉ xs.map Prod.fst ∧
      (∃ p, pending.find? (·.requestId == x.1) = some p ∧ p.responseKind = x.2.kind) ∧
      Valid pending xs := by
  simp only [Valid, List.map_cons, List.nodup_cons, List.forall_mem_cons]
  tauto

/-- Only which ids came earlier matters to a refusal, not their order or repeats. -/
theorem Rejects.of_mem_iff {pending : List Request} {earlier earlier' : List String}
    {x : String × Message} {e : FlowError} (h : ∀ a, a ∈ earlier ↔ a ∈ earlier')
    (hr : Rejects pending earlier x e) : Rejects pending earlier' x e := by
  cases hr with
  | repeated hm => exact .repeated ((h _).1 hm)
  | unknown hm hp => exact .unknown (fun hm' => hm ((h _).2 hm')) hp
  | mismatch hm hf hk => exact .mismatch (fun hm' => hm ((h _).2 hm')) hf hk

/-- A response whose id came earlier is refused as an invalid id. -/
theorem rejects_iff_of_mem {pending : List Request} {earlier : List String} {id : String}
    {r : Message} {e : FlowError} (h : id ∈ earlier) :
    Rejects pending earlier (id, r) e ↔ e = .invalidRequestId id := by
  constructor
  · rintro (_ | ⟨hm, _⟩ | ⟨hm, _, _⟩)
    · rfl
    · exact absurd h hm
    · exact absurd h hm
  · rintro rfl
    exact .repeated h

/-- A new id that no pending request has is refused as an invalid id. -/
theorem rejects_iff_of_find?_none {pending : List Request} {earlier : List String} {id : String}
    {r : Message} {e : FlowError} (hid : id ∉ earlier)
    (hf : pending.find? (·.requestId == id) = none) :
    Rejects pending earlier (id, r) e ↔ e = .invalidRequestId id := by
  constructor
  · rintro (⟨hm⟩ | _ | ⟨_, hf', _⟩)
    · exact absurd hm hid
    · rfl
    · rw [hf] at hf'
      cases hf'
  · rintro rfl
    exact .unknown hid fun p hp hpid => by simp_all [List.find?_eq_none]

/-- A new id that names a pending request is refused exactly when the request declared another
kind. -/
theorem rejects_iff_of_find?_some {pending : List Request} {earlier : List String} {id : String}
    {r : Message} {p : Request} {e : FlowError} (hid : id ∉ earlier)
    (hf : pending.find? (·.requestId == id) = some p) :
    Rejects pending earlier (id, r) e ↔
      p.responseKind ≠ r.kind ∧ e = .responseTypeMismatch id p.responseKind r.kind := by
  constructor
  · rintro (⟨hm⟩ | ⟨_, hall⟩ | ⟨_, hf', hk⟩)
    · exact absurd hm hid
    · have hpid := List.find?_some hf
      exact absurd (by simpa using hpid) (hall p (List.mem_of_find?_eq_some hf))
    · rw [hf] at hf'
      cases hf'
      exact ⟨hk, rfl⟩
  · rintro ⟨hk, rfl⟩
    exact .mismatch hid hf hk

/-! ## The check -/

/-- The check passes exactly a valid batch none of whose ids was seen before. -/
theorem check_eq_ok_iff {pending : List Request} {seen : List String}
    {batch : List (String × Message)} :
    check pending seen batch = .ok () ↔ (∀ x ∈ batch, x.1 ∉ seen) ∧ Valid pending batch := by
  induction batch generalizing seen with
  | nil => simp [check]
  | cons x rest ih =>
    obtain ⟨id, r⟩ := x
    rw [valid_cons_iff, List.forall_mem_cons]
    by_cases hs : id ∈ seen
    · simp [check, hs]
    cases hf : pending.find? (·.requestId == id) with
    | none => simp [check, hs, hf]
    | some p =>
      by_cases hk : p.responseKind = r.kind
      · simp only [check, hs, hf, hk, List.contains_iff_mem, bne_self_eq_false, ↓reduceIte,
          Bool.false_eq_true, ih]
        simp only [List.mem_cons, not_or, List.mem_map, not_exists, not_and, Option.some.injEq,
          exists_eq_left', hk, not_false_eq_true, true_and]
        constructor
        · rintro ⟨hrest, hv⟩
          exact ⟨fun x hx => (hrest x hx).2, fun x hx => (hrest x hx).1, hv⟩
        · rintro ⟨hseen, hid, hv⟩
          exact ⟨fun x hx => ⟨hid x hx, hseen x hx⟩, hv⟩
      · simp [check, hs, hf, hk]

/-- `Refused` after the ids `seen`: the check, started with `seen`, meets a valid prefix whose ids
are new and then an offending response. -/
private def RefusedAfter (pending : List Request) (seen : List String)
    (batch : List (String × Message)) (e : FlowError) : Prop :=
  ∃ pre x post, batch = pre ++ x :: post ∧ (∀ y ∈ pre, y.1 ∉ seen) ∧ Valid pending pre ∧
    Rejects pending (seen ++ pre.map Prod.fst) x e

private theorem not_refusedAfter_nil {pending : List Request} {seen : List String}
    {e : FlowError} : ¬ RefusedAfter pending seen [] e := by
  rintro ⟨pre, x, post, h, -⟩
  simp at h

/-- A batch is refused at its first response, or that response passes and the rest is refused
after its id. -/
private theorem refusedAfter_cons_iff {pending : List Request} {seen : List String} {id : String}
    {r : Message} {rest : List (String × Message)} {e : FlowError} :
    RefusedAfter pending seen ((id, r) :: rest) e ↔ Rejects pending seen (id, r) e ∨
      (id ∉ seen ∧ (∃ p, pending.find? (·.requestId == id) = some p ∧ p.responseKind = r.kind) ∧
        RefusedAfter pending (id :: seen) rest e) := by
  constructor
  · rintro ⟨pre, x, post, hsplit, hseen, hvalid, hrej⟩
    cases pre with
    | nil =>
      left
      simp only [List.nil_append, List.cons.injEq] at hsplit
      obtain ⟨rfl, -⟩ := hsplit
      simpa using hrej
    | cons y pre =>
      right
      simp only [List.cons_append, List.cons.injEq] at hsplit
      obtain ⟨rfl, rfl⟩ := hsplit
      obtain ⟨hid, hhead, hvalid⟩ := valid_cons_iff.1 hvalid
      refine ⟨hseen _ List.mem_cons_self, hhead, pre, x, post, rfl, ?_, hvalid, ?_⟩
      · intro z hz
        simp only [List.mem_cons, not_or]
        exact ⟨fun h => hid (List.mem_map.2 ⟨z, hz, h⟩), hseen z (List.mem_cons_of_mem _ hz)⟩
      · exact hrej.of_mem_iff fun a => by simp [or_left_comm]
  · rintro (hrej | ⟨hid, hhead, pre, x, post, rfl, hseen, hvalid, hrej⟩)
    · exact ⟨[], (id, r), rest, rfl, by simp, valid_nil _, by simpa using hrej⟩
    · refine ⟨(id, r) :: pre, x, post, rfl, ?_, ?_, ?_⟩
      · intro z hz
        rcases List.mem_cons.1 hz with rfl | hz
        · exact hid
        · exact fun h => hseen z hz (List.mem_cons_of_mem _ h)
      · refine valid_cons_iff.2 ⟨fun h => ?_, hhead, hvalid⟩
        obtain ⟨z, hz, hzid⟩ := List.mem_map.1 h
        exact hseen z hz (hzid ▸ List.mem_cons_self)
      · exact hrej.of_mem_iff fun a => by simp [or_left_comm]

/-- The check fails with the error of the first response that repeats an id seen before or
earlier in the batch, names no pending request, or has another kind than its request
declared. -/
private theorem check_eq_error_iff {pending : List Request} {seen : List String}
    {batch : List (String × Message)} {e : FlowError} :
    check pending seen batch = .error e ↔ RefusedAfter pending seen batch e := by
  induction batch generalizing seen with
  | nil => simp [check, not_refusedAfter_nil]
  | cons x rest ih =>
    obtain ⟨id, r⟩ := x
    rw [refusedAfter_cons_iff]
    by_cases hs : id ∈ seen
    · have hc : check pending seen ((id, r) :: rest) = .error (.invalidRequestId id) := by
        simp [check, hs]
      rw [hc, rejects_iff_of_mem hs]
      simp only [hs, not_true_eq_false, false_and, or_false, Except.error.injEq]
      exact eq_comm
    cases hf : pending.find? (·.requestId == id) with
    | none =>
      have hc : check pending seen ((id, r) :: rest) = .error (.invalidRequestId id) := by
        simp [check, hs, hf]
      rw [hc, rejects_iff_of_find?_none hs hf]
      simp only [reduceCtorEq, false_and, exists_false, and_false, or_false, Except.error.injEq]
      exact eq_comm
    | some p =>
      by_cases hk : p.responseKind = r.kind
      · have hc : check pending seen ((id, r) :: rest) = check pending (id :: seen) rest := by
          simp [check, hs, hf, hk]
        rw [hc, ih, rejects_iff_of_find?_some hs hf]
        simp [hs, hk]
      · have hc : check pending seen ((id, r) :: rest) =
            .error (.responseTypeMismatch id p.responseKind r.kind) := by
          simp [check, hs, hf, hk]
        rw [hc, rejects_iff_of_find?_some hs hf]
        simp only [Option.some.injEq, exists_eq_left', hk, false_and, and_false, or_false, ne_eq,
          not_false_eq_true, true_and, Except.error.injEq]
        exact eq_comm

/-! ## Removing the answered requests -/

/-- Removing the first request with one id leaves the first request with any other id where it
was. -/
theorem find?_eraseP_of_ne {pending : List Request} {id id' : String} (h : id' ≠ id) :
    (pending.eraseP (·.requestId == id)).find? (·.requestId == id') =
      pending.find? (·.requestId == id') := by
  induction pending with
  | nil => rfl
  | cons q qs ih =>
    by_cases hq : q.requestId = id
    · have hpos : (q.requestId == id) = true := by simpa using hq
      have hneg : (q.requestId == id') = false := by simpa [hq] using h.symm
      simp only [List.eraseP_cons, hpos, cond_true, List.find?_cons, hneg]
    · simp [hq, List.find?_cons, ih]

/-- The first request with an id, put in front of what is left once it is removed, is a
reordering of the table. -/
theorem perm_cons_eraseP {pending : List Request} {id : String} {p : Request}
    (h : pending.find? (·.requestId == id) = some p) :
    (p :: pending.eraseP (·.requestId == id)).Perm pending := by
  obtain ⟨hp, as, bs, rfl, has⟩ := List.find?_eq_some_iff_append.1 h
  rw [List.eraseP_append_right _ (by simpa using has),
    List.eraseP_cons_of_pos (p := fun x : Request => x.requestId == id) hp]
  exact List.perm_middle.symm

/-- Answering a valid batch removes the requests it names, keeps the others in order, and
delivers each response to the executor that made its request. -/
theorem take_answered {pending : List Request} {batch : List (String × Message)}
    (h : Valid pending batch) :
    Answered pending batch (take pending batch).1 (take pending batch).2 := by
  induction batch generalizing pending with
  | nil => exact ⟨List.Sublist.refl _, by simp [take], .nil⟩
  | cons x rest ih =>
    obtain ⟨id, r⟩ := x
    obtain ⟨hid, ⟨p, hp, -⟩, hvalid⟩ := valid_cons_iff.1 h
    have hsame : ∀ y ∈ rest, (pending.eraseP (·.requestId == id)).find? (·.requestId == y.1) =
        pending.find? (·.requestId == y.1) := fun y hy =>
      find?_eraseP_of_ne fun hy' => hid (List.mem_map.2 ⟨y, hy, hy'⟩)
    have hrest : Valid (pending.eraseP (·.requestId == id)) rest :=
      ⟨hvalid.1, fun y hy => by rw [hsame y hy]; exact hvalid.2 y hy⟩
    obtain ⟨hsub, hperm, hds⟩ := ih hrest
    have hpid : p.requestId = id := by simpa using List.find?_some hp
    simp only [take, hp]
    refine ⟨hsub.trans List.eraseP_sublist, ?_, .cons ⟨p, hp, by rw [hpid]⟩ ?_⟩
    · rw [List.filterMap_cons, hp, ← List.filterMap_congr hsame]
      exact List.perm_middle.trans ((hperm.cons p).trans (perm_cons_eraseP hp))
    · refine ((List.forall₂_and_left _ _).2 ⟨fun y hy => hy, hds⟩).imp ?_
      rintro y d ⟨hy, hyd⟩
      rwa [← hsame y hy]

/-! ## Resolving, responding and resuming -/

/-- `resolve` fails exactly when its check does, with the check's error. -/
private theorem resolve_eq_error_iff_check {m : Machine} {batch : List (String × Message)}
    {e : FlowError} : m.resolve batch = .error e ↔ check m.pending [] batch = .error e := by
  unfold resolve
  cases check m.pending [] batch <;> simp [bind, Except.bind, pure, Except.pure]

theorem resolve_eq_error_iff {m : Machine} {batch : List (String × Message)} {e : FlowError} :
    m.resolve batch = .error e ↔ Refused m.pending batch e := by
  rw [resolve_eq_error_iff_check, check_eq_error_iff]
  simp [RefusedAfter, Refused]

theorem resolve_of_valid {m : Machine} {batch : List (String × Message)}
    (h : Valid m.pending batch) :
    m.resolve batch =
      .ok ({ m with pending := (take m.pending batch).1 }, (take m.pending batch).2) := by
  have hc : check m.pending [] batch = .ok () := check_eq_ok_iff.2 ⟨by simp, h⟩
  simp [resolve, hc, bind, Except.bind, pure, Except.pure]

/-- A batch passes exactly when no response in it is refused. -/
theorem valid_iff_not_refused {pending : List Request} {batch : List (String × Message)} :
    Valid pending batch ↔ ∀ e, ¬ Refused pending batch e := by
  constructor
  · intro h e hr
    have hok := resolve_of_valid (m := { pending }) h
    rw [(resolve_eq_error_iff (m := { pending })).2 hr] at hok
    cases hok
  · intro h
    cases hc : check pending [] batch with
    | error e =>
      exact absurd (by simpa [RefusedAfter, Refused] using check_eq_error_iff.1 hc) (h e)
    | ok u => exact (check_eq_ok_iff.1 hc).2

@[simp] theorem respond_nil (m : Machine) : m.respond [] = .ok (m, .absorbed) := rfl

theorem respond_eq_error_iff {m : Machine} {batch : List (String × Message)} {e : FlowError} :
    m.respond batch = .error e ↔ batch ≠ [] ∧ Refused m.pending batch e := by
  cases batch with
  | nil => simp
  | cons x rest =>
    rw [← resolve_eq_error_iff]
    unfold respond
    cases m.resolve (x :: rest) with
    | error e' => simp [bind, Except.bind]
    | ok r =>
      simp only [bind, Except.bind, List.isEmpty_cons, Bool.false_eq_true, ↓reduceIte]
      split <;> simp [pure, Except.pure]

theorem respond_of_valid {m : Machine} {batch : List (String × Message)} (hne : batch ≠ [])
    (h : Valid m.pending batch) :
    m.respond batch = .ok (if m.state = .running then
        ({ m with
            pending := (take m.pending batch).1
            injected := m.injected ++ (take m.pending batch).2 }, .absorbed)
      else ({ m with pending := (take m.pending batch).1, state := .running },
        .restart (take m.pending batch).2)) := by
  unfold respond
  simp only [List.isEmpty_eq_false_iff.2 hne, Bool.false_eq_true, ↓reduceIte, resolve_of_valid h,
    bind, Except.bind]
  by_cases hs : m.state = .running <;> simp [hs, pure, Except.pure]

theorem beginWithResponses_of_running {m : Machine} (h : m.state = .running)
    (batch : List (String × Message)) :
    m.beginWithResponses batch = .error .concurrentRunRejected := by
  simp [beginWithResponses, ensureNotRunning, h, bind, Except.bind]

theorem beginWithResponses_eq_error_iff {m : Machine} (h : m.state ≠ .running)
    {batch : List (String × Message)} {e : FlowError} :
    m.beginWithResponses batch = .error e ↔ Refused m.pending batch e := by
  rw [← resolve_eq_error_iff]
  simp only [beginWithResponses, ensureNotRunning, h, ↓reduceIte, bind, Except.bind]
  cases m.resolve batch <;> simp [pure, Except.pure]

theorem beginWithResponses_of_valid {m : Machine} (h : m.state ≠ .running)
    {batch : List (String × Message)} (hv : Valid m.pending batch) :
    m.beginWithResponses batch =
      .ok ({ m with pending := (take m.pending batch).1, state := .running },
        (take m.pending batch).2) := by
  simp only [beginWithResponses, ensureNotRunning, h, ↓reduceIte, bind, Except.bind,
    resolve_of_valid hv]
  rfl

/-- What a successful `respond` did: nothing, for an empty batch; or it answered a valid batch and
absorbed the deliveries into the run in flight; or it answered a valid batch with no run in
flight, which restarts one. -/
theorem respond_eq_ok {m m' : Machine} {batch : List (String × Message)} {o : RespondOutcome}
    (h : m.respond batch = .ok (m', o)) :
    (batch = [] ∧ m' = m ∧ o = .absorbed) ∨
    (Valid m.pending batch ∧ m.state = .running ∧
      m' = { m with pending := (take m.pending batch).1,
                    injected := m.injected ++ (take m.pending batch).2 } ∧ o = .absorbed) ∨
    (Valid m.pending batch ∧ m.state ≠ .running ∧
      m' = { m with pending := (take m.pending batch).1, state := .running } ∧
      o = .restart (take m.pending batch).2) := by
  by_cases hne : batch = []
  · subst hne
    rw [respond_nil] at h
    cases h
    exact .inl ⟨rfl, rfl, rfl⟩
  have hv : Valid m.pending batch := by
    refine valid_iff_not_refused.2 fun e hr => ?_
    rw [(respond_eq_error_iff.2 ⟨hne, hr⟩)] at h
    cases h
  rw [respond_of_valid hne hv] at h
  by_cases hs : m.state = .running
  · rw [if_pos hs] at h
    cases h
    exact .inr (.inl ⟨hv, hs, rfl, rfl⟩)
  · rw [if_neg hs] at h
    cases h
    exact .inr (.inr ⟨hv, hs, rfl, rfl⟩)

/-- Responses restart a run only from a valid batch that is not empty, with no run in
flight. -/
theorem respond_eq_restart {m m' : Machine} {batch : List (String × Message)} {ds : List Delivery}
    (h : m.respond batch = .ok (m', .restart ds)) :
    batch ≠ [] ∧ Valid m.pending batch ∧ m.state ≠ .running := by
  rcases respond_eq_ok h with ⟨-, -, ho⟩ | ⟨-, -, -, ho⟩ | ⟨hv, hs, -, -⟩
  · cases ho
  · cases ho
  · refine ⟨?_, hv, hs⟩
    rintro rfl
    simp at h

/-- A valid batch that is not empty answers some pending request. -/
theorem Valid.pending_ne_nil {pending : List Request} {x : String × Message}
    {xs : List (String × Message)} (h : Valid pending (x :: xs)) : pending ≠ [] := by
  obtain ⟨-, ⟨p, hp, -⟩, -⟩ := valid_cons_iff.1 h
  rintro rfl
  simp at hp

/-- With nothing pending, a batch is refused for the id of its first response. -/
theorem refused_of_pending_nil (id : String) (r : Message) (rest : List (String × Message)) :
    Refused [] ((id, r) :: rest) (.invalidRequestId id) :=
  ⟨[], (id, r), rest, rfl, valid_nil _, .unknown (by simp) (by simp)⟩

/-! ## Batches are answered atomically -/

/-- **A batch of responses is answered as a whole.** For every machine and every batch: the batch
passes exactly when no response in it is refused. `resolve` fails exactly with the error of the
first offending response, and then returns no machine, so the machine stays as it was; a batch
that passes removes the requests it names, keeps the others in their order, and yields one
delivery per response, in batch order, to the executor that made its request. `respond` answers
a non-empty batch the same way, then absorbs the deliveries into the run in flight, or restarts a
run that is not in flight with them; an empty batch changes nothing. `beginWithResponses` is
refused while a run is in flight, before the batch is looked at; otherwise it answers the batch
as `resolve` does and sets the machine `RUNNING`. -/
theorem responses_atomic (m : Machine) (batch : List (String × Message)) :
    (Valid m.pending batch ↔ ∀ e, ¬ Refused m.pending batch e) ∧
    (∀ e, m.resolve batch = .error e ↔ Refused m.pending batch e) ∧
    (∀ e, m.respond batch = .error e ↔ batch ≠ [] ∧ Refused m.pending batch e) ∧
    m.respond [] = .ok (m, .absorbed) ∧
    (m.state = .running → m.beginWithResponses batch = .error .concurrentRunRejected) ∧
    (m.state ≠ .running →
      ∀ e, m.beginWithResponses batch = .error e ↔ Refused m.pending batch e) ∧
    (Valid m.pending batch → ∃ left ds, Answered m.pending batch left ds ∧
      m.resolve batch = .ok ({ m with pending := left }, ds) ∧
      (batch ≠ [] → m.respond batch = .ok (if m.state = .running then
          ({ m with pending := left, injected := m.injected ++ ds }, .absorbed)
        else ({ m with pending := left, state := .running }, .restart ds))) ∧
      (m.state ≠ .running →
        m.beginWithResponses batch = .ok ({ m with pending := left, state := .running }, ds))) := by
  refine ⟨valid_iff_not_refused, fun _ => resolve_eq_error_iff, fun _ => respond_eq_error_iff,
    respond_nil m, fun h => beginWithResponses_of_running h batch,
    fun h _ => beginWithResponses_eq_error_iff h, fun hv => ?_⟩
  exact ⟨_, _, take_answered hv, resolve_of_valid hv, fun hne => respond_of_valid hne hv,
    fun h => beginWithResponses_of_valid h hv⟩

/-- While a run is in flight, resuming is refused by the guard before the batch is looked at: the
batch below is refused for its unknown id, yet resuming reports a second run. -/
theorem beginWithResponses_guard_first :
    Refused [] [("nope", ⟨"approval_response", .bool true⟩)] (.invalidRequestId "nope") ∧
    ({ state := .running } : Machine).beginWithResponses
      [("nope", ⟨"approval_response", .bool true⟩)] = .error .concurrentRunRejected :=
  ⟨refused_of_pending_nil _ _ _, rfl⟩

end Machine

end Superstep
