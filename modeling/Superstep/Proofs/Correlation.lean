import Mathlib
import Superstep.Proofs.Ledger

/-!
# Requests and their answers along a history

A history of an instance is a sequence of actions from a fresh instance (`World.history` pairs
each action with the world it is taken in). Along every history in which each request reported
has an id of its own, the ledger of `Superstep.Proofs.Ledger` holds at the end
(`World.Ledger.after`), and the pending requests are those an action registered and no later
action released (`World.pending_after`).

The main statement is `requests_answered_once`.
-/

namespace Superstep

namespace World

variable {w : World} {log : List Event} {C D L : List Delivery}

/-- When the ids a history reports after `log` are distinct, so are those of its first action,
and those of the rest after it. -/
private theorem nodup_cons {a : Action} {as : List Action}
    (hn : ((log ++ w.events (a :: as)).filterMap Event.requestId?).Nodup) :
    ((log ++ (w.apply a).2).filterMap Event.requestId?).Nodup ∧
      ((log ++ (w.apply a).2 ++ (w.apply a).1.events as).filterMap Event.requestId?).Nodup := by
  rw [events_cons, ← List.append_assoc] at hn
  exact ⟨hn.sublist (List.Sublist.filterMap _ (List.sublist_append_left _ _)), hn⟩

/-- **The ledger holds along every history** whose requests have ids of their own. -/
theorem Ledger.after (hl : Ledger w log C D L) (as : List Action)
    (hn : ((log ++ w.events as).filterMap Event.requestId?).Nodup) :
    Ledger (w.after as) (log ++ w.events as) (C ++ w.collect as created)
      (D ++ w.collect as dispatched) (L ++ w.collect as lost) := by
  induction as generalizing w log C D L with
  | nil => simpa [after] using hl
  | cons a as ih =>
    obtain ⟨hfirst, hrest⟩ := nodup_cons hn
    have h := ih (hl.moves (apply_moves w a) hfirst) hrest
    simpa [after] using h

/-- A split of a history at an action, with `P` of the action and the actions after it: either
at the first action, or in the rest. -/
private theorem exists_split_cons {α : Type} (y : α) (l : List α) (P : α → List α → Prop) :
    (∃ pre x post, y :: l = pre ++ x :: post ∧ P x post) ↔
      P y l ∨ ∃ pre x post, l = pre ++ x :: post ∧ P x post := by
  constructor
  · rintro ⟨pre, x, post, hsplit, hp⟩
    rcases List.cons_eq_append_iff.1 hsplit with ⟨rfl, h⟩ | ⟨pre', rfl, h⟩
    · obtain ⟨rfl, rfl⟩ := List.cons.inj h
      exact .inl hp
    · exact .inr ⟨pre', x, post, h, hp⟩
  · rintro (hp | ⟨pre, x, post, rfl, hp⟩)
    · exact ⟨[], y, l, rfl, hp⟩
    · exact ⟨y :: pre, x, post, rfl, hp⟩

/-- How one step's "kept, or registered" regroups with the rest of a history. -/
private theorem regroup {p q e h s : Prop} :
    (((p ∧ ¬q) ∨ e) ∧ h) ∨ s ↔ (p ∧ ¬q ∧ h) ∨ (e ∧ h) ∨ s := by
  tauto

/-- **Which requests are pending after a history**: those pending before that no action released,
and those an action registered and no later action released. -/
theorem pending_after (hi : w.Inv log) (as : List Action)
    (hn : ((log ++ w.events as).filterMap Event.requestId?).Nodup) (r : String) :
    r ∈ (w.after as).inst.pending.map (·.requestId) ↔
      (r ∈ w.inst.pending.map (·.requestId) ∧ ∀ y ∈ w.history as, ¬ y.1.Releases y.2 r) ∨
        ∃ pre x post, w.history as = pre ++ x :: post ∧
          r ∈ (x.1.apply x.2).2.filterMap Event.requestId? ∧ ∀ y ∈ post, ¬ y.1.Releases y.2 r := by
  induction as generalizing w log with
  | nil => simp [after, history]
  | cons a as ih =>
    obtain ⟨hfirst, hnrest⟩ := nodup_cons hn
    have hpn : (w.inst.pending.map (·.requestId)).Nodup :=
      hi.registered.nodup (hfirst.sublist (List.Sublist.filterMap _ (List.sublist_append_left _ _)))
    have hstep := (apply_moves w a).pending_iff hi hpn r
    have hrest := ih (hi.moves (apply_moves w a)) hnrest
    rw [after, hrest, hstep, history, exists_split_cons]
    simp only [List.forall_mem_cons]
    exact regroup

end World

/-- **Each request is answered at most once, and to the executor that made it.** Over every
history of a fresh instance in which each request reported has an id of its own:
- a request is pending exactly when an action registered it and no later action released it:
  answered it, began a run from a first message, or failed or abandoned a run;
- no id is answered twice, and each response created answers a reported request: it is addressed
  to the executor its `request_info` event named, carries that request's message, and a response
  of the declared kind;
- each response created is, once, handed to its handler at the start of a superstep, still
  waiting (absorbed into the run in flight, which puts it after the deliveries of the superstep
  following the one in progress, or among the first deliveries of the run it starts), or dropped
  when that run failed or was abandoned; so none is handed over twice. -/
theorem requests_answered_once (g : Graph) (as : List Action)
    (hfresh : (((World.init g).events as).filterMap Event.requestId?).Nodup) (r : String) :
    (r ∈ ((World.init g).after as).inst.pending.map (·.requestId) ↔
      ∃ pre x post, (World.init g).history as = pre ++ x :: post ∧
        r ∈ (x.1.apply x.2).2.filterMap Event.requestId? ∧ ∀ y ∈ post, ¬ y.1.Releases y.2 r) ∧
    (((World.init g).collect as World.created).filterMap Delivery.answers?).Nodup ∧
    (∀ d ∈ (World.init g).collect as World.created, ∃ (p : Request) (response : Message),
      d = p.answer response ∧ p.info ∈ (World.init g).events as ∧
        response.kind = p.responseKind) ∧
    ((World.init g).collect as World.created).Perm ((World.init g).collect as World.dispatched ++
      ((World.init g).after as).waiting ++ (World.init g).collect as World.lost) ∧
    (((World.init g).collect as World.dispatched).filterMap Delivery.answers?).Nodup := by
  have hl := (World.ledger_init g).after as (by simpa using hfresh)
  simp only [List.nil_append] at hl
  have hcreated : (((World.init g).collect as World.created).filterMap Delivery.answers?).Nodup :=
    (List.nodup_append.1 hl.distinct).2.1
  refine ⟨?_, hcreated, hl.answered, hl.conserved, ?_⟩
  · rw [World.pending_after (World.inv_init g) as (by simpa using hfresh)]
    simp [World.init, Instance.pending, Instance.new]
  · have hsub := (hl.conserved.filterMap Delivery.answers?).nodup_iff.1 hcreated
    rw [List.filterMap_append, List.filterMap_append, List.append_assoc] at hsub
    exact (List.nodup_append.1 hsub).1

/-- The approval gate's run asks for approval and converges waiting; the approval restarts it,
and the restarted run's first superstep hands the approval to the gate. The one request reported
is answered once, by a response to the gate that carries the request, and that response is handed
over once. -/
theorem approval_gate_answered_once :
    ∃ as, as = [.begin { message := some (Nodes.text "draft") } 0, .step 0, .step 0,
        .respond [("00000000-0000-4000-8000-000000000002",
          Nodes.Approval.toMessage { approved := true })] 5, .step 1, .step 1] ∧
      ((World.init Nodes.approvalGate).events as).filterMap Event.requestId? =
        ["00000000-0000-4000-8000-000000000002"] ∧
      ((World.init Nodes.approvalGate).collect as World.dispatched).filterMap Delivery.answers? =
        ["00000000-0000-4000-8000-000000000002"] ∧
      (∀ d ∈ (World.init Nodes.approvalGate).collect as World.created,
        ∃ (p : Request) (response : Message), d = p.answer response ∧
          p.info ∈ (World.init Nodes.approvalGate).events as ∧ response.kind = p.responseKind) ∧
      ((World.init Nodes.approvalGate).collect as World.created).Perm
        ((World.init Nodes.approvalGate).collect as World.dispatched ++
          ((World.init Nodes.approvalGate).after as).waiting ++
          (World.init Nodes.approvalGate).collect as World.lost) := by
  have hids : ((World.init Nodes.approvalGate).events
      [.begin { message := some (Nodes.text "draft") } 0, .step 0, .step 0,
        .respond [("00000000-0000-4000-8000-000000000002",
          Nodes.Approval.toMessage { approved := true })] 5, .step 1, .step 1]).filterMap
        Event.requestId? = ["00000000-0000-4000-8000-000000000002"] := by decide
  obtain ⟨-, -, hanswered, hconserved, -⟩ := requests_answered_once Nodes.approvalGate _
    (by rw [hids]; exact List.nodup_singleton _) ""
  exact ⟨_, rfl, hids, by decide, hanswered, hconserved⟩

end Superstep
