import Mathlib
import Superstep.Proofs.Runner
import Superstep.Nodes.Standard

/-!
# What handlers record

A handler runs in a monad that lets it change its whole context. The handlers of this library
change it only through the context's operations, and those never touch the executor id of the
invocation and record a request only for that executor. `Handler.Sourced` states this, it is
kept by `bind` (`Handler.Sourced.bind`), and every operation has it; so the approval executor,
the one standard executor that makes requests, has it (`Nodes.approver_sourced`).

For a graph whose executors have it (`Graph.Sourced`), every request a handler invocation records
names the invocation's target as its source (`Instance.dispatch_sourced`).
-/

namespace Superstep

theorem Effect.requests_append (l l' : List Effect) :
    Effect.requests (l ++ l') = Effect.requests l ++ Effect.requests l' := by
  induction l with
  | nil => rfl
  | cons e l ih => cases e <;> simp [Effect.requests, ih]

/-- A handler that keeps the executor id of its invocation and records requests only for that
executor, as every handler written with the context's operations does. -/
def Handler.Sourced {α : Type} (h : Handler α) : Prop :=
  ∀ c : Context, (∀ r ∈ Effect.requests c.effects, r.source = c.executorId) →
    (h.run.run c).2.executorId = c.executorId ∧
      ∀ r ∈ Effect.requests (h.run.run c).2.effects, r.source = c.executorId

/-- An executor whose handlers record requests only for the executor they run for. -/
def Executor.Sourced (e : Executor) : Prop :=
  (∀ m, (e.handle m).Sourced) ∧ ∀ q r, (e.handleResponse q r).Sourced

/-- A graph whose executors record requests only for themselves. -/
def Graph.Sourced (g : Graph) : Prop := ∀ e ∈ g.nodes, e.Sourced

namespace Handler

theorem run_bind {α β : Type} (x : Handler α) (f : α → Handler β) (c : Context) :
    (x >>= f).run.run c = match x.run.run c with
      | (.ok a, c') => (f a).run.run c'
      | (.error e, c') => (.error e, c') := by
  rw [ExceptT.run_bind, StateT.run_bind]
  rcases x.run.run c with ⟨_ | a, c'⟩ <;> rfl

@[simp] theorem run_yieldOutput (v : Value) (c : Context) :
    (yieldOutput v).run.run c = (.ok (), { c with effects := c.effects ++ [.output v] }) := rfl

@[simp] theorem run_requestInfo (m : Message) (k : String) (c : Context) :
    (requestInfo m k).run.run c = (.ok (Uuid.generated c.ids).toText,
      { c with effects := c.effects ++ [.request ⟨(Uuid.generated c.ids).toText, c.executorId, m, k⟩],
               ids := c.ids + 1 }) := rfl

theorem run_pure {α : Type} (a : α) (c : Context) :
    (pure a : Handler α).run.run c = (.ok a, c) := rfl

theorem run_send (m : Message) (c : Context) :
    (send m).run.run c = (.ok (), { c with outbox := c.outbox ++ [⟨m, none⟩] }) := rfl

theorem run_getState (key : String) (c : Context) :
    (getState key).run.run c = (.ok (Value.lookup c.store key), c) := rfl

theorem run_setState (key : String) (v : Value) (c : Context) :
    (setState key v).run.run c = (.ok (), { c with store := Value.insertField key v c.store }) := rfl

theorem run_context (c : Context) : context.run.run c = (.ok c, c) := rfl

/-- A handler that leaves the executor id and the effects alone records nothing wrong. -/
theorem sourced_of_frame {α : Type} {h : Handler α}
    (hf : ∀ c, (h.run.run c).2.executorId = c.executorId ∧ (h.run.run c).2.effects = c.effects) :
    h.Sourced := by
  intro c hc
  obtain ⟨hid, heff⟩ := hf c
  exact ⟨hid, heff ▸ hc⟩

/-- Two handlers in sequence: the second starts from the context the first left, whose executor id
is still the invocation's. -/
theorem Sourced.bind {α β : Type} {x : Handler α} {f : α → Handler β} (hx : x.Sourced)
    (hf : ∀ a, (f a).Sourced) : (x >>= f).Sourced := by
  intro c hc
  obtain ⟨hid, hreq⟩ := hx c hc
  rw [run_bind]
  rcases hrun : x.run.run c with ⟨_ | a, c'⟩
  · rw [hrun] at hid hreq
    exact ⟨hid, hreq⟩
  · rw [hrun] at hid hreq
    obtain ⟨hid', hreq'⟩ := hf a c' (by rw [hid]; exact hreq)
    exact ⟨hid'.trans hid, fun r hr => (hreq' r hr).trans hid⟩

theorem sourced_pure {α : Type} (a : α) : (pure a : Handler α).Sourced :=
  sourced_of_frame fun _ => ⟨rfl, rfl⟩

theorem sourced_throw {α : Type} (e : ExecutorError) : (throw e : Handler α).Sourced :=
  sourced_of_frame fun _ => ⟨rfl, rfl⟩

theorem sourced_send (m : Message) : (send m).Sourced := sourced_of_frame fun _ => ⟨rfl, rfl⟩

theorem sourced_getState (key : String) : (getState key).Sourced :=
  sourced_of_frame fun _ => ⟨rfl, rfl⟩

theorem sourced_setState (key : String) (v : Value) : (setState key v).Sourced :=
  sourced_of_frame fun _ => ⟨rfl, rfl⟩

theorem sourced_context : context.Sourced := sourced_of_frame fun _ => ⟨rfl, rfl⟩

theorem sourced_yieldOutput (v : Value) : (yieldOutput v).Sourced := by
  intro c hc
  refine ⟨rfl, fun r hr => hc r ?_⟩
  simpa [Effect.requests_append, Effect.requests] using hr

/-- A new request is recorded for the executor the handler runs for. -/
theorem sourced_requestInfo (m : Message) (k : String) : (requestInfo m k).Sourced := by
  intro c hc
  refine ⟨rfl, fun r hr => ?_⟩
  simp only [run_requestInfo, Effect.requests_append, Effect.requests, List.mem_append,
    List.mem_singleton] at hr
  rcases hr with hr | rfl
  · exact hc r hr
  · rfl

end Handler

namespace Nodes

theorem lift_ok {α : Type} (a : α) : lift (.ok a : Except ExecutorError α) = pure a := rfl

theorem run_lift_error {α : Type} (e : ExecutorError) (c : Context) :
    (lift (.error e : Except ExecutorError α)).run.run c = (.error e, c) := rfl

theorem sourced_lift {α : Type} (r : Except ExecutorError α) : (lift r).Sourced := by
  cases r with
  | ok a => exact Handler.sourced_pure a
  | error e => exact Handler.sourced_throw e

/-- The approval executor asks for approval in its own name, and handles decisions without new
requests. -/
theorem approver_sourced (id prompt : String) (kinds : List String) :
    (approver id prompt kinds).Sourced := by
  refine ⟨fun m => ?_, fun q r => ?_⟩
  · show (askApproval prompt m).Sourced
    unfold askApproval
    exact (Handler.sourced_requestInfo _ _).bind fun _ => Handler.sourced_pure _
  · show (applyApproval q r).Sourced
    unfold applyApproval
    refine (sourced_lift _).bind fun held => (sourced_lift _).bind fun decision => ?_
    refine (Handler.sourced_getState _).bind fun v => (Handler.sourced_setState _ _).bind fun _ => ?_
    refine Handler.sourced_context.bind fun ctx => (Handler.sourced_yieldOutput _).bind fun _ => ?_
    split
    · exact Handler.sourced_send _
    · exact Handler.sourced_pure _

/-- The workflow of one approval gate on text messages. -/
def approvalGate : Graph :=
  { name := "gate", start := "gate", nodes := [approver "gate" "Approve?" [textKind]],
    edges := [], maxSupersteps := 100 }

end Nodes

/-- **Requests name their executor.** In a graph whose executors record requests only for
themselves, every request a handler invocation records names the delivery's target. -/
theorem Instance.dispatch_sourced (inst : Instance) (hg : inst.graph.Sourced) (n : Nat)
    (d : Delivery) : ∀ r ∈ Effect.requests (inst.dispatch n d).2.effects, r.source = d.target := by
  unfold Instance.dispatch
  cases he : inst.graph.executor? d.target with
  | none => simp [he, Effect.requests]
  | some e =>
    have hs : e.Sourced := hg e (List.mem_of_find?_eq_some he)
    rcases d with ⟨t, m⟩ | ⟨t, rid, q, r⟩
    · dsimp only [Delivery.target] at he ⊢
      simp only [he]
      split
      · exact (hs.1 m _ (by simp [Effect.requests])).2
      · simp [Effect.requests]
    · dsimp only [Delivery.target] at he ⊢
      simp only [he]
      split
      · exact (hs.2 q r _ (by simp [Effect.requests])).2
      · simp [Effect.requests]

end Superstep
