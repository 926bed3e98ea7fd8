import Mathlib
import Superstep.Proofs.Handlers
import Superstep.Proofs.PlainJson

/-!
# The approval gate

The approval executor holds each message it handles: it records one request for the caller,
whose body carries the prompt, the held message's kind and the held body as plain JSON, and does
nothing else. When the caller answers, the executor reads the held request back, counts the
decision under `approved` or `denied` in its store, yields the decision together with the held
body, and on approval sends a message of the held kind on.

What is sent on is the held body *read back from plain JSON*, so it equals the held body only for
what plain JSON holds (`Value.Plain`): an embedded JSON document comes back as the native value
it holds, bytes as an array of numbers (`approval_gate_unwraps_json_body`).

Reading requests and responses rests on the record decoder: a decoded record holds the record's
fields in declaration order, each decoded under its field's shape or absent with its default
(`Wire.Shape.decode_record_sound`).
-/

namespace Superstep

namespace Wire.Shape

/-- A value that can stand in a field of a decoded record: the decoding of some data under the
field's shape, or the value the field takes when absent. -/
def FieldHolds (dec : Shape → Json → Except DecodeError Json) (f : String × Shape × Option Json)
    (v : Json) : Prop :=
  (∃ x, dec f.2.1 x = .ok v) ∨ absent f.1 f.2.1 f.2.2 = .ok v

/-- A slot of a record being collected: empty, or holding a decoding under the field's shape. -/
def SlotHolds (dec : Shape → Json → Except DecodeError Json) (f : String × Shape × Option Json)
    (s : Option Json) : Prop :=
  ∀ v, s = some v → ∃ x, dec f.2.1 x = .ok v

theorem forall₂_set {α β : Type} {R : α → β → Prop} {l₁ : List α} {l₂ : List β}
    (h : List.Forall₂ R l₁ l₂) {i : Nat} {b : β} (hb : ∀ a, l₁[i]? = some a → R a b) :
    List.Forall₂ R l₁ (l₂.set i b) := by
  induction h generalizing i with
  | nil => exact .nil
  | cons hab _ ih =>
    cases i with
    | zero => exact .cons (hb _ rfl) ‹_›
    | succ i => exact .cons hab (ih hb)

section
variable {dec : Shape → Json → Except DecodeError Json}
  {fields : List (String × Shape × Option Json)}

theorem collectEntries_sound {acc slots : List (Option Json)} {es : List (String × Json)}
    (hacc : List.Forall₂ (SlotHolds dec) fields acc)
    (h : collectEntries dec fields acc es = .ok slots) :
    List.Forall₂ (SlotHolds dec) fields slots := by
  induction es generalizing acc with
  | nil =>
    cases h
    exact hacc
  | cons e es ih =>
    obtain ⟨k, v⟩ := e
    rw [collectEntries] at h
    split at h
    · exact ih hacc h
    · next i hi =>
      split at h
      · cases h
      · split at h
        · next d hd =>
          refine ih (forall₂_set hacc fun f hf => ?_) h
          intro w hw
          cases hw
          rw [List.getD_eq_getElem?_getD, hf] at hd
          exact ⟨v, hd⟩
        · cases h

theorem fillAbsent_sound {slots : List (Option Json)}
    (hslots : List.Forall₂ (SlotHolds dec) fields slots)
    {values : List (String × Json)} (h : fillAbsent fields slots = .ok values) :
    List.Forall₂ (fun f p => p.1 = f.1 ∧ FieldHolds dec f p.2) fields values := by
  induction hslots generalizing values with
  | nil =>
    cases h
    exact .nil
  | @cons f s fs ss hs _ ih =>
    obtain ⟨k, shape, dflt⟩ := f
    cases s with
    | some d =>
      simp only [fillAbsent, bind, Except.bind, pure, Except.pure] at h
      split at h
      · cases h
      · next rest hrest =>
        cases h
        exact .cons ⟨rfl, .inl (hs d rfl)⟩ (ih hrest)
    | none =>
      simp only [fillAbsent, bind, Except.bind, pure, Except.pure] at h
      split at h
      · cases h
      · next d hd =>
        split at h
        · cases h
        · next rest hrest =>
          cases h
          exact .cons ⟨rfl, .inr hd⟩ (ih hrest)

theorem itemFields_sound {name : String} {n : Nat} :
    ∀ {fields : List (String × Shape × Option Json)} {items : List Json} {i : Nat}
      {values : List (String × Json)}, itemFields dec name n fields items i = .ok values →
      List.Forall₂ (fun f p => p.1 = f.1 ∧ FieldHolds dec f p.2) fields values
  | [], _, _, values, h => by
    cases h
    exact .nil
  | (k, shape, dflt) :: fs, items, i, values, h => by
    cases items with
    | cons x xs =>
      simp only [itemFields, bind, Except.bind, pure, Except.pure] at h
      split at h
      · cases h
      · next v hv =>
        split at h
        · cases h
        · next rest hrest =>
          cases h
          exact .cons ⟨rfl, .inl ⟨x, hv⟩⟩ (itemFields_sound hrest)
    | nil =>
      cases dflt with
      | some d =>
        simp only [itemFields, bind, Except.bind, pure, Except.pure] at h
        split at h
        · cases h
        · next rest hrest =>
          cases h
          exact .cons ⟨rfl, .inr rfl⟩ (itemFields_sound hrest)
      | none => cases h

theorem decodeEntries_sound {es : List (String × Json)} {d : Json}
    (h : decodeEntries dec fields es = .ok d) :
    ∃ values, d = .object values ∧
      List.Forall₂ (fun f p => p.1 = f.1 ∧ FieldHolds dec f p.2) fields values := by
  simp only [decodeEntries, bind, Except.bind, pure, Except.pure] at h
  split at h
  · cases h
  · next slots hslots =>
    split at h
    · cases h
    · next values hvalues =>
      cases h
      have hstart : List.Forall₂ (SlotHolds dec) fields (fields.map fun _ => none) :=
        List.forall₂_map_right_iff.2 (List.forall₂_same.2 fun _ _ _ hv => by cases hv)
      exact ⟨values, rfl, fillAbsent_sound (collectEntries_sound hstart hslots) hvalues⟩

end

/-- **Decoded records are well formed.** The normal form of a record holds the record's fields
in declaration order, each the decoding of some data under the field's shape or the value the
field takes when absent. -/
theorem decode_record_sound {b : Bool} {n : Nat} {name : String}
    {fields : List (String × Shape × Option Json)} {j d : Json}
    (h : decode b (n + 1) (.record name fields) j = .ok d) :
    ∃ values, d = .object values ∧
      List.Forall₂ (fun f p => p.1 = f.1 ∧ FieldHolds (decode b n) f p.2) fields values := by
  cases j with
  | object es => exact decodeEntries_sound h
  | array items =>
    change decodeItems b (decode b n) name fields items = .ok d at h
    simp only [decodeItems, bind, Except.bind, pure, Except.pure] at h
    split at h
    · cases h
    · next values hvalues =>
      split at h
      · cases h
      · cases h
        exact ⟨values, rfl, itemFields_sound hvalues⟩
  | _ => cases h

/-- A record given as an object holding each of its fields once, each value its own normal
form. -/
theorem decodeEntries_self {dec : Shape → Json → Except DecodeError Json}
    {fields : List (String × Shape × Option Json)} (hkeys : (fields.map Prod.fst).Nodup)
    {es : List (String × Json)} (hperm : (es.map Prod.fst).Perm (fields.map Prod.fst))
    (h : ∀ p ∈ es, ∀ f ∈ fields, f.1 = p.1 → dec f.2.1 p.2 = .ok p.2) :
    decodeEntries dec fields es =
      .ok (.object (fields.map fun f => (f.1, (Json.lookup es f.1).getD .null))) :=
  decodeEntries_present hkeys hperm (List.forall₂_same.2 fun p hp => ⟨rfl, h p hp⟩)

theorem decode_bool (b : Bool) (n : Nat) (a : Bool) :
    decode b (n + 1) .bool (.bool a) = .ok (.bool a) := rfl

theorem decode_any (b : Bool) (n : Nat) (j : Json) : decode b (n + 1) .any j = .ok j := rfl

theorem fuelFor_eq (j : Json) : fuelFor j = (16 * j.depth + 30) + 1 + 1 := by
  unfold fuelFor
  omega

theorem decode_bool_sound {b : Bool} {n : Nat} {x v : Json} (h : decode b n .bool x = .ok v) :
    ∃ a, v = .bool a := by
  cases n with
  | zero => cases h
  | succ n =>
    cases x with
    | bool a =>
      cases h
      exact ⟨a, rfl⟩
    | _ => cases h

theorem decode_string_sound {b : Bool} {n : Nat} {x v : Json} (h : decode b n .string x = .ok v) :
    ∃ s, v = .string s := by
  cases n with
  | zero => cases h
  | succ n =>
    cases x with
    | string s =>
      cases h
      exact ⟨s, rfl⟩
    | _ => cases h

theorem decode_option_sound {b : Bool} {n : Nat} {inner : Shape} {x v : Json}
    (h : decode b (n + 1) (.option inner) x = .ok v) :
    v = .null ∨ decode b n inner x = .ok v := by
  cases x with
  | null =>
    cases h
    exact .inl rfl
  | _ => exact .inr h

end Wire.Shape

theorem Message.toPayload_eq_ok {m : Message} {kind : String} {shape : Wire.Shape} {d : Json} :
    m.toPayload kind shape = .ok d ↔ m.kind = kind ∧ shape.check m.body.toJson = .ok d := by
  unfold Message.toPayload
  by_cases hk : m.kind = kind
  · simp only [hk, ne_eq, not_true_eq_false, if_false, true_and]
    cases shape.check m.body.toJson with
    | ok j => simp
    | error e => simp
  · simp [hk]

namespace Nodes

/-- An approval request as its normal form holds it: the prompt, the kind of the held message and
its body as plain JSON. -/
structure ApprovalRequest where
  prompt : String
  kind : String
  subject : Json

/-- The normal form of an approval request, fields in declaration order. -/
def ApprovalRequest.toWire (q : ApprovalRequest) : Json :=
  .object [("prompt", .string q.prompt), ("kind", .string q.kind), ("subject", q.subject)]

/-- The normal form of an approval decision. -/
def Approval.toWire (a : Approval) : Json :=
  .object [("approved", .bool a.approved), ("reason", (a.reason.map Json.string).getD .null)]

/-- The request message the gate records for a held message. -/
def approvalRequestMessage (prompt : String) (m : Message) : Message :=
  ⟨approvalRequestKind, .json (Json.ofFields
    [("prompt", .string prompt), ("kind", .string m.kind), ("subject", m.body.toJson)])⟩

theorem askApproval_run (prompt : String) (m : Message) (c : Context) :
    (askApproval prompt m).run.run c = (.ok (), { c with
      effects := c.effects ++ [.request ⟨(Uuid.generated c.ids).toText, c.executorId,
        approvalRequestMessage prompt m, approvalResponseKind⟩],
      ids := c.ids + 1 }) := rfl

theorem approvalRequestMessage_toPayload (prompt : String) (m : Message) :
    (approvalRequestMessage prompt m).toPayload approvalRequestKind approvalRequestShape =
      .ok (ApprovalRequest.toWire ⟨prompt, m.kind, m.body.toJson⟩) := by
  have h1 : "kind" < "prompt" := by decide
  have h2 : ¬ "subject" < "kind" := by decide
  have h3 : ¬ "subject" < "prompt" := by decide
  have hsorted : Json.ofFields [("prompt", .string prompt), ("kind", .string m.kind),
      ("subject", m.body.toJson)] =
      .object [("kind", .string m.kind), ("prompt", .string prompt),
        ("subject", m.body.toJson)] := by
    simp [Json.ofFields, Json.insertSorted, h1, h2, h3]
  refine Message.toPayload_eq_ok.2 ⟨rfl, ?_⟩
  show Wire.Shape.check approvalRequestShape (Json.ofFields _) = _
  rw [hsorted, Wire.Shape.check, Wire.Shape.fuelFor_eq, approvalRequestShape,
    Wire.Shape.decode_record]
  refine (Wire.Shape.decodeEntries_self ?_ ?_ ?_).trans ?_
  · decide
  · exact List.Perm.swap _ _ _
  · simp [Wire.Shape.decode_string, Wire.Shape.decode_any]
  · simp [ApprovalRequest.toWire, Json.lookup]

theorem Approval.ofWire_toWire (a : Approval) : Approval.ofWire a.toWire = a := by
  obtain ⟨approved, reason⟩ := a
  cases reason <;> simp [Approval.ofWire, Approval.toWire, Json.get?, Json.lookup, Json.asBool?,
    Json.asStr?]

theorem Approval.toMessage_toJson (a : Approval) : a.toMessage.body.toJson = a.toWire := by
  have hgt : ¬ "reason" < "approved" := by decide
  obtain ⟨approved, reason⟩ := a
  cases reason <;>
    simp [Approval.toMessage, Approval.toWire, Value.toJson, Json.ofFields, Json.insertSorted, hgt]

theorem Approval.toMessage_toPayload (a : Approval) :
    a.toMessage.toPayload approvalResponseKind approvalResponseShape = .ok a.toWire := by
  refine Message.toPayload_eq_ok.2 ⟨rfl, ?_⟩
  rw [Approval.toMessage_toJson, Wire.Shape.check, Wire.Shape.fuelFor_eq, Approval.toWire,
    approvalResponseShape, Wire.Shape.decode_record]
  refine (Wire.Shape.decodeEntries_self ?_ ?_ ?_).trans ?_
  · decide
  · exact List.Perm.refl _
  · cases a.reason <;> simp [Wire.Shape.decode_bool, Wire.Shape.decode_option_null,
      Wire.Shape.decode_option_string]
  · simp [Json.lookup]

/-- Every normal form of an approval response is the normal form of the decision it stands
for. -/
theorem Approval.toWire_of_toPayload {r : Message} {d : Json}
    (h : r.toPayload approvalResponseKind approvalResponseShape = .ok d) :
    d = (Approval.ofWire d).toWire := by
  obtain ⟨-, hcheck⟩ := Message.toPayload_eq_ok.1 h
  rw [Wire.Shape.check, Wire.Shape.fuelFor_eq, approvalResponseShape] at hcheck
  obtain ⟨values, rfl, hvalues⟩ := Wire.Shape.decode_record_sound hcheck
  obtain _ | @⟨_, ⟨k1, v1⟩, _, _, ⟨hk1, hv1⟩,
    _ | @⟨_, ⟨k2, v2⟩, _, _, ⟨hk2, hv2⟩, hrest⟩⟩ := hvalues
  cases hrest
  dsimp only at hk1 hk2 hv1 hv2
  subst hk1 hk2
  obtain ⟨a, rfl⟩ : ∃ a, v1 = .bool a := by
    rcases hv1 with ⟨x, hx⟩ | habsent
    · exact Wire.Shape.decode_bool_sound hx
    · cases habsent
  have hreason : v2 = .null ∨ ∃ s, v2 = .string s := by
    rcases hv2 with ⟨x, hx⟩ | habsent
    · rcases Wire.Shape.decode_option_sound hx with hnull | hstring
      · exact .inl hnull
      · exact .inr (Wire.Shape.decode_string_sound hstring)
    · cases habsent
      exact .inl rfl
  rcases hreason with rfl | ⟨s, rfl⟩ <;>
    simp [Approval.ofWire, Approval.toWire, Json.get?, Json.lookup, Json.asBool?, Json.asStr?]

/-- Deciding a held request: the decision's counter goes up by one, the decision is yielded with
the held body, and on approval the held kind and body are sent on. -/
theorem applyApproval_run {req r : Message} {q : ApprovalRequest} {a : Approval}
    (hq : req.toPayload approvalRequestKind approvalRequestShape = .ok q.toWire)
    (hr : r.toPayload approvalResponseKind approvalResponseShape = .ok a.toWire) (c : Context) :
    (applyApproval req r).run.run c = (.ok (), { c with
      store := Value.insertField (if a.approved then "approved" else "denied")
        (Value.ofInt (((Value.lookup c.store (if a.approved then "approved" else "denied")).bind
          Value.asI64?).getD 0 + 1)) c.store
      outbox := c.outbox ++
        if a.approved then [⟨⟨q.kind, Value.ofJson q.subject⟩, none⟩] else []
      effects := c.effects ++ [.output (.json (Json.ofFields
        [("request_id", (c.requestId.map Json.string).getD .null), ("approved", .bool a.approved),
          ("reason", (a.reason.map Json.string).getD .null), ("value", q.subject)]))] }) := by
  have happroved : ((a.toWire.get? "approved").bind Json.asBool?).getD false = a.approved := by
    simp [Approval.toWire, Json.get?, Json.lookup, Json.asBool?]
  have hreason : (a.toWire.get? "reason").getD .null = (a.reason.map Json.string).getD .null := by
    simp [Approval.toWire, Json.get?, Json.lookup]
  have hsubject : (q.toWire.get? "subject").getD .null = q.subject := by
    simp [ApprovalRequest.toWire, Json.get?, Json.lookup]
  have hkind : ((q.toWire.get? "kind").bind Json.asStr?).getD "" = q.kind := by
    simp [ApprovalRequest.toWire, Json.get?, Json.lookup, Json.asStr?]
  unfold applyApproval
  simp only [hq, hr, lift_ok, Handler.run_bind, Handler.run_pure, Handler.run_getState,
    Handler.run_setState, Handler.run_context, Handler.run_yieldOutput, happroved, hreason,
    hsubject, hkind]
  cases a.approved
  · simp only [Bool.false_eq_true, if_false, Handler.run_pure, List.append_nil]
    cases c.requestId <;> rfl
  · simp only [if_true, Handler.run_send]
    cases c.requestId <;> rfl

end Nodes

open Nodes in
/-- **The approval gate holds each message and forwards it on approval.** Handling a message
records exactly one request, of kind `approval_request` and answered by `approval_response`,
that reads as the prompt, the held kind and the held body as plain JSON; nothing else changes.
Every response that reads as an approval response is the normal form of its decision. Answering
the request with a decision counts it, yields it with the held body, and on approval sends the
held kind with the held body read back from plain JSON, which equals the held body when that is
plain. A decision reads back from the message that answers with it. -/
theorem approval_gate_holds_and_forwards (id prompt : String) (kinds : List String) (m : Message)
    (c : Context) :
    ∃ q : Request, ((approver id prompt kinds).handle m).run.run c =
        (.ok (), { c with effects := c.effects ++ [.request q], ids := c.ids + 1 }) ∧
      q.requestId = (Uuid.generated c.ids).toText ∧ q.source = c.executorId ∧
      q.request.kind = approvalRequestKind ∧ q.responseKind = approvalResponseKind ∧
      q.request.toPayload approvalRequestKind approvalRequestShape =
        .ok (ApprovalRequest.toWire ⟨prompt, m.kind, m.body.toJson⟩) ∧
      (∀ (r : Message) (d : Json), r.toPayload approvalResponseKind approvalResponseShape = .ok d →
        d = (Approval.ofWire d).toWire) ∧
      (∀ (r : Message) (a : Approval) (c' : Context),
        r.toPayload approvalResponseKind approvalResponseShape = .ok a.toWire →
        ((approver id prompt kinds).handleResponse q.request r).run.run c' = (.ok (), { c' with
          store := Value.insertField (if a.approved then "approved" else "denied")
            (Value.ofInt (((Value.lookup c'.store (if a.approved then "approved" else "denied")).bind
              Value.asI64?).getD 0 + 1)) c'.store
          outbox := c'.outbox ++
            if a.approved then [⟨⟨m.kind, Value.ofJson m.body.toJson⟩, none⟩] else []
          effects := c'.effects ++ [.output (.json (Json.ofFields
            [("request_id", (c'.requestId.map Json.string).getD .null),
              ("approved", .bool a.approved), ("reason", (a.reason.map Json.string).getD .null),
              ("value", m.body.toJson)]))] })) ∧
      (m.body.Plain → (Value.ofJson m.body.toJson).beq m.body = true) ∧
      ∀ a : Approval, a.toMessage.toPayload approvalResponseKind approvalResponseShape =
        .ok a.toWire ∧ Approval.ofWire a.toWire = a := by
  have hrequest := approvalRequestMessage_toPayload prompt m
  refine ⟨⟨(Uuid.generated c.ids).toText, c.executorId, approvalRequestMessage prompt m,
      approvalResponseKind⟩, askApproval_run prompt m c, rfl, rfl, rfl, rfl, hrequest,
    fun r d hr => Approval.toWire_of_toPayload hr,
    fun r a c' hr => applyApproval_run hrequest hr c', Value.beq_ofJson_toJson m.body,
    fun a => ⟨Approval.toMessage_toPayload a, Approval.ofWire_toWire a⟩⟩

/-- An embedded JSON document does not go through the gate unchanged: the text `release` held as
a JSON document is sent on, once approved, as a plain string. -/
theorem approval_gate_unwraps_json_body :
    (((Nodes.approver "g" "Ship?" [Nodes.textKind]).handleResponse
        (Nodes.approvalRequestMessage "Ship?" ⟨Nodes.textKind, .json (.string "release")⟩)
        (Nodes.Approval.toMessage ⟨true, none⟩)).run.run
        { executorId := "g", superstep := 1, requestId := some "req1" }).2.outbox =
      [⟨⟨Nodes.textKind, .string "release"⟩, none⟩] ∧
    (Value.string "release").beq (.json (.string "release")) = false := by
  refine ⟨?_, rfl⟩
  show ((Nodes.applyApproval _ _).run.run _).2.outbox = _
  rw [Nodes.applyApproval_run (Nodes.approvalRequestMessage_toPayload _ _)
    (Nodes.Approval.toMessage_toPayload _)]
  rfl

end Superstep
