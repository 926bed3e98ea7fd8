import Mathlib
import Superstep.Engine.Registry

/-!
# The configuration grammar of the standard executors

Each standard factory reads a few configuration keys in a fixed order and insists on the kind of
value each one holds (`Setting`): an integer in the signed 64-bit range, such an integer that is
not negative, a string, a boolean, or a list of message kinds. An absent key and a `null` are
alike. `Nodes.configGrammar` lists the keys each standard type reads.

A factory follows its settings (`Factory.Follows`) when it makes an executor under the id asked
for exactly when the configuration admits every setting, and otherwise fails with the complaint
about the first key, in reading order, that it does not admit (`Config.FirstOffence`). Every
standard factory follows its settings, so (`standard_config_grammar`) creating an executor
through the standard registry succeeds exactly on admitted configurations, and an executor that
reads `accepts` handles exactly the kinds listed there.
-/

namespace Superstep

/-- What a configuration key must hold when it is present and not `null`. -/
inductive Setting where
  /-- An integer in the signed 64-bit range. -/
  | int
  /-- A non-negative integer in the signed 64-bit range. -/
  | count
  /-- A string. -/
  | text
  /-- A boolean. -/
  | flag
  /-- A list of message kinds, each a string. -/
  | kinds
  deriving DecidableEq

namespace Setting

/-- Whether a value has the kind a setting asks for. -/
def holds : Setting → Json → Bool
  | .int, .number (.int i) => decide (JsonNumber.i64Min ≤ i ∧ i ≤ JsonNumber.i64Max)
  | .count, .number (.int i) => decide (0 ≤ i ∧ i ≤ JsonNumber.i64Max)
  | .text, .string _ => true
  | .flag, .bool _ => true
  | .kinds, .array items => items.all fun item => item.asStr?.isSome
  | _, _ => false

/-- The complaint about a value of the wrong kind under `key`; for a list of kinds, about its
first entry that is not a string. -/
def complaint (key : String) : Setting → Json → String
  | .int, j => "'" ++ key ++ "' must be an integer, got " ++ j.render
  | .count, .number (.int i) =>
    if JsonNumber.i64Min ≤ i ∧ i ≤ JsonNumber.i64Max then
      "'" ++ key ++ "' must not be negative, got " ++ toString i
    else "'" ++ key ++ "' must be an integer, got " ++ (Json.int i).render
  | .count, j => "'" ++ key ++ "' must be an integer, got " ++ j.render
  | .text, j => "'" ++ key ++ "' must be a string, got " ++ j.render
  | .flag, j => "'" ++ key ++ "' must be a boolean, got " ++ j.render
  | .kinds, .array items =>
    "'" ++ key ++ "' entries must be strings, got " ++
      ((items.find? fun item => item.asStr?.isNone).getD .null).render
  | .kinds, j => "'" ++ key ++ "' must be a list of message kinds, got " ++ j.render

end Setting

namespace Config

/-- A configuration admits a setting under `key` when the key is absent, `null`, or holds a value
of the kind the setting asks for. -/
def Admits (c : Config) (key : String) (s : Setting) : Prop :=
  ∀ j, c.find? key = some j → s.holds j = true

/-- `key` is the first key of `settings`, in reading order, that the configuration does not
admit: it holds `j`, which is not of the kind `s` asks for. -/
inductive FirstOffence (c : Config) : List (String × Setting) → String → Setting → Json → Prop
  | here {key : String} {s : Setting} {j : Json} {rest : List (String × Setting)} :
      c.find? key = some j → s.holds j = false → FirstOffence c ((key, s) :: rest) key s j
  | later {key k : String} {s t : Setting} {j : Json} {rest : List (String × Setting)} :
      c.Admits k t → FirstOffence c rest key s j → FirstOffence c ((k, t) :: rest) key s j

/-- The message kinds listed under `accepts`, or `text` and `number` when the key is absent or
`null`. -/
def listedKinds (c : Config) : List String :=
  ((c.find? "accepts").bind Json.asArray?).elim [Nodes.textKind, Nodes.numberKind]
    (·.filterMap Json.asStr?)

variable {c : Config}

/-- Every configuration admits every setting, or has a first key it does not admit. -/
theorem admits_or_firstOffence (settings : List (String × Setting)) :
    (∀ x ∈ settings, c.Admits x.1 x.2) ∨ ∃ key s j, c.FirstOffence settings key s j := by
  induction settings with
  | nil => exact .inl fun x hx => absurd hx List.not_mem_nil
  | cons x rest ih =>
    obtain ⟨k, t⟩ := x
    by_cases hk : c.Admits k t
    · rcases ih with hall | ⟨key, s, j, hoff⟩
      · refine .inl fun y hy => ?_
        rcases List.mem_cons.1 hy with rfl | hy
        · exact hk
        · exact hall y hy
      · exact .inr ⟨key, s, j, .later hk hoff⟩
    · simp only [Admits, not_forall, Bool.not_eq_true] at hk
      obtain ⟨j, hj, hs⟩ := hk
      exact .inr ⟨k, t, j, .here hj hs⟩

/-! ## The readers -/

variable {key : String} {j : Json}

theorem int?_of_admits (h : c.Admits key .int) : ∃ v, c.int? key = .ok v := by
  unfold int?
  cases hf : c.find? key with
  | none => exact ⟨none, rfl⟩
  | some j =>
    have hj := h j hf
    cases j with
    | number n =>
      cases n with
      | int i =>
        simp only [Setting.holds, decide_eq_true_eq] at hj
        exact ⟨some i, by simp [Json.asI64?, JsonNumber.asI64?, hj]⟩
      | float x => simp [Setting.holds] at hj
    | _ => simp [Setting.holds] at hj

theorem int?_of_admits_count (h : c.Admits key .count) :
    ∃ v, c.int? key = .ok v ∧ ∀ i, v = some i → 0 ≤ i := by
  unfold int?
  cases hf : c.find? key with
  | none => exact ⟨none, rfl, by simp⟩
  | some j =>
    have hj := h j hf
    cases j with
    | number n =>
      cases n with
      | int i =>
        simp only [Setting.holds, decide_eq_true_eq] at hj
        have hlo : JsonNumber.i64Min ≤ i := by
          have : JsonNumber.i64Min < 0 := by simp [JsonNumber.i64Min]
          omega
        exact ⟨some i, by simp [Json.asI64?, JsonNumber.asI64?, hj.2, hlo], by simp [hj.1]⟩
      | float x => simp [Setting.holds] at hj
    | _ => simp [Setting.holds] at hj

theorem int?_of_offence (hf : c.find? key = some j) (h : Setting.int.holds j = false) :
    c.int? key = .error (.configuration (Setting.int.complaint key j)) := by
  unfold int?
  rw [hf]
  cases j with
  | number n =>
    cases n with
    | int i =>
      simp only [Setting.holds, decide_eq_false_iff_not] at h
      simp [Json.asI64?, JsonNumber.asI64?, h, Setting.complaint]
    | float x => simp [Json.asI64?, JsonNumber.asI64?, Setting.complaint]
  | _ => simp [Json.asI64?, Setting.complaint]

/-- A count that is not admitted is not an integer of the signed range, or it is a negative
one. -/
theorem int?_of_count_offence (hf : c.find? key = some j) (h : Setting.count.holds j = false) :
    c.int? key = .error (.configuration (Setting.count.complaint key j)) ∨
      ∃ i, c.int? key = .ok (some i) ∧ i < 0 ∧
        Setting.count.complaint key j =
          "'" ++ key ++ "' must not be negative, got " ++ toString i := by
  unfold int?
  rw [hf]
  cases j with
  | number n =>
    cases n with
    | int i =>
      by_cases hr : JsonNumber.i64Min ≤ i ∧ i ≤ JsonNumber.i64Max
      · simp only [Setting.holds, decide_eq_false_iff_not] at h
        exact .inr ⟨i, by simp [Json.asI64?, JsonNumber.asI64?, hr], by omega,
          by simp [Setting.complaint, hr]⟩
      · refine .inl ?_
        simp [Json.asI64?, JsonNumber.asI64?, hr, Setting.complaint, Json.int]
    | float x => exact .inl (by simp [Json.asI64?, JsonNumber.asI64?, Setting.complaint])
  | _ => exact .inl (by simp [Json.asI64?, Setting.complaint])

theorem str?_of_admits (h : c.Admits key .text) : ∃ v, c.str? key = .ok v := by
  unfold str?
  cases hf : c.find? key with
  | none => exact ⟨none, rfl⟩
  | some j =>
    have hj := h j hf
    cases j with
    | string s => exact ⟨some s, rfl⟩
    | _ => simp [Setting.holds] at hj

theorem str?_of_offence (hf : c.find? key = some j) (h : Setting.text.holds j = false) :
    c.str? key = .error (.configuration (Setting.text.complaint key j)) := by
  unfold str?
  rw [hf]
  cases j with
  | string s => simp [Setting.holds] at h
  | _ => simp [Json.asStr?, Setting.complaint]

end Config

/-! ## Lists of kinds -/

theorem mem_insertSortedString {x s : String} {l : List String} :
    x ∈ insertSortedString s l ↔ x = s ∨ x ∈ l := by
  induction l with
  | nil => simp [insertSortedString]
  | cons t ts ih =>
    unfold insertSortedString
    split
    · subst_vars
      simp
    · split
      · simp
      · simp only [List.mem_cons, ih, or_left_comm]

namespace Nodes

/-- An executor built to accept some kinds handles exactly those. -/
theorem canHandle_acceptingAll (kinds : List String) (k : String) :
    (acceptingAll kinds).canHandle k = true ↔ k ∈ kinds := by
  suffices ∀ c : Capabilities, (kinds.foldl Capabilities.acceptsKind c).canHandle k = true ↔
      c.canHandle k = true ∨ k ∈ kinds by
    simpa [acceptingAll, Capabilities.canHandle, Capabilities.empty] using this Capabilities.empty
  induction kinds with
  | nil => simp
  | cons x xs ih =>
    intro c
    rw [List.foldl_cons, ih]
    simp only [Capabilities.canHandle, Capabilities.acceptsKind, List.contains_iff_mem,
      mem_insertSortedString, List.mem_cons]
    rw [or_assoc, or_left_comm]

variable {c : Config} {j : Json}

/-- Reading a list of kinds stops at its first entry that is not a string. -/
theorem acceptedKinds_of_array {items : List Json} (hf : c.find? "accepts" = some (.array items)) :
    acceptedKinds c = (items.find? fun item => item.asStr?.isNone).elim
      (.ok (items.filterMap Json.asStr?))
      fun bad =>
        .error (.configuration ("'accepts' entries must be strings, got " ++ bad.render)) := by
  unfold acceptedKinds
  rw [hf]
  dsimp only
  clear hf
  induction items with
  | nil => rfl
  | cons item rest ih =>
    cases item with
    | string s =>
      rw [List.mapM_cons, ih, List.find?_cons_of_neg (by simp [Json.asStr?])]
      cases (rest.find? fun item => item.asStr?.isNone) <;> rfl
    | _ => rfl

theorem acceptedKinds_of_admits (h : c.Admits "accepts" .kinds) :
    acceptedKinds c = .ok c.listedKinds := by
  cases hf : c.find? "accepts" with
  | none => simp [acceptedKinds, Config.listedKinds, hf]
  | some j =>
    have hj := h j hf
    cases j with
    | array items =>
      have hnone : (items.find? fun item => item.asStr?.isNone) = none := by
        simp only [Setting.holds, List.all_eq_true] at hj
        rw [List.find?_eq_none]
        intro x hx
        simpa [Option.isNone_iff_eq_none, Option.isSome_iff_ne_none] using hj x hx
      rw [acceptedKinds_of_array hf, hnone]
      simp [Config.listedKinds, hf, Json.asArray?]
    | _ => simp [Setting.holds] at hj

theorem acceptedKinds_of_offence (hf : c.find? "accepts" = some j)
    (h : Setting.kinds.holds j = false) :
    acceptedKinds c = .error (.configuration (Setting.kinds.complaint "accepts" j)) := by
  cases j with
  | array items =>
    obtain ⟨bad, hbad⟩ : ∃ bad, (items.find? fun item => item.asStr?.isNone) = some bad := by
      simp only [Setting.holds, List.all_eq_false] at h
      obtain ⟨x, hx, hxs⟩ := h
      exact Option.isSome_iff_exists.1 (List.find?_isSome.2 ⟨x, hx, by simpa using hxs⟩)
    rw [acceptedKinds_of_array hf, hbad]
    simp [Setting.complaint, hbad]
  | _ =>
    unfold acceptedKinds
    simp [hf, Setting.complaint]

end Nodes

/-! ## Factories that follow their settings -/

/-- A factory follows settings when it makes an executor under the id asked for exactly when the
configuration admits every setting, and otherwise fails with the complaint about the first
setting it does not admit; an executor made by a factory that reads `accepts` handles exactly
the kinds listed there. -/
structure Factory.Follows (f : Factory) (settings : List (String × Setting)) : Prop where
  made : ∀ id c, (∀ x ∈ settings, Config.Admits c x.1 x.2) → ∃ e, f.create id c = .ok e ∧
    e.id = id ∧ (("accepts", Setting.kinds) ∈ settings →
      ∀ k, e.caps.canHandle k = true ↔ k ∈ c.listedKinds)
  refused : ∀ id c key s j, c.FirstOffence settings key s j →
    f.create id c = .error (.configuration (s.complaint key j))

namespace Nodes

/-- A factory that reads nothing always makes its executor. -/
theorem follows_nil {f : Factory} (h : ∀ id c, ∃ e, f.create id c = .ok e ∧ e.id = id) :
    f.Follows [] where
  made id c _ := by
    obtain ⟨e, he, hid⟩ := h id c
    exact ⟨e, he, hid, by simp⟩
  refused id c key s j hoff := by cases hoff

theorem upperCase_follows : upperCase.Follows [] := follows_nil fun _ _ => ⟨_, rfl, rfl⟩

theorem reverse_follows : reverse.Follows [] := follows_nil fun _ _ => ⟨_, rfl, rfl⟩

theorem validate_follows : validate.Follows [("min_length", .count)] where
  made id c h := by
    obtain ⟨v, hv, hnn⟩ := Config.int?_of_admits_count (h _ List.mem_cons_self)
    have hn : ¬v.getD 1 < 0 := by
      cases v with
      | none => simp
      | some i => simpa using hnn i rfl
    exact ⟨validator id (v.getD 1).toNat,
      by simp [validate, hv, hn, bind, Except.bind, pure, Except.pure], rfl, by simp⟩
  refused id c key s j hoff := by
    cases hoff with
    | here hf hs =>
      rcases Config.int?_of_count_offence hf hs with herr | ⟨i, hi, hneg, hmsg⟩
      · simp [validate, herr, bind, Except.bind]
      · simp [validate, hi, hneg, hmsg, bind, Except.bind, throw, throwThe, MonadExcept.throw]
        rfl
    | later _ hrest => cases hrest

theorem increment_follows : increment.Follows [("increment", .int), ("limit", .int)] where
  made id c h := by
    obtain ⟨v, hv⟩ := Config.int?_of_admits (h _ List.mem_cons_self)
    obtain ⟨w, hw⟩ := Config.int?_of_admits (h ("limit", .int) (by simp))
    exact ⟨incrementer id (v.getD 1) w,
      by simp [increment, hv, hw, bind, Except.bind, pure, Except.pure], rfl, by simp⟩
  refused id c key s j hoff := by
    cases hoff with
    | here hf hs => simp [increment, Config.int?_of_offence hf hs, bind, Except.bind]
    | later hadm hrest =>
      obtain ⟨v, hv⟩ := Config.int?_of_admits hadm
      cases hrest with
      | here hf hs => simp [increment, hv, Config.int?_of_offence hf hs, bind, Except.bind]
      | later _ hnil => cases hnil

theorem delay_follows : delay.Follows [("delay_ms", .count), ("accepts", .kinds)] where
  made id c h := by
    obtain ⟨v, hv, hnn⟩ := Config.int?_of_admits_count (h _ List.mem_cons_self)
    have hk := acceptedKinds_of_admits (h ("accepts", .kinds) (by simp))
    have hn : ¬v.getD 1000 < 0 := by
      cases v with
      | none => simp
      | some i => simpa using hnn i rfl
    refine ⟨delayer id (v.getD 1000).toNat c.listedKinds,
      by simp [delay, hv, hn, hk, bind, Except.bind, pure, Except.pure], rfl, fun _ k => ?_⟩
    exact canHandle_acceptingAll _ k
  refused id c key s j hoff := by
    cases hoff with
    | here hf hs =>
      rcases Config.int?_of_count_offence hf hs with herr | ⟨i, hi, hneg, hmsg⟩
      · simp [delay, herr, bind, Except.bind]
      · simp [delay, hi, hneg, hmsg, bind, Except.bind, throw, throwThe, MonadExcept.throw]
        rfl
    | later hadm hrest =>
      obtain ⟨v, hv, hnn⟩ := Config.int?_of_admits_count hadm
      have hn : ¬v.getD 1000 < 0 := by
        cases v with
        | none => simp
        | some i => simpa using hnn i rfl
      cases hrest with
      | here hf hs => simp [delay, hv, hn, acceptedKinds_of_offence hf hs, bind, Except.bind]
      | later _ hnil => cases hnil

theorem log_follows : log.Follows [("yield_output", .flag), ("accepts", .kinds)] where
  made id c h := by
    have hk := acceptedKinds_of_admits (h ("accepts", .kinds) (by simp))
    have hflag := h _ List.mem_cons_self
    cases hf : c.find? "yield_output" with
    | none =>
      exact ⟨logger id c.listedKinds false,
        by simp [log, hf, hk, bind, Except.bind, pure, Except.pure], rfl,
        fun _ k => canHandle_acceptingAll _ k⟩
    | some j =>
      cases j with
      | bool b =>
        exact ⟨logger id c.listedKinds b,
          by simp [log, hf, hk, bind, Except.bind, pure, Except.pure], rfl,
          fun _ k => canHandle_acceptingAll _ k⟩
      | _ => exact absurd (hflag _ hf) (by simp [Setting.holds])
  refused id c key s j hoff := by
    cases hoff with
    | here hf hs =>
      cases j with
      | bool b => simp [Setting.holds] at hs
      | _ =>
        simp [log, hf, Setting.complaint, bind, Except.bind, throw, throwThe, MonadExceptOf.throw]
    | later hadm hrest =>
      cases hrest with
      | here hf hs =>
        have hk := acceptedKinds_of_offence hf hs
        cases hy : c.find? "yield_output" with
        | none => simp [log, hy, hk, bind, Except.bind, pure, Except.pure]
        | some y =>
          cases y with
          | bool b => simp [log, hy, hk, bind, Except.bind, pure, Except.pure]
          | _ => exact absurd (hadm _ hy) (by simp [Setting.holds])
      | later _ hnil => cases hnil

theorem approval_follows : approval.Follows [("prompt", .text), ("accepts", .kinds)] where
  made id c h := by
    obtain ⟨v, hv⟩ := Config.str?_of_admits (h _ List.mem_cons_self)
    have hk := acceptedKinds_of_admits (h ("accepts", .kinds) (by simp))
    refine ⟨approver id (v.getD "Approve?") c.listedKinds,
      by simp [approval, hv, hk, bind, Except.bind, pure, Except.pure], rfl, fun _ k => ?_⟩
    exact canHandle_acceptingAll _ k
  refused id c key s j hoff := by
    cases hoff with
    | here hf hs => simp [approval, Config.str?_of_offence hf hs, bind, Except.bind]
    | later hadm hrest =>
      obtain ⟨v, hv⟩ := Config.str?_of_admits hadm
      cases hrest with
      | here hf hs => simp [approval, hv, acceptedKinds_of_offence hf hs, bind, Except.bind]
      | later _ hnil => cases hnil

/-- The keys each standard executor type reads, in the order its factory reads them. -/
def configGrammar : List (String × List (String × Setting)) :=
  [("text.upper_case", []), ("text.reverse", []), ("text.validate", [("min_length", .count)]),
    ("number.increment", [("increment", .int), ("limit", .int)]),
    ("time.delay", [("delay_ms", .count), ("accepts", .kinds)]),
    ("debug.log", [("yield_output", .flag), ("accepts", .kinds)]),
    ("human.approval", [("prompt", .text), ("accepts", .kinds)])]

/-- The standard registry holds, for each type of the grammar, a factory that follows the type's
settings. -/
theorem standard_follows {typeName : String} {settings : List (String × Setting)}
    (h : (typeName, settings) ∈ configGrammar) :
    ∃ f, Registry.standard.find? typeName = some f ∧ f.Follows settings := by
  simp only [configGrammar, List.mem_cons, Prod.mk.injEq, List.not_mem_nil, or_false] at h
  rcases h with ⟨rfl, rfl⟩ | ⟨rfl, rfl⟩ | ⟨rfl, rfl⟩ | ⟨rfl, rfl⟩ | ⟨rfl, rfl⟩ |
    ⟨rfl, rfl⟩ | ⟨rfl, rfl⟩
  · exact ⟨_, rfl, upperCase_follows⟩
  · exact ⟨_, rfl, reverse_follows⟩
  · exact ⟨_, rfl, validate_follows⟩
  · exact ⟨_, rfl, increment_follows⟩
  · exact ⟨_, rfl, delay_follows⟩
  · exact ⟨_, rfl, log_follows⟩
  · exact ⟨_, rfl, approval_follows⟩

end Nodes

namespace Registry

variable {r : Registry} {typeName id : String} {config : Config} {n : Nat} {f : Factory}

theorem create_of_factory_error {e : ExecutorError} (hf : r.find? typeName = some f)
    (he : f.create id config = .error e) :
    r.create typeName id config n =
      .error (.invalid ("Failed to create executor '" ++ id ++ "': " ++ e.message)) := by
  simp [create, hf, he]

theorem create_of_factory_ok {e : Executor} (hf : r.find? typeName = some f)
    (he : f.create id config = .ok e) (hid : e.id = id) :
    r.create typeName id config n = .ok { e with instanceKey := n } := by
  simp [create, hf, he, hid]

/-- The text of a configuration error reported by the registry. -/
theorem configuration_text (id t : String) :
    "Failed to create executor '" ++ id ++ "': " ++ (ExecutorError.configuration t).message =
      "Failed to create executor '" ++ id ++ "': Configuration error: " ++ t := by
  have hm : (ExecutorError.configuration t).message = "Configuration error: " ++ t := rfl
  have h : "': " ++ ("Configuration error: " ++ t) = "': Configuration error: " ++ t := by
    simp only [← String.append_assoc, String.reduceAppend]
  simp only [hm, String.append_assoc, h]

end Registry

/-- **The standard factories accept exactly their configuration grammar.** Through the standard
registry, an executor of a standard type is made exactly when the configuration admits every
key the type's factory reads; a made executor carries the id asked for and, for a type that reads
`accepts`, handles exactly the kinds listed there (`text` and `number` when absent or `null`).
Otherwise creation fails with the configuration complaint about the first key, in reading order,
that the configuration does not admit. -/
theorem standard_config_grammar {typeName : String} {settings : List (String × Setting)}
    (h : (typeName, settings) ∈ Nodes.configGrammar) (id : String) (config : Config) (n : Nat) :
    ((∃ e, Registry.standard.create typeName id config n = .ok e) ↔
        ∀ x ∈ settings, config.Admits x.1 x.2) ∧
      (∀ e, Registry.standard.create typeName id config n = .ok e → e.id = id ∧
        (("accepts", Setting.kinds) ∈ settings →
          ∀ k, e.caps.canHandle k = true ↔ k ∈ config.listedKinds)) ∧
      ∀ key s j, config.FirstOffence settings key s j →
        Registry.standard.create typeName id config n = .error (.invalid
          ("Failed to create executor '" ++ id ++ "': Configuration error: " ++ s.complaint key j)) := by
  obtain ⟨f, hf, hfollow⟩ := Nodes.standard_follows h
  have hrefused : ∀ key s j, config.FirstOffence settings key s j →
      Registry.standard.create typeName id config n = .error (.invalid
        ("Failed to create executor '" ++ id ++ "': Configuration error: " ++
          s.complaint key j)) := by
    intro key s j hoff
    rw [Registry.create_of_factory_error hf (hfollow.refused id config key s j hoff),
      Registry.configuration_text]
  have hmade : (∀ x ∈ settings, config.Admits x.1 x.2) →
      ∃ e, Registry.standard.create typeName id config n = .ok e ∧ e.id = id ∧
        (("accepts", Setting.kinds) ∈ settings →
          ∀ k, e.caps.canHandle k = true ↔ k ∈ config.listedKinds) := by
    intro hall
    obtain ⟨e, he, hid, hkinds⟩ := hfollow.made id config hall
    exact ⟨{ e with instanceKey := n }, Registry.create_of_factory_ok hf he hid, hid, hkinds⟩
  have hadmits : ∀ e, Registry.standard.create typeName id config n = .ok e →
      ∀ x ∈ settings, config.Admits x.1 x.2 := by
    intro e he
    rcases Config.admits_or_firstOffence (c := config) settings with hall | ⟨key, s, j, hoff⟩
    · exact hall
    · rw [hrefused key s j hoff] at he
      cases he
  refine ⟨⟨fun hex => hex.elim hadmits, fun hall => (hmade hall).imp fun e he => he.1⟩,
    fun e he => ?_, hrefused⟩
  obtain ⟨e', he', hid, hkinds⟩ := hmade (hadmits e he)
  rw [he'] at he
  cases he
  exact ⟨hid, hkinds⟩

/-- A delay configured with a negative `delay_ms` is refused with the complaint about that key. -/
theorem negative_delay_refused :
    ("time.delay", [("delay_ms", Setting.count), ("accepts", Setting.kinds)]) ∈
        Nodes.configGrammar ∧
      Registry.standard.create "time.delay" "d" [("delay_ms", Json.int (-5))] 0 = .error (.invalid
        "Failed to create executor 'd': Configuration error: 'delay_ms' must not be negative, got -5") := by
  have hmem : ("time.delay", [("delay_ms", Setting.count), ("accepts", Setting.kinds)]) ∈
      Nodes.configGrammar := by
    simp [Nodes.configGrammar]
  refine ⟨hmem, ?_⟩
  have hoff : Config.FirstOffence [("delay_ms", Json.int (-5))]
      [("delay_ms", Setting.count), ("accepts", Setting.kinds)] "delay_ms" .count (Json.int (-5)) :=
    .here rfl (by decide)
  rw [(standard_config_grammar hmem "d" _ 0).2.2 _ _ _ hoff]
  rfl

end Superstep
