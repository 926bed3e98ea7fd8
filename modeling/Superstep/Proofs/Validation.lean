import Mathlib
import Superstep.Proofs.Registration

/-!
# Validating a graph under construction

A build checks, in order: that no id was registered by two instances, that the superstep limit
is positive, that both ends of every edge are registered (edges in order, the source first),
and that every executor can be reached from the start. A `Graph.Builder.Plan` is what calls on a
builder declare: every registration, the start, the limit and every edge. `Plan.WellFormed`
says that all checks pass, and `Plan.Rejects` names the error of the first that fails, both read
off the plan alone.

For a builder that holds a plan (`Plan.Describes`), the build succeeds exactly on well-formed
plans and otherwise fails with the error `Rejects` names (`Describes.build_sound`,
`Describes.build_of_rejects`, `Describes.build_of_wellFormed`). The graph it builds keeps each
registered executor once, in order, and each distinct edge once (`Describes.graph_of_build`).
-/

namespace Superstep

namespace Graph

theorem find?_eraseDups {α : Type} [BEq α] [LawfulBEq α] (p : α → Bool) :
    (l : List α) → l.eraseDups.find? p = l.find? p
  | [] => rfl
  | a :: as => by
    rw [List.eraseDups_cons]
    by_cases hp : p a = true
    · rw [List.find?_cons_of_pos hp, List.find?_cons_of_pos hp]
    · rw [List.find?_cons_of_neg hp, List.find?_cons_of_neg hp,
        find?_eraseDups p (as.filter fun b => !b == a), List.find?_filter]
      congr 1
      funext b
      by_cases hb : b = a
      · subst hb
        simp [hp]
      · simp [hb]
termination_by l => l.length
decreasing_by exact Nat.lt_succ_of_le (List.length_filter_le _ _)

theorem mem_map_snd_filter {es : List (String × String)} {s d : String} :
    d ∈ (es.filter (·.1 == s)).map (·.2) ↔ (s, d) ∈ es := by
  simp only [List.mem_map, List.mem_filter, beq_iff_eq, Prod.exists]
  constructor
  · rintro ⟨a, y, ⟨hmem, rfl⟩, rfl⟩
    exact hmem
  · intro hmem
    exact ⟨s, d, ⟨hmem, rfl⟩, rfl⟩

/-- The number of edges held by per-source edge lists. -/
def pairCount (edges : List (String × List String)) : Nat := edges.foldl (fun n e => n + e.2.length) 0

theorem edgeCount_eq (g : Graph) : g.edgeCount = pairCount g.edges := rfl

theorem foldl_pairCount (edges : List (String × List String)) (n : Nat) :
    edges.foldl (fun n e => n + e.2.length) n = n + pairCount edges := by
  induction edges generalizing n with
  | nil => simp [pairCount]
  | cons e edges ih =>
    simp only [pairCount, List.foldl_cons, ih (n + e.2.length), ih (0 + e.2.length)]
    omega

theorem pairCount_cons (e : String × List String) (edges : List (String × List String)) :
    pairCount (e :: edges) = e.2.length + pairCount edges := by
  rw [pairCount, List.foldl_cons, foldl_pairCount]
  omega

theorem pairCount_append_singleton (edges : List (String × List String)) (e : String × List String) :
    pairCount (edges ++ [e]) = pairCount edges + e.2.length := by
  simp [pairCount, List.foldl_append]

theorem pairCount_map (f : String × List String → String × List String) (k : String)
    (hf : ∀ e, (f e).2.length = e.2.length + if e.1 = k then 1 else 0)
    (edges : List (String × List String)) :
    pairCount (edges.map f) = pairCount edges + edges.countP (·.1 == k) := by
  induction edges with
  | nil => rfl
  | cons e edges ih =>
    rw [List.map_cons, pairCount_cons, pairCount_cons, hf, ih, List.countP_cons]
    by_cases he : e.1 = k <;> simp [he] <;> omega

theorem keys_addEdge (acc : List (String × List String)) (s d : String) :
    (addEdge acc s d).map (·.1) =
      if s ∈ acc.map (·.1) then acc.map (·.1) else acc.map (·.1) ++ [s] := by
  unfold addEdge
  cases hf : acc.find? (·.1 == s) with
  | none =>
    have hs : s ∉ acc.map (·.1) := by
      simp only [List.mem_map, not_exists, not_and]
      intro e he hes
      exact List.find?_eq_none.1 hf e he (by simp [hes])
    simp [hs]
  | some e =>
    obtain ⟨s', ds⟩ := e
    have hs' : s' = s := by simpa using List.find?_some hf
    have hs : s ∈ acc.map (·.1) := List.mem_map.2 ⟨(s', ds), List.mem_of_find?_eq_some hf, hs'⟩
    rw [if_pos hs]
    dsimp only
    split
    · rfl
    · rw [List.map_map]
      apply List.map_congr_left
      intro x _
      obtain ⟨k, ts⟩ := x
      by_cases hk : k = s <;> simp [hk]

/-- With one entry per source, adding an edge adds one target unless the edge is there. -/
theorem pairCount_addEdge {acc : List (String × List String)} (hkeys : (acc.map (·.1)).Nodup)
    (s d : String) :
    pairCount (addEdge acc s d) = pairCount acc + if d ∈ targets acc s then 0 else 1 := by
  unfold addEdge
  cases hf : acc.find? (·.1 == s) with
  | none =>
    have ht : targets acc s = [] := by simp [targets, hf]
    simp [ht, pairCount_append_singleton]
  | some e =>
    obtain ⟨s', ds⟩ := e
    have hs' : s' = s := by simpa using List.find?_some hf
    have ht : targets acc s = ds := by simp [targets, hf]
    dsimp only
    rw [ht]
    split
    · rename_i hd
      simp [List.contains_iff_mem.1 hd]
    · rename_i hd
      have hcount : acc.countP (·.1 == s) = 1 := by
        have h1 := List.count_eq_one_of_mem hkeys
          (List.mem_map.2 ⟨(s', ds), List.mem_of_find?_eq_some hf, hs'⟩)
        rw [List.count, List.countP_map] at h1
        exact h1
      rw [pairCount_map _ s (by intro x; obtain ⟨k, ts⟩ := x; by_cases hk : k = s <;> simp [hk]),
        hcount, if_neg (by simpa using hd)]

end Graph

namespace Graph.Builder

/-! ## Collecting edges -/

theorem collectEdges_ok_iff {ids : List String} {es : List (String × String)}
    {acc : List (String × List String)} :
    (∃ edges, collectEdges ids es acc = .ok edges) ↔ ∀ e ∈ es, e.1 ∈ ids ∧ e.2 ∈ ids := by
  induction es generalizing acc with
  | nil => simp [collectEdges]
  | cons e es ih =>
    obtain ⟨s, d⟩ := e
    by_cases hs : s ∈ ids
    · by_cases hd : d ∈ ids
      · simp [collectEdges, hs, hd, ih]
      · simp [collectEdges, hs, hd]
    · simp [collectEdges, hs]

/-- The first edge with an end not among `ids` is reported: by its source if that is missing,
else by its target. -/
theorem collectEdges_eq_error_iff {ids : List String} {es : List (String × String)}
    {acc : List (String × List String)} {err : WorkflowError} :
    collectEdges ids es acc = .error err ↔
      ∃ e, es.find? (fun e => !(ids.contains e.1 && ids.contains e.2)) = some e ∧
        err = .executorNotFound (if e.1 ∈ ids then e.2 else e.1) := by
  induction es generalizing acc with
  | nil => simp [collectEdges]
  | cons e es ih =>
    obtain ⟨s, d⟩ := e
    by_cases hs : s ∈ ids
    · by_cases hd : d ∈ ids
      · simp [collectEdges, hs, hd, ih]
      · simp [collectEdges, hs, hd, eq_comm]
    · simp [collectEdges, hs, eq_comm]

theorem mem_targets_of_collectEdges {ids : List String} {es : List (String × String)}
    {edges : List (String × List String)} (h : collectEdges ids es [] = .ok edges) (a b : String) :
    b ∈ targets edges a ↔ (a, b) ∈ es := by
  rw [collectEdges_targets (fun _ => []) (fun _ => rfl) h a, List.nil_append, List.mem_eraseDups]
  exact mem_map_snd_filter

/-- Collecting edges keeps one entry per source and one target per distinct edge. -/
theorem collectEdges_pairCount {ids : List String} {es : List (String × String)} :
    ∀ {acc edges : List (String × List String)} (P : List (String × String)),
      (acc.map (·.1)).Nodup →
      (∀ x, targets acc x = ((P.filter (·.1 == x)).map (·.2)).eraseDups) →
      pairCount acc = P.eraseDups.length → collectEdges ids es acc = .ok edges →
      pairCount edges = (P ++ es).eraseDups.length := by
  induction es with
  | nil =>
    intro acc edges P _ _ hcount h
    simp only [collectEdges, Except.ok.injEq] at h
    subst h
    simpa using hcount
  | cons e es ih =>
    intro acc edges P hkeys htargets hcount h
    obtain ⟨s, d⟩ := e
    simp only [collectEdges] at h
    split at h
    · cases h
    split at h
    · cases h
    rw [← List.singleton_append, ← List.append_assoc]
    refine ih (P ++ [(s, d)]) ?_ ?_ ?_ h
    · rw [keys_addEdge]
      by_cases hs : s ∈ acc.map (·.1)
      · rw [if_pos hs]
        exact hkeys
      · rw [if_neg hs]
        refine List.nodup_append.2 ⟨hkeys, List.nodup_singleton s, ?_⟩
        intro a ha b hb hab
        rw [List.mem_singleton.1 hb] at hab
        exact hs (hab ▸ ha)
    · intro x
      rw [targets_addEdge_eraseDups _ htargets]
      by_cases hx : x = s
      · subst hx
        simp [List.filter_append]
      · simp [hx, List.filter_append, Ne.symm hx]
    · have hmem : d ∈ targets acc s ↔ (s, d) ∈ P := by
        rw [htargets, List.mem_eraseDups]
        exact mem_map_snd_filter
      rw [pairCount_addEdge hkeys, hcount, eraseDups_append_singleton]
      by_cases hsd : (s, d) ∈ P
      · rw [if_pos (hmem.2 hsd), if_pos hsd]
        rfl
      · rw [if_neg (mt hmem.1 hsd), if_neg hsd, List.length_append]
        rfl

theorem pairCount_of_collectEdges {ids : List String} {es : List (String × String)}
    {edges : List (String × List String)} (h : collectEdges ids es [] = .ok edges) :
    pairCount edges = es.eraseDups.length := by
  simpa using @collectEdges_pairCount ids es [] edges [] List.nodup_nil (fun _ => rfl) rfl h

/-! ## The checks of a build -/

section Build

variable {b : Builder}

theorem build_of_duplicate {id : String} (h : b.duplicates.head? = some id) :
    b.build = .error (.duplicateExecutor id) := by
  simp [build, h, bind, Except.bind, throw, throwThe, MonadExceptOf.throw]

theorem build_of_limit (hd : b.duplicates = []) (hl : b.maxSupersteps = 0) :
    b.build = .error (.invalid "max_supersteps must be at least 1") := by
  simp [build, hd, hl, bind, Except.bind, throw, throwThe, MonadExceptOf.throw]

theorem build_of_edges_error {err : WorkflowError} (hd : b.duplicates = [])
    (hl : b.maxSupersteps ≠ 0) (he : collectEdges (b.executors.map (·.id)) b.edges [] = .error err) :
    b.build = .error err := by
  simp [build, hd, hl, he, bind, Except.bind]

theorem build_of_unreached {edges : List (String × List String)} {e : Executor}
    (hd : b.duplicates = []) (hl : b.maxSupersteps ≠ 0)
    (he : collectEdges (b.executors.map (·.id)) b.edges [] = .ok edges)
    (hs : b.start ∈ b.executors.map (·.id))
    (hf : b.executors.find? (fun e => !(reach edges ((b.executors.map (·.id)).length + 1)
      [b.start] [b.start]).contains e.id) = some e) :
    b.build = .error (.unreachable e.id) := by
  have hs' : ¬∀ x ∈ b.executors, ¬x.id = b.start := by
    intro hall
    obtain ⟨x, hx, hxs⟩ := List.mem_map.1 hs
    exact hall x hx hxs
  simp only [List.contains_eq_mem, List.length_map] at hf
  simp [build, hd, hl, he, hf, hs', bind, Except.bind, throw, throwThe, MonadExceptOf.throw]

theorem build_of_reached {edges : List (String × List String)}
    (hd : b.duplicates = []) (hl : b.maxSupersteps ≠ 0)
    (he : collectEdges (b.executors.map (·.id)) b.edges [] = .ok edges)
    (hs : b.start ∈ b.executors.map (·.id))
    (hf : b.executors.find? (fun e => !(reach edges ((b.executors.map (·.id)).length + 1)
      [b.start] [b.start]).contains e.id) = none) :
    b.build = .ok ⟨b.name, b.start, b.executors, edges, b.maxSupersteps⟩ := by
  have hs' : ¬∀ x ∈ b.executors, ¬x.id = b.start := by
    intro hall
    obtain ⟨x, hx, hxs⟩ := List.mem_map.1 hs
    exact hall x hx hxs
  simp only [List.contains_eq_mem, List.length_map] at hf
  simp [build, hd, hl, he, hf, hs', bind, Except.bind, pure, Except.pure]

end Build

/-! ## Plans -/

theorem if_mem_congr {l l' : List String} (h : ∀ i, i ∈ l ↔ i ∈ l') (a b c : String) :
    (if a ∈ l then b else c) = if a ∈ l' then b else c := by
  by_cases ha : a ∈ l' <;> simp [ha, h]

/-- What calls on a builder declare: every executor registered, in order; the start's id; the
superstep limit; and every edge, in order and with repeats. -/
structure Plan where
  registrations : List Executor
  start : String
  limit : Nat
  edges : List (String × String)

namespace Plan

/-- The ids registered. -/
def ids (p : Plan) : List String := p.registrations.map (·.id)

/-- `b` can be reached from `a` along the edges. -/
def Reaches (p : Plan) (a b : String) : Prop :=
  Relation.ReflTransGen (fun x y => (x, y) ∈ p.edges) a b

/-- Both ends of every edge are registered. -/
def EndsKnown (p : Plan) : Prop := ∀ e ∈ p.edges, e.1 ∈ p.ids ∧ e.2 ∈ p.ids

/-- A plan that passes every check of a build. -/
structure WellFormed (p : Plan) : Prop where
  distinct : NoClash p.registrations
  limit_pos : 0 < p.limit
  endsKnown : p.EndsKnown
  reachable : ∀ x ∈ p.registrations, p.Reaches p.start x.id

/-- The error a build reports: that of the first check that fails, in the order they are made. -/
inductive Rejects (p : Plan) : WorkflowError → Prop
  | duplicate {x : Executor} : (clashing p.registrations).head? = some x →
      Rejects p (.duplicateExecutor x.id)
  | limit : NoClash p.registrations → p.limit = 0 →
      Rejects p (.invalid "max_supersteps must be at least 1")
  | endpoint {pre post : List (String × String)} {src dst : String} :
      NoClash p.registrations → 0 < p.limit → p.edges = pre ++ (src, dst) :: post →
      (∀ e ∈ pre, e.1 ∈ p.ids ∧ e.2 ∈ p.ids) → ¬(src ∈ p.ids ∧ dst ∈ p.ids) →
      Rejects p (.executorNotFound (if src ∈ p.ids then dst else src))
  | unreachable {pre post : List Executor} {x : Executor} :
      NoClash p.registrations → 0 < p.limit → p.EndsKnown →
      p.registrations = pre ++ x :: post → (∀ y ∈ pre, p.Reaches p.start y.id) →
      ¬p.Reaches p.start x.id → Rejects p (.unreachable x.id)

/-- A builder holding a plan. -/
structure Describes (p : Plan) (b : Builder) : Prop where
  registered : Registered p.registrations b
  start_eq : b.start = p.start
  start_mem : p.start ∈ p.ids
  limit_eq : b.maxSupersteps = p.limit
  edges_eq : b.edges = p.edges

namespace Describes

variable {p : Plan} {b : Builder}

theorem mem_ids (h : p.Describes b) {id : String} : id ∈ b.executors.map (·.id) ↔ id ∈ p.ids :=
  h.registered.mem_ids

theorem start_mem' (h : p.Describes b) : b.start ∈ b.executors.map (·.id) :=
  h.mem_ids.2 (h.start_eq ▸ h.start_mem)

theorem duplicates_head (h : p.Describes b) :
    b.duplicates.head? = ((clashing p.registrations).head?).map (·.id) := by
  rw [h.registered.duplicates, List.head?_map]

theorem duplicates_nil (h : p.Describes b) (hnc : NoClash p.registrations) : b.duplicates = [] := by
  rw [h.registered.duplicates, clashing_eq_nil_iff.2 hnc]
  rfl

theorem endsKnown_iff (h : p.Describes b) :
    (∀ e ∈ b.edges, e.1 ∈ b.executors.map (·.id) ∧ e.2 ∈ b.executors.map (·.id)) ↔ p.EndsKnown := by
  simp only [EndsKnown, h.mem_ids, h.edges_eq]

/-- The search of a build finds exactly what the plan's edges reach from the start. -/
theorem mem_reach_iff (h : p.Describes b) {edges : List (String × List String)}
    (he : collectEdges (b.executors.map (·.id)) b.edges [] = .ok edges) (x : String) :
    x ∈ reach edges ((b.executors.map (·.id)).length + 1) [b.start] [b.start] ↔
      p.Reaches p.start x := by
  have hknown := collectEdges_ok_iff.1 ⟨edges, he⟩
  have hids : ∀ a, ∀ c ∈ targets edges a, c ∈ b.executors.map (·.id) := by
    intro a c hc
    exact (hknown (a, c) ((mem_targets_of_collectEdges he a c).1 hc)).2
  have hrel : Edge edges = fun a c => (a, c) ∈ p.edges := by
    funext a c
    rw [← h.edges_eq]
    exact propext (mem_targets_of_collectEdges he a c)
  rw [mem_reach_start hids h.start_mem' x, hrel, h.start_eq]
  rfl

/-- A search over executors by id finds the executor first registered under the id the
registrations give. -/
theorem find?_id (h : p.Describes b) (q : String → Bool) :
    (b.executors.find? fun e => q e.id).map (·.id) =
      (p.registrations.find? fun e => q e.id).map (·.id) := by
  have key := congrArg (List.find? q) h.registered.ids
  rw [find?_eraseDups, List.find?_map, List.find?_map] at key
  exact key

/-- Whatever a build returns is what the plan calls for: a graph only for a well-formed plan,
and otherwise the error of the first check that fails. -/
theorem build_sound (h : p.Describes b) :
    (∃ edges, collectEdges (b.executors.map (·.id)) b.edges [] = .ok edges ∧
      b.build = .ok ⟨b.name, b.start, b.executors, edges, b.maxSupersteps⟩ ∧ p.WellFormed) ∨
    ∃ err, b.build = .error err ∧ p.Rejects err := by
  cases hx : (clashing p.registrations).head? with
  | some x =>
    exact .inr ⟨_, build_of_duplicate (by rw [h.duplicates_head, hx]; rfl), .duplicate hx⟩
  | none =>
    have hnc : NoClash p.registrations := clashing_eq_nil_iff.1 (List.head?_eq_none_iff.1 hx)
    have hd := h.duplicates_nil hnc
    by_cases hl : p.limit = 0
    · exact .inr ⟨_, build_of_limit hd (h.limit_eq.trans hl), .limit hnc hl⟩
    have hl' : b.maxSupersteps ≠ 0 := by
      rw [h.limit_eq]
      exact hl
    cases he : collectEdges (b.executors.map (·.id)) b.edges [] with
    | error err =>
      refine .inr ⟨err, build_of_edges_error hd hl' he, ?_⟩
      obtain ⟨⟨src, dst⟩, hfind, rfl⟩ := collectEdges_eq_error_iff.1 he
      obtain ⟨hbad, pre, post, hsplit, hpre⟩ := List.find?_eq_some_iff_append.1 hfind
      rw [if_mem_congr (fun _ => h.mem_ids) src dst src]
      refine .endpoint hnc (Nat.pos_of_ne_zero hl) (h.edges_eq.symm.trans hsplit) ?_ ?_
      · intro e he
        simpa [h.mem_ids] using hpre e he
      · have hbad' : src ∉ p.ids ∨ dst ∉ p.ids := by simpa [h.mem_ids] using hbad
        exact not_and_or.2 hbad'
    | ok edges =>
      have hends : p.EndsKnown := h.endsKnown_iff.1 (collectEdges_ok_iff.1 ⟨edges, he⟩)
      cases hf : b.executors.find? (fun e => !(reach edges ((b.executors.map (·.id)).length + 1)
          [b.start] [b.start]).contains e.id) with
      | some e =>
        refine .inr ⟨_, build_of_unreached hd hl' he h.start_mem' hf, ?_⟩
        have key := h.find?_id fun i => !(reach edges ((b.executors.map (·.id)).length + 1)
          [b.start] [b.start]).contains i
        rw [hf] at key
        obtain ⟨x, hx, hxe⟩ := Option.map_eq_some_iff.1 key.symm
        obtain ⟨hxq, pre, post, hsplit, hpre⟩ := List.find?_eq_some_iff_append.1 hx
        have hxe' : x.id = e.id := hxe
        rw [← hxe']
        refine .unreachable hnc (Nat.pos_of_ne_zero hl) hends hsplit ?_ ?_
        · intro y hy
          have hm : y.id ∈ reach edges ((b.executors.map (·.id)).length + 1) [b.start] [b.start] := by
            simpa using hpre y hy
          exact (h.mem_reach_iff he y.id).1 hm
        · have hm : x.id ∉ reach edges ((b.executors.map (·.id)).length + 1) [b.start] [b.start] := by
            simpa using hxq
          exact fun hr => hm ((h.mem_reach_iff he x.id).2 hr)
      | none =>
        refine .inl ⟨edges, rfl, build_of_reached hd hl' he h.start_mem' hf,
          hnc, Nat.pos_of_ne_zero hl, hends, ?_⟩
        intro x hx
        obtain ⟨y, hy, hyx⟩ := List.mem_map.1 (h.mem_ids.2 (List.mem_map_of_mem hx))
        have hm : y.id ∈ reach edges ((b.executors.map (·.id)).length + 1) [b.start] [b.start] := by
          simpa using List.find?_eq_none.1 hf y hy
        rw [← hyx]
        exact (h.mem_reach_iff he y.id).1 hm

theorem rejects_of_build (h : p.Describes b) {err : WorkflowError} (hb : b.build = .error err) :
    p.Rejects err := by
  rcases h.build_sound with ⟨edges, -, hok, -⟩ | ⟨err', herr, hr⟩
  · rw [hb] at hok
    cases hok
  · rw [hb] at herr
    cases herr
    exact hr

theorem wellFormed_of_build (h : p.Describes b) {g : Graph} (hb : b.build = .ok g) :
    p.WellFormed ∧ ∃ edges, collectEdges (b.executors.map (·.id)) b.edges [] = .ok edges ∧
      g = ⟨b.name, b.start, b.executors, edges, b.maxSupersteps⟩ := by
  rcases h.build_sound with ⟨edges, he, hok, hw⟩ | ⟨err, herr, -⟩
  · rw [hb] at hok
    cases hok
    exact ⟨hw, edges, he, rfl⟩
  · rw [hb] at herr
    cases herr

theorem build_of_rejects (h : p.Describes b) {err : WorkflowError} (hr : p.Rejects err) :
    b.build = .error err := by
  cases hr with
  | duplicate hx => exact build_of_duplicate (by rw [h.duplicates_head, hx]; rfl)
  | limit hnc hl => exact build_of_limit (h.duplicates_nil hnc) (h.limit_eq.trans hl)
  | @endpoint pre post src dst hnc hl hsplit hpre hbad =>
    rw [if_mem_congr (fun _ => h.mem_ids.symm) src dst src]
    refine build_of_edges_error (h.duplicates_nil hnc) (by rw [h.limit_eq]; omega)
      (collectEdges_eq_error_iff.2 ⟨(src, dst), ?_, rfl⟩)
    refine List.find?_eq_some_iff_append.2 ⟨?_, pre, post, h.edges_eq.trans hsplit, ?_⟩
    · have hbad' : src ∉ p.ids ∨ dst ∉ p.ids := not_and_or.1 hbad
      simpa [h.mem_ids] using hbad'
    · intro e he
      simpa [h.mem_ids] using hpre e he
  | @unreachable pre post x hnc hl hends hsplit hpre hx =>
    obtain ⟨edges, he⟩ := collectEdges_ok_iff.2 (h.endsKnown_iff.2 hends)
    have hfind : p.registrations.find? (fun e => !(reach edges ((b.executors.map (·.id)).length + 1)
        [b.start] [b.start]).contains e.id) = some x := by
      refine List.find?_eq_some_iff_append.2 ⟨?_, pre, post, hsplit, ?_⟩
      · have hm : x.id ∉ reach edges ((b.executors.map (·.id)).length + 1) [b.start] [b.start] :=
          fun hm => hx ((h.mem_reach_iff he x.id).1 hm)
        simpa using hm
      · intro y hy
        have hm := (h.mem_reach_iff he y.id).2 (hpre y hy)
        simpa using hm
    have key := h.find?_id fun i => !(reach edges ((b.executors.map (·.id)).length + 1)
      [b.start] [b.start]).contains i
    rw [hfind] at key
    obtain ⟨e, hf, hex⟩ := Option.map_eq_some_iff.1 key
    have hex' : e.id = x.id := hex
    rw [← hex']
    exact build_of_unreached (h.duplicates_nil hnc) (by rw [h.limit_eq]; omega) he h.start_mem' hf

theorem build_of_wellFormed (h : p.Describes b) (hw : p.WellFormed) : ∃ g, b.build = .ok g := by
  obtain ⟨edges, he⟩ := collectEdges_ok_iff.2 (h.endsKnown_iff.2 hw.endsKnown)
  have hf : b.executors.find? (fun e => !(reach edges ((b.executors.map (·.id)).length + 1)
      [b.start] [b.start]).contains e.id) = none := by
    apply List.find?_eq_none.2
    intro e he'
    have hm := (h.mem_reach_iff he e.id).2
      (hw.reachable e (List.mem_of_find?_eq_some (h.registered.first e he')))
    simpa using hm
  have hl : b.maxSupersteps ≠ 0 := by
    rw [h.limit_eq]
    exact Nat.pos_iff_ne_zero.1 hw.limit_pos
  exact ⟨_, build_of_reached (h.duplicates_nil hw.distinct) hl he h.start_mem' hf⟩

/-- The graph a build returns keeps the name, the start and the limit, each executor once in the
order of first registration, and each distinct edge once in the order first added. -/
theorem graph_of_build (h : p.Describes b) {g : Graph} (hb : b.build = .ok g) :
    g.name = b.name ∧ g.start = p.start ∧ g.maxSupersteps = p.limit ∧
      g.nodes.map (·.id) = p.ids.eraseDups ∧
      (∀ x ∈ g.nodes, p.registrations.find? (·.id == x.id) = some x) ∧
      (∀ s, g.successors s = ((p.edges.filter (·.1 == s)).map (·.2)).eraseDups) ∧
      g.edgeCount = p.edges.eraseDups.length := by
  obtain ⟨-, edges, he, rfl⟩ := h.wellFormed_of_build hb
  refine ⟨rfl, h.start_eq, h.limit_eq, h.registered.ids, h.registered.first, fun s => ?_, ?_⟩
  · rw [← h.edges_eq]
    exact successors_of_build hb s
  · rw [edgeCount_eq, ← h.edges_eq]
    exact pairCount_of_collectEdges he

end Describes

end Plan

/-- The plan that calls on a new builder declare. -/
def Plan.ofCalls (start : Executor) (cs : List Call) : Plan :=
  ⟨Builder.registrations start cs, start.id, limitOf cs, edgesOf cs⟩

theorem describes_calls (start : Executor) (cs : List Call) :
    (Plan.ofCalls start cs).Describes ((new start).calls cs) := by
  obtain ⟨hreg, -, hstart, hedges, hmax⟩ := new_calls start cs
  exact ⟨hreg, hstart, List.mem_map_of_mem List.mem_cons_self, hmax, hedges⟩

/-- Building after any sequence of calls on a new builder: the build succeeds exactly when the
plan the calls declare is well formed, and otherwise fails with the error of the first check
that fails; the graph keeps the name and limit last set, the start, each executor once in the
order of first registration, and each distinct edge once in the order first added. -/
theorem graph_validation (start : Executor) (cs : List Call) :
    ((∃ g, ((new start).calls cs).build = .ok g) ↔ (Plan.ofCalls start cs).WellFormed) ∧
      (∀ err, ((new start).calls cs).build = .error err ↔ (Plan.ofCalls start cs).Rejects err) ∧
      ∀ g, ((new start).calls cs).build = .ok g →
        g.name = nameOf cs ∧ g.start = start.id ∧ g.maxSupersteps = limitOf cs ∧
        g.nodes.map (·.id) = ((registrations start cs).map (·.id)).eraseDups ∧
        (∀ x ∈ g.nodes, (registrations start cs).find? (·.id == x.id) = some x) ∧
        (∀ s, g.successors s = (((edgesOf cs).filter (·.1 == s)).map (·.2)).eraseDups) ∧
        g.edgeCount = (edgesOf cs).eraseDups.length := by
  have h := describes_calls start cs
  refine ⟨⟨?_, h.build_of_wellFormed⟩, fun err => ⟨fun hb => ?_, h.build_of_rejects⟩,
    fun g hb => ?_⟩
  · intro hok
    obtain ⟨g, hb⟩ := hok
    exact (h.wellFormed_of_build hb).1
  · exact h.rejects_of_build hb
  · obtain ⟨hname, hrest⟩ := h.graph_of_build hb
    exact ⟨hname.trans (new_calls start cs).2.1, hrest⟩

-- An edge to an unknown executor is reported before an executor nothing reaches.
example : ((new (Nodes.upperCaser "a")).calls
    [.addExecutor (Nodes.upperCaser "b"), .connect "a" "ghost"]).build =
    .error (.executorNotFound "ghost") := by rfl

end Graph.Builder

end Superstep
