import Mathlib
import Superstep.Proofs.Schedule

/-!
# Reachability in a graph under construction

`Graph.reach` searches per-source edge lists breadth first: each round takes the targets of the
previous round that were not seen yet. Given one round more than there are executors, it returns
exactly the executors reachable from the start (`Graph.mem_reach_iff`), provided every edge leads
to a known executor. The argument is an invariant of the search (`Graph.Search`): what was seen
is distinct, known and reachable, and only the last round can have targets not yet seen. A round
that finds something sees one executor more, so the rounds cannot outlast the executors.
-/

namespace Superstep.Graph

/-- One edge of per-source edge lists. -/
def Edge (edges : List (String × List String)) (a b : String) : Prop := b ∈ targets edges a

/-- The executors one round of the search finds: the targets of the last round not seen yet. -/
def round (edges : List (String × List String)) (frontier seen : List String) : List String :=
  ((frontier.flatMap (targets edges)).filter fun id => !seen.contains id).eraseDups

theorem reach_succ (edges : List (String × List String)) (fuel : Nat) (frontier seen : List String) :
    reach edges (fuel + 1) frontier seen =
      if (round edges frontier seen).isEmpty then seen
      else reach edges fuel (round edges frontier seen) (seen ++ round edges frontier seen) := rfl

theorem mem_round {edges : List (String × List String)} {frontier seen : List String} {y : String} :
    y ∈ round edges frontier seen ↔ (∃ x ∈ frontier, y ∈ targets edges x) ∧ y ∉ seen := by
  simp [round, List.mem_eraseDups, List.mem_filter, List.mem_flatMap]

/-- What a breadth-first search from `start` keeps true, with `ids` the known executors,
`frontier` the last round and `seen` all that was found. -/
structure Search (edges : List (String × List String)) (ids : List String) (start : String)
    (frontier seen : List String) : Prop where
  root : start ∈ seen
  frontier_seen : ∀ x ∈ frontier, x ∈ seen
  distinct : seen.Nodup
  known : ∀ x ∈ seen, x ∈ ids
  reached : ∀ x ∈ seen, Relation.ReflTransGen (Edge edges) start x
  closed : ∀ x ∈ seen, x ∉ frontier → ∀ y ∈ targets edges x, y ∈ seen

namespace Search

variable {edges : List (String × List String)} {ids : List String} {start : String}
  {frontier seen : List String}

theorem init (h : start ∈ ids) : Search edges ids start [start] [start] where
  root := List.mem_singleton_self start
  frontier_seen _ hx := hx
  distinct := List.nodup_singleton start
  known x hx := by
    rw [List.mem_singleton.1 hx]
    exact h
  reached x hx := by
    rw [List.mem_singleton.1 hx]
  closed _ hx hf := absurd hx hf

theorem length_le (h : Search edges ids start frontier seen) : seen.length ≤ ids.length :=
  h.distinct.length_le_of_subset h.known

/-- Once the last round has no target left unseen, every reachable executor was seen. -/
theorem complete (h : Search edges ids start frontier seen)
    (hdone : ∀ x ∈ frontier, ∀ y ∈ targets edges x, y ∈ seen) {x : String}
    (hx : Relation.ReflTransGen (Edge edges) start x) : x ∈ seen := by
  induction hx with
  | refl => exact h.root
  | @tail a b _ hab ih =>
    by_cases hf : a ∈ frontier
    · exact hdone a hf b hab
    · exact h.closed a ih hf b hab

/-- A round keeps the invariant, with the executors it found as the new frontier. -/
theorem next (h : Search edges ids start frontier seen)
    (hids : ∀ x, ∀ y ∈ targets edges x, y ∈ ids) :
    Search edges ids start (round edges frontier seen) (seen ++ round edges frontier seen) where
  root := List.mem_append_left _ h.root
  frontier_seen _ hx := List.mem_append_right _ hx
  distinct := by
    refine List.nodup_append.2 ⟨h.distinct, nodup_eraseDups _, ?_⟩
    intro a ha b hb hab
    exact (mem_round.1 hb).2 (hab ▸ ha)
  known x hx := by
    rcases List.mem_append.1 hx with hx | hx
    · exact h.known x hx
    · obtain ⟨⟨z, -, hz⟩, -⟩ := mem_round.1 hx
      exact hids z x hz
  reached x hx := by
    rcases List.mem_append.1 hx with hx | hx
    · exact h.reached x hx
    · obtain ⟨⟨z, hz, hzx⟩, -⟩ := mem_round.1 hx
      exact .tail (h.reached z (h.frontier_seen z hz)) hzx
  closed x hx hf y hy := by
    rcases List.mem_append.1 hx with hx | hx
    · by_cases hfx : x ∈ frontier
      · by_cases hys : y ∈ seen
        · exact List.mem_append_left _ hys
        · exact List.mem_append_right _ (mem_round.2 ⟨⟨x, hfx, hy⟩, hys⟩)
      · exact List.mem_append_left _ (h.closed x hx hfx y hy)
    · exact absurd hx hf

end Search

/-- With enough rounds left, the search returns exactly the executors reachable from the start.
The induction is on the rounds; each round that finds something sees one executor more. -/
theorem mem_reach_iff {edges : List (String × List String)} {ids : List String} {start : String}
    (hids : ∀ x, ∀ y ∈ targets edges x, y ∈ ids) (fuel : Nat) :
    ∀ {frontier seen : List String}, Search edges ids start frontier seen →
      ids.length < seen.length + fuel →
      ∀ x, x ∈ reach edges fuel frontier seen ↔ Relation.ReflTransGen (Edge edges) start x := by
  induction fuel with
  | zero =>
    intro frontier seen h hfuel
    exact absurd h.length_le (by omega)
  | succ fuel ih =>
    intro frontier seen h hfuel x
    rw [reach_succ]
    split
    · rename_i hnone
      have hdone : ∀ a ∈ frontier, ∀ b ∈ targets edges a, b ∈ seen := by
        intro a ha b hb
        by_contra hbs
        have hmem : b ∈ round edges frontier seen := mem_round.2 ⟨⟨a, ha, hb⟩, hbs⟩
        simp_all
      exact ⟨h.reached x, h.complete hdone⟩
    · rename_i hsome
      have hpos : 0 < (round edges frontier seen).length :=
        List.length_pos_iff.2 (by simpa using hsome)
      exact ih (h.next hids) (by rw [List.length_append]; omega) x

theorem mem_reach_start {edges : List (String × List String)} {ids : List String} {start : String}
    (hids : ∀ x, ∀ y ∈ targets edges x, y ∈ ids) (hstart : start ∈ ids) (x : String) :
    x ∈ reach edges (ids.length + 1) [start] [start] ↔
      Relation.ReflTransGen (Edge edges) start x :=
  mem_reach_iff hids _ (Search.init hstart) (by simp only [List.length_singleton]; omega) x

end Superstep.Graph
