import Mathlib
import Superstep.Cli.Flow

/-!
# Running console programs in memory

The laws of `Console.simulate`, which runs a console program against a session held in memory:
a leaf returns, a line written goes to the end of its stream, a line read is the first line of
the input that is left, and a program followed by another runs the first, then the second from
the session the first left (`Console.simulate_bind`).

A command's action (`Cli.Action`) is a console program that may fail. Its steps compose as the
exception monad says: a step that succeeds hands its result and session on, and a step that
fails ends the action with its failure and session (`Cli.Action.simulate_bind_ok`,
`Cli.Action.simulate_bind_error`).
-/

namespace Superstep

namespace Cli

namespace Console

variable {α β : Type}

@[simp] theorem simulate_pure (a : α) (s : Session) : simulate (pure a : Console α) s = (a, s) :=
  rfl

theorem simulate_bind (x : Console α) (f : α → Console β) (s : Session) :
    simulate (x.bind f) s = simulate (f (simulate x s).1) (simulate x s).2 := by
  induction x generalizing s with
  | done a => rfl
  | say c line next ih => cases c <;> simp only [Console.bind, simulate, ih]
  | readLine k ih =>
    cases hs : s.input with
    | nil => simp only [Console.bind, simulate, hs, ih]
    | cons l rest => simp only [Console.bind, simulate, hs, ih]
  | readFile p k ih => simp only [Console.bind, simulate, ih]
  | writeFile p t k ih =>
    simp only [Console.bind, simulate]
    split
    · exact ih _ _
    · split <;> exact ih _ _

end Console

namespace Action

variable {α β : Type} {s s' : Console.Session}

theorem simulate_bind_ok {x : Action α} {f : α → Action β} {a : α}
    (h : Console.simulate x.run s = (.ok a, s')) :
    Console.simulate (x >>= f).run s = Console.simulate (f a).run s' := by
  rw [ExceptT.run_bind]
  show Console.simulate (Console.bind x.run _) s = _
  rw [Console.simulate_bind, h]

theorem simulate_bind_error {x : Action α} {f : α → Action β} {t : Trouble}
    (h : Console.simulate x.run s = (.error t, s')) :
    Console.simulate (x >>= f).run s = (.error t, s') := by
  rw [ExceptT.run_bind]
  show Console.simulate (Console.bind x.run _) s = _
  rw [Console.simulate_bind, h]
  rfl

theorem simulate_pure (a : α) : Console.simulate (pure a : Action α).run s = (.ok a, s) := rfl

theorem simulate_say (line : String) :
    Console.simulate (say line).run s = (.ok (), { s with out := s.out ++ [line] }) := rfl

theorem simulate_getLine_cons {line : String} {rest : List String} (h : s.input = line :: rest) :
    Console.simulate (ExceptT.lift Console.getLine : Action (Option String)).run s =
      (.ok (some line), { s with input := rest }) := by
  show Console.simulate (Console.readLine _) s = _
  simp only [Console.simulate, h]
  rfl

theorem simulate_getLine_nil (h : s.input = []) :
    Console.simulate (ExceptT.lift Console.getLine : Action (Option String)).run s =
      (.ok none, s) := by
  show Console.simulate (Console.readLine _) s = _
  simp only [Console.simulate, h]
  rfl

theorem simulate_attempt_ok {a : α} : Console.simulate (attempt (.ok a)).run s = (.ok a, s) := rfl

theorem simulate_attempt_error {e : FlowError} :
    Console.simulate (attempt (.error e : Except FlowError α)).run s =
      (.error (Trouble.ofFlow e), s) := rfl

end Action

end Cli

end Superstep
