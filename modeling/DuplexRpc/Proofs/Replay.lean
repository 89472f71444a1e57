/-!
# Replays

A system takes one move at a time and shows what happens on the way.  Its replay takes a list of
moves in their order.  What each move keeps, whatever was shown before it, a replay keeps.
-/

namespace DuplexRpc

variable {σ μ ω : Type}

/-- Takes moves in order and lists what they show. -/
def replay (step : σ → μ → σ × List ω) : σ → List μ → σ × List ω
  | s, [] => (s, [])
  | s, move :: moves =>
      let (s, seen) := step s move
      let (s, later) := replay step s moves
      (s, seen ++ later)

@[simp] theorem replay_nil (step : σ → μ → σ × List ω) (s : σ) :
    replay step s [] = (s, []) := rfl

theorem replay_cons (step : σ → μ → σ × List ω) (s : σ) (move : μ) (moves : List μ) :
    replay step s (move :: moves) =
      ((replay step (step s move).1 moves).1,
        (step s move).2 ++ (replay step (step s move).1 moves).2) := rfl

theorem replay_append (step : σ → μ → σ × List ω) (s : σ) (first second : List μ) :
    replay step s (first ++ second) =
      ((replay step (replay step s first).1 second).1,
        (replay step s first).2 ++ (replay step (replay step s first).1 second).2) := by
  induction first generalizing s with
  | nil => simp
  | cons move moves ih =>
      simp only [List.cons_append, replay_cons, ih, List.append_assoc]

theorem replay_keeps {step : σ → μ → σ × List ω} (kept : σ → List ω → Prop) {moves : List μ}
    (hstep : ∀ s seen, ∀ move ∈ moves, kept s seen →
      kept (step s move).1 (seen ++ (step s move).2))
    {s : σ} (h : kept s []) : kept (replay step s moves).1 (replay step s moves).2 := by
  suffices ∀ seen, kept s seen →
      kept (replay step s moves).1 (seen ++ (replay step s moves).2) from this [] h
  clear h
  induction moves generalizing s with
  | nil => simp
  | cons move moves ih =>
      intro seen h
      have first := hstep s seen move (by simp) h
      have rest := ih (fun s seen later hlater => hstep s seen later (by simp [hlater])) _ first
      simpa [replay_cons, List.append_assoc] using rest

end DuplexRpc
