/-! # Runs

Something with a state is asked for one move after the other, and answers each of them. What
holds of its state in the beginning, and goes on to hold with every move, holds at each point
of a run; and it may speak of all the moves and answers up to that point, such as the latest
one that was a success.
-/

namespace SchemaDefaults

structure Transition (σ μ α : Type) where
  before : σ
  move : μ
  answer : α
  after : σ

namespace Transition

variable {σ μ α β : Type}

/-- The transitions of a run, given what a move does. -/
def run (perform : σ → μ → α × σ) (state : σ) : List μ → List (Transition σ μ α)
  | [] => []
  | move :: rest =>
      let (answer, after) := perform state move
      ⟨state, move, answer, after⟩ :: run perform after rest

/-- Something holds of each transition and those before it. -/
def Each (Q : List (Transition σ μ α) → Transition σ μ α → Prop)
    (steps : List (Transition σ μ α)) : Prop :=
  ∀ past step future, steps = past ++ step :: future → Q past step

/-- The state that some transitions leave behind. -/
def endOf (start : σ) (past : List (Transition σ μ α)) : σ :=
  (past.getLast?.map after).getD start

/-- What the latest transition that has it gives, or what there was in the beginning. -/
def latest (pick : Transition σ μ α → Option β) (initial : Option β)
    (past : List (Transition σ μ α)) : Option β :=
  (past.filterMap pick).getLast?.or initial

theorem endOf_concat (start : σ) (past : List (Transition σ μ α)) (step : Transition σ μ α) :
    endOf start (past ++ [step]) = step.after := by
  rw [endOf, List.getLast?_concat]
  rfl

theorem latest_concat (pick : Transition σ μ α → Option β) (initial : Option β)
    (past : List (Transition σ μ α)) (step : Transition σ μ α) :
    latest pick initial (past ++ [step]) = (pick step).or (latest pick initial past) := by
  rw [latest, List.filterMap_append, List.filterMap_cons, List.filterMap_nil]
  cases picked : pick step with
  | none => simp [latest]
  | some found => simp

theorem exists_mem_concat {p : Transition σ μ α → Prop} {past : List (Transition σ μ α)}
    {step : Transition σ μ α} :
    (∃ other ∈ past ++ [step], p other) ↔ (∃ other ∈ past, p other) ∨ p step := by
  simp only [List.mem_append, List.mem_singleton, or_and_right, exists_or, exists_eq_left]

theorem map_move_run (perform : σ → μ → α × σ) (state : σ) (moves : List μ) :
    (run perform state moves).map move = moves := by
  induction moves generalizing state with
  | nil => rfl
  | cons move rest ih => rw [run, List.map_cons, ih]

/-- What every move keeps, and gives of each transition, is given by a run. -/
theorem each_run {perform : σ → μ → α × σ} {start : σ}
    {P : σ → List (Transition σ μ α) → Prop} {Q : List (Transition σ μ α) → Transition σ μ α → Prop}
    (begins : P start [])
    (keeps : ∀ past step, perform step.before step.move = (step.answer, step.after) →
      P step.before past → Q past step ∧ P step.after (past ++ [step]))
    (moves : List μ) : Each Q (run perform start moves) := by
  -- A run goes on from any past, so the past is generalized before the induction on the moves.
  have onwards : ∀ state past, P state past → ∀ more step future,
      run perform state moves = more ++ step :: future → Q (past ++ more) step := by
    induction moves with
    | nil =>
        intro _ _ _ more step future split
        simp [run] at split
    | cons move rest ih =>
        intro state past holds more step future split
        let first : Transition σ μ α :=
          ⟨state, move, (perform state move).1, (perform state move).2⟩
        obtain ⟨given, kept⟩ := keeps past first rfl holds
        cases more with
        | nil =>
            obtain ⟨rfl, _⟩ := List.cons.inj split
            rw [List.append_nil]
            exact given
        | cons one more =>
            obtain ⟨rfl, later⟩ := List.cons.inj split
            have found := ih first.after (past ++ [first]) kept more step future later
            rwa [List.append_assoc] at found
  exact onwards start [] begins

end Transition

end SchemaDefaults
