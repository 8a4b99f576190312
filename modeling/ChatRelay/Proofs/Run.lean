/-! # Runs

A system is moved from outside, one move after the other. Every move shows something and leads to
the next state; a run shows what its moves show, in their order.
-/

namespace ChatRelay

variable {State Move Seen : Type} (step : State → Move → List Seen × State)

/-- What moves show one after the other, and the state that they lead to. -/
def play (state : State) : List Move → List Seen × State
  | [] => ([], state)
  | move :: moves =>
      let (seen, next) := step state move
      let (later, last) := play next moves
      (seen ++ later, last)

theorem play_append (state : State) (moves later : List Move) :
    play step state (moves ++ later) =
      let (seen, middle) := play step state moves
      let (rest, last) := play step middle later
      (seen ++ rest, last) := by
  induction moves generalizing state with
  | nil => rfl
  | cons move moves ih => simp only [List.cons_append, play, ih, List.append_assoc]

theorem play_snoc (state : State) (moves : List Move) (move : Move) :
    play step state (moves ++ [move]) =
      let (seen, last) := play step state moves
      (seen ++ (step last move).1, (step last move).2) := by
  simp [play_append, play]

theorem play_induction_after {step : State → Move → List Seen × State}
    {motive : List Seen → State → Prop}
    (keeps : ∀ seen state move, motive seen state →
      motive (seen ++ (step state move).1) (step state move).2)
    {seen : List Seen} {state : State} (good : motive seen state) (moves : List Move) :
    motive (seen ++ (play step state moves).1) (play step state moves).2 := by
  induction moves generalizing seen state with
  | nil => simpa [play] using good
  | cons move moves ih =>
      have last := ih (keeps seen state move good)
      rwa [List.append_assoc] at last

/-- What every move preserves, of a state and of all that was shown before it, holds after every
    run. -/
theorem play_induction {step : State → Move → List Seen × State} {motive : List Seen → State → Prop}
    (keeps : ∀ seen state move, motive seen state →
      motive (seen ++ (step state move).1) (step state move).2)
    {state : State} (good : motive [] state) (moves : List Move) :
    motive (play step state moves).1 (play step state moves).2 :=
  play_induction_after keeps good moves

/-- Moves that change nothing and show nothing can be left out. -/
theorem play_filter {step : State → Move → List Seen × State} {matters : Move → Bool}
    (idle : ∀ state move, matters move = false → step state move = ([], state))
    (state : State) (moves : List Move) :
    play step state (moves.filter matters) = play step state moves := by
  induction moves generalizing state with
  | nil => rfl
  | cons move moves ih =>
      cases kind : matters move with
      | true => simp only [List.filter_cons_of_pos kind, play, ih]
      | false =>
          rw [List.filter_cons_of_neg (by simp [kind])]
          simp only [play, idle state move kind, ih, List.nil_append]

/-- A part of a system that makes its own steps makes its own runs. What the whole system shows of
    the part is what the part shows. -/
theorem play_part {Part : Type} {step : State → Move → List Seen × State}
    {own : Part → Move → List Seen × Part} (part : State → Part) (about : Seen → Bool)
    {motive : State → Prop} {Fair : Move → Prop}
    (keeps : ∀ state move, motive state → Fair move → motive (step state move).2)
    (parts : ∀ state move, motive state → Fair move →
      ((step state move).1.filter about, part (step state move).2) = own (part state) move)
    {state : State} (good : motive state) (moves : List Move) (fair : ∀ move ∈ moves, Fair move) :
    ((play step state moves).1.filter about, part (play step state moves).2) =
      play own (part state) moves := by
  induction moves generalizing state with
  | nil => rfl
  | cons move moves ih =>
      have here := fair move List.mem_cons_self
      have later := ih (keeps state move good here) fun move member =>
        fair move (List.mem_cons_of_mem _ member)
      simp only [play, List.filter_append, ← parts state move good here, ← later]

end ChatRelay
