/-
  GraphicsBuffer.Proofs.Run

  Runs of a system that makes one move after another. A rule says which moves may be made in which
  states. What holds at the start of a run and is kept by every allowed move holds at its end.
-/

namespace GraphicsBuffer

variable {S M : Type}

/-- Every move of a run is one that the rule allows in the state in which it is made. -/
def Obeys (next : S → M → S) (rule : S → M → Prop) : S → List M → Prop
  | _, [] => True
  | s, m :: rest => rule s m ∧ Obeys next rule (next s m) rest

namespace Obeys

variable {next : S → M → S} {rule : S → M → Prop}

theorem invariant {I : S → Prop} (h_step : ∀ s m, I s → rule s m → I (next s m)) {s : S}
    {moves : List M} (h_start : I s) (h_run : Obeys next rule s moves) :
    I (moves.foldl next s) := by
  -- the invariant is asked of every state that a run may start in
  induction moves generalizing s with
  | nil => exact h_start
  | cons m rest ih =>
    obtain ⟨h_rule, h_rest⟩ := h_run
    exact ih (h_step s m h_start h_rule) h_rest

/-- A rule that follows from another and from what it keeps is obeyed as well. -/
theorem strengthen {I : S → Prop} {rule' : S → M → Prop}
    (h_step : ∀ s m, I s → rule s m → I (next s m)) (h_rule : ∀ s m, I s → rule s m → rule' s m)
    {s : S} {moves : List M} (h_start : I s) (h_run : Obeys next rule s moves) :
    Obeys next rule' s moves := by
  induction moves generalizing s with
  | nil => exact True.intro
  | cons m rest ih =>
    obtain ⟨h_first, h_rest⟩ := h_run
    exact ⟨h_rule s m h_start h_first, ih (h_step s m h_start h_first) h_rest⟩

/-- A run that obeys two rules obeys both at once. -/
theorem and {rule' : S → M → Prop} {s : S} {moves : List M} (h : Obeys next rule s moves)
    (h' : Obeys next rule' s moves) : Obeys next (fun s m => rule s m ∧ rule' s m) s moves := by
  induction moves generalizing s with
  | nil => exact True.intro
  | cons m rest ih => exact ⟨⟨h.1, h'.1⟩, ih h.2 h'.2⟩

/-- Each part of a run that obeys a rule obeys it. -/
theorem of_append {s : S} {earlier later : List M} (h : Obeys next rule s (earlier ++ later)) :
    Obeys next rule s earlier ∧ Obeys next rule (earlier.foldl next s) later := by
  induction earlier generalizing s with
  | nil => exact ⟨True.intro, h⟩
  | cons m rest ih =>
    obtain ⟨h_rest, h_later⟩ := ih h.2
    exact ⟨⟨h.1, h_rest⟩, h_later⟩

/-- Every run obeys the rule that allows everything. -/
theorem always (next : S → M → S) (s : S) (moves : List M) :
    Obeys next (fun _ _ => True) s moves := by
  induction moves generalizing s with
  | nil => exact True.intro
  | cons m rest ih => exact ⟨True.intro, ih (next s m)⟩

end Obeys

end GraphicsBuffer
