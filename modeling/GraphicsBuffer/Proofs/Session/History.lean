/-
  GraphicsBuffer.Proofs.Session.History

  A client cannot tell how much is in the past. The answers to its steps, and all that a session
  keeps besides the account of what was done, are the same under every past.
-/

import GraphicsBuffer.Proofs.Backend.Trace
import GraphicsBuffer.Proofs.Session.Play
import GraphicsBuffer.Proofs.World.History

namespace GraphicsBuffer.Session

variable {σ : Type} (B : Backend σ) (s : Session σ) (past : History)

/-- The session with more in its past. -/
def under : Session σ := { s with world := s.world.under past }

/-- The session with nothing in its past. -/
def forget : Session σ := { s with world := s.world.forget }

@[simp] theorem under_world : (s.under past).world = s.world.under past := rfl

@[simp] theorem under_handles : (s.under past).handles = s.handles := rfl

@[simp] theorem under_holdings : (s.under past).holdings = s.holdings := rfl

@[simp] theorem under_forget : (s.under past).forget = s.forget := rfl

theorem forget_under_history : s.forget.under s.world.env.history = s := by
  rw [under, forget, World.forget_under_history]

/-! ## Names -/

@[simp] theorem setWorld_under (w : World σ) :
    (s.under past).setWorld (w.under past) = (s.setWorld w).under past := rfl

@[simp] theorem setHandle_under (h : Name) (handle : Handle) :
    (s.under past).setHandle h handle = (s.setHandle h handle).under past := rfl

@[simp] theorem releaseHolding_under (o : Name) :
    (s.under past).releaseHolding B o = (s.releaseHolding B o).under past := by
  simp only [releaseHolding, under_holdings, under_world, World.release_under]
  rcases s.holdings.find? o with _ | holding <;> rfl

@[simp] theorem setHolding_under (o : Name) (holding : Holding) :
    (s.under past).setHolding B o holding = (s.setHolding B o holding).under past := by
  simp only [setHolding, releaseHolding_under]
  rfl

theorem withManager_under {m : ManagerId} {k k' : Manager → Answer × Session σ}
    (h_k : ∀ manager, k' manager = ((k manager).1, (k manager).2.under past)) :
    (s.under past).withManager m k' =
      ((s.withManager m k).1, (s.withManager m k).2.under past) := by
  simp only [withManager, under_world, World.manager?_under]
  rcases s.world.manager? m with _ | manager
  · rfl
  · exact h_k manager

theorem withHandle_under {h : Name} {k k' : Handle → Answer × Session σ}
    (h_k : ∀ handle, k' handle = ((k handle).1, (k handle).2.under past)) :
    (s.under past).withHandle h k' = ((s.withHandle h k).1, (s.withHandle h k).2.under past) := by
  simp only [withHandle, under_handles]
  rcases s.handles.find? h with _ | handle
  · rfl
  · exact h_k handle

theorem withObject_under {o : Name} {k k' : BufferObject → Answer × Session σ}
    (h_k : ∀ object, k' object = ((k object).1, (k object).2.under past)) :
    (s.under past).withObject o k' = ((s.withObject o k).1, (s.withObject o k).2.under past) := by
  simp only [withObject, heldObject?, under_holdings, under_world, World.under_objects]
  rcases (s.holdings.find? o).bind fun holding => s.world.objects.find? holding.id with _ | object
  · rfl
  · exact h_k object

@[simp] theorem keepHandle_under (h : Name) (answer : Outcome Handle) (w : World σ) :
    (s.under past).keepHandle h (answer, w.under past) =
      ((s.keepHandle h (answer, w)).1, (s.keepHandle h (answer, w)).2.under past) := by
  rcases answer with f | handle <;> rfl

@[simp] theorem keepLock_under (before : Option BufferObject)
    (answer : Outcome (Option Address)) (w : World σ) :
    (s.under past).keepLock before (answer, w.under past) =
      ((s.keepLock before (answer, w)).1, (s.keepLock before (answer, w)).2.under past) := by
  rcases answer with f | address <;> rfl

/-! ## Steps -/

/-- A step does the same under every past. -/
theorem step_under (step : Step) :
    (s.under past).step B step = ((s.step B step).1, (s.step B step).2.under past) := by
  cases step with
  | new h size format usage => rfl
  | duplicate h target =>
    refine withHandle_under s past fun handle => ?_
    rcases handle.duplicate with e | copy <;> rfl
  | assign h edit => exact withHandle_under s past fun handle => rfl
  | transfer h target damage courier =>
    refine withHandle_under s past fun handle => ?_
    simp only
    rcases Handle.ofWire _ _ with e | arrived <;> rfl
  | dropHandle h => rfl
  | dropManager m =>
    simp only [Session.step, under_world, World.under_managers, World.manager?_under,
      World.dropManager_under, setWorld_under]
    split <;> rfl
  | create m h size format usage =>
    refine withManager_under s past fun manager => ?_
    rw [under_world, World.create_under, keepHandle_under]
  | register m h =>
    refine withManager_under s past fun manager => withHandle_under s past fun handle => ?_
    rw [under_world, World.register_under, keepHandle_under]
  | unregister m h =>
    refine withManager_under s past fun manager => withHandle_under s past fun handle => ?_
    rw [under_world, World.unregister_under, keepHandle_under]
  | lock m h request =>
    refine withManager_under s past fun manager => withHandle_under s past fun handle => ?_
    rw [under_world, World.object?_under, World.lock_under, keepLock_under]
  | unlock m h =>
    refine withManager_under s past fun manager => withHandle_under s past fun handle => ?_
    rw [under_world, World.unlock_under]
    rcases s.world.unlock B m handle with ⟨e | ⟨⟩, w⟩ <;> rfl
  | resolve m h useDevice =>
    refine withManager_under s past fun manager => withHandle_under s past fun handle => ?_
    simp only [under_world, World.resolve_under]
    split
    · rfl
    · rcases s.world.resolve B m useDevice handle with ⟨f | ⟨found, handle⟩, w⟩ <;> rfl
  | hold m h o =>
    refine withManager_under s past fun manager => withHandle_under s past fun handle => ?_
    simp only [under_world, World.hold_under]
    rcases s.world.hold m handle with ⟨e | id, w⟩
    · rfl
    · simp only [setWorld_under, setHolding_under]
  | allocate m h o =>
    refine withManager_under s past fun manager => withHandle_under s past fun handle => ?_
    simp only [under_world, World.allocate_under]
    rcases s.world.allocate B m handle with ⟨f | ⟨id, handle⟩, w⟩
    · rfl
    · simp only [setWorld_under, setHandle_under, setHolding_under]
  | importFrom m h o =>
    refine withManager_under s past fun manager => withHandle_under s past fun handle => ?_
    simp only [under_world, World.importFrom_under]
    rcases s.world.importFrom B m handle with ⟨f | id, w⟩
    · rfl
    · simp only [setWorld_under, setHolding_under]
  | insert m h o =>
    refine withManager_under s past fun manager => withHandle_under s past fun handle => ?_
    simp only [under_world, under_holdings, World.insert_under]
    split
    · rfl
    · rcases s.holdings.find? o with _ | ⟨id, _ | _⟩ <;> rfl
  | lockObject o h request =>
    refine withHandle_under s past fun handle => withObject_under s past fun object => ?_
    rw [under_world, World.lockObject_under, keepLock_under]
  | unlockObject o =>
    refine withObject_under s past fun object => ?_
    simp only [under_world, World.unlockObject_under, setWorld_under]
  | sameObject o other =>
    simp only [Session.step, under_holdings]
    rcases s.holdings.find? o with _ | ⟨a, _ | _⟩ <;>
      rcases s.holdings.find? other with _ | ⟨b, _ | _⟩ <;> rfl
  | holding o =>
    simp only [Session.step, under_holdings]
    rcases s.holdings.find? o with _ | ⟨id, _ | _⟩ <;> rfl
  | release o =>
    simp only [Session.step, under_holdings, releaseHolding_under]

/-! ## Plays -/

/-- A move does the same under every past. -/
theorem move_under (m : Move σ) :
    (s.under past).move B m = ((s.move B m).1, (s.move B m).2.under past) := by
  cases m with
  | client step => exact step_under B s past step
  | receive h bytes descriptor =>
    simp only [move, receive]
    rcases Handle.ofWire bytes descriptor with e | handle <;> rfl
  | outside devices => rfl

@[simp] theorem after_under (m : Move σ) :
    (s.under past).after B m = (s.after B m).under past := by
  rw [after, move_under, after]

theorem play_under (moves : List (Move σ)) :
    (s.under past).play B moves = (s.play B moves).under past := by
  unfold play
  exact List.foldl_hom (fun s => s.under past) fun s m => after_under B s past m

/-- The answers to moves that are made one after another. -/
def answers : List (Move σ) → Session σ → List Answer
  | [], _ => []
  | m :: rest, s => (s.move B m).1 :: answers rest (s.after B m)

theorem length_answers (moves : List (Move σ)) :
    (s.answers B moves).length = moves.length := by
  induction moves generalizing s with
  | nil => rfl
  | cons m rest ih => simp only [answers, List.length_cons, ih]

theorem answers_append (earlier later : List (Move σ)) :
    s.answers B (earlier ++ later) = s.answers B earlier ++ (s.play B earlier).answers B later := by
  induction earlier generalizing s with
  | nil => rfl
  | cons m rest ih =>
    rw [List.cons_append, answers, answers, ih, List.cons_append]
    rfl

theorem play_append (earlier later : List (Move σ)) :
    s.play B (earlier ++ later) = (s.play B earlier).play B later :=
  List.foldl_append

theorem answers_under (moves : List (Move σ)) :
    (s.under past).answers B moves = s.answers B moves := by
  induction moves generalizing s with
  | nil => rfl
  | cons m rest ih => simp only [answers, move_under, after_under, ih]

variable {B s} {s' : Session σ}

/-- Two sessions that differ in nothing but their pasts answer the same moves alike, -/
theorem answers_congr (h : s'.forget = s.forget) (moves : List (Move σ)) :
    s'.answers B moves = s.answers B moves := by
  rw [← s.forget_under_history, ← s'.forget_under_history, answers_under, answers_under, h]

/-- they still differ in nothing else afterwards, -/
theorem play_congr (h : s'.forget = s.forget) (moves : List (Move σ)) :
    (s'.play B moves).forget = (s.play B moves).forget := by
  rw [← s.forget_under_history, ← s'.forget_under_history, play_under, play_under, h,
    under_forget, under_forget]

theorem callsSince_play (moves : List (Move σ)) :
    s.world.env.callsSince (s.play B moves).world.env =
      (s.forget.play B moves).world.env.trace := by
  have h_play : s.play B moves = (s.forget.play B moves).under s.world.env.history := by
    rw [← play_under, forget_under_history]
  rw [h_play]
  exact Env.callsSince_of_trace rfl

/-- and they make the same calls. -/
theorem callsSince_congr (h : s'.forget = s.forget) (moves : List (Move σ)) :
    s'.world.env.callsSince (s'.play B moves).world.env =
      s.world.env.callsSince (s.play B moves).world.env := by
  rw [callsSince_play, callsSince_play, h]

end GraphicsBuffer.Session
