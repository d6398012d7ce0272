/-
  GraphicsBuffer.Proofs.Session.FailedLock

  Locks that fail leave no trace. On the allocator on shared memory, a lock that gives an error,
  whatever the error and whichever layer it comes from, changes nothing but the account of what was
  done; without it, everything after it would have been answered the same.
-/

import GraphicsBuffer.Proofs.Backend.System
import GraphicsBuffer.Proofs.Session.History
import GraphicsBuffer.Proofs.Session.Operation

namespace GraphicsBuffer

/-! ## Failing calls -/

namespace BufferObject

variable [PageSize] {o : BufferObject} {h : Handle} {request : LockRequest}
  {env env' : Env SystemState}
  {e : Error}

/-- A mapping that is not opened because of an error leaves the devices as they were. -/
theorem openMapping_error {id : BufferId} {region : Rect} {corner : Corner} {access : Access}
    (h_open : openMapping systemBackend id h region corner access env =
      (.error (.error e), env')) : env'.forget = env.forget := by
  obtain ⟨_, -, -, h_next, -⟩ := openMapping_spec h_open
  obtain ⟨given, h_call, -, h_given⟩ := openMapping_failed h_open
  rcases h_given with ⟨e', rfl, -⟩ | ⟨a, -, h_abort⟩ | ⟨mapping, -, -, h_abort⟩
  · exact Env.forget_congr (SystemState.map_failed h_call) h_next
  · exact nomatch h_abort
  · exact nomatch h_abort

/-- A lock that gives an error leaves the devices as they were. -/
theorem lock_error (h_lock : o.lock systemBackend h request env = (.error (.error e), env')) :
    env'.forget = env.forget := by
  have h_outcome := lock_outcome systemBackend o h request env
  rw [h_lock] at h_outcome
  rw [← env.note_forget (.locking o.lockCount request.usage)]
  cases h_outcome with
  | notPermitted _ => exact Env.note_forget _ _
  | incompatible _ _ => rfl
  | noCorner _ _ _ _ => rfl
  | unmapped _ _ _ _ _ h_open => exact openMapping_error h_open
  | beyond _ _ _ _ _ _ => exact Env.note_forget _ _

end BufferObject

theorem World.lockObject_error [PageSize] {w w' : World SystemState} {o : BufferObject} {h : Handle}
    {request : LockRequest} {e : Error}
    (h_lock : w.lockObject systemBackend o h request = (.error (.error e), w')) :
    w'.forget = w.forget := by
  unfold lockObject at h_lock
  rcases h_call : o.lock systemBackend h request w.env with ⟨f | o', env⟩
  · rw [h_call] at h_lock
    obtain ⟨h_f, rfl⟩ := Prod.mk.inj h_lock
    obtain rfl := Except.error.inj h_f
    rw [forget, forget, BufferObject.lock_error h_call]
  · rw [h_call] at h_lock
    cases (Prod.mk.inj h_lock).1

theorem World.lock_error [PageSize] {w w' : World SystemState} {m : ManagerId} {h : Handle}
    {request : LockRequest} {e : Error}
    (h_lock : w.lock systemBackend m h request = (.error (.error e), w')) :
    w'.forget = w.forget := by
  unfold lock at h_lock
  rcases h_object : w.object? m h with _ | o
  · rw [h_object] at h_lock
    rw [← (Prod.mk.inj h_lock).2]
  · rw [h_object] at h_lock
    exact lockObject_error h_lock

/-! ## Sessions -/

namespace Session

/-- The step asks for a lock, of the buffer of a handle or of an object. -/
def IsLock : Step → Prop
  | .lock _ _ _ => True
  | .lockObject _ _ _ => True
  | _ => False

variable {s : Session SystemState}

/-- An answered step that changes nothing but the account of what was done, if the answer is an
    error. -/
def Traceless (s : Session SystemState) (answered : Answer × Session SystemState) : Prop :=
  ∀ e, answered.1 = .failed (.error e) → answered.2.forget = s.forget

/-- The answer to a lock keeps what the lock kept. -/
theorem Traceless.keepLock {before : Option BufferObject}
    {answer : Outcome (Option Address) × World SystemState}
    (h_kept : ∀ e, answer.1 = .error (.error e) → answer.2.forget = s.world.forget) :
    Traceless s (s.keepLock before answer) := by
  intro e h_fails
  have h_world := h_kept e (keepLock_failed h_fails)
  obtain ⟨f | address, w⟩ := answer
  · simp only [Session.keepLock, setWorld, forget, h_world]
  · cases h_fails

/-- Locks that fail leave no trace. -/
theorem step_traceless [PageSize] {step : Step} (h_lock : IsLock step) :
    Traceless s (s.step systemBackend step) := by
  -- what is not there is refused before anything is done
  cases step with
  | lock m h request =>
    refine withManager_cases (P := Traceless s) (fun _ _ => rfl) fun manager _ => ?_
    refine withHandle_cases (P := Traceless s) (fun _ _ => rfl) fun handle _ => ?_
    exact .keepLock fun e h_lock => World.lock_error (Prod.ext h_lock rfl)
  | lockObject o h request =>
    refine withHandle_cases (P := Traceless s) (fun _ _ => rfl) fun handle _ => ?_
    refine withObject_cases (P := Traceless s) (fun _ _ => rfl) fun id object _ => ?_
    exact .keepLock fun e h_lock => World.lockObject_error (Prod.ext h_lock rfl)
  | _ => exact h_lock.elim

/-- A lock call that gives an error leaves everything as it was before it but the account of what
    was done: the objects, the devices with the buffers' own mappings, the tables of all managers,
    the references, and the handles. Without the call, every later call of the run is answered the
    same and makes the same calls to the backend, and the run ends in the same state. -/
theorem failed_lock_leaves_no_trace [PageSize] (earlier later : List (Move SystemState))
    {step : Step} {e : Error} (h_lock : IsLock step)
    (h_fails : (s.answers systemBackend (earlier ++ .client step :: later))[earlier.length]? =
      some (.failed (.error e))) :
    (s.play systemBackend (earlier ++ [.client step])).forget =
        (s.play systemBackend earlier).forget ∧
      (s.answers systemBackend (earlier ++ .client step :: later)).eraseIdx earlier.length =
        s.answers systemBackend (earlier ++ later) ∧
      (s.play systemBackend (earlier ++ [.client step])).world.env.callsSince
          (s.play systemBackend (earlier ++ .client step :: later)).world.env =
        (s.play systemBackend earlier).world.env.callsSince
          (s.play systemBackend (earlier ++ later)).world.env ∧
      (s.play systemBackend (earlier ++ .client step :: later)).forget =
        (s.play systemBackend (earlier ++ later)).forget := by
  have h_length := length_answers systemBackend s earlier
  simp only [answers_append, answers, ← h_length,
    List.getElem?_append_right (Nat.le_refl _), Nat.sub_self, List.getElem?_cons_zero] at h_fails
  have h_same : ((s.play systemBackend earlier).after systemBackend (.client step)).forget =
      (s.play systemBackend earlier).forget :=
    step_traceless h_lock e (Option.some.inj h_fails)
  have h_with : s.play systemBackend (earlier ++ .client step :: later) =
      ((s.play systemBackend earlier).after systemBackend (.client step)).play systemBackend
        later := play_append systemBackend s earlier (.client step :: later)
  have h_call : s.play systemBackend (earlier ++ [.client step]) =
      (s.play systemBackend earlier).after systemBackend (.client step) :=
    play_append systemBackend s earlier [.client step]
  rw [h_with, h_call, play_append systemBackend s earlier later]
  refine ⟨h_same, ?_, callsSince_congr h_same later, play_congr h_same later⟩
  rw [answers_append, answers_append, answers, ← h_length, List.eraseIdx_append_of_length_le
    (Nat.le_refl _), Nat.sub_self, List.eraseIdx_cons_zero, answers_congr h_same]

/-- A buffer is created and its upper left quarter is locked to be painted. -/
def quarterMoves : List (Move SystemState) :=
  [.client (.create 0 "h" ⟨16, 16⟩ PixelFormat.rgba8888 Usage.cpuWriteOften),
   .client (.lock 0 "h" ⟨Usage.cpuWriteOften, ⟨0, 0, 8, 8⟩⟩)]

/-- A lock of the whole buffer. -/
def wholeLock : Step := .lock 0 "h" ⟨Usage.cpuWriteOften, ⟨0, 0, 16, 16⟩⟩

/-- The quarter is unlocked, and the lock of the whole buffer is tried again. -/
def retryMoves : List (Move SystemState) := [.client (.unlock 0 "h"), .client wholeLock]

/-- A lock of the whole buffer does not fit the quarter that is mapped. It is granted after the
    first lock is gone, as it would be if it had not been tried before. -/
theorem failed_lock_leaves_no_trace_quarter :
    (start systemBackend { kernel := {} } [.full]).answers systemBackend
        (quarterMoves ++ .client wholeLock :: retryMoves) =
      [.done, .locked (some ⟨1, 0⟩) none, .failed (.error .doubleMapping), .done,
        .locked (some ⟨2, 0⟩) none] ∧
    ((start systemBackend { kernel := {} } [.full]).answers systemBackend
        (quarterMoves ++ .client wholeLock :: retryMoves)).eraseIdx quarterMoves.length =
      (start systemBackend { kernel := {} } [.full]).answers systemBackend
        (quarterMoves ++ retryMoves) := by
  obtain ⟨-, h_answers, -, -⟩ := failed_lock_leaves_no_trace
    (s := start systemBackend { kernel := {} } [.full]) (e := .doubleMapping) quarterMoves
    retryMoves (show IsLock wholeLock from True.intro) (by decide +kernel)
  exact ⟨by decide +kernel, h_answers⟩

end Session

end GraphicsBuffer
