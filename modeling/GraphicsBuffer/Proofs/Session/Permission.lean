/-
  GraphicsBuffer.Proofs.Session.Permission

  What a buffer may be locked for. A handle lets its buffer be locked for what it was allocated for,
  and for anything if it was allocated for a framebuffer, for a texture, or for something that
  shares a bit with frequent reading. Rare reading does share one, so a buffer that is only read,
  and rarely, can be locked for writing.
-/

import GraphicsBuffer.Backend.System
import GraphicsBuffer.Proofs.BufferObject.Lock
import GraphicsBuffer.Proofs.PixelFormat
import GraphicsBuffer.Proofs.Session.Operation

namespace GraphicsBuffer

/-! ## The check -/

/-- A buffer that was allocated for a usage may be locked for another. -/
def Usage.Unlocks (allocated requested : Usage) : Prop :=
  requested ⊆ allocated ∨ allocated.meets cpuReadOften = true ∨ framebuffer ⊆ allocated ∨
    texture ⊆ allocated

namespace BufferObject

variable {σ : Type} {B : Backend σ} {o o' : BufferObject} {h : Handle} {request : LockRequest}
  {env env' : Env σ}

theorem permits_iff {usage : Usage} : permits h usage = true ↔ h.usage.Unlocks usage := by
  have h_framebuffer : h.usage.meets Usage.framebuffer = true ↔ Usage.framebuffer ⊆ h.usage :=
    FlagSet.meets_bit_iff (show Usage.framebuffer.bits.toNat = 2 ^ 12 from rfl)
  have h_texture : h.usage.meets Usage.texture = true ↔ Usage.texture ⊆ h.usage :=
    FlagSet.meets_bit_iff (show Usage.texture.bits.toNat = 2 ^ 8 from rfl)
  rw [permits, Bool.or_eq_true, decide_eq_true_eq, Usage.lockableForAnything,
    FlagSet.meets_union_iff, FlagSet.meets_union_iff, h_framebuffer, h_texture, Usage.Unlocks,
    or_assoc]

/-- A lock that is granted was permitted. -/
theorem unlocks_of_lock_ok (h_lock : (o.lock B h request env).1 = .ok o') :
    h.usage.Unlocks request.usage := by
  have h_outcome := lock_outcome B o h request env
  generalize o.lock B h request env = given at h_lock h_outcome
  obtain ⟨answer, env'⟩ := given
  obtain rfl : answer = .ok o' := h_lock
  cases h_outcome with
  | device h_permits _ _ => exact permits_iff.mp h_permits
  | mapped h_permits _ _ _ _ _ => exact permits_iff.mp h_permits
  | shared h_permits _ _ _ _ _ => exact permits_iff.mp h_permits

/-- A lock is refused for its usage exactly if it was not permitted, whatever the state of the
    object and of the backend. -/
theorem lock_notPermitted_iff :
    (o.lock B h request env).1 =
        .error (.error (.usageNotPermitted h.usage.bits request.usage.bits)) ↔
      ¬h.usage.Unlocks request.usage := by
  rw [← permits_iff]
  constructor
  · intro h_lock h_permitted
    have h_outcome := lock_outcome B o h request env
    generalize o.lock B h request env = given at h_lock h_outcome
    obtain ⟨answer, env'⟩ := given
    have h_answer : answer = .error (.error (.usageNotPermitted h.usage.bits
      request.usage.bits)) := h_lock
    -- the checks that follow give other errors
    cases h_outcome with
    | notPermitted h_permits =>
      rw [h_permitted] at h_permits
      exact nomatch h_permits
    | incompatible _ _ => exact nomatch h_answer
    | device _ _ _ => exact nomatch h_answer
    | noCorner _ _ _ h_corner =>
      obtain ⟨fault, rfl⟩ := PixelFormat.mapCorner_error h_corner
      exact nomatch h_answer
    | unmapped _ _ _ _ _ h_open =>
      obtain ⟨given, -, -, ⟨_, -, rfl⟩ | ⟨_, -, rfl⟩ | ⟨_, -, -, rfl⟩⟩ := openMapping_failed h_open
      · exact nomatch h_answer
      · exact nomatch h_answer
      · exact nomatch h_answer
    | mapped _ _ _ _ _ _ => exact nomatch h_answer
    | beyond _ _ _ _ _ _ => exact nomatch h_answer
    | shared _ _ _ _ _ _ => exact nomatch h_answer
  · intro h_permitted
    simp only [lock, h_permitted, Bool.not_false, if_true]

end BufferObject

/-! ## Sessions -/

namespace World

variable {σ : Type} {B : Backend σ} {w : World σ} {m : ManagerId} {h : Handle}
  {request : LockRequest} {address : Option Address}

theorem unlocks_of_lockObject {o : BufferObject}
    (h_lock : (w.lockObject B o h request).1 = .ok address) :
    h.usage.Unlocks request.usage := by
  unfold lockObject at h_lock
  rcases h_object : o.lock B h request w.env with ⟨f | o', env⟩
  · rw [h_object] at h_lock
    exact nomatch h_lock
  · exact BufferObject.unlocks_of_lock_ok (congrArg Prod.fst h_object)

theorem unlocks_of_lock (h_lock : (w.lock B m h request).1 = .ok address) :
    h.usage.Unlocks request.usage := by
  unfold lock at h_lock
  rcases h_object : w.object? m h with _ | o
  · rw [h_object] at h_lock
    exact nomatch h_lock
  · rw [h_object] at h_lock
    exact unlocks_of_lockObject h_lock

end World

namespace Session

variable {σ : Type} {B : Backend σ} {s : Session σ} {name : Name} {request : LockRequest}

/-- If the answer grants a lock, then to a handle that lets its buffer be locked for it. -/
def GrantsPermitted (s : Session σ) (name : Name) (request : LockRequest)
    (given : Answer × Session σ) : Prop :=
  ∀ address previous, given.1 = .locked address previous →
    ∃ handle, s.handles.find? name = some handle ∧ handle.usage.Unlocks request.usage

theorem step_lock_permitted (m : ManagerId) :
    GrantsPermitted s name request (s.step B (.lock m name request)) := by
  refine withManager_cases nofun fun manager h_manager => ?_
  refine withHandle_cases nofun fun handle h_find => ?_
  intro address previous h_answer
  exact ⟨handle, h_find, World.unlocks_of_lock (keepLock_locked h_answer)⟩

theorem step_lockObject_permitted (o : Name) :
    GrantsPermitted s name request (s.step B (.lockObject o name request)) := by
  refine withHandle_cases nofun fun handle h_find => ?_
  refine withObject_cases nofun fun id object h_live => ?_
  intro address previous h_answer
  exact ⟨handle, h_find, World.unlocks_of_lockObject (keepLock_locked h_answer)⟩

/-- Locks are granted only for what the handle lets its buffer be locked for, and nothing but that
    decides which locks are refused for their usage; so it is for every object, handle and request,
    on every backend and in every state, and for every lock that a session grants. -/
theorem locks_permitted (B : Backend σ) :
    (∀ (o : BufferObject) (h : Handle) (request : LockRequest) (env : Env σ),
      ((∃ o', (o.lock B h request env).1 = .ok o') → h.usage.Unlocks request.usage) ∧
      ((o.lock B h request env).1 =
          .error (.error (.usageNotPermitted h.usage.bits request.usage.bits)) ↔
        ¬h.usage.Unlocks request.usage)) ∧
    ∀ (s : Session σ) (name : Name) (request : LockRequest),
      (∀ m, GrantsPermitted s name request (s.step B (.lock m name request))) ∧
      ∀ o, GrantsPermitted s name request (s.step B (.lockObject o name request)) := by
  constructor
  · intro o h request env
    refine ⟨?_, BufferObject.lock_notPermitted_iff⟩
    rintro ⟨o', h_lock⟩
    exact BufferObject.unlocks_of_lock_ok h_lock
  · intro s name request
    exact ⟨step_lock_permitted, step_lockObject_permitted⟩

/-- A session that has created a buffer which is only read, and rarely. -/
def rarelyRead : Session SystemState :=
  (start systemBackend { kernel := {} } [.full]).play systemBackend
    [.client (.create 0 "h" ⟨16, 16⟩ PixelFormat.rgba8888 Usage.cpuReadRarely)]

/-- A lock of the whole buffer to be painted. -/
def overwriteRequest : LockRequest := ⟨Usage.cpuWriteOften, ⟨0, 0, 16, 16⟩⟩

/-- The lock that is granted is one that the handle lets its buffer be locked for. -/
theorem locks_permitted_rarely_read :
    (rarelyRead.step systemBackend (.lock 0 "h" overwriteRequest)).1 =
        .locked (some ⟨1, 0⟩) none ∧
      ∃ handle, rarelyRead.handles.find? "h" = some handle ∧
        handle.usage.Unlocks overwriteRequest.usage := by
  have h_answer : (rarelyRead.step systemBackend (.lock 0 "h" overwriteRequest)).1 =
      .locked (some ⟨1, 0⟩) none := by decide +kernel
  obtain ⟨-, h_granted⟩ := locks_permitted systemBackend
  exact ⟨h_answer, (h_granted rarelyRead "h" overwriteRequest).1 0 _ _ h_answer⟩

/-- The buffer that is only read can be written: it is locked for writing and mapped so, though it
    was allocated neither for writing nor for any usage that allows everything. -/
theorem rarely_read_locked_for_writing :
    (rarelyRead.step systemBackend (.lock 0 "h" overwriteRequest)).1 =
        .locked (some ⟨1, 0⟩) none ∧
      (rarelyRead.handles.find? "h").map (·.usage) = some Usage.cpuReadRarely ∧
      ¬overwriteRequest.usage ⊆ Usage.cpuReadRarely ∧ ¬Usage.cpuReadOften ⊆ Usage.cpuReadRarely ∧
      ¬Usage.framebuffer ⊆ Usage.cpuReadRarely ∧ ¬Usage.texture ⊆ Usage.cpuReadRarely := by
  refine ⟨?_, ?_, ?_, ?_, ?_, ?_⟩ <;> decide +kernel

end Session

end GraphicsBuffer
