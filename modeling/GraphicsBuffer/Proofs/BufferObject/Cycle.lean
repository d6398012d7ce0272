/-
  GraphicsBuffer.Proofs.BufferObject.Cycle

  Lock cycles. The history of a buffer object lists every lock and unlock of it with its answer and
  the backend calls that it made. The current cycle is what happened since the object was last
  without locks. `locks_share_mapping` says that all locks of a cycle share the mapping that the
  first of them made.
-/

import GraphicsBuffer.Backend.System
import GraphicsBuffer.Proofs.BufferObject.Lock
import GraphicsBuffer.Proofs.Run
import Mathlib.Data.List.DropRight

namespace GraphicsBuffer

/-! ## Histories -/

/-- A call on a buffer object. -/
inductive LockCall where
  | lock (h : Handle) (request : LockRequest)
  | unlock
deriving DecidableEq

/-- A call on a buffer object and the environment that it meets. Between two calls on one object
    the backend may have been used for others, so each call meets an environment of its own. -/
structure LockTurn (σ : Type) where
  call : LockCall
  env : Env σ

/-- A call on a buffer object, its answer, the backend calls that it made, and the count of locks
    that it left. -/
structure LockEvent where
  call : LockCall
  answer : Outcome (Option Address)
  calls : List Call
  count : UInt32

/-- A buffer object and all calls on it, the latest last. -/
structure LockHistory where
  object : BufferObject
  events : List LockEvent := []

/-- The history after another call. -/
def LockHistory.turn {σ : Type} (B : Backend σ) (s : LockHistory) (t : LockTurn σ) :
    LockHistory :=
  match t.call with
  | .lock h request =>
    let after := s.object.lock B h request t.env
    let calls := Env.callsSince t.env after.2
    match after.1 with
    | .error f =>
      { s with events := s.events ++ [⟨t.call, .error f, calls, s.object.lockCount⟩] }
    | .ok o => ⟨o, s.events ++ [⟨t.call, .ok o.address?, calls, o.lockCount⟩]⟩
  | .unlock =>
    let after := s.object.unlock B t.env
    let calls := Env.callsSince t.env after.2
    ⟨after.1, s.events ++ [⟨t.call, .ok none, calls, after.1.lockCount⟩]⟩

/-! ## Cycles -/

/-- A lock that succeeded. -/
structure Grant where
  handle : Handle
  request : LockRequest
  address : Option Address

/-- The lock that an event granted. -/
def LockEvent.grant? (e : LockEvent) : Option Grant :=
  match e.call, e.answer with
  | .lock handle request, .ok address => some { handle, request, address }
  | _, _ => none

/-- The locks that were granted. -/
def grants (events : List LockEvent) : List Grant := events.filterMap LockEvent.grant?

/-- What happened since the object was last without locks. -/
def currentCycle (events : List LockEvent) : List LockEvent :=
  events.rtakeWhile fun e => e.count ≠ 0

/-- All locks of a cycle share one mapping, the one that the first of them made. -/
structure SharesMapping (o : BufferObject) (cycle : List LockEvent) : Prop where
  /-- The cycle is empty exactly while the object has no lock. -/
  empty_iff : grants cycle = [] ↔ o.lockCount = 0
  /-- The object is locked for the usage of the first lock. -/
  opened : ∀ g ∈ (grants cycle).head?, o.lockedFor = g.request.usage
  /-- Every lock asked for a part of that usage. -/
  nested : ∀ g ∈ grants cycle, g.request.usage ⊆ o.lockedFor
  /-- With CPU usage, the mapping in use is the one that the first lock got from the backend, which
      was not called since; every lock returned its address, it can be written if any lock asked to
      write, and every lock that asked for CPU access stays inside the region it covers. -/
  software : o.lockedFor.cpuAccess = true → ∃ mapping access first later,
    o.mapping = some mapping ∧ cycle = first :: later ∧ first.grant?.isSome = true ∧
    first.calls = [.mapped o.id o.mappedCorner.fromOrigin access (.ok mapping)] ∧
    (∀ e ∈ later, e.calls = []) ∧
    (∀ g ∈ grants cycle, g.address = some mapping.address) ∧
    (∀ g ∈ grants cycle, g.request.usage.cpuWrites = true → Access.write ⊆ access) ∧
    ∀ g ∈ grants cycle, g.request.usage.cpuAccess = true → ∃ corner,
      g.handle.format.mapCorner g.request.region = .ok corner ∧
        corner.within o.mappedCorner = true
  /-- Without CPU usage nothing is mapped and no lock returned an address. -/
  device : o.lockedFor.cpuAccess = false →
    o.mapping = none ∧ ∀ g ∈ grants cycle, g.address = none

/-! ## How a history grows -/

section Growth

theorem currentCycle_append_of_zero {events : List LockEvent} {e : LockEvent}
    (h_count : e.count = 0) : currentCycle (events ++ [e]) = [] :=
  List.rtakeWhile_concat_neg _ _ _ (by simp [h_count])

theorem currentCycle_append_of_ne_zero {events : List LockEvent} {e : LockEvent}
    (h_count : e.count ≠ 0) : currentCycle (events ++ [e]) = currentCycle events ++ [e] :=
  List.rtakeWhile_concat_pos _ _ _ (by simp [h_count])

variable {σ : Type} {B : Backend σ} {s : LockHistory} {h : Handle} {request : LockRequest}
  {env env' : Env σ}

theorem turn_lock_error {f : Failure} (h_lock : s.object.lock B h request env = (.error f, env')) :
    s.turn B ⟨.lock h request, env⟩ = { s with events := s.events ++
      [⟨.lock h request, .error f, Env.callsSince env env', s.object.lockCount⟩] } := by
  simp only [LockHistory.turn, h_lock]

theorem turn_lock_ok {o : BufferObject}
    (h_lock : s.object.lock B h request env = (.ok o, env')) :
    s.turn B ⟨.lock h request, env⟩ = ⟨o, s.events ++
      [⟨.lock h request, .ok o.address?, Env.callsSince env env', o.lockCount⟩]⟩ := by
  simp only [LockHistory.turn, h_lock]

theorem turn_unlock {o : BufferObject} (h_unlock : s.object.unlock B env = (o, env')) :
    s.turn B ⟨.unlock, env⟩ = ⟨o, s.events ++
      [⟨.unlock, .ok none, Env.callsSince env env', o.lockCount⟩]⟩ := by
  simp only [LockHistory.turn, h_unlock]

end Growth

/-! ## The invariant of a cycle -/

open BufferObject

/-- A granted lock shares the mapping of the object: it returned its address, and stays inside its
    usage and its region. -/
structure Grant.Shares (g : Grant) (o : BufferObject) : Prop where
  address_eq : g.address = o.address?
  nested : g.request.usage ⊆ o.lockedFor
  inside : g.request.usage.cpuAccess = true → ∃ corner,
    g.handle.format.mapCorner g.request.region = .ok corner ∧ corner.within o.mappedCorner = true

/-- A cycle that an event opened and others continued. -/
structure CycleOf (o : BufferObject) (first : LockEvent) (later : List LockEvent) : Prop where
  first_granted : ∃ g, first.grant? = some g ∧ g.request.usage = o.lockedFor
  first_calls : ∀ mapping, o.mapping = some mapping → first.calls =
    [.mapped o.id o.mappedCorner.fromOrigin o.lockedFor.access (.ok mapping)]
  later_calls : ∀ e ∈ later, e.calls = []
  shares : ∀ g ∈ grants (first :: later), g.Shares o

theorem Grant.Shares.withCount {g : Grant} {o : BufferObject} (h : g.Shares o) (count : UInt32) :
    g.Shares { o with lockCount := count } := ⟨h.address_eq, h.nested, h.inside⟩

namespace CycleOf

variable {o : BufferObject} {first : LockEvent} {later : List LockEvent}

theorem withCount (h : CycleOf o first later) (count : UInt32) :
    CycleOf { o with lockCount := count } first later where
  first_granted := h.first_granted
  first_calls := h.first_calls
  later_calls := h.later_calls
  shares g h_g := (h.shares g h_g).withCount count

/-- An event without backend calls continues a cycle, if the lock that it grants shares the
    mapping. -/
theorem append (h : CycleOf o first later) {e : LockEvent} (h_calls : e.calls = [])
    (h_shares : ∀ g, e.grant? = some g → g.Shares o) : CycleOf o first (later ++ [e]) where
  first_granted := h.first_granted
  first_calls := h.first_calls
  later_calls e' h_mem := by
    rcases List.mem_append.mp h_mem with h_mem | h_mem
    · exact h.later_calls e' h_mem
    · rw [List.mem_singleton.mp h_mem]
      exact h_calls
  shares g h_mem := by
    rw [← List.cons_append, grants, List.filterMap_append, List.mem_append] at h_mem
    rcases h_mem with h_mem | h_mem
    · exact h.shares g h_mem
    · obtain ⟨e', h_e', h_grant⟩ := List.mem_filterMap.mp h_mem
      rw [List.mem_singleton.mp h_e'] at h_grant
      exact h_shares g h_grant

end CycleOf

/-- What holds of every history: the lock state is sound, and the current cycle is empty while the
    object has no lock and one of its own otherwise. -/
structure CycleInvariant (s : LockHistory) : Prop where
  lockState : LockInvariant s.object
  idle : s.object.lockCount = 0 → currentCycle s.events = []
  busy : s.object.lockCount ≠ 0 → ∃ first later,
    currentCycle s.events = first :: later ∧ CycleOf s.object first later

namespace CycleInvariant

variable {σ : Type} {B : Backend σ} {s : LockHistory}

theorem fresh (id : BufferId) : CycleInvariant ⟨{ id }, []⟩ where
  lockState := LockInvariant.fresh id
  idle _ := rfl
  busy h_count := absurd rfl h_count

/-- An event that leaves the object without locks ends the cycle. -/
theorem ended {o : BufferObject} {e : LockEvent} (h_inv : LockInvariant o)
    (h_count : o.lockCount = 0) (h_event : e.count = o.lockCount) :
    CycleInvariant ⟨o, s.events ++ [e]⟩ where
  lockState := h_inv
  idle _ := currentCycle_append_of_zero (h_event.trans h_count)
  busy h_busy := absurd h_count h_busy

/-- An event after which an object without locks has one opens a cycle. -/
theorem opened {o : BufferObject} {e : LockEvent} (h_idle : currentCycle s.events = [])
    (h_inv : LockInvariant o) (h_busy : o.lockCount ≠ 0) (h_event : e.count = o.lockCount)
    (h_of : CycleOf o e []) : CycleInvariant ⟨o, s.events ++ [e]⟩ where
  lockState := h_inv
  idle h_none := absurd h_none h_busy
  busy _ := by
    refine ⟨e, [], ?_, h_of⟩
    rw [currentCycle_append_of_ne_zero (h_event.symm ▸ h_busy), h_idle, List.nil_append]

/-- An event without backend calls that only changes the count continues the cycle. -/
theorem continued (h : CycleInvariant s) (h_busy : s.object.lockCount ≠ 0) {count : UInt32}
    (h_inv : LockInvariant { s.object with lockCount := count }) (h_count : count ≠ 0)
    {e : LockEvent} (h_event : e.count = count) (h_calls : e.calls = [])
    (h_shares : ∀ g, e.grant? = some g → g.Shares s.object) :
    CycleInvariant ⟨{ s.object with lockCount := count }, s.events ++ [e]⟩ where
  lockState := h_inv
  idle h_zero := absurd h_zero h_count
  busy _ := by
    obtain ⟨first, later, h_cycle, h_of⟩ := h.busy h_busy
    refine ⟨first, later ++ [e], ?_, (h_of.append h_calls h_shares).withCount count⟩
    rw [currentCycle_append_of_ne_zero (h_event.symm ▸ h_count), h_cycle, List.cons_append]

/-- A lock that succeeds opens a cycle or continues the one there is. -/
theorem of_granted (h : CycleInvariant s) {hd : Handle} {request : LockRequest}
    {env env₀ env' : Env σ} {o : BufferObject} (h_env : env₀.trace = env.trace)
    (h_count : s.object.lockCount ≠ maxLockCount)
    (h_lock : LockOutcome B s.object hd request env₀ (.ok o, env')) :
    CycleInvariant ⟨o, s.events ++
      [⟨.lock hd request, .ok o.address?, Env.callsSince env env', o.lockCount⟩]⟩ := by
  have h_inv := h.lockState.of_lockOutcome h_count h_lock
  by_cases h_zero : s.object.lockCount = 0
  · -- the lock opens a cycle, and the mapping is its own
    obtain ⟨-, h_one, h_usage, h_trace, h_corner⟩ := h.lockState.first_lock h_zero h_lock
    have h_busy : o.lockCount ≠ 0 := by rw [h_one]; decide
    apply opened (h.idle h_zero) h_inv h_busy rfl
    refine ⟨⟨⟨hd, request, o.address?⟩, rfl, h_usage.symm⟩, fun mapping h_some => ?_,
      fun e h_mem => absurd h_mem List.not_mem_nil, fun g h_mem => ?_⟩
    · apply Env.callsSince_of_trace
      rw [h_trace mapping h_some, h_env, h_usage]
    · obtain rfl : g = ⟨hd, request, o.address?⟩ := List.mem_singleton.mp h_mem
      refine ⟨rfl, ?_, fun h_cpu => ⟨_, h_corner h_cpu, by simp [Corner.within]⟩⟩
      rw [h_usage]
      exact FlagSet.subset_refl _
  · -- the lock continues a cycle, and only the count changes
    obtain ⟨rfl, h_subset, h_trace, h_inside⟩ := h.lockState.nested_lock h_zero h_lock
    apply h.continued h_zero h_inv (count_add_one_ne_zero h_count) rfl
    · exact Env.callsSince_of_still (h_trace.trans h_env)
    · intro g h_grant
      obtain rfl : _ = g := Option.some.inj h_grant
      exact ⟨rfl, h_subset, h_inside⟩

/-- A lock that fails leaves the cycle without another grant. -/
theorem of_refused (h : CycleInvariant s) {hd : Handle} {request : LockRequest}
    {env env₀ env' : Env σ} {f : Failure} (h_env : env₀.trace = env.trace)
    (h_lock : LockOutcome B s.object hd request env₀ (.error f, env')) :
    CycleInvariant ⟨s.object, s.events ++
      [⟨.lock hd request, .error f, Env.callsSince env env', s.object.lockCount⟩]⟩ := by
  by_cases h_zero : s.object.lockCount = 0
  · -- the backend may have been called, even for a mapping, but no lock came of it
    exact ended h.lockState h_zero rfl
  · apply h.continued h_zero h.lockState h_zero rfl
    · have h_trace := h.lockState.failed_nested_lock h_zero h_lock
      exact Env.callsSince_of_still (h_trace.trans h_env)
    · exact nofun

/-- An unlock ends the cycle if it drops the last lock, and else leaves it as it is. -/
theorem of_unlock (h : CycleInvariant s) {env env' : Env σ} {o : BufferObject}
    (h_unlock : UnlockOutcome B s.object env (o, env')) (h_inv : LockInvariant o) :
    CycleInvariant ⟨o, s.events ++
      [⟨.unlock, .ok none, Env.callsSince env env', o.lockCount⟩]⟩ := by
  cases h_unlock with
  | idle h_count => exact ended h_inv h_count rfl
  | inner h_count h_more =>
    apply h.continued h_count h_inv (count_sub_one_ne_zero h_more) rfl
    · exact Env.callsSince_of_still rfl
    · exact nofun
  | last _ _ => exact ended h_inv rfl rfl
  | lastMapped _ _ => exact ended h_inv rfl rfl

theorem turn (h : CycleInvariant s) (t : LockTurn σ)
    (h_count : s.object.lockCount ≠ maxLockCount) : CycleInvariant (s.turn B t) := by
  obtain ⟨call, env⟩ := t
  cases call with
  | lock hd request =>
    have h_outcome := lock_outcome B s.object hd request env
    rcases h_lock : s.object.lock B hd request env with ⟨f | o, env'⟩
    · rw [turn_lock_error h_lock]
      exact h.of_refused (Env.note_trace env _) (h_lock ▸ h_outcome)
    · rw [turn_lock_ok h_lock]
      exact h.of_granted (Env.note_trace env _) h_count (h_lock ▸ h_outcome)
  | unlock =>
    have h_outcome := unlock_outcome B s.object env
    rcases h_unlock : s.object.unlock B env with ⟨o, env'⟩
    rw [turn_unlock h_unlock]
    exact h.of_unlock (h_unlock ▸ h_outcome) (h.lockState.of_unlock h_unlock)

/-- What the invariant says about the locks of the current cycle. -/
theorem sharesMapping (h : CycleInvariant s) :
    SharesMapping s.object (currentCycle s.events) := by
  by_cases h_count : s.object.lockCount = 0
  · -- no cycle is open: there is nothing to share, and nothing is mapped
    have h_none : grants (currentCycle s.events) = [] := by rw [h.idle h_count]; rfl
    have h_lockedFor := h.lockState.lockedFor_eq h_count
    refine ⟨⟨fun _ => h_count, fun _ => h_none⟩, ?_, ?_, fun h_cpu => ?_,
      fun _ => ⟨h.lockState.unmapped_of_count h_count, ?_⟩⟩
    · simp [h_none]
    · simp [h_none]
    · rw [h_lockedFor, Usage.cpuAccess_empty] at h_cpu
      exact Bool.noConfusion h_cpu
    · simp [h_none]
  · -- the grant of the first event is the head of all grants of the cycle
    obtain ⟨first, later, h_cycle, h_of⟩ := h.busy h_count
    obtain ⟨opener, h_opener, h_usage⟩ := h_of.first_granted
    have h_head : grants (first :: later) = opener :: grants later :=
      List.filterMap_cons_some h_opener
    rw [h_cycle]
    refine ⟨?_, ?_, fun g h_g => (h_of.shares g h_g).nested, fun h_cpu => ?_, fun h_cpu => ?_⟩
    · rw [h_head]
      exact ⟨nofun, fun h_zero => absurd h_zero h_count⟩
    · intro g h_g
      rw [h_head] at h_g
      obtain rfl : opener = g := Option.some.inj h_g
      exact h_usage.symm
    · obtain ⟨mapping, h_mapping⟩ := h.lockState.mapped_of_cpu h_count h_cpu
      -- the access was made out from the usage of the first lock, which contains all others
      refine ⟨mapping, s.object.lockedFor.access, first, later, h_mapping, rfl,
        Option.isSome_iff_exists.mpr ⟨opener, h_opener⟩, h_of.first_calls mapping h_mapping,
        h_of.later_calls, fun g h_g => ?_, fun g h_g h_writes => ?_,
        fun g h_g => (h_of.shares g h_g).inside⟩
      · rw [(h_of.shares g h_g).address_eq, address?, h_mapping, Option.map_some]
      · exact Usage.write_subset_access
          (Usage.cpuWrites_of_subset (h_of.shares g h_g).nested h_writes)
    · have h_mapping : s.object.mapping = none := by
        rw [← Option.not_isSome_iff_eq_none, h.lockState.mapped_iff, h_cpu]
        exact fun h_and => Bool.noConfusion h_and.2
      refine ⟨h_mapping, fun g h_g => ?_⟩
      rw [(h_of.shares g h_g).address_eq, address?, h_mapping, Option.map_none]

end CycleInvariant

/-! ## All locks of a cycle share one mapping -/

/-- Whatever locks and unlocks were asked of a buffer object, with whatever usages, regions and
    handles, on whatever backend, the locks of the current cycle share one mapping, as long as the
    count of locks stays below its limit. -/
theorem locks_share_mapping {σ : Type} (B : Backend σ) (id : BufferId)
    (turns : List (LockTurn σ))
    (h_count : Obeys (LockHistory.turn B) (fun s _ => s.object.lockCount ≠ maxLockCount)
      ⟨{ id }, []⟩ turns) :
    SharesMapping (turns.foldl (LockHistory.turn B) ⟨{ id }, []⟩).object
      (currentCycle (turns.foldl (LockHistory.turn B) ⟨{ id }, []⟩).events) := by
  have h_inv : CycleInvariant (turns.foldl (LockHistory.turn B) ⟨{ id }, []⟩) :=
    h_count.invariant (fun s t h_s h_below => h_s.turn t h_below) (CycleInvariant.fresh id)
  exact h_inv.sharesMapping

/-- The environment of a device on shared memory with one buffer of eight by eight pixels. -/
def paintEnv : Env SystemState :=
  (Env.create systemBackend 0 ⟨8, 8⟩ FourCC.abgr8888 ∅ { devices := {} }).2

/-- The handle of that buffer, allocated to be read and written by the CPU. -/
def paintHandle : Handle :=
  { Handle.new ⟨8, 8⟩ PixelFormat.rgba8888 (Usage.cpuReadOften ∪ Usage.cpuWriteOften) with
    stride := 32 }

/-- A lock of a corner of the buffer, a lock inside it that is refused since it asks for the whole
    buffer, and one that is granted. -/
def paintTurns : List (LockTurn SystemState) :=
  [⟨.lock paintHandle ⟨Usage.cpuReadOften ∪ Usage.cpuWriteOften, ⟨0, 0, 4, 4⟩⟩, paintEnv⟩,
   ⟨.lock paintHandle ⟨Usage.cpuReadOften, ⟨0, 0, 8, 8⟩⟩, paintEnv⟩,
   ⟨.lock paintHandle ⟨Usage.cpuWriteRarely, ⟨1, 1, 2, 2⟩⟩, paintEnv⟩]

theorem locks_share_mapping_paint :
    Obeys (LockHistory.turn systemBackend) (fun s _ => s.object.lockCount ≠ maxLockCount)
        ⟨{ id := 1 }, []⟩ paintTurns ∧
      (paintTurns.foldl (LockHistory.turn systemBackend) ⟨{ id := 1 }, []⟩).object.lockCount = 2 ∧
      SharesMapping (paintTurns.foldl (LockHistory.turn systemBackend) ⟨{ id := 1 }, []⟩).object
        (currentCycle
          (paintTurns.foldl (LockHistory.turn systemBackend) ⟨{ id := 1 }, []⟩).events) := by
  have h_count : Obeys (LockHistory.turn systemBackend)
      (fun s _ => s.object.lockCount ≠ maxLockCount) ⟨{ id := 1 }, []⟩ paintTurns :=
    ⟨by decide, by decide +kernel, by decide +kernel, True.intro⟩
  exact ⟨h_count, by decide +kernel, locks_share_mapping systemBackend 1 paintTurns h_count⟩

end GraphicsBuffer
