/-
  GraphicsBuffer.Proofs.BufferObject.Count

  The count of locks. A lock that is granted adds one to it, and an unlock takes one off if it finds
  one; so the count tells the locks that are outstanding, up to the size of its word. Locks and
  unlocks that pair up leave the object as they found it (`paired_locks_restore`), and unlocks that
  are left over leave it without lock and mapping.
-/

import GraphicsBuffer.Proofs.BufferObject.Cycle
import Mathlib.Data.List.Infix

namespace GraphicsBuffer

open BufferObject

/-! ## Words that count -/

section Words

variable {count : UInt32}

/-- A word that is not zero can go down by one. -/
theorem toNat_sub_one (h_count : count ≠ 0) :
    0 < count.toNat ∧ (count - 1).toNat = count.toNat - 1 := by
  have h_pos : 0 < count.toNat := by
    rw [Nat.pos_iff_ne_zero]
    exact fun h_zero => h_count (UInt32.toNat_inj.mp h_zero)
  exact ⟨h_pos, UInt32.toNat_sub_of_le _ _ h_pos⟩

/-- A word that is not the largest can go up by one. -/
theorem toNat_add_one (h_count : count ≠ maxLockCount) :
    (count + 1).toNat = count.toNat + 1 := by
  have h_max : maxLockCount.toNat = 2 ^ 32 - 1 := rfl
  have h_one : (1 : UInt32).toNat = 1 := rfl
  have h_lt : count.toNat < 2 ^ 32 := count.toNat_lt
  have h_ne : count.toNat ≠ 2 ^ 32 - 1 := by
    rw [← h_max]
    exact fun h_eq => h_count (UInt32.toNat_inj.mp h_eq)
  rw [UInt32.toNat_add, h_one]
  omega

end Words

/-- A word tells a number, up to its own size. -/
def Tells (count : UInt32) (n : Nat) : Prop := count.toNat = n % 2 ^ 32

namespace Tells

variable {count : UInt32} {n : Nat}

theorem zero : Tells 0 0 := rfl

theorem add_one (h : Tells count n) : Tells (count + 1) (n + 1) := by
  have h_one : (1 : UInt32).toNat = 1 := rfl
  rw [Tells, UInt32.toNat_add, h_one, h]
  omega

/-- A word that is not zero tells a number that is not, and goes down with it. -/
theorem sub_one (h : Tells count n) (h_count : count ≠ 0) : 0 < n ∧ Tells (count - 1) (n - 1) := by
  obtain ⟨h_pos, h_sub⟩ := toNat_sub_one h_count
  rw [Tells] at h
  refine ⟨?_, ?_⟩
  · rw [Nat.pos_iff_ne_zero]
    rintro rfl
    exact absurd h_pos (h ▸ Nat.lt_irrefl 0)
  · rw [Tells, h_sub, h]
    omega

/-- A number that fits is told exactly. -/
theorem toNat_eq (h : Tells count n) (h_n : n < 2 ^ 32) : count.toNat = n :=
  h.trans (Nat.mod_eq_of_lt h_n)

theorem eq_zero_iff (h : Tells count n) : count = 0 ↔ n % 2 ^ 32 = 0 := by
  have h_null : (0 : UInt32).toNat = 0 := rfl
  rw [← UInt32.toNat_inj, h, h_null]

/-- Below the largest word there is room for one more. -/
theorem next_fits (h : Tells count n) (h_n : n < 2 ^ 32) (h_count : count ≠ maxLockCount) :
    n + 1 < 2 ^ 32 := by
  have h_next := toNat_add_one h_count
  rw [h.toNat_eq h_n] at h_next
  rw [← h_next]
  exact (count + 1).toNat_lt

end Tells

/-! ## Locks and unlocks in a history -/

/-- How many locks were granted. -/
def granted (events : List LockEvent) : Nat := (grants events).length

/-- How many unlocks there were. -/
def unlocks (events : List LockEvent) : Nat := events.countP (·.call = .unlock)

/-- The count of locks after events that begin at a count. -/
def lastCount (start : UInt32) (events : List LockEvent) : UInt32 :=
  events.foldl (fun _ e => e.count) start

/-- How many unlocks found a lock, of events that begin at a count. -/
def drops : UInt32 → List LockEvent → Nat
  | _, [] => 0
  | before, e :: rest => (if e.call = .unlock ∧ before ≠ 0 then 1 else 0) + drops e.count rest

/-- At no point there had been more unlocks than locks that were granted. -/
def Ahead (events : List LockEvent) : Prop :=
  ∀ earlier ∈ events.inits, unlocks earlier ≤ granted earlier

instance (events : List LockEvent) : Decidable (Ahead events) :=
  inferInstanceAs (Decidable (∀ earlier ∈ events.inits, unlocks earlier ≤ granted earlier))

/-- Every unlock belongs to a lock that was granted before it, and the other way round. -/
def PairedUp (events : List LockEvent) : Prop := Ahead events ∧ unlocks events = granted events

instance (events : List LockEvent) : Decidable (PairedUp events) :=
  inferInstanceAs (Decidable (Ahead events ∧ unlocks events = granted events))

theorem LockEvent.grant?_of_unlock {e : LockEvent} (h_call : e.call = .unlock) :
    e.grant? = none := by
  rw [LockEvent.grant?, h_call]

section Append

variable {start : UInt32} {events : List LockEvent} {e : LockEvent}

theorem granted_append : granted (events ++ [e]) = granted events + e.grant?.toList.length := by
  rw [granted, grants, List.filterMap_append, List.length_append]
  rcases h_grant : e.grant? with _ | g <;> simp [granted, grants, h_grant]

theorem unlocks_append :
    unlocks (events ++ [e]) = unlocks events + if e.call = .unlock then 1 else 0 := by
  rw [unlocks, List.countP_append, List.countP_singleton]
  simp [unlocks]

theorem lastCount_append : lastCount start (events ++ [e]) = e.count := by
  rw [lastCount, List.foldl_append]
  rfl

theorem drops_append : drops start (events ++ [e]) =
    drops start events + if e.call = .unlock ∧ lastCount start events ≠ 0 then 1 else 0 := by
  induction events generalizing start with
  | nil => exact Nat.add_comm _ _
  | cons first rest ih =>
    rw [List.cons_append, drops, ih, drops, Nat.add_assoc]
    rfl

/-- An unlock is not granted. -/
theorem granted_append_unlock (h_call : e.call = .unlock) :
    granted (events ++ [e]) = granted events := by
  rw [granted_append, LockEvent.grant?_of_unlock h_call]
  rfl

/-- Only an unlock drops a lock. -/
theorem drops_append_lock (h_call : e.call ≠ .unlock) :
    drops start (events ++ [e]) = drops start events := by
  rw [drops_append, if_neg fun h_and => h_call h_and.1, Nat.add_zero]

theorem Ahead.of_append (h : Ahead (events ++ [e])) : Ahead events := by
  intro earlier h_mem
  rw [List.mem_inits] at h_mem
  exact h earlier ((List.mem_inits _ _).mpr (h_mem.trans (List.prefix_append _ _)))

theorem Ahead.whole (h : Ahead events) : unlocks events ≤ granted events :=
  h events ((List.mem_inits _ _).mpr (List.prefix_refl _))

end Append

/-! ## What one turn does to the count -/

/-- Locks and unlocks of an object, one after another. -/
def lockRun {σ : Type} (B : Backend σ) (o : BufferObject) (turns : List (LockTurn σ)) :
    LockHistory :=
  turns.foldl (LockHistory.turn B) ⟨o, []⟩

/-- What a turn tells and what it leaves of an object. -/
inductive TurnOutcome (o : BufferObject) : LockEvent → BufferObject → Prop where
  /-- A lock fails. -/
  | refused {e : LockEvent} (h_call : e.call ≠ .unlock) (h_grant : e.grant? = none)
      (h_event : e.count = o.lockCount) : TurnOutcome o e o
  /-- A lock is granted; inside others it only adds to the count. -/
  | granted {e : LockEvent} {o' : BufferObject} {g : Grant} (h_call : e.call ≠ .unlock)
      (h_grant : e.grant? = some g) (h_event : e.count = o'.lockCount) (h_id : o'.id = o.id)
      (h_count : o'.lockCount = o.lockCount + 1)
      (h_nested : o.lockCount ≠ 0 → o' = { o with lockCount := o.lockCount + 1 }) :
      TurnOutcome o e o'
  /-- An unlock finds no lock. -/
  | idle {e : LockEvent} (h_call : e.call = .unlock) (h_event : e.count = o.lockCount)
      (h_count : o.lockCount = 0) : TurnOutcome o e o
  /-- An unlock drops a lock; unless it is the last one, it only takes one off the count. -/
  | dropped {e : LockEvent} {o' : BufferObject} (h_call : e.call = .unlock)
      (h_event : e.count = o'.lockCount) (h_id : o'.id = o.id) (h_busy : o.lockCount ≠ 0)
      (h_count : o'.lockCount = o.lockCount - 1)
      (h_inner : o.lockCount ≠ 1 → o' = { o with lockCount := o.lockCount - 1 }) :
      TurnOutcome o e o'

namespace BufferObject.LockOutcome

variable {σ : Type} {B : Backend σ} {o o' : BufferObject} {h : Handle} {request : LockRequest}
  {env env' : Env σ}

/-- A lock that is granted adds one to the count. -/
theorem lockCount_eq (h_lock : LockOutcome B o h request env (.ok o', env')) :
    o'.lockCount = o.lockCount + 1 := by
  cases h_lock <;> rfl

end BufferObject.LockOutcome

theorem BufferObject.UnlockOutcome.lockCount_eq {σ : Type} {B : Backend σ} {o o' : BufferObject}
    {env env' : Env σ} (h_unlock : UnlockOutcome B o env (o', env')) (h_count : o.lockCount ≠ 0) :
    o'.lockCount = o.lockCount - 1 := by
  cases h_unlock with
  | idle h_zero => exact absurd h_zero h_count
  | inner _ _ => rfl
  | last h_one _ => rw [h_one]; rfl
  | lastMapped h_one _ => rw [h_one]; rfl

theorem BufferObject.unlock_of_idle {σ : Type} (B : Backend σ) {o : BufferObject} {env : Env σ}
    (h_count : o.lockCount = 0) : o.unlock B env = (o, env) := by
  rw [BufferObject.unlock, if_pos h_count]

variable {σ : Type} {B : Backend σ} {o : BufferObject} {s : LockHistory} {t : LockTurn σ}

theorem turn_outcome (B : Backend σ) (h_inv : LockInvariant s.object) (t : LockTurn σ) :
    ∃ e o', s.turn B t = ⟨o', s.events ++ [e]⟩ ∧ TurnOutcome s.object e o' := by
  obtain ⟨call, env⟩ := t
  cases call with
  | lock h request =>
    have h_outcome := lock_outcome B s.object h request env
    rcases h_lock : s.object.lock B h request env with ⟨f | o', env'⟩
    · exact ⟨_, _, turn_lock_error h_lock, .refused nofun rfl rfl⟩
    · rw [h_lock] at h_outcome
      exact ⟨_, _, turn_lock_ok h_lock, .granted nofun rfl rfl (h_outcome.numbers.2 o' rfl)
        h_outcome.lockCount_eq fun h_busy => (h_inv.nested_lock h_busy h_outcome).1⟩
  | unlock =>
    have h_outcome := unlock_outcome B s.object env
    rcases h_unlock : s.object.unlock B env with ⟨o', env'⟩
    rw [h_unlock] at h_outcome
    refine ⟨_, _, turn_unlock h_unlock, ?_⟩
    -- without a lock it does nothing; otherwise only the last one does more than count
    by_cases h_count : s.object.lockCount = 0
    · obtain rfl : s.object = o' :=
        (Prod.mk.inj ((unlock_of_idle B h_count).symm.trans h_unlock)).1
      exact .idle rfl rfl h_count
    · refine .dropped rfl rfl h_outcome.numbers.2 h_count (h_outcome.lockCount_eq h_count)
        fun h_more => ?_
      cases h_outcome with
      | idle h_zero => exact absurd h_zero h_count
      | inner _ _ => rfl
      | last h_one _ => exact absurd h_one h_more
      | lastMapped h_one _ => exact absurd h_one h_more

theorem BufferObject.LockInvariant.turn (h_inv : LockInvariant s.object)
    (h_count : s.object.lockCount ≠ maxLockCount) : LockInvariant (s.turn B t).object := by
  obtain ⟨call, env⟩ := t
  cases call with
  | lock h request =>
    rcases h_lock : s.object.lock B h request env with ⟨f | o', env'⟩
    · rw [turn_lock_error h_lock]
      exact h_inv
    · rw [turn_lock_ok h_lock]
      exact h_inv.of_lock h_count h_lock
  | unlock =>
    rcases h_unlock : s.object.unlock B env with ⟨o', env'⟩
    rw [turn_unlock h_unlock]
    exact h_inv.of_unlock h_unlock

/-- Without a lock there is nothing in an object but its number. -/
theorem BufferObject.LockInvariant.eq_fresh (h_inv : LockInvariant o) (h_count : o.lockCount = 0) :
    o = { id := o.id } := by
  have h_mapping := h_inv.unmapped_of_count h_count
  have h_corner := h_inv.corner_eq h_mapping
  have h_lockedFor := h_inv.lockedFor_eq h_count
  obtain ⟨id, mapping, corner, count, lockedFor⟩ := o
  simp only at h_mapping h_corner h_count h_lockedFor
  rw [h_mapping, h_corner, h_count, h_lockedFor]

/-! ## The count along a run -/

/-- What holds of a history that began with an object: its count goes with the locks and unlocks,
    and while there are no more unlocks than locks, the locks that the object began with are
    untouched. -/
structure CountedFrom (o : BufferObject) (s : LockHistory) : Prop where
  lockState : LockInvariant s.object
  id_eq : s.object.id = o.id
  last_eq : lastCount o.lockCount s.events = s.object.lockCount
  count_eq : s.object.lockCount.toNat + drops o.lockCount s.events =
    o.lockCount.toNat + granted s.events
  /-- No unlock comes too early. -/
  dropped : Ahead s.events → drops o.lockCount s.events = unlocks s.events
  /-- An object that was locked is still locked as it was. -/
  held : Ahead s.events → o.lockCount ≠ 0 →
    s.object = { o with lockCount := s.object.lockCount }

namespace CountedFrom

theorem start (h_inv : LockInvariant o) : CountedFrom o ⟨o, []⟩ where
  lockState := h_inv
  id_eq := rfl
  last_eq := rfl
  count_eq := rfl
  dropped _ := rfl
  held _ _ := rfl

/-- If no unlock came too early, each of them dropped a lock. -/
theorem count_of_ahead (h : CountedFrom o s) (h_ahead : Ahead s.events) :
    s.object.lockCount.toNat + unlocks s.events =
      o.lockCount.toNat + GraphicsBuffer.granted s.events := by
  rw [← h.dropped h_ahead]
  exact h.count_eq

/-- An event that is neither a grant nor an unlock. -/
theorem refused (h : CountedFrom o s) {e : LockEvent} (h_call : e.call ≠ .unlock)
    (h_grant : e.grant? = none) (h_event : e.count = s.object.lockCount) :
    CountedFrom o ⟨s.object, s.events ++ [e]⟩ := by
  have h_granted : granted (s.events ++ [e]) = granted s.events := by
    rw [granted_append, h_grant]
    rfl
  have h_drops : drops o.lockCount (s.events ++ [e]) = drops o.lockCount s.events :=
    drops_append_lock h_call
  refine ⟨h.lockState, h.id_eq, lastCount_append.trans h_event, ?_, fun h_ahead => ?_,
    fun h_ahead => h.held h_ahead.of_append⟩
  · rw [h_granted, h_drops]
    exact h.count_eq
  · rw [h_drops, unlocks_append, if_neg h_call, Nat.add_zero]
    exact h.dropped h_ahead.of_append

/-- A lock is granted, and the count does not wrap. -/
theorem granted (h : CountedFrom o s) {e : LockEvent} {o' : BufferObject} {g : Grant}
    (h_call : e.call ≠ .unlock) (h_grant : e.grant? = some g) (h_event : e.count = o'.lockCount)
    (h_id : o'.id = s.object.id) (h_count : o'.lockCount = s.object.lockCount + 1)
    (h_nested : s.object.lockCount ≠ 0 →
      o' = { s.object with lockCount := s.object.lockCount + 1 })
    (h_below : s.object.lockCount ≠ maxLockCount) (h_inv : LockInvariant o') :
    CountedFrom o ⟨o', s.events ++ [e]⟩ := by
  have h_granted : GraphicsBuffer.granted (s.events ++ [e]) =
      GraphicsBuffer.granted s.events + 1 := by
    rw [granted_append, h_grant]
    rfl
  have h_drops : drops o.lockCount (s.events ++ [e]) = drops o.lockCount s.events :=
    drops_append_lock h_call
  have h_toNat : o'.lockCount.toNat = s.object.lockCount.toNat + 1 := by
    rw [h_count, toNat_add_one h_below]
  refine ⟨h_inv, h_id.trans h.id_eq, lastCount_append.trans h_event, ?_, fun h_ahead => ?_,
    fun h_ahead h_locked => ?_⟩
  · rw [h_granted, h_drops, h_toNat]
    have h_before := h.count_eq
    omega
  · rw [h_drops, unlocks_append, if_neg h_call, Nat.add_zero]
    exact h.dropped h_ahead.of_append
  · -- the locks that the object began with are still there, so the new one is inside them
    have h_busy : s.object.lockCount ≠ 0 := by
      have h_pos : o.lockCount.toNat ≠ 0 := fun h_zero => h_locked (UInt32.toNat_inj.mp h_zero)
      have h_before := h.count_of_ahead h_ahead.of_append
      have h_le := h_ahead.of_append.whole
      intro h_zero
      rw [h_zero, UInt32.toNat_zero] at h_before
      omega
    have h_held := h.held h_ahead.of_append h_locked
    rw [h_nested h_busy]
    exact congrArg (fun object => { object with lockCount := s.object.lockCount + 1 }) h_held

/-- An unlock finds nothing to drop; then it is one too many. -/
theorem idle (h : CountedFrom o s) {e : LockEvent} (h_call : e.call = .unlock)
    (h_event : e.count = s.object.lockCount) (h_count : s.object.lockCount = 0) :
    CountedFrom o ⟨s.object, s.events ++ [e]⟩ := by
  have h_granted : GraphicsBuffer.granted (s.events ++ [e]) = GraphicsBuffer.granted s.events :=
    granted_append_unlock h_call
  have h_drops : drops o.lockCount (s.events ++ [e]) = drops o.lockCount s.events := by
    rw [drops_append, h.last_eq, if_neg fun h_and => h_and.2 h_count, Nat.add_zero]
  refine ⟨h.lockState, h.id_eq, lastCount_append.trans h_event, ?_, fun h_ahead => ?_,
    fun h_ahead => h.held h_ahead.of_append⟩
  · rw [h_granted, h_drops]
    exact h.count_eq
  · -- as many unlocks as locks went before, so there cannot be this one
    have h_before := h.count_of_ahead h_ahead.of_append
    have h_le := h_ahead.whole
    rw [h_count, UInt32.toNat_zero] at h_before
    rw [h_granted, unlocks_append, if_pos h_call] at h_le
    omega

/-- An unlock drops a lock. -/
theorem drop (h : CountedFrom o s) {e : LockEvent} {o' : BufferObject} (h_call : e.call = .unlock)
    (h_event : e.count = o'.lockCount) (h_id : o'.id = s.object.id)
    (h_busy : s.object.lockCount ≠ 0) (h_count : o'.lockCount = s.object.lockCount - 1)
    (h_inner : s.object.lockCount ≠ 1 →
      o' = { s.object with lockCount := s.object.lockCount - 1 })
    (h_inv : LockInvariant o') : CountedFrom o ⟨o', s.events ++ [e]⟩ := by
  have h_granted : GraphicsBuffer.granted (s.events ++ [e]) = GraphicsBuffer.granted s.events :=
    granted_append_unlock h_call
  have h_drops : drops o.lockCount (s.events ++ [e]) = drops o.lockCount s.events + 1 := by
    rw [drops_append, h.last_eq, if_pos ⟨h_call, h_busy⟩]
  obtain ⟨h_pos, h_less⟩ := toNat_sub_one h_busy
  have h_toNat : o'.lockCount.toNat = s.object.lockCount.toNat - 1 := by
    rw [h_count, h_less]
  refine ⟨h_inv, h_id.trans h.id_eq, lastCount_append.trans h_event, ?_, fun h_ahead => ?_,
    fun h_ahead h_locked => ?_⟩
  · rw [h_granted, h_drops, h_toNat]
    have h_before := h.count_eq
    omega
  · rw [h_drops, unlocks_append, if_pos h_call, h.dropped h_ahead.of_append]
  · -- there is a lock for this unlock besides those that the object began with
    have h_more : s.object.lockCount ≠ 1 := by
      have h_pos : o.lockCount.toNat ≠ 0 := fun h_zero => h_locked (UInt32.toNat_inj.mp h_zero)
      have h_before := h.count_of_ahead h_ahead.of_append
      have h_le := h_ahead.whole
      rw [h_granted, unlocks_append, if_pos h_call] at h_le
      intro h_one
      rw [h_one, UInt32.toNat_one] at h_before
      omega
    have h_held := h.held h_ahead.of_append h_locked
    rw [h_inner h_more]
    exact congrArg (fun object => { object with lockCount := s.object.lockCount - 1 }) h_held

theorem turn (h : CountedFrom o s) (t : LockTurn σ)
    (h_below : s.object.lockCount ≠ maxLockCount) : CountedFrom o (s.turn B t) := by
  have h_inv : LockInvariant (s.turn B t).object := h.lockState.turn h_below
  obtain ⟨e, o', h_turn, h_outcome⟩ := turn_outcome B h.lockState t
  rw [h_turn] at h_inv ⊢
  cases h_outcome with
  | refused h_call h_grant h_event => exact h.refused h_call h_grant h_event
  | granted h_call h_grant h_event h_id h_count h_nested =>
    exact h.granted h_call h_grant h_event h_id h_count h_nested h_below h_inv
  | idle h_call h_event h_count => exact h.idle h_call h_event h_count
  | dropped h_call h_event h_id h_busy h_count h_inner =>
    exact h.drop h_call h_event h_id h_busy h_count h_inner h_inv

/-- Locks and unlocks that pair up leave the object as it was. -/
theorem restored (h : CountedFrom o s) (h_inv : LockInvariant o) (h_paired : PairedUp s.events) :
    s.object = o := by
  have h_count : s.object.lockCount = o.lockCount := by
    have h_law := h.count_of_ahead h_paired.1
    have h_total := h_paired.2
    rw [← UInt32.toNat_inj]
    omega
  by_cases h_locked : o.lockCount = 0
  · -- the mapping came and went in between, but without locks an object has none
    calc s.object
        = { id := s.object.id } := h.lockState.eq_fresh (h_count.trans h_locked)
      _ = { id := o.id } := by rw [h.id_eq]
      _ = o := (h_inv.eq_fresh h_locked).symm
  · rw [h.held h_paired.1 h_locked, h_count]

end CountedFrom

/-- The count of locks stays below its limit. -/
def CountStays (B : Backend σ) (o : BufferObject) (turns : List (LockTurn σ)) : Prop :=
  Obeys (LockHistory.turn B) (fun s _ => s.object.lockCount ≠ maxLockCount) ⟨o, []⟩ turns

theorem CountStays.counted {turns : List (LockTurn σ)} (h : CountStays B o turns)
    (h_inv : LockInvariant o) : CountedFrom o (lockRun B o turns) :=
  Obeys.invariant (I := CountedFrom o) (fun _ t h_s h_below => h_s.turn t h_below)
    (.start h_inv) h

/-! ## Unlocks only -/

/-- As many unlocks as there are locks, or more, end all of them. -/
theorem unlocked_of_surplus (B : Backend σ) {turns : List (LockTurn σ)}
    (h_calls : ∀ t ∈ turns, t.call = .unlock) (h_inv : LockInvariant s.object)
    (h_enough : s.object.lockCount.toNat ≤ turns.length) :
    (turns.foldl (LockHistory.turn B) s).object = { id := s.object.id } := by
  -- on the unlocks that are left: each takes a lock, or there is none left to take
  induction turns generalizing s with
  | nil =>
    have h_count : s.object.lockCount = 0 :=
      UInt32.toNat_inj.mp (Nat.le_zero.mp h_enough)
    exact h_inv.eq_fresh h_count
  | cons t rest ih =>
    obtain ⟨call, env⟩ := t
    obtain rfl : call = .unlock := h_calls _ List.mem_cons_self
    rcases h_unlock : s.object.unlock B env with ⟨o', env'⟩
    have h_outcome := h_unlock ▸ unlock_outcome B s.object env
    have h_less : o'.lockCount.toNat ≤ rest.length := by
      rw [List.length_cons] at h_enough
      by_cases h_count : s.object.lockCount = 0
      · obtain rfl : s.object = o' :=
          (Prod.mk.inj ((unlock_of_idle B h_count).symm.trans h_unlock)).1
        rw [h_count]
        exact Nat.zero_le _
      · rw [h_outcome.lockCount_eq h_count, (toNat_sub_one h_count).2]
        omega
    rw [List.foldl_cons, turn_unlock h_unlock, ← h_outcome.numbers.2]
    exact ih (s := ⟨o', _⟩) (fun t h_mem => h_calls t (List.mem_cons_of_mem _ h_mem))
      (h_inv.of_unlock h_unlock) h_less

/-! ## Paired locks and surplus unlocks -/

/-- Let a buffer object be in any state that locks and unlocks lead to, and be locked and unlocked
    any further, some of the locks failing, on any backend and with the count below its limit
    throughout. Calls that pair up leave the object as it was. From an object without locks, the
    count is in the end that of the granted locks less the unlocks that found one; and then as many
    unlocks, and any more of them, leave an object like new. -/
theorem paired_locks_restore (B : Backend σ) (id : BufferId) (earlier turns : List (LockTurn σ))
    (h_earlier : CountStays B { id } earlier)
    (h_turns : CountStays B (lockRun B { id } earlier).object turns) :
    let o := (lockRun B { id } earlier).object
    let run := lockRun B o turns
    (PairedUp run.events → run.object = o) ∧
      (o.lockCount = 0 →
        drops 0 run.events ≤ granted run.events ∧
        run.object.lockCount.toNat = granted run.events - drops 0 run.events ∧
        ∀ surplus : List (LockTurn σ), (∀ t ∈ surplus, t.call = .unlock) →
          run.object.lockCount.toNat ≤ surplus.length →
          (lockRun B run.object surplus).object = { id }) := by
  have h_before := h_earlier.counted (LockInvariant.fresh id)
  have h_inv := h_before.lockState
  have h_own := h_before.id_eq
  generalize (lockRun B { id } earlier).object = o at h_turns h_inv h_own
  have h_after := h_turns.counted h_inv
  refine ⟨h_after.restored h_inv, fun h_count => ?_⟩
  have h_law := h_after.count_eq
  rw [h_count, UInt32.toNat_zero, Nat.zero_add] at h_law
  refine ⟨by omega, by omega, fun surplus h_calls h_enough => ?_⟩
  have h_id : (lockRun B o turns).object.id = id := h_after.id_eq.trans h_own
  rw [← h_id]
  exact unlocked_of_surplus B h_calls h_after.lockState h_enough

/-- A lock of the whole buffer that the object begins with, then a lock inside it, one for a usage
    that the buffer was not locked for, an unlock, another lock inside, and another unlock. -/
def nestedTurns : List (LockTurn SystemState) :=
  [⟨.lock paintHandle ⟨Usage.cpuReadOften, ⟨1, 1, 2, 2⟩⟩, paintEnv⟩,
   ⟨.lock paintHandle ⟨Usage.texture, ⟨0, 0, 8, 8⟩⟩, paintEnv⟩,
   ⟨.unlock, paintEnv⟩,
   ⟨.lock paintHandle ⟨Usage.cpuWriteRarely, ⟨0, 0, 8, 8⟩⟩, paintEnv⟩,
   ⟨.unlock, paintEnv⟩]

/-- The lock of the whole buffer. -/
def wholeTurns : List (LockTurn SystemState) :=
  [⟨.lock paintHandle ⟨Usage.cpuReadOften ∪ Usage.cpuWriteOften, ⟨0, 0, 8, 8⟩⟩, paintEnv⟩]

theorem paired_locks_restore_nested :
    let o := (lockRun systemBackend { id := 1 } wholeTurns).object
    CountStays systemBackend { id := 1 } wholeTurns ∧ CountStays systemBackend o nestedTurns ∧
      o.isMapped = true ∧ PairedUp (lockRun systemBackend o nestedTurns).events ∧
      (lockRun systemBackend o nestedTurns).object = o := by
  have h_earlier : CountStays systemBackend { id := 1 } wholeTurns := ⟨by decide, True.intro⟩
  have h_turns : CountStays systemBackend
      (lockRun systemBackend { id := 1 } wholeTurns).object nestedTurns :=
    ⟨by decide +kernel, by decide +kernel, by decide +kernel, by decide +kernel,
      by decide +kernel, True.intro⟩
  have h_paired : PairedUp (lockRun systemBackend
      (lockRun systemBackend { id := 1 } wholeTurns).object nestedTurns).events := by
    decide +kernel
  exact ⟨h_earlier, h_turns, by decide +kernel, h_paired,
    (paired_locks_restore systemBackend 1 wholeTurns nestedTurns h_earlier h_turns).1 h_paired⟩

end GraphicsBuffer
