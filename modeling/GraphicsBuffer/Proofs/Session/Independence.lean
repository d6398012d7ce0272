/-
  GraphicsBuffer.Proofs.Session.Independence

  Operations on different handles are independent. An operation on a handle leaves every other
  handle as it is, with what it stands for in every manager; and two operations on two handles give
  the same answers and lead to the same state in either order, up to the numbers of what they make.
-/

import GraphicsBuffer.Proofs.Session.Plan.Occupied

namespace GraphicsBuffer

/-! ## Frames -/

namespace Patch.Within

variable {q : Patch} {P : Portrait} {op : HandleOp} {m : ManagerId} {h h' : Name}

/-- Another handle stands for what it stood for. -/
theorem stands_eq (hq : q.Within P op m h) (h_given : P.Given) (h_private : P.Private)
    (h_ne : h' ≠ h) (m' : ManagerId) : (q.apply P).stands m' h' = P.stands m' h' := by
  have h_handle : (q.apply P).handles h' = P.handles h' := hq.handle.apply_of_not _ h_ne
  simp only [Portrait.stands, h_handle]
  rcases h_find : P.handles h' with _ | handle
  · rfl
  rcases h_key : handle.registration with _ | key
  · simp only [Option.bind_eq_bind, Option.bind_some, h_key, Option.bind_none]
  simp only [Option.bind_eq_bind, Option.bind_some, h_key]
  refine hq.entry.apply_of_not _ ?_
  rintro (h_own | ⟨-, h_next⟩)
  · exact h_ne (h_private.keys (Option.bind_eq_some_iff.mpr ⟨handle, h_find, h_key⟩) h_own)
  · exact Nat.lt_irrefl _ (h_next ▸ h_given.handles h_find h_key)

/-- At the site of another handle everything is as it was. -/
theorem site_eq (hq : q.Within P op m h) (h_given : P.Given) (h_private : P.Private)
    (h_ne : h' ≠ h) (m' : ManagerId) : (q.apply P).site m' h' = P.site m' h' := by
  have h_handle : (q.apply P).handles h' = P.handles h' := hq.handle.apply_of_not _ h_ne
  simp only [Portrait.site, hq.stands_eq h_given h_private h_ne m', h_handle]
  rcases h_stands : P.stands m' h' with _ | id
  · rfl
  -- what the handle stands for is not what the other does, and was there before what is new
  have h_other : P.stands m h ≠ some id := fun h_same => h_ne (h_private.stands h_stands h_same)
  obtain ⟨key, -, h_entry⟩ := Portrait.stands_eq_some_iff.mp h_stands
  have h_old : ¬ (P.stands m h = some id ∨ (q.registers = true ∧ id = P.nextBuffer)) := by
    rintro (h_same | ⟨-, rfl⟩)
    · exact h_other h_same
    · exact Nat.lt_irrefl _ (h_given.entries h_entry).2
  have h_object : (q.apply P).objects id = P.objects id := hq.object.apply_of_not _ h_old
  have h_buffer : (q.apply P).buffers id = P.buffers id := hq.buffer.apply_of_not _ h_old
  have h_held : (q.apply P).held id = P.held id :=
    congrArg (P.held id + ·) (if_neg fun h_some => h_other (hq.held id h_some))
  simp only [Option.bind_some, Option.map_some, h_object, h_buffer, h_held]
  rfl

end Patch.Within

/-! ## Exchanged numbers -/

/-- A number that is used up twice is exchanged with the one after it. -/
def swapNext (n : Nat) (twice : Bool) : Equiv.Perm Nat :=
  if twice then Equiv.swap n (n + 1) else Equiv.refl _

theorem swapNext_of_lt {n k : Nat} (twice : Bool) (h : k < n) : swapNext n twice k = k := by
  cases twice with
  | false => rfl
  | true => exact Equiv.swap_apply_of_ne_of_ne (Nat.ne_of_lt h) (Nat.ne_of_lt (Nat.lt_succ_of_lt h))

theorem swapNext_swapNext (n : Nat) (twice : Bool) (k : Nat) :
    swapNext n twice (swapNext n twice k) = k := by
  cases twice with
  | false => rfl
  | true => exact Equiv.swap_apply_self _ _ k

/-- Whoever uses a number up when another has done so gets the one after it. -/
theorem swapNext_self (n : Nat) (other : Bool) : swapNext n other n = n + other.toNat := by
  cases other with
  | false => rfl
  | true => exact Equiv.swap_apply_left _ _

/-- What one has of old is not what the other has, and neither is what both make. -/
theorem ne_swapNext {own own' : Option Nat} {n : Nat} {used used' : Bool}
    (h_lt : ∀ k, own = some k → k < n) (h_lt' : ∀ k, own' = some k → k < n)
    (h_apart : ∀ k, own = some k → own' ≠ some k) {k k' : Nat}
    (h : own = some k ∨ (used = true ∧ k = n)) (h' : own' = some k' ∨ (used' = true ∧ k' = n)) :
    k ≠ swapNext n (used && used') k' := by
  rcases h' with h_own' | ⟨h_used', rfl⟩
  · rw [swapNext_of_lt _ (h_lt' k' h_own')]
    rcases h with h_own | ⟨-, rfl⟩
    · rintro rfl
      exact h_apart k h_own h_own'
    · exact Nat.ne_of_gt (h_lt' k' h_own')
  · rw [swapNext_self]
    rcases h with h_own | ⟨h_used, rfl⟩
    · exact Nat.ne_of_lt (Nat.lt_of_lt_of_le (h_lt k h_own) (Nat.le_add_right _ _))
    · rw [h_used, h_used']
      exact Nat.ne_of_lt (Nat.lt_succ_self _)

/-- The numbers that two patches both use up, exchanged. -/
def Renaming.exchange (f : Fresh) (q q' : Patch) : Renaming where
  key := swapNext f.key (q.registers && q'.registers)
  buffer := swapNext f.buffer (q.registers && q'.registers)
  mapping := swapNext f.mapping (q.maps && q'.maps)

/-- The numbers that are next once a patch has been applied. -/
def Fresh.after (f : Fresh) (q : Patch) : Fresh :=
  ⟨f.key + q.registers.toNat, f.buffer + q.registers.toNat, f.mapping + q.maps.toNat⟩

namespace Renaming

variable (f : Fresh) (q q' : Patch)

theorem exchange_keeps : (exchange f q q').Keeps f :=
  ⟨fun _ => swapNext_of_lt _, fun _ => swapNext_of_lt _, fun _ => swapNext_of_lt _⟩

theorem exchange_involutive : (exchange f q q').Involutive :=
  ⟨swapNext_swapNext _ _, swapNext_swapNext _ _, swapNext_swapNext _ _⟩

theorem exchange_comm : exchange f q q' = exchange f q' q := by
  simp only [exchange, Bool.and_comm]

/-- The second of two patches uses up what comes after the numbers of the first. -/
theorem exchange_shifts : (exchange f q q').Shifts q f (f.after q') := by
  refine ⟨exchange_keeps f q q', fun h => ?_, fun h => ?_, fun h => ?_⟩ <;>
    simp only [exchange, h, Bool.true_and, swapNext_self, Fresh.after]

end Renaming

/-- Patches at the sites of different handles touch different things, whatever numbers the second of
    them gives to what it makes. -/
theorem Patch.Within.apart {q q' : Patch} {P : Portrait} {op op' : HandleOp} {m m' : ManagerId}
    {h h' : Name} (hq : q.Within P op m h) (hq' : q'.Within P op' m' h') (h_given : P.Given)
    (h_private : P.Private) (h_ne : h ≠ h') (h_names : ∀ o, op = .refer o → op' ≠ .refer o) :
    q.Apart (q'.rename (.exchange P.fresh q q')) := by
  have h_stands_lt : ∀ {m h id}, P.stands m h = some id → id < P.nextBuffer := by
    intro m h id h_stands
    obtain ⟨key, -, h_entry⟩ := Portrait.stands_eq_some_iff.mp h_stands
    exact (h_given.entries h_entry).2
  have h_key_lt : ∀ {h key}, P.key? h = some key → key < P.nextKey := by
    intro h key h_key
    obtain ⟨handle, h_find, h_registered⟩ := Option.bind_eq_some_iff.mp h_key
    exact h_given.handles h_find h_registered
  have h_mapped_lt : ∀ {m h id}, P.mapped m h = some id → id < P.nextMapping := by
    intro m h id h_mapped
    obtain ⟨b, h_b, h_mapping⟩ := Option.bind_eq_some_iff.mp h_mapped
    obtain ⟨l, -, h_find⟩ := Option.bind_eq_some_iff.mp h_b
    exact (h_given.buffers h_find).2 id h_mapping
  constructor
  · exact hq.handle.apart hq'.handle fun l l' h_l h_l' => by rw [h_l, h_l']; exact h_ne
  · refine hq.holding.apart hq'.holding fun o o' h_o h_o' h_same => ?_
    obtain rfl : o = o' := h_same
    exact h_names o h_o h_o'
  · refine hq.entry.apart hq'.entry fun place place' h_place h_place' h_same => ?_
    exact ne_swapNext (fun _ => h_key_lt) (fun _ => h_key_lt)
      (fun _ h_key h_key' => h_ne (h_private.keys h_key h_key')) h_place h_place'
      (congrArg Prod.snd h_same)
  · exact hq.object.apart hq'.object fun _ _ => ne_swapNext (fun _ => h_stands_lt)
      (fun _ => h_stands_lt) fun _ h_id h_id' => h_ne (h_private.stands h_id h_id')
  · exact hq.buffer.apart hq'.buffer fun _ _ => ne_swapNext (fun _ => h_stands_lt)
      (fun _ => h_stands_lt) fun _ h_id h_id' => h_ne (h_private.stands h_id h_id')
  · exact hq.mapping.apart hq'.mapping fun _ _ => ne_swapNext (fun _ => h_mapped_lt)
      (fun _ => h_mapped_lt) fun _ h_id h_id' => h_ne (h_private.mapped h_id h_id')

/-! ## Two operations -/

namespace Session

variable {s s' : Session SystemState} {m m' : ManagerId} {h h' : Name} {op op' : HandleOp}

/-- A handle is as it was, and in every manager it stands for the object that it stood for, which
    has the locks, the usage and the mapping that it had. -/
structure Untouched (s s' : Session SystemState) (h : Name) : Prop where
  handle : s'.handles.find? h = s.handles.find? h
  lookup : ∀ m handle, s.handles.find? h = some handle →
    s'.world.lookup m handle = s.world.lookup m handle
  object : ∀ m handle, s.handles.find? h = some handle →
    s'.world.object? m handle = s.world.object? m handle

theorem Untouched.of_sites (h_sites : ∀ m, s'.portrait.site m h = s.portrait.site m h) :
    Untouched s s' h := by
  have h_handle : s'.handles.find? h = s.handles.find? h := congrArg Site.handle (h_sites 0)
  have h_lookup : ∀ m handle, s.handles.find? h = some handle →
      s'.world.lookup m handle = s.world.lookup m handle := by
    intro m handle h_find
    rw [← site_id h_find, ← site_id (h_handle.trans h_find), h_sites m]
  refine ⟨h_handle, h_lookup, fun m handle h_find => ?_⟩
  have h_object : (s'.portrait.stands m h).bind s'.world.objects.find? =
      (s.portrait.stands m h).bind s.world.objects.find? := congrArg Site.object (h_sites m)
  rw [show s'.portrait.stands m h = _ from site_id (h_handle.trans h_find) m,
    show s.portrait.stands m h = _ from site_id h_find m] at h_object
  exact h_object

/-- Two steps give in the other order the answers and the state that they give in this, with other
    numbers for what they make. -/
structure Interchange [PageSize] (ρ : Renaming) (s : Session SystemState) (first second : Step) :
    Prop where
  answer_first : ((s.step systemBackend second).2.step systemBackend first).1 =
    ρ.answer (s.step systemBackend first).1
  answer_second : (s.step systemBackend second).1 =
    ρ.answer ((s.step systemBackend first).2.step systemBackend second).1
  state : ((s.step systemBackend second).2.step systemBackend first).2.portrait =
    ((s.step systemBackend first).2.step systemBackend second).2.portrait.rename ρ

/-- An operation leaves all sites of another handle as they are. -/
theorem Settled.sites_eq [PageSize] (hs : Settled s) (h_fits : op.Fits s) (h_ne : h' ≠ h)
    (m : ManagerId) :
    ∀ m', (s.step systemBackend (op.step m h)).2.portrait.site m' h' = s.portrait.site m' h' := by
  intro m'
  obtain ⟨p, hp⟩ := hs.plan op m h
  rw [(hp.describes s hs h_fits rfl).2]
  exact hp.within.site_eq hs.portrait_given hs.portrait_private h_ne m'

/-- After one operation, another goes by the plan that it had before it, with the numbers that are
    next then. -/
theorem Settled.planned_after [PageSize] (hs : Settled s) {p p' : Plan} (hp : p.Serves s op m h)
    (hp' : p'.Serves s op' m' h') (h_fits : op.Fits s) (h_fits' : op'.Fits s) (h_ne : h' ≠ h)
    (h_names : ∀ o, op = .refer o → op' ≠ .refer o) :
    (((s.step systemBackend (op.step m h)).2.step systemBackend (op'.step m' h')).1 =
        Renaming.answer (.exchange s.portrait.fresh (p'.patch s.portrait.fresh)
          (p.patch s.portrait.fresh)) (p'.answer s.portrait.fresh)) ∧
      ((s.step systemBackend (op.step m h)).2.step systemBackend (op'.step m' h')).2.portrait =
        ((p'.patch s.portrait.fresh).rename (.exchange s.portrait.fresh
          (p'.patch s.portrait.fresh) (p.patch s.portrait.fresh))).apply
          ((p.patch s.portrait.fresh).apply s.portrait) := by
  obtain ⟨-, h_state⟩ := hp.describes s hs h_fits rfl
  have h_fits₁ : op'.Fits (s.step systemBackend (op.step m h)).2 := by
    intro o h_refer
    have h_holding := congrFun (congrArg Portrait.holdings h_state) o
    -- the reference that the first operation keeps has another name
    have h_other : ¬ (op = .refer o) := fun h_same => h_names o h_same h_refer
    exact h_holding.trans ((hp.within.holding.apply_of_not _ h_other).trans (h_fits' o h_refer))
  obtain ⟨h_answer₁, h_state₁⟩ := hp'.describes _ (hs.step (op.step m h)) h_fits₁
    (hs.sites_eq h_fits h_ne m m')
  obtain ⟨h_patch, h_answer⟩ := hp'.natural _ _
    (Renaming.exchange_shifts s.portrait.fresh (p'.patch s.portrait.fresh)
      (p.patch s.portrait.fresh))
  have h_fresh : (s.step systemBackend (op.step m h)).2.portrait.fresh =
      s.portrait.fresh.after (p.patch s.portrait.fresh) := congrArg Portrait.fresh h_state
  rw [h_fresh, h_answer] at h_answer₁
  rw [h_fresh, h_patch, h_state] at h_state₁
  exact ⟨h_answer₁, h_state₁⟩

/-- Operations on different handles give the same in either order. -/
theorem Settled.interchange [PageSize] (hs : Settled s) (h_fits : op.Fits s) (h_fits' : op'.Fits s)
    (h_ne : h ≠ h') (h_names : ∀ o, op = .refer o → op' ≠ .refer o) (m m' : ManagerId) :
    ∃ ρ : Renaming, ρ.Keeps s.portrait.fresh ∧
      Interchange ρ s (op.step m h) (op'.step m' h') := by
  obtain ⟨p, hp⟩ := hs.plan op m h
  obtain ⟨p', hp'⟩ := hs.plan op' m' h'
  have h_names' : ∀ o, op' = .refer o → op ≠ .refer o :=
    fun o h_refer h_same => h_names o h_same h_refer
  obtain ⟨h_second, h_state⟩ := hs.planned_after hp hp' h_fits h_fits' h_ne.symm h_names
  obtain ⟨h_first, h_state'⟩ := hs.planned_after hp' hp h_fits' h_fits h_ne h_names'
  have h_apart :=
    hp'.within.apart hp.within hs.portrait_given hs.portrait_private h_ne.symm h_names'
  -- in both orders the second operation gets the numbers that the exchange gives it
  generalize h_q : p.patch s.portrait.fresh = q at *
  generalize h_q' : p'.patch s.portrait.fresh = q' at *
  rw [Renaming.exchange_comm] at h_first h_state'
  have h_involutive := Renaming.exchange_involutive s.portrait.fresh q' q
  have h_keeps := Renaming.exchange_keeps s.portrait.fresh q' q
  refine ⟨.exchange s.portrait.fresh q' q, h_keeps, ⟨?_, ?_, ?_⟩⟩
  · rw [h_first, (hp.describes s hs h_fits rfl).1]
  · rw [h_second, h_involutive.answer, (hp'.describes s hs h_fits' rfl).1]
  · rw [h_state', h_state, Patch.rename_apply, Patch.rename_apply, Patch.rename_rename h_involutive,
      Portrait.rename_eq_self hs.portrait_given h_keeps]
    exact (h_apart.apply_comm s.portrait).symm

/-- In every state that a play reaches, operations on different handles are independent: none
    touches what is at the other, and in either order they give the same. -/
theorem operations_independent [PageSize] (h_s : Reached s) (op op' : HandleOp) (m m' : ManagerId)
    (h h' : Name) (h_ne : h ≠ h') (h_fits : op.Fits s) (h_fits' : op'.Fits s)
    (h_names : ∀ o, op = .refer o → op' ≠ .refer o) :
    Untouched s (s.step systemBackend (op.step m h)).2 h' ∧
      ∃ ρ : Renaming, ρ.Keeps s.portrait.fresh ∧
        Interchange ρ s (op.step m h) (op'.step m' h') :=
  ⟨.of_sites (h_s.settled.sites_eq h_fits h_ne.symm m),
    h_s.settled.interchange h_fits h_fits' h_ne h_names m m'⟩

/-- A handle is created in one manager, and one that arrives from it is registered in another. -/
def sharedMoves : List (Move SystemState) :=
  [.client (.create 0 "a" ⟨16, 16⟩ PixelFormat.rgba8888 Usage.cpuWriteOften),
    .client (.transfer "a" "b" {} .duplicate), .client (.register 1 "b")]

/-- Two handles with one memory. -/
def sharedSession : Session SystemState :=
  (start systemBackend {} [.full, .full]).play systemBackend sharedMoves

/-- Locks of two handles that share a memory: each maps it, the first at the first number. -/
theorem operations_independent_shared :
    (sharedSession.step systemBackend
        (.lock 0 "a" ⟨Usage.cpuWriteOften, ⟨0, 0, 16, 16⟩⟩)).1 = .locked (some ⟨1, 0⟩) none ∧
      (sharedSession.step systemBackend
        (.lock 1 "b" ⟨Usage.cpuWriteOften, ⟨0, 0, 16, 16⟩⟩)).1 = .locked (some ⟨1, 0⟩) none ∧
      Untouched sharedSession (sharedSession.step systemBackend
        (.lock 0 "a" ⟨Usage.cpuWriteOften, ⟨0, 0, 16, 16⟩⟩)).2 "b" ∧
      ∃ ρ : Renaming, ρ.Keeps sharedSession.portrait.fresh ∧
        Interchange ρ sharedSession (.lock 0 "a" ⟨Usage.cpuWriteOften, ⟨0, 0, 16, 16⟩⟩)
          (.lock 1 "b" ⟨Usage.cpuWriteOften, ⟨0, 0, 16, 16⟩⟩) := by
  have h_reached : Reached sharedSession :=
    ⟨{}, [.full, .full], sharedMoves, nofun, ⟨True.intro, True.intro, True.intro, True.intro⟩, rfl⟩
  exact ⟨by decide +kernel, by decide +kernel,
    operations_independent h_reached (.lock ⟨Usage.cpuWriteOften, ⟨0, 0, 16, 16⟩⟩)
      (.lock ⟨Usage.cpuWriteOften, ⟨0, 0, 16, 16⟩⟩) 0 1 "a" "b" (by decide) nofun nofun nofun⟩

end Session

end GraphicsBuffer
