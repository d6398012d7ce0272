/-
  GraphicsBuffer.Proofs.Session.Resolution

  Handles resolve to their own buffers. No two handles carry one key, and a handle resolves in a
  manager exactly if the latest deed about it was that this manager registered it; then it resolves
  to the buffer it was registered for. A manager has as many buffers as it registered handles, less
  those that gave their registration up.
-/

import GraphicsBuffer.Proofs.Session.Invariant

namespace GraphicsBuffer

open World (Evolves)

/-! ## Latest deeds -/

/-- The latest deed about a handle, if there is one. -/
def latest (deeds : List Deed) (h : Name) : Option Deed := deeds.find? (·.handle = h)

theorem latest_cons_self (d : Deed) (deeds : List Deed) :
    latest (d :: deeds) d.handle = some d :=
  List.find?_cons_of_pos (decide_eq_true rfl)

theorem latest_cons_of_ne {d : Deed} {h : Name} (h_ne : h ≠ d.handle) (deeds : List Deed) :
    latest (d :: deeds) h = latest deeds h :=
  List.find?_cons_of_neg (by simpa using Ne.symm h_ne)

/-- A handle or a manager that is given something else is told apart from all others. -/
theorem update_eq_some_iff {α β : Type} [DecidableEq α] {f : α → Option β} {a c : α} {x : Option β}
    {b : β} : Function.update f a x c = some b ↔ (c = a ∧ x = some b) ∨ (c ≠ a ∧ f c = some b) := by
  rw [Function.update_apply]
  by_cases h_eq : c = a
  · simp [h_eq]
  · simp [h_eq]

/-! ## The invariant of keys and tables -/

/-- What holds of the tables of managers, the next key, the keys of handles and the deeds. -/
structure RegistryInvariant (managers : ManagerId → Option Manager) (nextKey : Key)
    (keys : Name → Option Key) (deeds : List Deed) : Prop where
  /-- The keys of handles have been given out. -/
  keys_used : ∀ {h key}, keys h = some key → key < nextKey
  /-- No two handles carry one key. -/
  keys_own : ∀ {h l key}, keys h = some key → keys l = some key → h = l
  /-- The keys of entries have been given out. -/
  entries_used : ∀ {m manager key id}, managers m = some manager →
    manager.buffers.find? key = some id → key < nextKey
  /-- No table has two entries under one key. -/
  distinct : ∀ {m manager}, managers m = some manager → manager.buffers.Distinct
  /-- A handle has an entry in a table exactly if the latest deed about it put it there. -/
  entry_iff : ∀ {m manager}, managers m = some manager → ∀ h id,
    (∃ key, keys h = some key ∧ manager.buffers.find? key = some id) ↔
      latest deeds h = some (.bound m h id)
  /-- Every entry that was put into a table has been taken out or is there. -/
  counts : ∀ {m manager}, managers m = some manager →
    manager.buffers.size + deeds.countP (·.frees m) = deeds.countP (·.binds m)

namespace RegistryInvariant

variable {managers : ManagerId → Option Manager} {nextKey : Key} {keys : Name → Option Key}
  {deeds : List Deed}

/-- A name is given a handle without a key, or loses its handle. -/
theorem reset (h_inv : RegistryInvariant managers nextKey keys deeds) (h : Name) :
    RegistryInvariant managers nextKey (Function.update keys h none) (.reset h :: deeds) where
  keys_used h_key := by
    obtain ⟨-, h_none⟩ | ⟨-, h_key⟩ := update_eq_some_iff.mp h_key
    · exact nomatch h_none
    · exact h_inv.keys_used h_key
  keys_own h_key h_key' := by
    obtain ⟨-, h_none⟩ | ⟨-, h_key⟩ := update_eq_some_iff.mp h_key
    · exact nomatch h_none
    obtain ⟨-, h_none⟩ | ⟨-, h_key'⟩ := update_eq_some_iff.mp h_key'
    · exact nomatch h_none
    exact h_inv.keys_own h_key h_key'
  entries_used := h_inv.entries_used
  distinct := h_inv.distinct
  entry_iff h_manager l id := by
    by_cases h_name : l = h
    · subst h_name
      have h_latest : latest (.reset l :: deeds) l = _ := latest_cons_self (.reset l) deeds
      simp [h_latest]
    · rw [Function.update_of_ne h_name, latest_cons_of_ne (d := .reset h) h_name]
      exact h_inv.entry_iff h_manager l id
  counts h_manager := by
    rw [List.countP_cons_of_neg Bool.false_ne_true, List.countP_cons_of_neg Bool.false_ne_true]
    exact h_inv.counts h_manager

/-- A handle and an entry of a table get the next key. -/
theorem bound (h_inv : RegistryInvariant managers nextKey keys deeds) {m : ManagerId}
    {manager : Manager} (h_manager : managers m = some manager) (h : Name) (id : BufferId) :
    RegistryInvariant
      (Function.update managers m
        (some { manager with buffers := manager.buffers.insert nextKey id }))
      (nextKey + 1) (Function.update keys h (some nextKey)) (.bound m h id :: deeds) where
  keys_used h_key := by
    obtain ⟨-, ⟨⟩⟩ | ⟨-, h_key⟩ := update_eq_some_iff.mp h_key
    · exact Nat.lt_succ_self _
    · exact Nat.lt_succ_of_lt (h_inv.keys_used h_key)
  keys_own h_key h_key' := by
    -- a key that was carried before is not the next one
    obtain ⟨rfl, ⟨⟩⟩ | ⟨-, h_old⟩ := update_eq_some_iff.mp h_key
    · obtain ⟨rfl, -⟩ | ⟨-, h_old'⟩ := update_eq_some_iff.mp h_key'
      · rfl
      · exact absurd (h_inv.keys_used h_old') (Nat.lt_irrefl _)
    · obtain ⟨rfl, ⟨⟩⟩ | ⟨-, h_old'⟩ := update_eq_some_iff.mp h_key'
      · exact absurd (h_inv.keys_used h_old) (Nat.lt_irrefl _)
      · exact h_inv.keys_own h_old h_old'
  entries_used h_l h_find := by
    obtain ⟨rfl, ⟨⟩⟩ | ⟨-, h_l⟩ := update_eq_some_iff.mp h_l
    · rcases Table.find?_insert_eq_some h_find with ⟨rfl, -⟩ | ⟨-, h_find⟩
      · exact Nat.lt_succ_self _
      · exact Nat.lt_succ_of_lt (h_inv.entries_used h_manager h_find)
    · exact Nat.lt_succ_of_lt (h_inv.entries_used h_l h_find)
  distinct h_l := by
    obtain ⟨rfl, ⟨⟩⟩ | ⟨-, h_l⟩ := update_eq_some_iff.mp h_l
    · exact (h_inv.distinct h_manager).insert nextKey id
    · exact h_inv.distinct h_l
  entry_iff {l _} h_l g id' := by
    by_cases h_name : g = h
    · -- the handle that is registered: only the new entry has its key
      subst h_name
      have h_latest : latest (.bound m g id :: deeds) g = _ :=
        latest_cons_self (.bound m g id) deeds
      simp only [h_latest, Function.update_self, Option.some.injEq, exists_eq_left',
        Deed.bound.injEq, true_and]
      obtain ⟨rfl, ⟨⟩⟩ | ⟨h_ne, h_l⟩ := update_eq_some_iff.mp h_l
      · simp [Table.find?_insert_self]
      · refine ⟨fun h_find => ?_, fun h_eq => absurd h_eq.1.symm h_ne⟩
        exact absurd (h_inv.entries_used h_l h_find) (Nat.lt_irrefl _)
    · -- any other handle: its key is an old one
      rw [Function.update_of_ne h_name, latest_cons_of_ne (d := .bound m h id) h_name]
      obtain ⟨rfl, ⟨⟩⟩ | ⟨-, h_l⟩ := update_eq_some_iff.mp h_l
      · rw [← h_inv.entry_iff h_manager g id']
        refine exists_congr fun key => and_congr_right fun h_key => ?_
        rw [Table.find?_insert_of_ne _ _ (Nat.ne_of_lt (h_inv.keys_used h_key))]
      · exact h_inv.entry_iff h_l g id'
  counts {l _} h_l := by
    have h_frees : (.bound m h id :: deeds).countP (·.frees l) = deeds.countP (·.frees l) :=
      List.countP_cons_of_neg Bool.false_ne_true
    rw [h_frees]
    obtain ⟨rfl, ⟨⟩⟩ | ⟨h_ne, h_l⟩ := update_eq_some_iff.mp h_l
    · have h_free : manager.buffers.find? nextKey = none := by
        rw [Option.eq_none_iff_forall_ne_some]
        exact fun id' h_find => absurd (h_inv.entries_used h_manager h_find) (Nat.lt_irrefl _)
      have h_counts := h_inv.counts h_manager
      -- the next key is in no table, so the entry is one more
      rw [List.countP_cons_of_pos (by simp [Deed.binds]),
        Table.size_insert_of_find?_eq_none id h_free]
      omega
    · rw [List.countP_cons_of_neg (by simpa [Deed.binds] using Ne.symm h_ne)]
      exact h_inv.counts h_l

/-- A handle loses its key and a table the entry under it. -/
theorem freed (h_inv : RegistryInvariant managers nextKey keys deeds) {m : ManagerId}
    {manager : Manager} (h_manager : managers m = some manager) {h : Name} {key : Key}
    {id : BufferId} (h_key : keys h = some key) (h_find : manager.buffers.find? key = some id) :
    RegistryInvariant
      (Function.update managers m (some { manager with buffers := manager.buffers.erase key }))
      nextKey (Function.update keys h none) (.freed m h :: deeds) where
  keys_used h_used := by
    obtain ⟨-, h_none⟩ | ⟨-, h_used⟩ := update_eq_some_iff.mp h_used
    · exact nomatch h_none
    · exact h_inv.keys_used h_used
  keys_own h_used h_used' := by
    obtain ⟨-, h_none⟩ | ⟨-, h_used⟩ := update_eq_some_iff.mp h_used
    · exact nomatch h_none
    obtain ⟨-, h_none⟩ | ⟨-, h_used'⟩ := update_eq_some_iff.mp h_used'
    · exact nomatch h_none
    exact h_inv.keys_own h_used h_used'
  entries_used h_l h_entry := by
    obtain ⟨rfl, ⟨⟩⟩ | ⟨-, h_l⟩ := update_eq_some_iff.mp h_l
    · exact h_inv.entries_used h_manager (Table.find?_erase_eq_some h_entry).2
    · exact h_inv.entries_used h_l h_entry
  distinct h_l := by
    obtain ⟨rfl, ⟨⟩⟩ | ⟨-, h_l⟩ := update_eq_some_iff.mp h_l
    · exact (h_inv.distinct h_manager).erase key
    · exact h_inv.distinct h_l
  entry_iff {l _} h_l g id' := by
    by_cases h_name : g = h
    · -- the handle that is freed has neither a key nor an entry
      subst h_name
      have h_latest : latest (.freed m g :: deeds) g = _ := latest_cons_self (.freed m g) deeds
      simp [h_latest]
    · rw [Function.update_of_ne h_name, latest_cons_of_ne (d := .freed m h) h_name]
      obtain ⟨rfl, ⟨⟩⟩ | ⟨-, h_l⟩ := update_eq_some_iff.mp h_l
      · rw [← h_inv.entry_iff h_manager g id']
        refine exists_congr fun key' => and_congr_right fun h_key' => ?_
        -- the erased key is carried by no other handle
        have h_ne : key' ≠ key := by
          rintro rfl
          exact h_name (h_inv.keys_own h_key' h_key)
        rw [Table.find?_erase_of_ne _ h_ne]
      · exact h_inv.entry_iff h_l g id'
  counts {l _} h_l := by
    have h_binds : (.freed m h :: deeds).countP (·.binds l) = deeds.countP (·.binds l) :=
      List.countP_cons_of_neg Bool.false_ne_true
    rw [h_binds]
    obtain ⟨rfl, ⟨⟩⟩ | ⟨h_ne, h_l⟩ := update_eq_some_iff.mp h_l
    · have h_counts := h_inv.counts h_manager
      have h_size := (h_inv.distinct h_manager).size_erase h_find
      rw [List.countP_cons_of_pos (by simp [Deed.frees])]
      -- the table has one entry less, and one more deed took an entry
      simp only
      omega
    · rw [List.countP_cons_of_neg (by simpa [Deed.frees] using Ne.symm h_ne)]
      exact h_inv.counts h_l

/-- A manager ends; nothing is said of it any more. -/
theorem closed (h_inv : RegistryInvariant managers nextKey keys deeds) (m : ManagerId) :
    RegistryInvariant (Function.update managers m none) nextKey keys deeds := by
  have h_there : ∀ {l manager}, Function.update managers m none l = some manager →
      managers l = some manager := by
    intro l manager h_l
    obtain ⟨-, h_none⟩ | ⟨-, h_l⟩ := update_eq_some_iff.mp h_l
    · exact nomatch h_none
    · exact h_l
  exact ⟨h_inv.keys_used, h_inv.keys_own, fun h_l => h_inv.entries_used (h_there h_l),
    fun h_l => h_inv.distinct (h_there h_l), fun h_l => h_inv.entry_iff (h_there h_l),
    fun h_l => h_inv.counts (h_there h_l)⟩

end RegistryInvariant

/-! ## Chronicles -/

namespace Session

variable {σ : Type} {B : Backend σ} {lockable : BufferObject → Prop} {s s' : Session σ}

/-- The invariant of a session and the deeds that led to it. -/
def RegistrySound (s : Session σ) (deeds : List Deed) : Prop :=
  RegistryInvariant s.world.manager? s.world.nextKey s.key? deeds

namespace RegistrySound

theorem start (B : Backend σ) (devices : σ) (kinds : List ManagerKind) :
    RegistrySound (start B devices kinds) [] where
  keys_used := nofun
  keys_own := nofun
  entries_used h_manager h_find := by
    rw [World.start_buffers h_manager] at h_find
    exact nomatch h_find
  distinct h_manager := by
    rw [World.start_buffers h_manager]
    exact Table.Distinct.empty
  entry_iff _ _ _ := ⟨nofun, nofun⟩
  counts h_manager := by
    rw [World.start_buffers h_manager]
    rfl

/-- What leaves managers, keys and the next key alone keeps the invariant. -/
theorem congr {deeds : List Deed} (h : RegistrySound s deeds)
    (h_managers : s'.world.manager? = s.world.manager?)
    (h_next : s'.world.nextKey = s.world.nextKey) (h_keys : s'.key? = s.key?) :
    RegistrySound s' deeds := by
  rw [RegistrySound, h_managers, h_next, h_keys]
  exact h

theorem releaseHolding {deeds : List Deed} (h : RegistrySound s deeds) (o : Name) :
    RegistrySound (s.releaseHolding B o) deeds := by
  unfold Session.releaseHolding
  rcases s.holdings.find? o with _ | holding
  · exact h
  have h_reap : Evolves B (fun _ => True) _ (s.world.release B holding.id) :=
    World.reap_evolves _ holding.id
  exact h.congr h_reap.manager?_eq h_reap.nextKey_eq rfl

theorem of_effect {deeds : List Deed} {deed : Option Deed} (h : RegistrySound s deeds)
    (h_effect : Effect B lockable s deed s') : RegistrySound s' (deed.toList ++ deeds) := by
  cases h_effect with
  | went h_world h_keys _ => exact h.congr h_world.manager?_eq h_world.nextKey_eq h_keys
  | @reset _ l h_world h_keys _ =>
    rw [RegistrySound, h_world, h_keys]
    exact h.reset l
  | @bound _ m l id handle h_claims h_keys _ =>
    obtain ⟨manager, h_manager, h_key, h_next, h_managers⟩ := h_claims.registry
    -- the table of one manager and the key of one handle are updated together
    have h_managers : s'.world.manager? = Function.update s.world.manager? m _ :=
      funext fun l => (h_managers l).trans (Function.update_apply _ _ _ _).symm
    rw [RegistrySound, h_managers, h_next, h_keys, h_key]
    exact h.bound h_manager l id
  | @freed _ m l key manager id h_key h_manager h_find h_world h_keys _ =>
    have h_managers : s'.world.manager? = Function.update s.world.manager? m _ :=
      h_world.manager?_eq.trans (funext fun l =>
        (World.manager?_setManager h_manager _ l).trans (Function.update_apply _ _ _ _).symm)
    rw [RegistrySound, h_managers, h_world.nextKey_eq, h_keys]
    exact h.freed h_manager h_key h_find
  | @closed _ m h_world h_keys _ =>
    -- objects that nothing names any more go with the manager; the other tables stay
    have h_managers : s'.world.manager? = Function.update s.world.manager? m none :=
      h_world.manager?_eq.trans (funext fun l =>
        (World.manager?_setManager_none _ m l).trans (Function.update_apply _ _ _ _).symm)
    rw [RegistrySound, h_managers, h_world.nextKey_eq, h_keys]
    exact h.closed m
  | retained s₁ holding o h_retains h_keys _ =>
    -- neither the new reference nor the one that it replaces is an entry of a table
    have h_sound : RegistrySound s₁ deeds := by
      obtain ⟨h_managers, h_next⟩ := h_retains.registry
      exact h.congr h_managers h_next h_keys
    exact h_sound.releaseHolding o
  | released o => exact h.releaseHolding o

/-- Every move keeps the invariant of the chronicle. -/
theorem next {c : Chronicle σ} (h_accounted : Accounted [] c.session)
    (h : RegistrySound c.session c.deeds) (m : Move σ) :
    RegistrySound (c.next B m).session (c.next B m).deeds := by
  have h_lockable : ∀ o ∈ c.session.world.objects.values, (fun _ : BufferObject => True) o :=
    fun _ _ => True.intro
  rcases after_effect (B := B) h_accounted h_lockable m with ⟨devices, rfl⟩ | h_effect
  · exact h.congr rfl rfl rfl
  · exact h.of_effect h_effect

end RegistrySound

/-! ## Resolution -/

/-- Handles resolve to their own buffers. -/
structure ResolvesExactly (c : Chronicle σ) : Prop where
  /-- No two handles carry one key. -/
  private_keys : ∀ h l key, c.session.key? h = some key → c.session.key? l = some key → h = l
  /-- A handle yields an object in a manager exactly if the latest deed about it was that this
      manager registered it for that object. -/
  object_iff : ∀ m manager h handle id, c.session.world.manager? m = some manager →
    c.session.handles.find? h = some handle →
    ((∃ o, c.session.world.object? m handle = some o ∧ o.id = id) ↔
      latest c.deeds h = some (.bound m h id))
  /-- The same of the number that a handle stands for. -/
  lookup_iff : ∀ m manager h handle id, c.session.world.manager? m = some manager →
    c.session.handles.find? h = some handle →
    (c.session.world.lookup m handle = some id ↔ latest c.deeds h = some (.bound m h id))
  /-- A handle that was described, copied or rebuilt since resolves nowhere. -/
  nowhere : ∀ m h handle, c.session.handles.find? h = some handle →
    latest c.deeds h = some (.reset h) → c.session.world.lookup m handle = none
  /-- A handle that resolves in one manager resolves in no other. -/
  elsewhere : ∀ m l h handle id, c.session.handles.find? h = some handle →
    c.session.world.lookup m handle = some id → l ≠ m → c.session.world.lookup l handle = none
  /-- The number that the next buffer gets is that of no live object. -/
  next_unused : c.session.world.objects.find? c.session.world.env.nextBuffer = none
  /-- A manager has as many buffers as it registered handles, less those it unregistered. -/
  count_eq : ∀ m manager, c.session.world.manager? m = some manager →
    c.session.world.bufferCount m + c.deeds.countP (·.frees m) = c.deeds.countP (·.binds m)

namespace RegistrySound

theorem lookup_iff {deeds : List Deed} (h : RegistrySound s deeds) {m : ManagerId}
    {manager : Manager} {l : Name} {handle : Handle} {id : BufferId}
    (h_manager : s.world.manager? m = some manager) (h_find : s.handles.find? l = some handle) :
    s.world.lookup m handle = some id ↔ latest deeds l = some (.bound m l id) := by
  rw [← h.entry_iff h_manager l id, World.lookup_eq_some_iff, key?_of_find? h_find]
  constructor
  · rintro ⟨key, manager', h_key, h_manager', h_entry⟩
    cases h_manager.symm.trans h_manager'
    exact ⟨key, h_key, h_entry⟩
  · rintro ⟨key, h_key, h_entry⟩
    exact ⟨key, manager, h_key, h_manager, h_entry⟩

/-- A handle that resolves was registered by the manager that resolves it. -/
theorem latest_of_lookup {deeds : List Deed} (h : RegistrySound s deeds) {m : ManagerId} {l : Name}
    {handle : Handle} {id : BufferId} (h_find : s.handles.find? l = some handle)
    (h_lookup : s.world.lookup m handle = some id) : latest deeds l = some (.bound m l id) := by
  obtain ⟨-, manager, -, h_manager, -⟩ := World.lookup_eq_some_iff.mp h_lookup
  exact (h.lookup_iff h_manager h_find).mp h_lookup

end RegistrySound

/-- In every state that a play reaches, handles resolve exactly to their own buffers: whatever the
    client does with however many managers and handles, whatever arrives from elsewhere, and
    whatever the devices answer. -/
theorem handles_resolve_exactly {σ : Type} (B : Backend σ) (devices : σ)
    (kinds : List ManagerKind) (moves : List (Move σ)) :
    ResolvesExactly ((start B devices kinds).chronicle B moves) := by
  -- any move is allowed: the chronicle is a run that obeys the rule that forbids nothing
  obtain ⟨h_accounted, h⟩ :=
    (Obeys.always (Chronicle.next B) { session := start B devices kinds } moves).invariant
      (I := fun c => Accounted [] c.session ∧ RegistrySound c.session c.deeds)
      (fun c m h _ => ⟨h.1.of_after m, h.2.next h.1 m⟩)
      ⟨.start B devices kinds, .start B devices kinds⟩
  have h_numbered := numbered_of_play B devices kinds moves
  rw [← chronicle_session] at h_numbered
  unfold chronicle at h_numbered ⊢
  generalize moves.foldl (Chronicle.next B) { session := start B devices kinds } = c at *
  refine ⟨fun l l' key => h.keys_own, ?_, fun m manager l handle id => h.lookup_iff, ?_, ?_, ?_,
    ?_⟩
  · intro m manager l handle id h_manager h_find
    rw [← h.lookup_iff h_manager h_find]
    constructor
    · rintro ⟨o, h_object, rfl⟩
      obtain ⟨id, h_lookup, h_live⟩ := World.object?_eq_some_iff.mp h_object
      rw [(h_numbered id o h_live).1]
      exact h_lookup
    · intro h_lookup
      -- what a table names is live, and an object is found under its own number
      obtain ⟨o, h_live⟩ := h_accounted.names id (.inl (World.registered_of_lookup h_lookup))
      exact ⟨o, World.object?_eq_some_iff.mpr ⟨id, h_lookup, h_live⟩, (h_numbered id o h_live).1⟩
  · intro m l handle h_find h_latest
    rw [Option.eq_none_iff_forall_ne_some]
    intro id h_lookup
    exact nomatch h_latest.symm.trans (h.latest_of_lookup h_find h_lookup)
  · intro m m' l handle id h_find h_lookup h_ne
    rw [Option.eq_none_iff_forall_ne_some]
    intro id' h_lookup'
    -- the latest deed about a handle names one manager
    have h_same := (h.latest_of_lookup h_find h_lookup).symm.trans
      (h.latest_of_lookup h_find h_lookup')
    cases h_same
    exact h_ne rfl
  · rw [Option.eq_none_iff_forall_ne_some]
    exact fun o h_live => Nat.lt_irrefl _ (h_numbered _ o h_live).2
  · intro m manager h_manager
    rw [World.bufferCount, h_manager]
    exact h.counts h_manager

end Session

end GraphicsBuffer
