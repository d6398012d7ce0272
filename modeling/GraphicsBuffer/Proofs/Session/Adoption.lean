/-
  GraphicsBuffer.Proofs.Session.Adoption

  Registering is atomic and imports at most once (`adoption_exact`). A handle that is registered
  somewhere is looked up and nothing else. Any other is imported, by one call at most: either the
  table gains one entry and the handle its key, which was never given out before, or everything
  stays as it was.
-/

import GraphicsBuffer.Proofs.Session.Balance
import GraphicsBuffer.Proofs.Session.History
import GraphicsBuffer.Proofs.Session.Registration

namespace GraphicsBuffer.Session

variable {σ : Type} {B : Backend σ} {lockable : BufferObject → Prop} {s s' : Session σ}
  {m : ManagerId} {name : Name} {manager : Manager} {handle : Handle} {key : Key}

open World (Evolves)

/-! ## Keys are given out once -/

theorem releaseHolding_nextKey (s : Session σ) (o : Name) :
    (s.releaseHolding B o).world.nextKey = s.world.nextKey := by
  unfold releaseHolding
  rcases s.holdings.find? o with _ | holding
  · rfl
  · have h_reap : Evolves B (fun _ => True) _ (s.world.release B holding.id) :=
      World.reap_evolves _ holding.id
    exact h_reap.nextKey_eq

/-- Keys are given out upwards. -/
theorem Effect.nextKey_le {deed : Option Deed} (h_effect : Effect B lockable s deed s') :
    s.world.nextKey ≤ s'.world.nextKey := by
  cases h_effect with
  | went h_world _ _ => exact Nat.le_of_eq h_world.nextKey_eq.symm
  | reset h_world _ _ => exact Nat.le_of_eq (congrArg World.nextKey h_world.symm)
  | bound h_claims _ _ =>
    obtain ⟨_, -, -, h_next, -⟩ := h_claims.registry
    exact h_next ▸ Nat.le_succ _
  | freed _ _ _ h_world _ _ => exact Nat.le_of_eq h_world.nextKey_eq.symm
  | closed h_world _ _ => exact Nat.le_of_eq h_world.nextKey_eq.symm
  | retained s₁ holding o h_retains _ _ =>
    have h_released : (s₁.setHolding B o holding).world.nextKey = s₁.world.nextKey :=
      releaseHolding_nextKey s₁ o
    rw [h_released, h_retains.registry.2]
  | released o => exact Nat.le_of_eq (releaseHolding_nextKey s o).symm

theorem Accounted.nextKey_le_play (h_accounted : Accounted [] s) (moves : List (Move σ)) :
    s.world.nextKey ≤ (s.play B moves).world.nextKey := by
  refine h_accounted.keeps_along (J := fun t => s.world.nextKey ≤ t.world.nextKey)
    (fun {t m} h_accounted _ h_le => ?_) (Nat.le_refl _) (Obeys.always (after B) s moves)
  rcases h_accounted.effect (B := B) m with ⟨devices, rfl⟩ | h_effect
  · exact h_le
  · exact Nat.le_trans h_le h_effect.nextKey_le

/-- In no state that the moves go through, a handle carries the key or a table has an entry
    under it. -/
def NeverIssued (B : Backend σ) (s : Session σ) (moves : List (Move σ)) (key : Key) : Prop :=
  ∀ earlier later, moves = earlier ++ later →
    (∀ l, (s.play B earlier).key? l ≠ some key) ∧
      ∀ m, (s.play B earlier).world.entryAt (m, key) = none

/-- The deeds of a play account for the keys and the tables that it leads to. -/
theorem registrySound_of_play (B : Backend σ) (devices : σ) (kinds : List ManagerKind)
    (moves : List (Move σ)) :
    ∃ deeds, RegistrySound ((start B devices kinds).play B moves) deeds := by
  refine Accounted.keeps_along (J := fun t => ∃ deeds, RegistrySound t deeds)
    (fun {t m} h_accounted _ h => ?_) (.start B devices kinds) ⟨[], .start B devices kinds⟩
    (Obeys.always (after B) _ moves)
  obtain ⟨deeds, h_sound⟩ := h
  exact ⟨_, RegistrySound.next (c := ⟨t, deeds⟩) h_accounted h_sound m⟩

theorem nextKey_neverIssued (B : Backend σ) (devices : σ) (kinds : List ManagerKind)
    (moves : List (Move σ)) : NeverIssued B (start B devices kinds) moves
      ((start B devices kinds).play B moves).world.nextKey := by
  rintro earlier later rfl
  obtain ⟨deeds, h_sound⟩ := registrySound_of_play B devices kinds earlier
  have h_le := (accounted_of_play B devices kinds earlier).nextKey_le_play (B := B) later
  rw [← play_append] at h_le
  -- what was given out up to some state is less than the key that is next then
  refine ⟨fun l h_key => ?_, fun m => ?_⟩
  · exact absurd (h_sound.keys_used h_key) (Nat.not_lt_of_le h_le)
  · rw [Option.eq_none_iff_forall_ne_some]
    intro id h_entry
    obtain ⟨manager, h_manager, h_find⟩ := World.entryAt_eq_some_iff.mp h_entry
    exact absurd (h_sound.entries_used h_manager h_find) (Nat.not_lt_of_le h_le)

/-! ## Looking a handle up -/

/-- The same world, with the same account of what was done, and the same handle and reference under
    every name. -/
structure SameState (s s' : Session σ) : Prop where
  world : s'.world = s.world
  handles : s'.handles.find? = s.handles.find?
  holdings : s'.holdings = s.holdings

namespace SameState

theorem refl (s : Session σ) : SameState s s := ⟨rfl, rfl, rfl⟩

/-- A handle may be put back under its name. -/
theorem putBack (h_find : s.handles.find? name = some handle) :
    SameState s (s.setHandle name handle) := by
  refine ⟨rfl, ?_, rfl⟩
  rw [setHandle, Table.find?_insert_eq_update, Function.update_eq_self_iff, h_find]

theorem callsSince (h : SameState s s') : s.world.env.callsSince s'.world.env = [] := by
  rw [h.world]
  exact Env.callsSince_of_still rfl

end SameState

/-- What a key stands for in a manager is its entry there. -/
theorem lookup_of_key (w : World σ) (m : ManagerId) (h_key : handle.registration = some key) :
    w.lookup m handle = w.entryAt (m, key) := by
  rw [World.lookup, h_key]
  rfl

/-- A handle that is registered somewhere is looked up. -/
theorem step_register_of_owned (h_manager : s.world.manager? m = some manager)
    (h_find : s.handles.find? name = some handle) (h_key : handle.registration = some key) :
    SameState s (s.step B (.register m name)).2 ∧ (s.step B (.register m name)).1 =
      if (s.world.entryAt (m, key)).isSome then .done else .failed (.error .notRegistered) := by
  rw [← lookup_of_key s.world m h_key]
  rcases h_lookup : s.world.lookup m handle with _ | id
  · rw [step_register_of_lost h_manager h_find (h_key ▸ Option.some_ne_none key) h_lookup]
    exact ⟨.refl s, rfl⟩
  · rw [step_register_of_found h_manager h_find h_lookup]
    exact ⟨.putBack h_find, rfl⟩

/-- Without a device, every handle is only looked up. -/
theorem resolve_without_device (B : Backend σ) (s : Session σ) (m : ManagerId) (name : Name) :
    SameState s (s.step B (.resolve m name false)).2 := by
  refine withManager_cases (P := fun answered => SameState s answered.2) (.refl s)
    fun manager _ => ?_
  refine withHandle_cases (P := fun answered => SameState s answered.2) (.refl s)
    fun handle h_find => ?_
  rw [World.resolve_without_device]
  split
  · exact .refl s
  · exact .putBack h_find

/-! ## Taking a handle in -/

/-- What registering a handle leaves that was registered nowhere, if it succeeds. -/
structure Adopted (s s' : Session σ) (m : ManagerId) (name : Name) (handle : Handle) : Prop where
  /-- There was no entry under the next key, -/
  free : s.world.entryAt (m, s.world.nextKey) = none
  /-- and now there is one. All other entries stay, in this manager and in all others. -/
  entries : s'.world.entryAt =
    Function.update s.world.entryAt (m, s.world.nextKey) (some s.world.env.nextBuffer)
  /-- All managers stay. -/
  managers : s'.world.managers.map (·.map (·.kind)) = s.world.managers.map (·.map (·.kind))
  /-- The key after it is the next. -/
  nextKey : s'.world.nextKey = s.world.nextKey + 1
  /-- The handle gets the key and keeps all that it describes; no other is touched. -/
  handles : s'.handles.find? = Function.update s.handles.find? name
    (some { handle with registration := some s.world.nextKey })
  /-- The references of the client stay. -/
  holdings : s'.holdings = s.holdings
  held : s'.world.held = s.world.held
  /-- There is one object more, that nobody has locked; no other is touched. -/
  unmade : s.world.objects.find? s.world.env.nextBuffer = none
  objects : s'.world.objects.find? = Function.update s.world.objects.find?
    s.world.env.nextBuffer (some { id := s.world.env.nextBuffer })

/-- What holds in every state that is reached: keys and numbers of buffers are given out once. -/
structure GivenOnce (s : Session σ) : Prop where
  keyed : World.Keyed s.world
  balanced : World.Balanced s.world.env s.world.objects

theorem givenOnce_of_play (B : Backend σ) (devices : σ) (kinds : List ManagerKind)
    (moves : List (Move σ)) : GivenOnce ((start B devices kinds).play B moves) :=
  ⟨(owned_of_play B devices kinds moves).keyed, balanced_of_play B devices kinds moves⟩

namespace GivenOnce

variable (h : GivenOnce s)
include h

theorem key_free (m : ManagerId) : s.world.entryAt (m, s.world.nextKey) = none := by
  rcases h_manager : s.world.manager? m with _ | manager
  · rw [World.entryAt, h_manager]
    rfl
  · rw [World.entryAt, h_manager]
    exact h.keyed.next_free h_manager

theorem adopted (h_manager : s.world.manager? m = some manager) (name : Name) (handle : Handle)
    (env : Env σ) : Adopted s
      ((s.setWorld ((s.world.addObject { id := s.world.env.nextBuffer } env).claim m manager handle
        s.world.env.nextBuffer).2).setHandle name
          { handle with registration := some s.world.nextKey }) m name handle where
  free := h.key_free m
  entries := World.entryAt_insert (w := s.world.addObject { id := s.world.env.nextBuffer } env)
    h_manager s.world.nextKey s.world.env.nextBuffer
  managers := World.kinds_setManager h_manager _
  nextKey := rfl
  handles := Table.find?_insert_eq_update _ _ _
  holdings := rfl
  held := rfl
  unmade := h.balanced.next_free
  objects := Table.find?_insert_eq_update _ _ _

end GivenOnce

section Import

variable (h_manager : s.world.manager? m = some manager)
  (h_find : s.handles.find? name = some handle) (h_key : handle.registration = none)

include h_manager h_find h_key

/-- A handle that is registered nowhere is imported. If that fails, only the account of it is
    left; if not, the handle is taken in. -/
theorem step_register_of_unowned (h : GivenOnce s) :
    (∃ f env, BufferObject.importFrom B m handle (s.world.adopting handle) = (.error f, env) ∧
        s.step B (.register m name) = (.failed f, s.setWorld { s.world with env })) ∨
      ∃ o s', BufferObject.importFrom B m handle (s.world.adopting handle) =
          (.ok o, s'.world.env) ∧
        s.step B (.register m name) = (.done, s') ∧ Adopted s s' m name handle := by
  rw [step_register_eq h_manager h_find]
  rcases World.register_of_unregistered B h_manager h_key with
    ⟨f, env, h_call, h_register⟩ | ⟨env, h_call, h_register⟩
  · exact .inl ⟨f, env, h_call, by rw [h_register]; rfl⟩
  · refine .inr ⟨_, _, h_call, ?_, h.adopted h_manager name handle env⟩
    rw [h_register]
    rfl

/-- Registering makes the calls that the import makes, and succeeds if it does. -/
theorem step_register_calls (h : GivenOnce s) :
    s.world.env.callsSince (s.step B (.register m name)).2.world.env =
        (s.world.adopting handle).callsSince
          (BufferObject.importFrom B m handle (s.world.adopting handle)).2 ∧
      ((s.step B (.register m name)).1 = .done ↔
        ∃ o, (BufferObject.importFrom B m handle (s.world.adopting handle)).1 = .ok o) := by
  rcases step_register_of_unowned (B := B) h_manager h_find h_key h with
    ⟨f, env, h_call, h_step⟩ | ⟨o, s', h_call, h_step, -⟩
  · rw [h_step, h_call]
    exact ⟨rfl, nofun, nofun⟩
  · rw [h_step, h_call]
    exact ⟨rfl, fun _ => ⟨o, rfl⟩, fun _ => rfl⟩

/-- A registration that fails leaves the environment changed, and nothing else. -/
theorem step_register_failed (h : GivenOnce s)
    (h_answer : (s.step B (.register m name)).1 ≠ .done) :
    ∃ f env, s.step B (.register m name) = (.failed f, s.setWorld { s.world with env }) ∧
      env.nextBuffer = s.world.env.nextBuffer := by
  rcases step_register_of_unowned (B := B) h_manager h_find h_key h with
    ⟨f, env, h_call, h_step⟩ | ⟨o, s', -, h_step, -⟩
  · have h_next : env.nextBuffer = (s.world.adopting handle).nextBuffer :=
      BufferObject.importFrom_error_nextBuffer h_call
    exact ⟨f, env, h_step, h_next⟩
  · rw [h_step] at h_answer
    exact absurd rfl h_answer

end Import

/-! ## Registering twice -/

/-- What a handle is registered for, it is registered for again. -/
theorem Adopted.again (h : Adopted s s' m name handle) :
    SameState s' (s'.step B (.register m name)).2 ∧ (s'.step B (.register m name)).1 = .done := by
  have h_entry : s'.world.entryAt (m, s.world.nextKey) = some s.world.env.nextBuffer := by
    rw [h.entries, Function.update_self]
  have h_find : s'.handles.find? name =
      some { handle with registration := some s.world.nextKey } := by
    rw [h.handles, Function.update_self]
  obtain ⟨manager, h_manager, -⟩ := World.entryAt_eq_some_iff.mp h_entry
  obtain ⟨h_same, h_answer⟩ := step_register_of_owned (B := B) h_manager h_find rfl
  rw [h_entry] at h_answer
  exact ⟨h_same, h_answer⟩

/-- What is looked up is found again, or not found again. -/
theorem SameState.register_again (h_manager : s.world.manager? m = some manager)
    (h_find : s.handles.find? name = some handle) (h_key : handle.registration = some key)
    (h_same : SameState s s') :
    SameState s' (s'.step B (.register m name)).2 ∧
      (s'.step B (.register m name)).1 = (s.step B (.register m name)).1 := by
  obtain ⟨-, h_answer⟩ := step_register_of_owned (B := B) h_manager h_find h_key
  rw [← h_same.world] at h_manager h_answer
  rw [← h_same.handles] at h_find
  obtain ⟨h_again, h_answer'⟩ := step_register_of_owned (B := B) h_manager h_find h_key
  exact ⟨h_again, h_answer'.trans h_answer.symm⟩

/-- A step that leaves nothing but an account of it does the same when it is tried again. -/
theorem step_again {step : Step} (h_forget : (s.step B step).2.forget = s.forget) :
    ((s.step B step).2.step B step).1 = (s.step B step).1 ∧
      ((s.step B step).2.step B step).2.forget = s.forget := by
  have h_answers := answers_congr (B := B) h_forget [.client step]
  have h_play := play_congr (B := B) h_forget [.client step]
  exact ⟨List.head_eq_of_cons_eq h_answers, h_play.trans h_forget⟩

/-! ## Exact and atomic -/

/-- What registering a handle does in a session. A key is `fresh` if it was never given out. -/
structure RegistersExactly (B : Backend σ) (fresh : Key → Prop) (s : Session σ) (m : ManagerId)
    (name : Name) (handle : Handle) : Prop where
  /-- A handle that is registered somewhere is looked up. No call is made and nothing changes, and
      it succeeds exactly if the manager has an entry under its key. -/
  owned : ∀ key, handle.registration = some key →
    SameState s (s.step B (.register m name)).2 ∧
      s.world.env.callsSince (s.step B (.register m name)).2.world.env = [] ∧
      (s.step B (.register m name)).1 =
        if (s.world.entryAt (m, key)).isSome then .done else .failed (.error .notRegistered)
  /-- Any other is imported, but not without a descriptor, a layout and a size. -/
  unable : handle.registration = none →
    (handle.descriptor = none ∨ (∃ e, handle.format.fourCC = .error e) ∨
      ∃ e, handle.format.physicalExtent handle.size = .error e) →
    s.world.env.callsSince (s.step B (.register m name)).2.world.env = [] ∧
      (s.step B (.register m name)).1 ≠ .done
  /-- Then one call is made, for what the handle describes, and what it answers decides. -/
  once : handle.registration = none → ∀ descriptor layout size,
    handle.descriptor = some descriptor → handle.format.fourCC = .ok layout →
    handle.format.physicalExtent handle.size = .ok size →
    ∃ given, s.world.env.callsSince (s.step B (.register m name)).2.world.env =
        [.imported m ⟨size, layout, some descriptor, handle.stride, handle.modifier⟩ given] ∧
      ((∃ id, given = .ok id) ↔ (s.step B (.register m name)).1 = .done)
  /-- On success the handle is taken in under a key that was never given out. -/
  adopted : handle.registration = none → (s.step B (.register m name)).1 = .done →
    fresh s.world.nextKey ∧ Adopted s (s.step B (.register m name)).2 m name handle
  /-- On a failure, whatever it is, all handles, tables, objects and references stay as they were,
      and so do the numbers that are given out next. -/
  failed : handle.registration = none → (s.step B (.register m name)).1 ≠ .done →
    ∃ f env, s.step B (.register m name) = (.failed f, s.setWorld { s.world with env }) ∧
      env.nextBuffer = s.world.env.nextBuffer
  /-- Registering twice is registering once: the second time, what is registered is found, and what
      is registered elsewhere is not found. -/
  again : (s.step B (.register m name)).1 = .done ∨ handle.registration ≠ none →
    SameState (s.step B (.register m name)).2
        ((s.step B (.register m name)).2.step B (.register m name)).2 ∧
      ((s.step B (.register m name)).2.step B (.register m name)).1 =
        (s.step B (.register m name)).1
  /-- And what could not be imported cannot be imported the second time, if the devices are as they
      were. -/
  retried : handle.registration = none → (s.step B (.register m name)).1 ≠ .done →
    (s.step B (.register m name)).2.world.env.devices = s.world.env.devices →
    ((s.step B (.register m name)).2.step B (.register m name)).1 =
        (s.step B (.register m name)).1 ∧
      ((s.step B (.register m name)).2.step B (.register m name)).2.forget = s.forget
  /-- Without a device, no handle is imported: it is looked up, and nothing changes. -/
  lookedUp : s.world.resolve B m false handle = (.ok (s.world.lookup m handle, handle), s.world) ∧
    SameState s (s.step B (.resolve m name false)).2

/-- In every state that a play reaches, for every manager and every handle, whatever it stands for
    and whoever made it, and whatever the backend answers, registering is exact and atomic and
    imports at most once. -/
theorem adoption_exact (B : Backend σ) (devices : σ) (kinds : List ManagerKind)
    (moves : List (Move σ)) :
    ∀ m name manager handle,
      ((start B devices kinds).play B moves).world.manager? m = some manager →
      ((start B devices kinds).play B moves).handles.find? name = some handle →
      RegistersExactly B (NeverIssued B (start B devices kinds) moves)
        ((start B devices kinds).play B moves) m name handle := by
  intro m name manager handle h_manager h_find
  have h := givenOnce_of_play B devices kinds moves
  have h_fresh := nextKey_neverIssued B devices kinds moves
  generalize NeverIssued B (start B devices kinds) moves = fresh at h_fresh ⊢
  generalize (start B devices kinds).play B moves = s at *
  refine ⟨fun key h_key => ?_, fun h_key h_lacks => ?_,
    fun h_key descriptor layout size h_descriptor h_layout h_size => ?_, fun h_key h_answer => ?_,
    fun h_key => step_register_failed h_manager h_find h_key h, ?_,
    fun h_key h_answer h_devices => ?_,
    World.resolve_without_device B s.world m handle, resolve_without_device B s m name⟩
  · obtain ⟨h_same, h_answer⟩ := step_register_of_owned (B := B) h_manager h_find h_key
    exact ⟨h_same, h_same.callsSince, h_answer⟩
  · -- the import gives up before it asks the backend
    obtain ⟨h_calls, h_done⟩ := step_register_calls (B := B) h_manager h_find h_key h
    obtain ⟨h_none, e, h_error⟩ := BufferObject.importFrom_silent B m (s.world.adopting handle)
      (h_lacks.imp_right BufferObject.storage_eq_error_of)
    refine ⟨h_calls.trans h_none, fun h_answer => ?_⟩
    obtain ⟨o, h_ok⟩ := h_done.mp h_answer
    exact nomatch h_error.symm.trans h_ok
  · obtain ⟨h_calls, h_done⟩ := step_register_calls (B := B) h_manager h_find h_key h
    obtain ⟨given, h_once, h_given⟩ := BufferObject.importFrom_once B m (s.world.adopting handle)
      h_descriptor (BufferObject.storage_eq_ok_iff.mpr ⟨h_layout, h_size⟩)
    exact ⟨given, h_calls.trans h_once, h_given.trans h_done.symm⟩
  · rcases step_register_of_unowned (B := B) h_manager h_find h_key h with
      ⟨f, env, -, h_step⟩ | ⟨o, s', -, h_step, h_adopted⟩
    · rw [h_step] at h_answer
      exact nomatch h_answer
    · rw [h_step]
      exact ⟨h_fresh, h_adopted⟩
  · -- what was taken in now has a key; from there on it is looked up, as any other with a key
    intro h_cases
    rcases h_key : handle.registration with _ | key
    · have h_answer := h_cases.resolve_right (absurd h_key)
      rcases step_register_of_unowned (B := B) h_manager h_find h_key h with
        ⟨f, env, -, h_step⟩ | ⟨o, s', -, h_step, h_adopted⟩
      · rw [h_step] at h_answer
        exact nomatch h_answer
      · rw [h_step]
        exact h_adopted.again
    · exact (step_register_of_owned h_manager h_find h_key).1.register_again h_manager h_find h_key
  · -- the backend answers by its devices, and they are all that a failure can have changed
    obtain ⟨f, env, h_step, h_next⟩ := step_register_failed h_manager h_find h_key h h_answer
    refine step_again ?_
    rw [h_step] at h_devices ⊢
    have h_forget : env.forget = s.world.env.forget := Env.forget_congr h_devices h_next
    exact congrArg (fun env => s.setWorld { s.world with env }) h_forget

/-- A buffer is created and its handle is copied; another handle only describes a buffer. -/
def arrivingMoves : List (Move SystemState) :=
  [.client (.create 0 "mine" ⟨8, 8⟩ PixelFormat.rgba8888 Usage.texture),
   .client (.duplicate "mine" "copy"),
   .client (.new "blank" ⟨8, 8⟩ PixelFormat.rgba8888 Usage.texture)]

theorem adoption_exact_arriving :
    let s := (start systemBackend {} [.full, .registry]).play systemBackend arrivingMoves
    (s.step systemBackend (.register 1 "copy")).1 = .done ∧
      (s.step systemBackend (.register 0 "mine")).1 = .done ∧
      (s.step systemBackend (.register 1 "mine")).1 = .failed (.error .notRegistered) ∧
      (s.step systemBackend (.register 0 "blank")).1 = .failed (.error .missingDescriptor) ∧
      ∃ manager handle, s.world.manager? 1 = some manager ∧
        s.handles.find? "copy" = some handle ∧
        RegistersExactly systemBackend
          (NeverIssued systemBackend (start systemBackend {} [.full, .registry]) arrivingMoves)
          s 1 "copy" handle := by
  obtain ⟨manager, h_manager⟩ := Option.isSome_iff_exists.mp (show
    (((start systemBackend {} [.full, .registry]).play systemBackend
      arrivingMoves).world.manager? 1).isSome = true by decide +kernel)
  obtain ⟨handle, h_find⟩ := Option.isSome_iff_exists.mp (show
    (((start systemBackend {} [.full, .registry]).play systemBackend
      arrivingMoves).handles.find? "copy").isSome = true by decide +kernel)
  exact ⟨by decide +kernel, by decide +kernel, by decide +kernel, by decide +kernel, manager,
    handle, h_manager, h_find,
    adoption_exact systemBackend {} [.full, .registry] arrivingMoves 1 "copy" manager handle
      h_manager h_find⟩

end GraphicsBuffer.Session
