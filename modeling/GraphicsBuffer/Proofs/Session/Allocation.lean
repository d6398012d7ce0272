/-
  GraphicsBuffer.Proofs.Session.Allocation

  Allocating is all or nothing (`allocation_all_or_nothing`). Until the descriptor of a new buffer
  is there nothing names the buffer, and without one it is freed again. So an allocation that fails,
  at whichever call, leaves handles, tables and objects as they were and no buffer behind; one that
  succeeds leaves exactly one buffer more.
-/

import GraphicsBuffer.Proofs.Session.Adoption
import GraphicsBuffer.Session.Trial

namespace GraphicsBuffer

/-! ## Allocating for a handle -/

namespace BufferObject

variable {σ : Type} {B : Backend σ} {device : DeviceId} {h h' : Handle} {env env' : Env σ}
  {o : BufferObject} {f : Failure} {next : BufferId} {calls : List Call}

/-- The reasons for which an allocation fails, each with the calls that it has made by then. `next`
    is the number that a new buffer gets. -/
inductive Abandoned (device : DeviceId) (h : Handle) (next : BufferId) :
    Failure → List Call → Prop where
  /-- No layout stores the format. -/
  | noLayout {e : Error} (h_layout : h.format.fourCC = .error e) :
    Abandoned device h next (.error e) []
  /-- The folded image has no size. -/
  | noSize {e : Error} (h_size : h.format.physicalExtent h.size = .error e) :
    Abandoned device h next (.error e) []
  /-- The backend makes no buffer. -/
  | refused (size : Extent) (layout : FourCC) (e : Error) :
    Abandoned device h next
      (.error (.allocationFailed h.size h.format.code h.usage.bits))
      [.created device size layout h.usage.bindFlags (.error (.error e))]
  /-- The backend ends the operation. -/
  | aborted (size : Extent) (layout : FourCC) (a : Abort) :
    Abandoned device h next (.abort a)
      [.created device size layout h.usage.bindFlags (.error (.abort a))]
  /-- The backend makes a buffer and gives no descriptor of it; the buffer is freed. -/
  | unexported (size : Extent) (layout : FourCC) (f : Failure) :
    Abandoned device h next f
      [.created device size layout h.usage.bindFlags (.ok next), .exported next (.error f),
        .destroyed next]

/-- What was made is freed. -/
theorem Abandoned.freed (h_abandoned : Abandoned device h next f calls) :
    freedBy calls = madeBy calls := by
  cases h_abandoned <;> rfl

/-- Without a layout or a size an allocation is abandoned before the first call. -/
theorem abandoned_of_storage {e : Error} (h_storage : storage h = .error e) :
    Abandoned device h next (.error e) [] := by
  unfold storage storageOf at h_storage
  rcases h_layout : h.format.fourCC with e' | layout
  · rw [h_layout] at h_storage
    cases h_storage
    exact .noLayout h_layout
  rcases h_size : h.format.physicalExtent h.size with e' | size
  · rw [h_layout, h_size] at h_storage
    cases h_storage
    exact .noSize h_size
  · rw [h_layout, h_size] at h_storage
    exact nomatch h_storage

/-- An allocation that fails is abandoned for one of the reasons. -/
theorem abandoned_of_error (h_call : allocate B device h env = (.error f, env')) :
    Abandoned device h env.nextBuffer f (env.callsSince env') := by
  have h_outcome := h_call ▸ allocate_outcome B device h env
  cases h_outcome with
  | noStorage h_storage =>
    rw [Env.callsSince_of_still rfl]
    exact abandoned_of_storage h_storage
  | @aborted layout size a _ _ h_create =>
    obtain ⟨-, h_trace, -⟩ := Env.create_spec h_create
    have h_calls : env.callsSince env' = _ := Env.callsSince_of_trace h_trace
    rw [h_calls]
    exact .aborted size layout a
  | @refused layout size e env₁ _ h_create =>
    obtain ⟨-, h_trace, -⟩ := Env.create_spec h_create
    have h_calls : env.callsSince (env₁.note (.createFailed h.size h.format h.usage.bindFlags e)) =
      _ := Env.callsSince_of_trace h_trace
    rw [h_calls]
    exact .refused size layout e
  | @unexported layout size id f _ env₂ _ h_create h_export =>
    obtain ⟨-, h_trace, ⟨_, h_answer, -, -⟩ | ⟨h_answer, -, -⟩⟩ := Env.create_spec h_create
    · exact nomatch h_answer
    obtain rfl := Except.ok.inj h_answer
    obtain ⟨-, h_trace', -⟩ := Env.exportDescriptor_spec h_export
    have h_calls : (env₂.destroy B env.nextBuffer).trace = env.trace ++
        [.created device size layout h.usage.bindFlags (.ok env.nextBuffer),
          .exported env.nextBuffer (.error f), .destroyed env.nextBuffer] := by
      show env₂.trace ++ [.destroyed env.nextBuffer] = _
      rw [h_trace', h_trace, List.append_assoc, List.append_assoc]
      rfl
    show Abandoned device h env.nextBuffer f (env.callsSince (env₂.destroy B env.nextBuffer))
    rw [Env.callsSince_of_trace h_calls]
    exact .unexported size layout f

/-- An allocation that succeeds had a layout and a size, made one buffer and got its descriptor. All
    that it changes of the handle are the descriptor, the stride and the modifier. -/
theorem allocated_of_ok (h_call : allocate B device h env = (.ok (o, h'), env')) :
    (∃ layout, h.format.fourCC = .ok layout) ∧
      (∃ size, h.format.physicalExtent h.size = .ok size) ∧
      (∃ descriptor stride modifier, h' = describeIn h descriptor stride modifier) ∧
      ∃ size layout descriptor, env.callsSince env' =
        [.created device size layout h.usage.bindFlags (.ok env.nextBuffer),
          .exported env.nextBuffer (.ok descriptor)] := by
  have h_outcome := h_call ▸ allocate_outcome B device h env
  cases h_outcome with
  | @allocated layout size _ _ _ _ h_storage _ _ =>
    obtain ⟨h_layout, h_size⟩ := storage_eq_ok_iff.mp h_storage
    refine ⟨⟨layout, h_layout⟩, ⟨size, h_size⟩, ⟨_, _, _, rfl⟩, ?_⟩
    rcases allocate_trace h_call with ⟨_, _, h_error, -⟩ | ⟨_, _, _, h_error, -⟩ |
      ⟨_, size', layout', descriptor, -, -, h_trace⟩
    · exact nomatch h_error
    · exact nomatch h_error
    · exact ⟨size', layout', descriptor, Env.callsSince_of_trace h_trace⟩

/-- What an allocation for a handle does, whatever the backend answers. -/
structure AllocatesAtomically (B : Backend σ) (device : DeviceId) (h : Handle) (env : Env σ) :
    Prop where
  /-- It fails exactly if the format has no layout, the folded image has no size, or the backend
      answers one of its calls with a failure. -/
  failed_iff : (∃ f, (allocate B device h env).1 = .error f) ↔
    (∃ e, h.format.fourCC = .error e) ∨ (∃ e, h.format.physicalExtent h.size = .error e) ∨
      (∃ size layout f, .created device size layout h.usage.bindFlags (.error f) ∈
        env.callsSince (allocate B device h env).2) ∨
      ∃ id f, .exported id (.error f) ∈ env.callsSince (allocate B device h env).2
  /-- If it fails, the buffer that it has made, if there is one, is freed, and no other is
      touched. There is no other handle then than the one it was asked for. -/
  failed : ∀ f, (allocate B device h env).1 = .error f →
    Abandoned device h env.nextBuffer f (env.callsSince (allocate B device h env).2) ∧
      freedBy (env.callsSince (allocate B device h env).2) =
        madeBy (env.callsSince (allocate B device h env).2)
  /-- If it succeeds, the object is fresh, its buffer is the one that was made, and all that is new
      in the handle are the descriptor, the stride and the modifier. -/
  allocated : ∀ o h', (allocate B device h env).1 = .ok (o, h') →
    o = { id := env.nextBuffer } ∧
      (∃ descriptor stride modifier, h' = describeIn h descriptor stride modifier) ∧
      madeBy (env.callsSince (allocate B device h env).2) = [env.nextBuffer] ∧
      freedBy (env.callsSince (allocate B device h env).2) = []

theorem allocates_atomically (B : Backend σ) (device : DeviceId) (h : Handle) (env : Env σ) :
    AllocatesAtomically B device h env := by
  rcases h_call : allocate B device h env with ⟨f | ⟨o, h'⟩, env'⟩
  · have h_abandoned := abandoned_of_error h_call
    constructor
    · rw [h_call]
      refine ⟨fun _ => ?_, fun _ => ⟨f, rfl⟩⟩
      -- the reason is the last call, or there is none
      generalize env.callsSince env' = calls at h_abandoned ⊢
      cases h_abandoned with
      | noLayout h_layout => exact .inl ⟨_, h_layout⟩
      | noSize h_size => exact .inr (.inl ⟨_, h_size⟩)
      | refused size layout e =>
        exact .inr (.inr (.inl ⟨size, layout, _, List.mem_cons_self⟩))
      | aborted size layout a =>
        exact .inr (.inr (.inl ⟨size, layout, _, List.mem_cons_self⟩))
      | unexported size layout f =>
        exact .inr (.inr (.inr ⟨_, f, List.mem_cons_of_mem _ List.mem_cons_self⟩))
    · rw [h_call]
      rintro _ ⟨⟩
      exact ⟨h_abandoned, h_abandoned.freed⟩
    · rw [h_call]
      exact nofun
  · obtain ⟨⟨layout, h_layout⟩, ⟨size, h_size⟩, h_describes, _, _, descriptor, h_calls⟩ :=
      allocated_of_ok h_call
    constructor
    · rw [h_call, h_calls, h_layout, h_size]
      simp
    · rw [h_call]
      exact nofun
    · rw [h_call]
      rintro _ _ ⟨⟩
      rw [h_calls]
      exact ⟨(allocate_ok h_call).1, h_describes, rfl, rfl⟩

end BufferObject

/-! ## Creating a buffer -/

namespace Session

variable {σ : Type} {B : Backend σ} {s s' : Session σ} {m : ManagerId} {name o : Name}
  {manager : Manager} {handle : Handle} {size : Extent} {format : PixelFormat} {usage : Usage}

/-- A step came to nothing: handles, references, tables and objects are as they were, and so are the
    buffers that are alive. -/
structure CameToNothing (s s' : Session σ) : Prop where
  handles : s'.handles = s.handles
  holdings : s'.holdings = s.holdings
  managers : s'.world.managers = s.world.managers
  objects : s'.world.objects = s.world.objects
  held : s'.world.held = s.world.held
  nextKey : s'.world.nextKey = s.world.nextKey
  alive : ∀ id, AliveAfter s'.world.env.trace id ↔ AliveAfter s.world.env.trace id

/-- A buffer was created: besides what a handle leaves that is taken in, one buffer more is alive,
    and the handle describes it. -/
structure Created (s s' : Session σ) (m : ManagerId) (name : Name) (size : Extent)
    (format : PixelFormat) (usage : Usage) (handle : Handle) : Prop where
  adopted : Adopted s s' m name handle
  describes : ∃ descriptor stride modifier, handle =
    BufferObject.describeIn (Handle.new size format usage) descriptor stride modifier
  alive : ∀ id, AliveAfter s'.world.env.trace id ↔
    AliveAfter s.world.env.trace id ∨ id = s.world.env.nextBuffer

/-- An allocation that fails leaves nothing. -/
theorem GivenOnce.cameToNothing (h : GivenOnce s) {f : Failure} {env : Env σ}
    (h_call : BufferObject.allocate B m handle s.world.env = (.error f, env)) :
    CameToNothing s (s.setWorld { s.world with env }) where
  handles := rfl
  holdings := rfl
  managers := rfl
  objects := rfl
  held := rfl
  nextKey := rfl
  alive id := by
    have h_ledger := BufferObject.allocate_error_ledger h_call h.balanced.ledger
    exact h_ledger.mem_alive_iff.symm.trans h.balanced.ledger.mem_alive_iff

/-- How creating a buffer in a manager can end. -/
inductive CreateOutcome (B : Backend σ) (s : Session σ) (m : ManagerId) (name : Name)
    (size : Extent) (format : PixelFormat) (usage : Usage) : Answer × Session σ → Prop where
  /-- No buffer can be allocated for the new handle, and nothing comes of it. -/
  | failed {f : Failure} {env : Env σ} {s' : Session σ}
      (h_call : BufferObject.allocate B m (Handle.new size format usage) s.world.env =
        (.error f, env)) (h_nothing : CameToNothing s s') :
    CreateOutcome B s m name size format usage (.failed f, s')
  /-- There is one entry more, for a fresh object, and the handle has its key. -/
  | created {handle : Handle} {env : Env σ} {s' : Session σ}
      (h_call : BufferObject.allocate B m (Handle.new size format usage) s.world.env =
        (.ok ({ id := s.world.env.nextBuffer }, handle), env))
      (h_created : Created s s' m name size format usage handle) :
    CreateOutcome B s m name size format usage (.done, s')

theorem create_outcome (h : GivenOnce s) (h_manager : s.world.manager? m = some manager)
    (name : Name) (size : Extent) (format : PixelFormat) (usage : Usage) :
    CreateOutcome B s m name size format usage
      (s.step B (.create m name size format usage)) := by
  have h_step : s.step B (.create m name size format usage) =
      s.keepHandle name (s.world.create B m size format usage) := by
    simp only [step, withManager, h_manager]
  rw [h_step]
  rcases World.create_of_manager B h_manager size format usage with
    ⟨f, env, h_call, h_create⟩ | ⟨handle, env, h_call, h_create⟩
  · rw [h_create]
    exact .failed h_call (h.cameToNothing h_call)
  · rw [h_create]
    obtain ⟨-, -, h_describes, -⟩ := BufferObject.allocated_of_ok h_call
    have h_ledger := BufferObject.allocate_ok_ledger h_call h.balanced.ledger
    have h_alive : ∀ id, AliveAfter env.trace id ↔ AliveAfter s.world.env.trace id ∨
        id = s.world.env.nextBuffer := by
      intro id
      rw [← h_ledger.mem_alive_iff, List.mem_append, List.mem_singleton,
        h.balanced.ledger.mem_alive_iff]
    exact .created h_call ⟨h.adopted h_manager name handle env, h_describes, h_alive⟩

/-- How allocating a buffer for a handle that there is can end. -/
inductive AllocateOutcome (B : Backend σ) (s : Session σ) (m : ManagerId) (name : Name)
    (handle : Handle) : Answer × Session σ → Prop where
  /-- No buffer can be allocated, and nothing comes of it. -/
  | failed {f : Failure} {env : Env σ} {s' : Session σ}
      (h_call : BufferObject.allocate B m handle s.world.env = (.error f, env))
      (h_nothing : CameToNothing s s') :
    AllocateOutcome B s m name handle (.failed f, s')
  /-- The handle has a descriptor, a stride and a modifier, and no other handle is touched. -/
  | allocated {descriptor : Descriptor} {stride : UInt32} {modifier : Option UInt64} {env : Env σ}
      {s' : Session σ}
      (h_call : BufferObject.allocate B m handle s.world.env =
        (.ok ({ id := s.world.env.nextBuffer },
          BufferObject.describeIn handle descriptor stride modifier), env))
      (h_handles : s'.handles.find? = Function.update s.handles.find? name
        (some (BufferObject.describeIn handle descriptor stride modifier))) :
    AllocateOutcome B s m name handle (.done, s')

theorem allocate_outcome (h : GivenOnce s) (h_manager : s.world.manager? m = some manager)
    (h_find : s.handles.find? name = some handle) (o : Name) :
    AllocateOutcome B s m name handle (s.step B (.allocate m name o)) := by
  rcases h_call : BufferObject.allocate B m handle s.world.env with ⟨f | ⟨object, handle'⟩, env⟩
  · simp only [step, withManager, h_manager, withHandle, h_find, World.allocate, h_call]
    exact .failed h_call (h.cameToNothing h_call)
  · obtain ⟨-, -, ⟨descriptor, stride, modifier, rfl⟩, -⟩ := BufferObject.allocated_of_ok h_call
    obtain ⟨rfl, -, -⟩ := BufferObject.allocate_ok h_call
    simp only [step, withManager, h_manager, withHandle, h_find, World.allocate, h_call]
    refine .allocated h_call ?_
    rw [setHolding_handles]
    exact Table.find?_insert_eq_update _ _ _

/-- What the steps that allocate do in a session. -/
structure AllOrNothing (B : Backend σ) (s : Session σ) : Prop where
  /-- In every manager, a buffer that cannot be created leaves everything as it was, and one that
      can adds one entry. -/
  create : ∀ m manager, s.world.manager? m = some manager → ∀ name size format usage,
    CreateOutcome B s m name size format usage (s.step B (.create m name size format usage))
  /-- So it is with a buffer that is allocated for a handle, as for the handle. -/
  allocate : ∀ m manager name handle, s.world.manager? m = some manager →
    s.handles.find? name = some handle → ∀ o,
    AllocateOutcome B s m name handle (s.step B (.allocate m name o))

/-- On every backend, whatever it answers, allocating for a handle is all or nothing; and in every
    state that a play reaches, so are the steps that allocate. -/
theorem allocation_all_or_nothing (B : Backend σ) (devices : σ) (kinds : List ManagerKind)
    (moves : List (Move σ)) :
    (∀ device h env, BufferObject.AllocatesAtomically B device h env) ∧
      AllOrNothing B ((start B devices kinds).play B moves) := by
  have h := givenOnce_of_play B devices kinds moves
  exact ⟨BufferObject.allocates_atomically B, fun _ _ h_manager => create_outcome h h_manager,
    fun _ _ _ _ h_manager h_find => allocate_outcome h h_manager h_find⟩

/-- A device that gives no descriptors makes the buffer and has to free it. -/
example :
    let s := (start Trial.backend { inner := {} } [.full]).play Trial.backend
      [.outside { inner := {}, faults := Table.insert ∅ 0 { exportDescriptor := true } },
        .client (.create 0 "h" ⟨8, 8⟩ PixelFormat.rgba8888 Usage.texture)]
    (madeBy s.world.env.trace, freedBy s.world.env.trace) = ([1], [1]) ∧
      s.handles.find? "h" = none ∧ s.world.bufferCount 0 = 0 := by
  decide +kernel

end Session

end GraphicsBuffer
