/-
  GraphicsBuffer.Proofs.Session.Play

  Plays of a session: the steps of its client, handles that arrive from elsewhere, and changes of
  the devices that the session has no part in, in any order. A play is read as a history of deeds,
  which says what became of the registration of each handle.
-/

import GraphicsBuffer.Session
import GraphicsBuffer.Proofs.Run
import Mathlib.Logic.Function.Basic

namespace GraphicsBuffer

/-- What happens next to a session. -/
inductive Move (σ : Type) where
  /-- The client runs a step. -/
  | client (step : Step)
  /-- Bytes and a descriptor arrive from elsewhere, and a handle is rebuilt from them. -/
  | receive (h : Name) (bytes : List UInt8) (descriptor : Option Descriptor)
  /-- The devices change behind the session's back. -/
  | outside (devices : σ)

/-- What a move did to the registration of a handle. -/
inductive Deed where
  /-- The name now stands for a handle that is registered nowhere, or for none. -/
  | reset (h : Name)
  /-- A manager registered the handle for a buffer. -/
  | bound (m : ManagerId) (h : Name) (id : BufferId)
  /-- A manager gave the registration of the handle up. -/
  | freed (m : ManagerId) (h : Name)
deriving DecidableEq

namespace Deed

/-- The handle whose registration is concerned. -/
def handle : Deed → Name
  | reset h => h
  | bound _ h _ => h
  | freed _ h => h

/-- Whether the deed gave a manager an entry. -/
def binds (m : ManagerId) : Deed → Bool
  | bound l _ _ => l = m
  | _ => false

/-- Whether the deed took an entry of a manager. -/
def frees (m : ManagerId) : Deed → Bool
  | freed l _ => l = m
  | _ => false

end Deed

namespace Session

variable {σ : Type} (B : Backend σ) (s : Session σ)

/-! ## Moves -/

/-- A handle that arrives takes a name. -/
def receive (h : Name) (bytes : List UInt8) (descriptor : Option Descriptor) :
    Answer × Session σ :=
  match Handle.ofWire bytes descriptor with
  | .error e => (.failed (.error e), s)
  | .ok handle => (.done, s.setHandle h handle)

/-- The session with other devices. -/
def drift (devices : σ) : Session σ :=
  { s with world := { s.world with env := { s.world.env with devices } } }

/-- Makes a move. -/
def move : Move σ → Answer × Session σ
  | .client step => s.step B step
  | .receive h bytes descriptor => s.receive h bytes descriptor
  | .outside devices => (.done, s.drift devices)

/-- The session after a move. -/
def after (m : Move σ) : Session σ := (s.move B m).2

/-- Makes moves one after another. -/
def play (moves : List (Move σ)) : Session σ := moves.foldl (after B) s

/-! ## Deeds -/

/-- The key that the handle of a name carries. -/
def key? (h : Name) : Option Key := (s.handles.find? h).bind (·.registration)

/-- The deed of a step that was answered. A buffer that is made gets the next number. -/
def stepDeed? : Step → Answer → Option Deed
  | .new h _ _ _, .done => some (.reset h)
  | .duplicate _ target, .done => some (.reset target)
  | .transfer _ target _ _, .bytes _ => some (.reset target)
  | .dropHandle h, .flag _ => some (.reset h)
  | .create m h _ _ _, .done => some (.bound m h s.world.env.nextBuffer)
  | .register m h, .done =>
    if s.key? h = none then some (.bound m h s.world.env.nextBuffer) else none
  | .resolve m h _, .flag true =>
    if s.key? h = none then some (.bound m h s.world.env.nextBuffer) else none
  | .insert m h o, .done => (s.holdings.find? o).map fun holding => .bound m h holding.id
  | .unregister m h, .done => some (.freed m h)
  | _, _ => none

/-- The deed of a move that was answered. -/
def deed? : Move σ → Answer → Option Deed
  | .client step, answer => s.stepDeed? step answer
  | .receive h _ _, .done => some (.reset h)
  | _, _ => none

/-- A session together with its deeds so far, the latest first. -/
structure Chronicle (σ : Type) where
  session : Session σ
  deeds : List Deed := []

/-- Makes a move and writes its deed down. -/
def Chronicle.next (c : Chronicle σ) (m : Move σ) : Chronicle σ :=
  let moved := c.session.move B m
  { session := moved.2, deeds := (c.session.deed? m moved.1).toList ++ c.deeds }

/-- The chronicle of moves that are made one after another. -/
def chronicle (moves : List (Move σ)) : Chronicle σ :=
  moves.foldl (Chronicle.next B) { session := s }

/-- The chronicle tells of the play. -/
theorem chronicle_session (moves : List (Move σ)) :
    (s.chronicle B moves).session = s.play B moves := by
  suffices h : ∀ c : Chronicle σ,
      (moves.foldl (Chronicle.next B) c).session = moves.foldl (after B) c.session from
    h { session := s }
  induction moves with
  | nil => exact fun c => rfl
  | cons m rest ih => exact fun c => ih (c.next B m)

end Session

end GraphicsBuffer
