/-
  GraphicsBuffer.Proofs.Session.Arrival

  Handles that arrive from elsewhere. Bytes are taken or refused by their length, header and magic
  word alone, and what the sender wrote as owner and data makes no difference to anything that
  follows: a handle that arrives stands for no buffer of any manager, not even if the sender wrote
  the number of this process and a key that is in use.
-/

import GraphicsBuffer.Backend.System
import GraphicsBuffer.Proofs.Handle.Layout
import GraphicsBuffer.Proofs.Session.History
import GraphicsBuffer.Proofs.World.Evolution

namespace GraphicsBuffer

open LittleEndian (wordAt)

/-! ## Acceptance -/

/-- What is wrong with a byte string: first its length, then the magic word, then the header. -/
def defect? (bytes : List UInt8) : Option HandleDefect :=
  if bytes.length ≠ 56 then some .wrongSize
  else if wordAt bytes 12 4 ≠ 0x5f47424d then some .badMagic
  else if wordAt bytes 0 4 ≠ 12 ∨ wordAt bytes 4 4 ≠ 1 ∨ wordAt bytes 8 4 ≠ 11 then some .badLayout
  else none

/-- Nothing is wrong with a well-formed string. -/
theorem defect?_eq_none_iff {bytes : List UInt8} : defect? bytes = none ↔ WellFormed bytes := by
  unfold defect?
  constructor
  · intro h_none
    split at h_none
    · exact nomatch h_none
    next h_length =>
    split at h_none
    · exact nomatch h_none
    next h_magic =>
    split at h_none
    · exact nomatch h_none
    next h_header =>
    simp only [not_or, not_not] at h_length h_magic h_header
    exact ⟨h_length, h_header.1, h_header.2.1, h_header.2.2, h_magic⟩
  · intro h_formed
    simp only [h_formed.length, h_formed.magic, h_formed.version, h_formed.numFds,
      h_formed.numInts, ne_eq, not_true_eq_false, or_self, if_false]

/-- Bytes are refused for what is wrong with them. -/
theorem Handle.ofWire_of_defect {bytes : List UInt8} {e : HandleDefect}
    (h_defect : defect? bytes = some e) (descriptor : Option Descriptor) :
    ofWire bytes descriptor = .error (.invalidHandle e) := by
  have h_formed : ¬WellFormed bytes := by
    intro h_formed
    rw [defect?_eq_none_iff.mpr h_formed] at h_defect
    exact nomatch h_defect
  unfold defect? at h_defect
  split at h_defect
  next h_length =>
    obtain rfl := Option.some.inj h_defect
    exact ofWire_of_length h_length
  next h_length =>
  rw [ne_eq, not_not] at h_length
  split at h_defect
  next h_magic =>
    obtain rfl := Option.some.inj h_defect
    exact ofWire_of_magic h_length h_magic
  next h_magic =>
  rw [ne_eq, not_not] at h_magic
  split at h_defect
  · obtain rfl := Option.some.inj h_defect
    exact ofWire_of_header h_length h_magic h_formed
  · exact nomatch h_defect

/-- A handle is rebuilt from well-formed strings only, and from each of them. -/
theorem Handle.ofWire_ok_iff {bytes : List UInt8} {descriptor : Option Descriptor} :
    (∃ h, ofWire bytes descriptor = .ok h) ↔ WellFormed bytes := by
  constructor
  · rintro ⟨h, h_accepted⟩
    exact (of_ofWire h_accepted).1
  · intro h_formed
    obtain ⟨r, h_laid⟩ := exists_laidOut h_formed.length
    exact ⟨_, ofWire_of_wellFormed h_laid h_formed⟩

/-! ## Handles without a registration -/

namespace World

variable {σ : Type} {B : Backend σ} {w : World σ} {m : ManagerId} {h : Handle}

/-- A handle stands for nothing in a manager: whatever is asked of the manager with it fails and
    changes nothing, and registering it makes a new buffer under a new key. -/
structure Stranger (B : Backend σ) (w : World σ) (m : ManagerId) (h : Handle) : Prop where
  lookup : w.lookup m h = none
  lock : ∀ request, w.lock B m h request = (.error (.error .notRegistered), w)
  unlock : w.unlock B m h = (.error .notRegistered, w)
  unregister : w.unregister B m h = (.error (.error .notRegistered), w)
  hold : w.hold m h = (.error .notRegistered, w)
  resolve : w.resolve B m false h = (.ok (none, h), w)
  register : ∀ {h' w'}, w.register B m h = (.ok h', w') →
    h'.registration = some w.nextKey ∧ w'.lookup m h' = some w.env.nextBuffer

/-- A handle that is registered nowhere is a stranger everywhere. -/
theorem stranger_of_unregistered (h_free : h.registration = none) : Stranger B w m h := by
  have h_lookup : w.lookup m h = none := by
    simp only [World.lookup, h_free, Option.bind_eq_bind, Option.bind_none]
  have h_object : w.object? m h = none := by
    simp only [World.object?, h_lookup, Option.bind_eq_bind, Option.bind_none]
  refine ⟨h_lookup, ?_, ?_, ?_, ?_, ?_, ?_⟩
  · intro request
    simp only [World.lock, h_object]
  · simp only [World.unlock, h_object]
  · simp only [World.unregister, h_free]
  · simp only [World.hold, h_lookup]
  · simp only [World.resolve, h_free, Option.isSome_none, Bool.false_eq_true, if_false]
    rcases w.manager? m with _ | manager <;> rfl
  · intro h' w' h_register
    rcases register_outcome (fun _ => True) h_register with
      ⟨f, h_error, -⟩ | ⟨h_owned, -⟩ | ⟨h'', -, h_ok, h_claims⟩
    · cases h_error
    · exact absurd h_free h_owned
    · obtain rfl := Except.ok.inj h_ok
      obtain ⟨manager, -, h_key, -, h_managers⟩ := h_claims.registry
      refine ⟨h_key, lookup_eq_some_iff.mpr ⟨_, _, h_key, h_managers m |>.trans (if_pos rfl), ?_⟩⟩
      exact Table.find?_insert_self _ _ _

end World

/-! ## Two runs -/

/-- Two byte strings differ in nothing but owner, data and the usage bits without a meaning. -/
structure Alike (bytes bytes' : List UInt8) : Prop where
  length : bytes.length = bytes'.length
  carried : carried bytes = carried bytes'

/-- Two moves differ in nothing but what the sender of a handle wrote as owner, data and usage bits
    without a meaning. -/
inductive MovesAlike {σ : Type} : Move σ → Move σ → Prop where
  | same (move : Move σ) : MovesAlike move move
  | received (h : Name) {bytes bytes' : List UInt8} (descriptor : Option Descriptor)
      (h_alike : Alike bytes bytes') :
    MovesAlike (.receive h bytes descriptor) (.receive h bytes' descriptor)

namespace Session

variable {σ : Type} {B : Backend σ} {s : Session σ}

/-- Moves that are alike are answered alike and do the same. -/
theorem move_alike {move move' : Move σ} (h_alike : MovesAlike move move') :
    s.move B move = s.move B move' := by
  cases h_alike with
  | same => rfl
  | received h descriptor h_alike =>
    simp only [Session.move, receive, Handle.ofWire_congr h_alike.length h_alike.carried]

/-- So are runs of them. -/
theorem run_alike {moves moves' : List (Move σ)} (h_alike : List.Forall₂ MovesAlike moves moves') :
    s.answers B moves = s.answers B moves' ∧ s.play B moves = s.play B moves' := by
  induction h_alike generalizing s with
  | nil => exact ⟨rfl, rfl⟩
  | @cons move move' rest rest' h_move h_rest ih =>
    have h_same : s.move B move = s.move B move' := move_alike h_move
    have h_after : s.after B move = s.after B move' := congrArg Prod.snd h_same
    obtain ⟨h_answers, h_play⟩ := @ih (s.after B move)
    constructor
    · rw [answers, answers, h_answers, h_same, h_after]
    · show (s.after B move).play B rest = (s.after B move').play B rest'
      rw [h_play, h_after]

/-- A handle is rebuilt from the well-formed byte strings and from no others, which are refused for
    the first thing that is wrong with them. What a sender wrote as owner and data, and the usage
    bits without a meaning, make no difference: not to the handle, and so not to anything that a
    session answers or becomes, whatever it does and whatever the backend. The handle is a stranger
    in every manager of every world, whatever keys are in use there. -/
theorem senders_claims_ignored (B : Backend σ) :
    (∀ bytes d, ((∃ h, Handle.ofWire bytes d = .ok h) ↔ WellFormed bytes) ∧
      (¬WellFormed bytes →
        ∃ e, defect? bytes = some e ∧ Handle.ofWire bytes d = .error (.invalidHandle e))) ∧
    (∀ bytes bytes' d, Alike bytes bytes' → Handle.ofWire bytes d = Handle.ofWire bytes' d) ∧
    (∀ (s : Session σ) moves moves', List.Forall₂ MovesAlike moves moves' →
      s.answers B moves = s.answers B moves' ∧ s.play B moves = s.play B moves') ∧
    ∀ bytes d h, Handle.ofWire bytes d = .ok h →
      ∀ (w : World σ) m, World.Stranger B w m h := by
  refine ⟨?_, ?_, ?_, ?_⟩
  · intro bytes d
    refine ⟨Handle.ofWire_ok_iff, ?_⟩
    intro h_formed
    rcases h_defect : defect? bytes with _ | e
    · exact absurd (defect?_eq_none_iff.mp h_defect) h_formed
    · exact ⟨e, rfl, Handle.ofWire_of_defect h_defect d⟩
  · intro bytes bytes' d h_alike
    exact Handle.ofWire_congr h_alike.length h_alike.carried
  · intro s moves moves' h_alike
    exact run_alike h_alike
  · intro bytes d h h_accepted w m
    obtain ⟨-, r, -, rfl⟩ := Handle.of_ofWire h_accepted
    exact World.stranger_of_unregistered rfl

/-- A record of the buffer that `forgedMoves` creates, with an owner and data of the sender's
    choice. -/
def sentRecord (owner : UInt32) (data : UInt64) : WireRecord :=
  { version := 12, numFds := 1, numInts := 11, magic := 0x5f47424d, width := 16, height := 16,
    format := 1, usage := 0x30, stride := 64, owner, modifier := Handle.noModifier, data }

/-- A buffer is created and locked under the key 1. A record of its memory arrives, and the client
    tries to lock, unlock and unregister the handle before it is registered. -/
def forgedMoves (owner : UInt32) (data : UInt64) : List (Move SystemState) :=
  [.client (.create 0 "h" ⟨16, 16⟩ PixelFormat.rgba8888 Usage.cpuWriteOften),
   .client (.lock 0 "h" ⟨Usage.cpuWriteOften, ⟨0, 0, 16, 16⟩⟩),
   .receive "f" (sentRecord owner data).encode (some (.memory 0)),
   .client (.lock 0 "f" ⟨Usage.cpuWriteOften, ⟨0, 0, 16, 16⟩⟩),
   .client (.unlock 0 "f"),
   .client (.unregister 0 "f"),
   .client (.register 0 "f")]

/-- The key that the sender forged is in use, but gives the handle nothing. -/
theorem senders_claims_ignored_forged :
    Alike (sentRecord 4242 1).encode (sentRecord 0 0).encode ∧
      (start systemBackend { kernel := {} } [.full]).answers systemBackend (forgedMoves 4242 1) =
        (start systemBackend { kernel := {} } [.full]).answers systemBackend (forgedMoves 0 0) ∧
      (start systemBackend { kernel := {} } [.full]).answers systemBackend (forgedMoves 0 0) =
        [.done, .locked (some ⟨1, 0⟩) none, .done, .failed (.error .notRegistered),
          .failed (.error .notRegistered), .failed (.error .notRegistered), .done] := by
  have h_alike : Alike (sentRecord 4242 1).encode (sentRecord 0 0).encode :=
    ⟨by decide, by decide⟩
  obtain ⟨-, -, h_runs, -⟩ := senders_claims_ignored systemBackend
  have h_moves : List.Forall₂ MovesAlike (forgedMoves 4242 1) (forgedMoves 0 0) :=
    .cons (.same _) (.cons (.same _) (.cons (.received "f" _ h_alike) (.cons (.same _)
      (.cons (.same _) (.cons (.same _) (.cons (.same _) .nil))))))
  exact ⟨h_alike, (h_runs _ _ _ h_moves).1, by decide +kernel⟩

end Session

end GraphicsBuffer
