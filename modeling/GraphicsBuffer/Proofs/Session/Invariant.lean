/-
  GraphicsBuffer.Proofs.Session.Invariant

  Invariants of plays. The references that a world has handed out are those that its session keeps,
  so whatever a name refers to is live; and what every elementary change of a world keeps of its
  objects and its environment, every play keeps.
-/

import GraphicsBuffer.Proofs.Session.Effect

namespace GraphicsBuffer.Session

variable {σ : Type} {B : Backend σ} {lockable : BufferObject → Prop} {s s' : Session σ}

open World (Change Evolves Claims Retains NamesLive Numbered)

/-! ## References and what they refer to -/

/-- The references of a world are those that the session keeps and some that are loose, and
    everything that is named is live. -/
structure Accounted (loose : List BufferId) (s : Session σ) : Prop where
  names : NamesLive s.world
  distinct : s.holdings.Distinct
  held : s.world.held.Perm (loose ++ s.holdings.values.map (·.id))

namespace Accounted

theorem start (B : Backend σ) (devices : σ) (kinds : List ManagerKind) :
    Accounted [] (start B devices kinds) where
  names := by
    rintro id (h_mem | h_mem)
    · obtain ⟨m, manager, h_manager, h_mem⟩ := World.mem_registered.mp h_mem
      rw [World.start_buffers h_manager] at h_mem
      exact absurd h_mem List.not_mem_nil
    · exact absurd h_mem List.not_mem_nil
  distinct := Table.Distinct.empty
  held := List.Perm.nil

theorem live_of_holding {loose : List BufferId} (h : Accounted loose s) {o : Name}
    {holding : Holding} (h_find : s.holdings.find? o = some holding) :
    ∃ object, s.world.objects.find? holding.id = some object := by
  refine h.names holding.id (.inr (h.held.symm.subset (List.mem_append_right _ ?_)))
  exact List.mem_map.mpr ⟨holding, Table.mem_values_of_find? h_find, rfl⟩

theorem releaseHolding {loose : List BufferId} (h : Accounted loose s) (o : Name) :
    Accounted loose (s.releaseHolding B o) := by
  unfold Session.releaseHolding
  rcases h_find : s.holdings.find? o with _ | holding
  · exact h
  refine ⟨h.names.release holding.id, h.distinct.erase o, ?_⟩
  -- what is left is what was kept, less the reference that goes
  have h_ids := (h.distinct.values_perm h_find).map (·.id)
  have h_held : s.world.held.Perm
      (holding.id :: (loose ++ (s.holdings.erase o).values.map (·.id))) :=
    (h.held.trans (h_ids.append_left loose)).trans List.perm_middle
  have h_released : (s.world.release B holding.id).held = s.world.held.erase holding.id :=
    World.release_held s.world holding.id
  show (s.world.release B holding.id).held.Perm _
  rw [h_released]
  have h_erased := h_held.erase holding.id
  rw [List.erase_cons_head] at h_erased
  exact h_erased

theorem releaseHolding_find? (s : Session σ) (o : Name) :
    (s.releaseHolding B o).holdings.find? o = none := by
  unfold Session.releaseHolding
  rcases h_find : s.holdings.find? o with _ | holding
  · exact h_find
  · exact Table.find?_erase_self _ o

/-- A loose reference is kept under a name. -/
theorem setHolding {holding : Holding} (h : Accounted [holding.id] s) (o : Name) :
    Accounted [] (s.setHolding B o holding) := by
  have h_released : Accounted [holding.id] (s.releaseHolding B o) := h.releaseHolding o
  refine ⟨h_released.names, h_released.distinct.insert o holding, ?_⟩
  -- the name is free once what it stood for has been given up
  have h_values : ((s.releaseHolding B o).holdings.insert o holding).values =
      (s.releaseHolding B o).holdings.values ++ [holding] := by
    rw [Table.values_insert, Table.erase_of_find?_eq_none (releaseHolding_find? s o)]
  show (s.releaseHolding B o).world.held.Perm _
  rw [List.nil_append, show (s.setHolding B o holding).holdings.values = _ from h_values,
    List.map_append, List.map_singleton]
  exact h_released.held.trans (List.perm_append_singleton _ _).symm

theorem of_effect (h : Accounted [] s) {deed : Option Deed}
    (h_effect : Effect B lockable s deed s') : Accounted [] s' := by
  cases h_effect with
  | went h_world _ h_holdings =>
    refine ⟨h_world.namesLive h.names, h_holdings ▸ h.distinct, ?_⟩
    rw [h_holdings, h_world.held_eq]
    exact h.held
  | reset h_world _ h_holdings =>
    exact ⟨h_world ▸ h.names, h_holdings ▸ h.distinct, by rw [h_holdings, h_world]; exact h.held⟩
  | bound h_claims _ h_holdings =>
    obtain ⟨h_distinct, h_ids⟩ := h_holdings h.distinct
    exact ⟨h_claims.namesLive h.names, h_distinct, h_claims.held_eq ▸ h.held.trans h_ids.symm⟩
  | @freed _ _ _ key manager _ _ h_manager _ h_world _ h_holdings =>
    refine ⟨h_world.namesLive (h.names.withdraw h_manager key), h_holdings ▸ h.distinct, ?_⟩
    rw [h_holdings, h_world.held_eq]
    exact h.held
  | @closed _ m h_world _ h_holdings =>
    refine ⟨h_world.namesLive (h.names.close m), h_holdings ▸ h.distinct, ?_⟩
    rw [h_holdings, h_world.held_eq]
    exact h.held
  | retained s₁ holding o h_retains _ h_holdings =>
    -- the new reference is loose until it has its name
    refine setHolding ⟨h_retains.namesLive h.names, h_holdings ▸ h.distinct, ?_⟩ o
    rw [h_holdings, h_retains.held_eq]
    exact h.held.cons _
  | released o => exact h.releaseHolding o

end Accounted

/-! ## Steps, arrivals and drifts -/

/-- Every move that is not a change of the devices has one of the effects. -/
theorem after_effect (h : Accounted [] s) (h_lockable : ∀ o ∈ s.world.objects.values, lockable o)
    (m : Move σ) :
    (∃ devices, m = .outside devices) ∨
      Effect B lockable s (s.deed? m (s.move B m).1) (s.after B m) := by
  cases m with
  | client step =>
    exact .inr (step_effect h.names (fun _ _ h_find => h.live_of_holding h_find) h_lockable step)
  | receive handle bytes descriptor => exact .inr (receive_effect handle bytes descriptor)
  | outside devices => exact .inl ⟨devices, rfl⟩

/-- The same with no condition on the objects that are locked. -/
theorem Accounted.effect (h : Accounted [] s) (m : Move σ) :
    (∃ devices, m = .outside devices) ∨
      Effect B (fun _ => True) s (s.deed? m (s.move B m).1) (s.after B m) :=
  after_effect h (fun _ _ => True.intro) m

theorem Accounted.of_drift (h : Accounted [] s) (devices : σ) : Accounted [] (s.drift devices) :=
  ⟨h.names, h.distinct, h.held⟩

theorem Accounted.of_after (h : Accounted [] s) (m : Move σ) : Accounted [] (s.after B m) := by
  rcases h.effect (B := B) m with ⟨devices, rfl⟩ | h_effect
  · exact h.of_drift devices
  · exact h.of_effect h_effect

/-- What every allowed move keeps of a session whose references are all accounted for, every play
    keeps that obeys the rule. -/
theorem Accounted.keeps_along {J : Session σ → Prop} {rule : Session σ → Move σ → Prop}
    (h_move : ∀ {s : Session σ} {m : Move σ}, Accounted [] s → rule s m → J s → J (s.after B m))
    (h_accounted : Accounted [] s) (h : J s) {moves : List (Move σ)}
    (h_rule : Obeys (after B) rule s moves) : J (s.play B moves) := by
  suffices h_both : Accounted [] (s.play B moves) ∧ J (s.play B moves) from h_both.2
  exact Obeys.invariant (I := fun s => Accounted [] s ∧ J s)
    (fun _ m h h_allowed => ⟨h.1.of_after m, h_move h.1 h_allowed h.2⟩) ⟨h_accounted, h⟩ h_rule

/-! ## What elementary changes keep -/

section Keep

variable {I : Env σ → Table BufferId BufferObject → Prop}

theorem releaseHolding_keeps
    (h_change : ∀ {w w'}, Change B lockable w w' → I w.env w.objects → I w'.env w'.objects)
    (h : I s.world.env s.world.objects) (o : Name) :
    I (s.releaseHolding B o).world.env (s.releaseHolding B o).world.objects := by
  unfold releaseHolding
  rcases s.holdings.find? o with _ | holding
  · exact h
  · exact (World.reap_evolves _ holding.id).keeps (I := fun w => I w.env w.objects) h_change h

/-- What elementary changes keep of objects and environment, every effect keeps. -/
theorem Effect.keeps
    (h_change : ∀ {w w'}, Change B lockable w w' → I w.env w.objects → I w'.env w'.objects)
    {deed : Option Deed} (h_effect : Effect B lockable s deed s')
    (h : I s.world.env s.world.objects) : I s'.world.env s'.world.objects := by
  have h_evolves : ∀ {w w'}, Evolves B lockable w w' → I w.env w.objects → I w'.env w'.objects :=
    fun h_world h_before => h_world.keeps (I := fun w => I w.env w.objects) h_change h_before
  -- tables, keys and references may change as they like: only objects and environment count
  cases h_effect with
  | went h_world _ _ => exact h_evolves h_world h
  | reset h_world _ _ => exact h_world ▸ h
  | @bound s' _ _ _ _ h_claims _ _ =>
    generalize s'.world = w' at h_claims ⊢
    obtain ⟨h_world, -, -, -⟩ := h_claims
    exact (h_evolves h_world h :)
  | freed _ _ _ h_world _ _ => exact h_evolves h_world h
  | closed h_world _ _ => exact h_evolves h_world h
  | retained s₁ _ o h_retains _ _ =>
    refine releaseHolding_keeps (s := s₁) h_change ?_ o
    generalize s₁.world = w₁ at h_retains ⊢
    obtain ⟨h_world, -⟩ := h_retains
    exact (h_evolves h_world h :)
  | released o => exact releaseHolding_keeps h_change h o

/-- What elementary changes keep of objects and environment, and what changes of the devices keep
    that are allowed, holds at the end of every play from a start at which it held. -/
theorem play_keeps (rule : Session σ → Move σ → Prop)
    (h_change : ∀ {w w'}, Change B lockable w w' → I w.env w.objects → I w'.env w'.objects)
    (h_drift : ∀ s devices, rule s (.outside devices) → I s.world.env s.world.objects →
      I { s.world.env with devices } s.world.objects)
    (h_lockable : ∀ s m, rule s m → ∀ o ∈ s.world.objects.values, lockable o)
    {devices : σ} {kinds : List ManagerKind} {moves : List (Move σ)}
    (h_start : I (World.start B devices kinds).env ∅)
    (h_rule : Obeys (after B) rule (start B devices kinds) moves) :
    I ((start B devices kinds).play B moves).world.env
      ((start B devices kinds).play B moves).world.objects := by
  -- a move has one of the effects only if all references are accounted for
  refine Accounted.keeps_along (J := fun s => I s.world.env s.world.objects)
    (fun {s m} h_accounted h_allowed h => ?_) (.start B devices kinds) h_start h_rule
  rcases after_effect (B := B) h_accounted (h_lockable s m h_allowed) m with
    ⟨devices, rfl⟩ | h_effect
  · exact h_drift s devices h_allowed h
  · exact h_effect.keeps h_change h

/-- A play of any moves at all keeps what elementary changes and changes of the devices keep. -/
theorem play_keeps_always
    (h_change : ∀ {w w'}, Change B (fun _ => True) w w' → I w.env w.objects → I w'.env w'.objects)
    (h_drift : ∀ {env objects} devices, I env objects → I { env with devices } objects)
    (devices : σ) (kinds : List ManagerKind) (moves : List (Move σ))
    (h_start : I (World.start B devices kinds).env ∅) :
    I ((start B devices kinds).play B moves).world.env
      ((start B devices kinds).play B moves).world.objects :=
  play_keeps (fun _ _ => True) h_change (fun _ devices _ h => h_drift devices h)
    (fun _ _ _ _ _ => True.intro) h_start (Obeys.always _ _ moves)

end Keep

/-! ## Every play -/

theorem accounted_of_play (B : Backend σ) (devices : σ) (kinds : List ManagerKind)
    (moves : List (Move σ)) : Accounted [] ((start B devices kinds).play B moves) :=
  Obeys.invariant (fun _ m h _ => h.of_after m) (.start B devices kinds)
    (Obeys.always (after B) _ moves)

theorem numbered_of_play (B : Backend σ) (devices : σ) (kinds : List ManagerKind)
    (moves : List (Move σ)) :
    Numbered ((start B devices kinds).play B moves).world.env
      ((start B devices kinds).play B moves).world.objects :=
  play_keeps_always Change.numbered (fun _ h => h) devices kinds moves nofun

end GraphicsBuffer.Session
