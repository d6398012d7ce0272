/-
  GraphicsBuffer.Proofs.Backend.Account

  The account that calls give of the buffers of a backend. Read in order, the calls say which
  buffers have been made and which have been freed; a ledger balances them against the buffers that
  are alive. Rules about calls say what a call may be after the calls before it.
-/

import GraphicsBuffer.Backend.Trace
import Mathlib.Data.List.Perm.Basic

namespace GraphicsBuffer

/-! ## Rules -/

/-- Each of a sequence of calls is one that the rule allows after the calls before it. -/
def EachCall (rule : List Call → Call → Prop) (calls : List Call) : Prop :=
  ∀ before call after, calls = before ++ call :: after → rule before call

namespace EachCall

variable {rule : List Call → Call → Prop} {calls : List Call}

theorem nil : EachCall rule [] :=
  fun _ _ _ h_eq => nomatch (List.append_eq_nil_iff.mp h_eq.symm).2

theorem concat (h : EachCall rule calls) {call : Call} (h_call : rule calls call) :
    EachCall rule (calls ++ [call]) := by
  intro before other after h_eq
  rcases List.eq_nil_or_concat after with rfl | ⟨rest, last, rfl⟩
  · obtain ⟨rfl, h_last⟩ := List.append_inj' h_eq rfl
    cases h_last
    exact h_call
  · -- what is not the last call is among those before it
    have h_front : calls ++ [call] = (before ++ other :: rest) ++ [last] := by
      rw [h_eq, List.append_assoc, List.cons_append, List.concat_eq_append]
    obtain ⟨rfl, -⟩ := List.append_inj' h_front rfl
    exact h before other rest rfl

end EachCall

/-! ## Buffers that are made and freed -/

/-- The buffer that a call made. -/
def Call.made? : Call → Option BufferId
  | created _ _ _ _ (.ok id) => some id
  | imported _ _ (.ok id) => some id
  | _ => none

/-- The buffer that a call freed. -/
def Call.freed? : Call → Option BufferId
  | destroyed id => some id
  | _ => none

/-- The buffers that calls made, in order. -/
def madeBy (calls : List Call) : List BufferId := calls.filterMap Call.made?

/-- The buffers that calls freed, in order. -/
def freedBy (calls : List Call) : List BufferId := calls.filterMap Call.freed?

theorem madeBy_concat (calls : List Call) (call : Call) :
    madeBy (calls ++ [call]) = madeBy calls ++ call.made?.toList := by
  rw [madeBy, List.filterMap_append, List.filterMap_cons]
  rcases call.made? with _ | id <;> rfl

theorem freedBy_concat (calls : List Call) (call : Call) :
    freedBy (calls ++ [call]) = freedBy calls ++ call.freed?.toList := by
  rw [freedBy, List.filterMap_append, List.filterMap_cons]
  rcases call.freed? with _ | id <;> rfl

/-- A buffer is alive after calls that made it and did not free it. -/
def AliveAfter (calls : List Call) (id : BufferId) : Prop := id ∈ madeBy calls ∧ id ∉ freedBy calls

/-- A call that makes a buffer makes a new one, and a call that frees a buffer frees one that is
    alive. -/
def MadeOnceFreedOnce (before : List Call) (call : Call) : Prop :=
  (∀ id, call.made? = some id → id ∉ madeBy before) ∧
    ∀ id, call.freed? = some id → AliveAfter before id

/-! ## The ledger -/

/-- Calls are balanced by the buffers that are alive: every buffer that they made is one that they
    freed or one that is alive. The numbers from `next` on have not been given out. -/
structure Ledger (calls : List Call) (next : BufferId) (alive : List BufferId) : Prop where
  given_out : ∀ id ∈ madeBy calls, id < next
  nodup : (madeBy calls).Nodup
  balance : (madeBy calls).Perm (freedBy calls ++ alive)
  in_order : EachCall MadeOnceFreedOnce calls

namespace Ledger

variable {calls : List Call} {next : BufferId} {alive alive' : List BufferId}

theorem empty (next : BufferId) : Ledger [] next [] := ⟨nofun, List.nodup_nil, .nil, .nil⟩

theorem perm (h : Ledger calls next alive) (h_perm : alive.Perm alive') :
    Ledger calls next alive' :=
  ⟨h.given_out, h.nodup, h.balance.trans (h_perm.append_left _), h.in_order⟩

/-- The buffers that balance the calls are those that are alive after them. -/
theorem mem_alive_iff (h : Ledger calls next alive) {id : BufferId} :
    id ∈ alive ↔ AliveAfter calls id := by
  have h_nodup := h.balance.nodup_iff.mp h.nodup
  constructor
  · intro h_alive
    refine ⟨h.balance.mem_iff.mpr (List.mem_append_right _ h_alive), fun h_freed => ?_⟩
    exact (List.nodup_append.mp h_nodup).2.2 id h_freed id h_alive rfl
  · rintro ⟨h_made, h_kept⟩
    exact (List.mem_append.mp (h.balance.mem_iff.mp h_made)).resolve_left h_kept

theorem alive_nodup (h : Ledger calls next alive) : alive.Nodup :=
  (List.nodup_append.mp (h.balance.nodup_iff.mp h.nodup)).2.1

/-- A call that neither makes nor frees a buffer. -/
theorem silent (h : Ledger calls next alive) {call : Call} (h_made : call.made? = none)
    (h_freed : call.freed? = none) : Ledger (calls ++ [call]) next alive := by
  have h_made' : madeBy (calls ++ [call]) = madeBy calls := by
    rw [madeBy_concat, h_made, Option.toList_none, List.append_nil]
  have h_freed' : freedBy (calls ++ [call]) = freedBy calls := by
    rw [freedBy_concat, h_freed, Option.toList_none, List.append_nil]
  refine ⟨h_made' ▸ h.given_out, h_made' ▸ h.nodup, ?_, h.in_order.concat ⟨?_, ?_⟩⟩
  · rw [h_made', h_freed']
    exact h.balance
  · rw [h_made]
    exact nofun
  · rw [h_freed]
    exact nofun

theorem silents (h : Ledger calls next alive) {more : List Call}
    (h_more : ∀ call ∈ more, call.made? = none ∧ call.freed? = none) :
    Ledger (calls ++ more) next alive := by
  -- on the calls that are added, the first of which goes to the end of those that there are
  induction more generalizing calls with
  | nil => rwa [List.append_nil]
  | cons call rest ih =>
    obtain ⟨h_made, h_freed⟩ := h_more call List.mem_cons_self
    rw [List.append_cons]
    exact ih (h.silent h_made h_freed) fun c h_mem => h_more c (List.mem_cons_of_mem _ h_mem)

/-- A call that makes the buffer with the next number. -/
theorem make (h : Ledger calls next alive) {call : Call} (h_made : call.made? = some next)
    (h_freed : call.freed? = none) : Ledger (calls ++ [call]) (next + 1) (alive ++ [next]) := by
  have h_made' : madeBy (calls ++ [call]) = madeBy calls ++ [next] := by
    rw [madeBy_concat, h_made, Option.toList_some]
  have h_freed' : freedBy (calls ++ [call]) = freedBy calls := by
    rw [freedBy_concat, h_freed, Option.toList_none, List.append_nil]
  have h_new : next ∉ madeBy calls := fun h_mem => Nat.lt_irrefl _ (h.given_out next h_mem)
  refine ⟨fun id h_mem => ?_, ?_, ?_, h.in_order.concat ⟨fun id h_id => ?_, ?_⟩⟩
  · rw [h_made', List.mem_append, List.mem_singleton] at h_mem
    rcases h_mem with h_mem | rfl
    · exact Nat.lt_succ_of_lt (h.given_out id h_mem)
    · exact Nat.lt_succ_self _
  · rw [h_made', List.nodup_append]
    refine ⟨h.nodup, List.pairwise_singleton _ next, ?_⟩
    rintro id h_mem _ h_last rfl
    exact h_new (List.mem_singleton.mp h_last ▸ h_mem)
  · rw [h_made', h_freed', ← List.append_assoc]
    exact h.balance.append_right _
  · obtain rfl : next = id := Option.some.inj (h_made.symm.trans h_id)
    exact h_new
  · rw [h_freed]
    exact nofun

/-- A call that frees a buffer that is alive. -/
theorem free {id : BufferId} (h : Ledger calls next (id :: alive)) :
    Ledger (calls ++ [.destroyed id]) next alive := by
  have h_made' : madeBy (calls ++ [.destroyed id]) = madeBy calls := by
    rw [madeBy_concat]
    exact List.append_nil _
  have h_freed' : freedBy (calls ++ [.destroyed id]) = freedBy calls ++ [id] := freedBy_concat _ _
  refine ⟨h_made' ▸ h.given_out, h_made' ▸ h.nodup, ?_, h.in_order.concat ⟨nofun, ?_⟩⟩
  · rw [h_made', h_freed', List.append_assoc]
    exact h.balance
  · rintro _ ⟨⟩
    exact h.mem_alive_iff.mp List.mem_cons_self

end Ledger

end GraphicsBuffer
