import UntitledGame.Lib.TreeMaps
import UntitledGame.Net.Framing
import UntitledGame.Server.DbLink

/-!
# What has to be answered

A message that asks for a response is a task of the server that it reaches. The server
settles a task at once or leaves it to a callback of its database client, so the account
of a server is kept in tasks and callbacks. Which messages ask for which response is a
parameter.
-/

namespace UntitledGame.Server

open Net

/-- What has to be answered: the number of the message, the connection and the type. -/
structure Task (M : Type*) where
  request : Nat
  id : Nat
  type : M
  deriving DecidableEq, Repr

namespace Task

variable {M : Type*} (responseTo : Message → Option M)

/-- The message with this number came on this connection and asks for this type of response. -/
def Asked (arrivals : List (Nat × Message)) (t : Task M) : Prop :=
  ∃ m, arrivals[t.request]? = some (t.id, m) ∧ responseTo m = some t.type

/-- Whether the message with this number asks for a response. -/
def asked (arrivals : List (Nat × Message)) (k : Nat) : Nat :=
  match arrivals[k]? with
  | none => 0
  | some (_, m) => if (responseTo m).isSome then 1 else 0

variable {responseTo} {arrivals : List (Nat × Message)}

theorem getElem?_heard {k : Nat} {entry : Nat × Message} (h : arrivals[k]? = some entry)
    (new : Nat × Message) : (arrivals ++ [new])[k]? = some entry := by
  rw [List.getElem?_append_left (List.getElem?_eq_some_iff.mp h).1, h]

/-- What was asked stays asked. -/
theorem Asked.heard {t : Task M} (h : t.Asked responseTo arrivals) (new : Nat × Message) :
    t.Asked responseTo (arrivals ++ [new]) := by
  obtain ⟨m, hm, htype⟩ := h
  exact ⟨m, getElem?_heard hm new, htype⟩

theorem asked_le_one (k : Nat) : asked responseTo arrivals k ≤ 1 := by
  rw [asked]
  split
  · exact Nat.zero_le 1
  · split
    · exact Nat.le_refl 1
    · exact Nat.zero_le 1

/-- What is said to a message, and who waits for it, is in the future when it arrives. -/
theorem asked_heard (id : Nat) (m : Message) (k : Nat) :
    asked responseTo (arrivals ++ [(id, m)]) k =
      asked responseTo arrivals k +
        if k = arrivals.length ∧ (responseTo m).isSome then 1 else 0 := by
  simp only [asked]
  by_cases hk : k = arrivals.length
  · subst hk
    rw [List.getElem?_concat_length, List.getElem?_eq_none (Nat.le_refl _)]
    simp
  · have hold : (arrivals ++ [(id, m)])[k]? = arrivals[k]? := by
      by_cases hlt : k < arrivals.length
      · exact List.getElem?_append_left hlt
      · rw [List.getElem?_eq_none (by simp; omega), List.getElem?_eq_none (by omega)]
    simp [hold, hk]

end Task

namespace DbClient

variable {H : Type*} {c : DbClient H}

/-- A call leaves one callback more. -/
theorem pendingHandlers_call (h : c.Ordered) (origin : Nat) (body : DbRequest) (handler : H) :
    (c.call origin body handler).pendingHandlers.Perm (handler :: c.pendingHandlers) := by
  have hfresh : c.mNextRequestId ∉ c.mPending := fun hmem => Nat.lt_irrefl _ (h _ hmem)
  exact (Lib.TreeMaps.toList_insertIfNew c.mPending hfresh handler).map (·.2)

/-- A reply takes its callback out. -/
theorem pendingHandlers_answer {c' : DbClient H} {requestId : Nat} {handler : H}
    (h : c.answer requestId = some (handler, c')) :
    c.pendingHandlers.Perm (handler :: c'.pendingHandlers) := by
  obtain ⟨hpending, rfl⟩ := answer_eq_some h
  exact (Lib.TreeMaps.toList_erase c.mPending hpending).map (·.2)

end DbClient

end UntitledGame.Server
