import Llgw.Lifecycle

/-!
# Agreement of a queue, a life cycle and a book

The abstract view of the order path: every id has at most one phase, some ids
wait in a queue, some are active in a book and some have been seen by it.
`Agreement` says that the three views describe the same ids.  It is kept by
the five moves an order can make between two calls; which of the components
make which move is the business of later modules.
-/

namespace Llgw.OrderAgreement

open Llgw.Lifecycle

universe u

variable {Id : Type u}

/-- The states in which an order may be found between two calls. -/
def Settled (state : OrderLifecycleState) : Prop :=
  state ≠ .created ∧ state ≠ .sent ∧ state ≠ .cancelPending ∧
    state ≠ .amendPending

/-- The states an order may leave the queue for without being accepted. -/
def Refused (state : OrderLifecycleState) : Prop :=
  state = .riskRejected ∨ state = .exchangeRejected

/--
The three-way agreement: active ids are the accepted ones, seen ids are those
accepted once, and the queue lists every queued id once.
-/
structure Agreement (phase : Id → Option OrderLifecycleState)
    (queue : List Id) (active seen : Finset Id) : Prop where
  active_iff : ∀ id, id ∈ active ↔ phase id = some .exchangeAccepted
  seen_iff :
    ∀ id, id ∈ seen ↔
      phase id = some .exchangeAccepted ∨ phase id = some .cancelled
  queued_iff : ∀ id, id ∈ queue ↔ phase id = some .queued
  nodup : queue.Nodup
  settled : ∀ id state, phase id = some state → Settled state

namespace Agreement

variable {phase : Id → Option OrderLifecycleState} {queue rest : List Id}
  {active seen : Finset Id} {id : Id}

theorem initial :
    Agreement (fun _ : Id => none) [] ∅ ∅ where
  active_iff := by simp
  seen_iff := by simp
  queued_iff := by simp
  nodup := List.nodup_nil
  settled := by simp

theorem head_queued
    (agreement : Agreement phase (id :: rest) active seen) :
    phase id = some .queued :=
  (agreement.queued_iff id).mp List.mem_cons_self

/-- An id that waits in the queue has not been seen. -/
theorem notMem_seen_of_head
    (agreement : Agreement phase (id :: rest) active seen) :
    id ∉ seen := by
  rw [agreement.seen_iff, agreement.head_queued]
  simp

/-- An id that waits in the queue is not active. -/
theorem notMem_active_of_head
    (agreement : Agreement phase (id :: rest) active seen) :
    id ∉ active := by
  rw [agreement.active_iff, agreement.head_queued]
  simp

variable [DecidableEq Id]

/-- The queue after its head has left it for another phase. -/
theorem queued_iff_of_left
    (agreement : Agreement phase (id :: rest) active seen)
    {state : OrderLifecycleState} (left : state ≠ .queued) (other : Id) :
    other ∈ rest ↔
      Function.update phase id (some state) other = some .queued := by
  have distinct := List.nodup_cons.mp agreement.nodup
  rcases eq_or_ne other id with rfl | different
  · simp [distinct.1, left]
  · rw [Function.update_of_ne different, ← agreement.queued_iff other,
      List.mem_cons]
    exact ⟨Or.inr, fun member => member.resolve_left different⟩

theorem settled_update
    (agreement : Agreement phase queue active seen)
    {state : OrderLifecycleState} (stays : Settled state) :
    ∀ other found,
      Function.update phase id (some state) other = some found →
        Settled found := by
  intro other found equal
  rcases eq_or_ne other id with rfl | different
  · rw [Function.update_self] at equal
    exact Option.some.inj equal ▸ stays
  · rw [Function.update_of_ne different] at equal
    exact agreement.settled other found equal

/-- A new id joins the back of the queue. -/
theorem join
    (agreement : Agreement phase queue active seen)
    (unknown : phase id = none) :
    Agreement (Function.update phase id (some .queued)) (queue ++ [id])
      active seen where
  active_iff other := by
    rcases eq_or_ne other id with rfl | different
    · simp [agreement.active_iff, unknown]
    · rw [Function.update_of_ne different, agreement.active_iff]
  seen_iff other := by
    rcases eq_or_ne other id with rfl | different
    · simp [agreement.seen_iff, unknown]
    · rw [Function.update_of_ne different, agreement.seen_iff]
  queued_iff other := by
    rcases eq_or_ne other id with rfl | different
    · simp
    · simp [agreement.queued_iff, different]
  nodup := by
    refine List.nodup_append.mpr
      ⟨agreement.nodup, List.nodup_singleton _, ?_⟩
    intro first member second single equal
    rw [List.mem_singleton.mp single] at equal
    subst equal
    rw [agreement.queued_iff, unknown] at member
    contradiction
  settled := agreement.settled_update (by simp [Settled])

/-- The head of the queue is refused. -/
theorem refuse
    (agreement : Agreement phase (id :: rest) active seen)
    {state : OrderLifecycleState} (refused : Refused state) :
    Agreement (Function.update phase id (some state)) rest active seen where
  active_iff other := by
    rcases eq_or_ne other id with rfl | different
    · rw [agreement.active_iff, agreement.head_queued]
      rcases refused with rfl | rfl <;> simp
    · rw [Function.update_of_ne different, agreement.active_iff]
  seen_iff other := by
    rcases eq_or_ne other id with rfl | different
    · rw [agreement.seen_iff, agreement.head_queued]
      rcases refused with rfl | rfl <;> simp
    · rw [Function.update_of_ne different, agreement.seen_iff]
  queued_iff :=
    agreement.queued_iff_of_left (by rcases refused with rfl | rfl <;> simp)
  nodup := (List.nodup_cons.mp agreement.nodup).2
  settled :=
    agreement.settled_update
      (by rcases refused with rfl | rfl <;> simp [Settled])

/-- The head of the queue is accepted: it is seen and active from now on. -/
theorem accept
    (agreement : Agreement phase (id :: rest) active seen) :
    Agreement (Function.update phase id (some .exchangeAccepted)) rest
      (insert id active) (insert id seen) where
  active_iff other := by
    rcases eq_or_ne other id with rfl | different
    · simp
    · rw [Function.update_of_ne different, Finset.mem_insert,
        agreement.active_iff]
      simp [different]
  seen_iff other := by
    rcases eq_or_ne other id with rfl | different
    · simp
    · rw [Function.update_of_ne different, Finset.mem_insert,
        agreement.seen_iff]
      simp [different]
  queued_iff := agreement.queued_iff_of_left (by simp)
  nodup := (List.nodup_cons.mp agreement.nodup).2
  settled := agreement.settled_update (by simp [Settled])

/-- An accepted order is cancelled: it stays seen. -/
theorem cancel
    (agreement : Agreement phase queue active seen)
    (accepted : phase id = some .exchangeAccepted) :
    Agreement (Function.update phase id (some .cancelled)) queue
      (active.erase id) seen where
  active_iff other := by
    rcases eq_or_ne other id with rfl | different
    · simp
    · rw [Function.update_of_ne different, Finset.mem_erase,
        agreement.active_iff]
      simp [different]
  seen_iff other := by
    rcases eq_or_ne other id with rfl | different
    · simp [agreement.seen_iff, accepted]
    · rw [Function.update_of_ne different, agreement.seen_iff]
  queued_iff other := by
    rcases eq_or_ne other id with rfl | different
    · simp [agreement.queued_iff, accepted]
    · rw [Function.update_of_ne different, agreement.queued_iff]
  nodup := agreement.nodup
  settled := agreement.settled_update (by simp [Settled])

end Agreement

end Llgw.OrderAgreement
