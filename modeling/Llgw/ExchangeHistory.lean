import Llgw.Exchange
import Llgw.Foundation.TransitionRun

/-!
# The exchange as the fold of its history

Runs of the three operations of the exchange on its own.  The seen set and the
active-order store are explained by the history of calls and replies: which
submission of an id was accepted, and what cancels and amendments of it have
been accepted since.
-/

namespace Llgw.ExchangeHistory

open Llgw.Foundation.TransitionRun
open Llgw.Foundation.KeyedStore
open Llgw.Messages
open Llgw.Exchange

inductive ExchangeCall where
  | submitOrder (request : OrderRequest)
  | cancelOrder (request : CancelRequest)
  | amendOrder (request : AmendRequest)

inductive ExchangeReply where
  | submitted (response : OrderResponse)
  | cancelled (response : CancelResponse)
  | amended (response : AmendResponse)

/-- One call on the exchange. -/
def exchangeStep (exchange : ExchangeSimulator) :
    ExchangeCall → ExchangeReply × ExchangeSimulator
  | .submitOrder request =>
      let result := exchange.submitOrder request
      (.submitted result.1, result.2)
  | .cancelOrder request =>
      let result := exchange.cancelOrder request
      (.cancelled result.1, result.2)
  | .amendOrder request =>
      let result := exchange.amendOrder request
      (.amended result.1, result.2)

abbrev ExchangeEvent :=
  Event ExchangeSimulator ExchangeCall ExchangeReply

/-- The history of a sequence of calls on a new exchange. -/
def historyOf (calls : List ExchangeCall) : List ExchangeEvent :=
  events exchangeStep {} calls

/-- The exchange after a sequence of calls on a new one. -/
def exchangeAfter (calls : List ExchangeCall) : ExchangeSimulator :=
  run exchangeStep {} calls

/-! ## What a history contains -/

/-- The accepted submission that an event is, if it is one. -/
def acceptedSubmission (event : ExchangeEvent) : Option OrderRequest :=
  match event.input, event.output with
  | .submitOrder request, .submitted response =>
      if response.accepted then some request else none
  | _, _ => none

/-- The submission with valid fields that an event is, if it is one. -/
def validSubmission (event : ExchangeEvent) : Option OrderRequest :=
  match event.input with
  | .submitOrder request =>
      if ValidOrder request then some request else none
  | _ => none

/-- The accepted cancel that an event is, if it is one. -/
def acceptedCancel (event : ExchangeEvent) : Option CancelRequest :=
  match event.input, event.output with
  | .cancelOrder request, .cancelled response =>
      if response.accepted then some request else none
  | _, _ => none

/-- The accepted amendment that an event is, if it is one. -/
def acceptedAmend (event : ExchangeEvent) : Option AmendRequest :=
  match event.input, event.output with
  | .amendOrder request, .amended response =>
      if response.accepted then some request else none
  | _, _ => none

/-- The accepted submissions of an id, oldest first. -/
def submissionsOf (sequenceId : UInt64) (history : List ExchangeEvent) :
    List OrderRequest :=
  (history.filterMap acceptedSubmission).filter fun request =>
    request.sequenceId == sequenceId

/-- The submissions of an id with valid fields, oldest first. -/
def validSubmissionsOf (sequenceId : UInt64)
    (history : List ExchangeEvent) : List OrderRequest :=
  (history.filterMap validSubmission).filter fun request =>
    request.sequenceId == sequenceId

/-- The accepted cancels of an id, oldest first. -/
def cancelsOf (sequenceId : UInt64) (history : List ExchangeEvent) :
    List CancelRequest :=
  (history.filterMap acceptedCancel).filter fun request =>
    request.sequenceId == sequenceId

/-- The accepted amendments of an id, oldest first. -/
def amendsOf (sequenceId : UInt64) (history : List ExchangeEvent) :
    List AmendRequest :=
  (history.filterMap acceptedAmend).filter fun request =>
    request.sequenceId == sequenceId

/-- The history goes on with `later` after accepting the submission. -/
def AcceptedBefore (history : List ExchangeEvent) (request : OrderRequest)
    (later : List ExchangeEvent) : Prop :=
  ∃ earlier event,
    history = earlier ++ event :: later ∧
      acceptedSubmission event = some request

theorem AcceptedBefore.concat {history later : List ExchangeEvent}
    {request : OrderRequest}
    (accepted : AcceptedBefore history request later)
    (event : ExchangeEvent) :
    AcceptedBefore (history ++ [event]) request (later ++ [event]) := by
  rcases accepted with ⟨earlier, first, rfl, submission⟩
  refine ⟨earlier, first, ?_, submission⟩
  rw [List.append_assoc, List.cons_append]

theorem acceptedBefore_last (history : List ExchangeEvent)
    {event : ExchangeEvent} {request : OrderRequest}
    (submission : acceptedSubmission event = some request) :
    AcceptedBefore (history ++ [event]) request [] :=
  ⟨history, event, rfl, submission⟩

/-- An accepted submission is the last event or an earlier one. -/
theorem AcceptedBefore.of_concat {history later : List ExchangeEvent}
    {event : ExchangeEvent} {request : OrderRequest}
    (accepted : AcceptedBefore (history ++ [event]) request later) :
    (later = [] ∧ acceptedSubmission event = some request) ∨
      ∃ past, later = past ++ [event] ∧
        AcceptedBefore history request past := by
  rcases accepted with ⟨earlier, first, split, submission⟩
  rcases List.eq_nil_or_concat' later with rfl | ⟨past, last, rfl⟩
  · rcases List.append_inj' split rfl with ⟨_, same⟩
    obtain rfl := (List.cons.inj same).1
    exact Or.inl ⟨rfl, submission⟩
  · rw [← List.cons_append, ← List.append_assoc] at split
    rcases List.append_inj' split rfl with ⟨rfl, same⟩
    obtain rfl := (List.cons.inj same).1
    exact Or.inr ⟨past, rfl, earlier, first, rfl, submission⟩

/-! ## The effects of the operations -/

/-- One call with its reply; a refused call has no effect. -/
inductive ExchangeEffect (exchange : ExchangeSimulator) :
    ExchangeCall → ExchangeReply → ExchangeSimulator → Prop where
  | submitted {request : OrderRequest} (valid : ValidOrder request)
      (unseen : request.sequenceId ∉ exchange.seenSequenceIds) :
      ExchangeEffect exchange (.submitOrder request)
        (.submitted
          { sequenceId := request.sequenceId, accepted := true,
            rejectReason := .none })
        { seenSequenceIds :=
            insert request.sequenceId exchange.seenSequenceIds
          activeOrders :=
            (emplace request.sequenceId request
              exchange.activeOrders).2 }
  | submissionRefused {request : OrderRequest} {reason : OrderRejectReason}
      (refused :
        ¬ (ValidOrder request ∧
          request.sequenceId ∉ exchange.seenSequenceIds))
      (given : reason ≠ .none) :
      ExchangeEffect exchange (.submitOrder request)
        (.submitted
          { sequenceId := request.sequenceId, accepted := false,
            rejectReason := reason })
        exchange
  | cancelled {request : CancelRequest} {order : OrderRequest}
      (active :
        exchange.activeOrders.lookup request.sequenceId = some order) :
      ExchangeEffect exchange (.cancelOrder request)
        (.cancelled
          { sequenceId := request.sequenceId, accepted := true,
            rejectReason := .none })
        { exchange with
          activeOrders := exchange.activeOrders.erase request.sequenceId }
  | cancelRefused {request : CancelRequest} {reason : CancelRejectReason}
      (given : reason ≠ .none) :
      ExchangeEffect exchange (.cancelOrder request)
        (.cancelled
          { sequenceId := request.sequenceId, accepted := false,
            rejectReason := reason })
        exchange
  | amended {request : AmendRequest} {order : OrderRequest}
      (active :
        exchange.activeOrders.lookup request.sequenceId = some order)
      (valid : ValidAmend request) :
      ExchangeEffect exchange (.amendOrder request)
        (.amended
          { sequenceId := request.sequenceId, accepted := true,
            rejectReason := .none })
        { exchange with
          activeOrders :=
            exchange.activeOrders.insert request.sequenceId
              (amendedOrder order request) }
  | amendRefused {request : AmendRequest} {reason : AmendRejectReason}
      (given : reason ≠ .none) :
      ExchangeEffect exchange (.amendOrder request)
        (.amended
          { sequenceId := request.sequenceId, accepted := false,
            rejectReason := reason })
        exchange

theorem exchangeStep_effect (exchange : ExchangeSimulator)
    (call : ExchangeCall) :
    ExchangeEffect exchange call (exchangeStep exchange call).1
      (exchangeStep exchange call).2 := by
  cases call with
  | submitOrder request =>
      by_cases passes :
          ValidOrder request ∧
            request.sequenceId ∉ exchange.seenSequenceIds
      · simp only [exchangeStep,
          ExchangeSimulator.submitOrder_of_accepts passes.1 passes.2]
        exact .submitted passes.1 passes.2
      · obtain ⟨reason, given, _, result⟩ :=
          ExchangeSimulator.submitOrder_of_rejects passes
        simp only [exchangeStep, result]
        exact .submissionRefused passes given
  | cancelOrder request =>
      cases active : exchange.activeOrders.lookup request.sequenceId with
      | none =>
          simp only [exchangeStep,
            ExchangeSimulator.cancelOrder_of_inactive active]
          exact .cancelRefused (by simp)
      | some order =>
          simp only [exchangeStep,
            ExchangeSimulator.cancelOrder_of_active active]
          exact .cancelled active
  | amendOrder request =>
      cases active : exchange.activeOrders.lookup request.sequenceId with
      | none =>
          simp only [exchangeStep,
            ExchangeSimulator.amendOrder_of_inactive active]
          exact .amendRefused (by simp)
      | some order =>
          by_cases valid : ValidAmend request
          · simp only [exchangeStep,
              ExchangeSimulator.amendOrder_of_accepts active valid]
            exact .amended active valid
          · obtain ⟨reason, given, _, _, result⟩ :=
              ExchangeSimulator.amendOrder_of_invalid active valid
            simp only [exchangeStep, result]
            exact .amendRefused given

/-! ## The exchange explained by its history -/

/--
The exchange explained by its history.  An active order is its accepted
submission rewritten by the amendments accepted since, and every accepted
submission without an accepted cancel since is active.
-/
structure Explained (history : List ExchangeEvent)
    (exchange : ExchangeSimulator) : Prop where
  seen :
    ∀ sequenceId, sequenceId ∈ exchange.seenSequenceIds ↔
      validSubmissionsOf sequenceId history ≠ []
  first :
    ∀ sequenceId,
      submissionsOf sequenceId history =
        (validSubmissionsOf sequenceId history).take 1
  active :
    ∀ sequenceId order,
      exchange.activeOrders.lookup sequenceId = some order →
        ∃ request later,
          AcceptedBefore history request later ∧
            request.sequenceId = sequenceId ∧
            cancelsOf sequenceId later = [] ∧
            order =
              (amendsOf sequenceId later).foldl amendedOrder request
  alive :
    ∀ request later, AcceptedBefore history request later →
      cancelsOf request.sequenceId later = [] →
        request.sequenceId ∈ exchange.activeOrders
  subset :
    ∀ sequenceId ∈ exchange.activeOrders,
      sequenceId ∈ exchange.seenSequenceIds
  valid :
    ∀ sequenceId order,
      exchange.activeOrders.lookup sequenceId = some order →
        ValidOrder order
  count :
    exchange.activeOrderCount +
        (history.filterMap acceptedCancel).length =
      (history.filterMap acceptedSubmission).length

theorem explained_fresh : Explained [] {} where
  seen := by simp [validSubmissionsOf]
  first := by simp [submissionsOf, validSubmissionsOf]
  active := by simp
  alive := by
    rintro request later ⟨earlier, event, split, _⟩
    simp at split
  subset := fun _ member => absurd member Finmap.notMem_empty
  valid := by simp
  count := rfl

section Steps

variable {history : List ExchangeEvent} {exchange : ExchangeSimulator}
  {event : ExchangeEvent}

theorem submissionsOf_concat (sequenceId : UInt64) :
    submissionsOf sequenceId (history ++ [event]) =
      submissionsOf sequenceId history ++
        submissionsOf sequenceId [event] := by
  simp only [submissionsOf, List.filterMap_append, List.filter_append]

theorem validSubmissionsOf_concat (sequenceId : UInt64) :
    validSubmissionsOf sequenceId (history ++ [event]) =
      validSubmissionsOf sequenceId history ++
        validSubmissionsOf sequenceId [event] := by
  simp only [validSubmissionsOf, List.filterMap_append,
    List.filter_append]

theorem cancelsOf_concat (sequenceId : UInt64) :
    cancelsOf sequenceId (history ++ [event]) =
      cancelsOf sequenceId history ++ cancelsOf sequenceId [event] := by
  simp only [cancelsOf, List.filterMap_append, List.filter_append]

theorem amendsOf_concat (sequenceId : UInt64) :
    amendsOf sequenceId (history ++ [event]) =
      amendsOf sequenceId history ++ amendsOf sequenceId [event] := by
  simp only [amendsOf, List.filterMap_append, List.filter_append]

theorem length_filterMap_concat {Value : Type}
    (select : ExchangeEvent → Option Value) :
    ((history ++ [event]).filterMap select).length =
      (history.filterMap select).length +
        if (select event).isSome then 1 else 0 := by
  rw [List.filterMap_append, List.length_append]
  cases selected : select event <;> simp [selected]

variable (explained : Explained history exchange)
include explained

/-- One more event leaves an active order, or rewrites it. -/
theorem Explained.active_concat {sequenceId : UInt64}
    {order rewritten : OrderRequest}
    (found : exchange.activeOrders.lookup sequenceId = some order)
    (uncancelled : cancelsOf sequenceId [event] = [])
    (terms :
      rewritten =
        (amendsOf sequenceId [event]).foldl amendedOrder order) :
    ∃ request later,
      AcceptedBefore (history ++ [event]) request later ∧
        request.sequenceId = sequenceId ∧
        cancelsOf sequenceId later = [] ∧
        rewritten =
          (amendsOf sequenceId later).foldl amendedOrder request := by
  obtain ⟨request, later, accepted, same, cancels, earlier⟩ :=
    explained.active sequenceId order found
  refine ⟨request, later ++ [event], accepted.concat event, same, ?_, ?_⟩
  · rw [cancelsOf_concat, cancels, uncancelled]
    rfl
  · rw [amendsOf_concat, List.foldl_append, ← earlier]
    exact terms

/-- What is alive after one more event was accepted by it or was active. -/
theorem Explained.alive_concat {request : OrderRequest}
    {later : List ExchangeEvent}
    (accepted : AcceptedBefore (history ++ [event]) request later)
    (cancels : cancelsOf request.sequenceId later = []) :
    acceptedSubmission event = some request ∨
      request.sequenceId ∈ exchange.activeOrders ∧
        cancelsOf request.sequenceId [event] = [] := by
  rcases accepted.of_concat with ⟨_, last⟩ | ⟨past, rfl, before⟩
  · exact Or.inl last
  · rw [cancelsOf_concat, List.append_eq_nil_iff] at cancels
    exact Or.inr ⟨explained.alive request past before cancels.1, cancels.2⟩

theorem Explained.seen_concat (validity : validSubmission event = none)
    (sequenceId : UInt64) :
    sequenceId ∈ exchange.seenSequenceIds ↔
      validSubmissionsOf sequenceId (history ++ [event]) ≠ [] := by
  rw [validSubmissionsOf_concat]
  simpa [validSubmissionsOf, validity] using explained.seen sequenceId

theorem Explained.first_concat
    (submission : acceptedSubmission event = none)
    (validity : validSubmission event = none) (sequenceId : UInt64) :
    submissionsOf sequenceId (history ++ [event]) =
      (validSubmissionsOf sequenceId (history ++ [event])).take 1 := by
  rw [submissionsOf_concat, validSubmissionsOf_concat]
  simpa [submissionsOf, validSubmissionsOf, submission, validity] using
    explained.first sequenceId

/-- A refused event is explained when it is no first valid submission. -/
theorem Explained.refused
    (submission : acceptedSubmission event = none)
    (cancel : acceptedCancel event = none)
    (amend : acceptedAmend event = none)
    (known :
      ∀ sequenceId, validSubmissionsOf sequenceId [event] ≠ [] →
        sequenceId ∈ exchange.seenSequenceIds) :
    Explained (history ++ [event]) exchange where
  seen sequenceId := by
    rw [validSubmissionsOf_concat, Ne, List.append_eq_nil_iff, not_and_or]
    constructor
    · exact fun member => Or.inl ((explained.seen sequenceId).mp member)
    · rintro (past | last)
      · exact (explained.seen sequenceId).mpr past
      · exact known sequenceId last
  first sequenceId := by
    have none : submissionsOf sequenceId [event] = [] := by
      simp [submissionsOf, submission]
    rw [submissionsOf_concat, none, List.append_nil, explained.first,
      validSubmissionsOf_concat]
    by_cases new : validSubmissionsOf sequenceId [event] = []
    · rw [new, List.append_nil]
    · have old := (explained.seen sequenceId).mp (known sequenceId new)
      rw [List.take_append_of_le_length (List.length_pos_iff.mpr old)]
  active sequenceId order found := by
    apply explained.active_concat found
    · simp [cancelsOf, cancel]
    · simp [amendsOf, amend]
  alive request later accepted cancels := by
    rcases explained.alive_concat accepted cancels with last | ⟨active, _⟩
    · rw [submission] at last
      contradiction
    · exact active
  subset := explained.subset
  valid := explained.valid
  count := by
    rw [length_filterMap_concat, length_filterMap_concat, submission,
      cancel]
    exact explained.count

theorem Explained.submitted {request : OrderRequest}
    (valid : ValidOrder request)
    (unseen : request.sequenceId ∉ exchange.seenSequenceIds)
    (submission : acceptedSubmission event = some request)
    (validity : validSubmission event = some request)
    (cancel : acceptedCancel event = none)
    (amend : acceptedAmend event = none) :
    Explained (history ++ [event])
      { seenSequenceIds :=
          insert request.sequenceId exchange.seenSequenceIds
        activeOrders :=
          exchange.activeOrders.insert request.sequenceId request } where
  seen sequenceId := by
    have last :
        sequenceId = request.sequenceId ↔
          validSubmissionsOf sequenceId [event] ≠ [] := by
      rcases eq_or_ne request.sequenceId sequenceId with rfl | other
      · simp [validSubmissionsOf, validity]
      · simp [validSubmissionsOf, validity, other, other.symm]
    rw [Finset.mem_insert, explained.seen, validSubmissionsOf_concat, last,
      or_comm]
    exact not_and_or.symm.trans (not_congr List.append_eq_nil_iff.symm)
  first sequenceId := by
    rw [submissionsOf_concat, validSubmissionsOf_concat, explained.first]
    by_cases same : request.sequenceId = sequenceId
    · subst same
      have none : validSubmissionsOf request.sequenceId history = [] := by
        by_contra some
        exact unseen ((explained.seen _).mpr some)
      rw [none]
      simp [submissionsOf, validSubmissionsOf, submission, validity]
    · simp [submissionsOf, validSubmissionsOf, submission, validity, same]
  active sequenceId order found := by
    rw [lookup_insert_eq_ite] at found
    split_ifs at found with same
    · obtain rfl := Option.some.inj found
      exact ⟨request, [], acceptedBefore_last history submission,
        same.symm, rfl, rfl⟩
    · apply explained.active_concat found
      · simp [cancelsOf, cancel]
      · simp [amendsOf, amend]
  alive first later accepted cancels := by
    rw [Finmap.mem_insert]
    rcases explained.alive_concat accepted cancels with last | ⟨active, _⟩
    · rw [submission] at last
      exact Or.inl (congrArg _ (Option.some.inj last)).symm
    · exact Or.inr active
  subset sequenceId member := by
    rw [Finmap.mem_insert] at member
    rw [Finset.mem_insert]
    exact member.imp_right (explained.subset sequenceId)
  valid sequenceId order found := by
    rw [lookup_insert_eq_ite] at found
    split_ifs at found
    · exact Option.some.inj found ▸ valid
    · exact explained.valid sequenceId order found
  count := by
    have inactive : request.sequenceId ∉ exchange.activeOrders :=
      fun member => unseen (explained.subset _ member)
    have count := explained.count
    rw [length_filterMap_concat, length_filterMap_concat, submission,
      cancel]
    simp only [ExchangeSimulator.activeOrderCount,
      card_keys_insert_of_notMem inactive, Option.isSome_none,
      Option.isSome_some, Bool.false_eq_true, if_false, if_true]
      at count ⊢
    omega

theorem Explained.cancelled {request : CancelRequest}
    (active : request.sequenceId ∈ exchange.activeOrders)
    (submission : acceptedSubmission event = none)
    (validity : validSubmission event = none)
    (cancel : acceptedCancel event = some request)
    (amend : acceptedAmend event = none) :
    Explained (history ++ [event])
      { exchange with
        activeOrders :=
          exchange.activeOrders.erase request.sequenceId } where
  seen := explained.seen_concat validity
  first := explained.first_concat submission validity
  active sequenceId order found := by
    rw [lookup_erase_eq_ite] at found
    split_ifs at found with same
    apply explained.active_concat found
    · simp [cancelsOf, cancel, Ne.symm same]
    · simp [amendsOf, amend]
  alive first later accepted cancels := by
    rcases explained.alive_concat accepted cancels with
      last | ⟨active, uncancelled⟩
    · rw [submission] at last
      contradiction
    · have other : first.sequenceId ≠ request.sequenceId := by
        intro same
        simp [cancelsOf, cancel, same] at uncancelled
      exact Finmap.mem_erase.mpr ⟨other, active⟩
  subset sequenceId member :=
    explained.subset sequenceId (Finmap.mem_erase.mp member).2
  valid sequenceId order found := by
    rw [lookup_erase_eq_ite] at found
    split_ifs at found
    exact explained.valid sequenceId order found
  count := by
    have count := explained.count
    have erased := card_keys_erase_of_mem active
    rw [length_filterMap_concat, length_filterMap_concat, submission,
      cancel]
    simp only [ExchangeSimulator.activeOrderCount, Option.isSome_none,
      Option.isSome_some, Bool.false_eq_true, if_false, if_true]
      at count ⊢
    omega

theorem Explained.amended {request : AmendRequest} {order : OrderRequest}
    (active :
      exchange.activeOrders.lookup request.sequenceId = some order)
    (valid : ValidAmend request)
    (submission : acceptedSubmission event = none)
    (validity : validSubmission event = none)
    (cancel : acceptedCancel event = none)
    (amend : acceptedAmend event = some request) :
    Explained (history ++ [event])
      { exchange with
        activeOrders :=
          exchange.activeOrders.insert request.sequenceId
            (amendedOrder order request) } where
  seen := explained.seen_concat validity
  first := explained.first_concat submission validity
  active sequenceId found present := by
    rw [lookup_insert_eq_ite] at present
    split_ifs at present with same
    · subst same
      obtain rfl := Option.some.inj present
      apply explained.active_concat active
      · simp [cancelsOf, cancel]
      · simp [amendsOf, amend]
    · apply explained.active_concat present
      · simp [cancelsOf, cancel]
      · simp [amendsOf, amend, Ne.symm same]
  alive first later accepted cancels := by
    rw [Finmap.mem_insert]
    rcases explained.alive_concat accepted cancels with last | ⟨old, _⟩
    · rw [submission] at last
      contradiction
    · exact Or.inr old
  subset sequenceId member := by
    rw [Finmap.mem_insert] at member
    rcases member with rfl | old
    · exact explained.subset _ (Finmap.mem_of_lookup_eq_some active)
    · exact explained.subset sequenceId old
  valid sequenceId found present := by
    rw [lookup_insert_eq_ite] at present
    split_ifs at present
    · obtain rfl := Option.some.inj present
      exact
        { symbol := (explained.valid _ order active).symbol
          price := valid.price
          quantity := valid.quantity }
    · exact explained.valid sequenceId found present
  count := by
    have count := explained.count
    have present := Finmap.mem_of_lookup_eq_some active
    rw [length_filterMap_concat, length_filterMap_concat, submission,
      cancel]
    simpa only [ExchangeSimulator.activeOrderCount,
      card_keys_insert_of_mem present, Option.isSome_none,
      Bool.false_eq_true, if_false, Nat.add_zero] using count

/-- The step lemma: one more call and its reply explain the new state. -/
theorem Explained.effect {call : ExchangeCall} {reply : ExchangeReply}
    {after : ExchangeSimulator}
    (effect : ExchangeEffect exchange call reply after) :
    Explained (history ++ [⟨exchange, call, reply, after⟩]) after := by
  cases effect with
  | submitted valid unseen =>
      have inactive :=
        fun member => unseen (explained.subset _ member)
      rw [emplace_of_notMem inactive]
      exact explained.submitted valid unseen rfl (if_pos valid) rfl rfl
  | @submissionRefused request reason refused given =>
      refine explained.refused rfl rfl rfl fun sequenceId new => ?_
      by_cases valid : ValidOrder request
      · have same : request.sequenceId = sequenceId := by
          by_contra other
          simp [validSubmissionsOf, validSubmission, valid, other] at new
        subst same
        exact Classical.not_not.mp fun unseen => refused ⟨valid, unseen⟩
      · simp [validSubmissionsOf, validSubmission, valid] at new
  | cancelled active =>
      have present := Finmap.mem_of_lookup_eq_some active
      exact explained.cancelled present rfl rfl rfl rfl
  | amended active valid =>
      exact explained.amended active valid rfl rfl rfl rfl
  | cancelRefused =>
      exact explained.refused rfl rfl rfl fun _ new => absurd rfl new
  | amendRefused =>
      exact explained.refused rfl rfl rfl fun _ new => absurd rfl new

end Steps

/-- The run lemma: the exchange is always explained by its history. -/
theorem explained_run (calls : List ExchangeCall) :
    Explained (historyOf calls) (exchangeAfter calls) :=
  run_history_induction exchangeStep (motive := Explained)
    explained_fresh
    (fun _ exchange call explained =>
      explained.effect (exchangeStep_effect exchange call))
    calls

/-! ## The replies -/

/-- The reply repeats the id, and gives a reason exactly if it refuses. -/
def Answers : ExchangeCall → ExchangeReply → Prop
  | .submitOrder request, .submitted response =>
      response.sequenceId = request.sequenceId ∧
        (response.rejectReason = .none ↔ response.accepted = true)
  | .cancelOrder request, .cancelled response =>
      response.sequenceId = request.sequenceId ∧
        (response.rejectReason = .none ↔ response.accepted = true)
  | .amendOrder request, .amended response =>
      response.sequenceId = request.sequenceId ∧
        (response.rejectReason = .none ↔ response.accepted = true)
  | _, _ => False

/-- Whether a reply accepts. -/
def ExchangeReply.accepted : ExchangeReply → Bool
  | .submitted response => response.accepted
  | .cancelled response => response.accepted
  | .amended response => response.accepted

theorem ExchangeEffect.answers {exchange after : ExchangeSimulator}
    {call : ExchangeCall} {reply : ExchangeReply}
    (effect : ExchangeEffect exchange call reply after) :
    Answers call reply := by
  cases effect with
  | submitted | cancelled | amended => exact ⟨rfl, by simp⟩
  | submissionRefused _ given => exact ⟨rfl, by simp [given]⟩
  | cancelRefused given | amendRefused given =>
      exact ⟨rfl, by simp [given]⟩

theorem ExchangeEffect.unchanged {exchange after : ExchangeSimulator}
    {call : ExchangeCall} {reply : ExchangeReply}
    (effect : ExchangeEffect exchange call reply after)
    (refused : reply.accepted = false) : after = exchange := by
  cases effect with
  | submitted | cancelled | amended => contradiction
  | submissionRefused | cancelRefused | amendRefused => rfl

/-! ## The fold of the history -/

/-- The terms of an order after amendments of a submission. -/
theorem foldl_amendedOrder (submission : OrderRequest)
    (amends : List AmendRequest) :
    let order := amends.foldl amendedOrder submission
    order.sequenceId = submission.sequenceId ∧
      order.symbol = submission.symbol ∧ order.side = submission.side ∧
      (order.price, order.quantity) =
        match amends.getLast? with
        | some last => (last.newPrice, last.newQuantity)
        | none => (submission.price, submission.quantity) := by
  intro order
  induction amends using List.reverseRecOn with
  | nil => exact ⟨rfl, rfl, rfl, rfl⟩
  | append_singleton earlier last induction =>
      simp only [order, List.foldl_append, List.getLast?_append,
        List.foldl_cons, List.foldl_nil]
      exact ⟨induction.1, induction.2.1, induction.2.2.1, rfl⟩

/--
After every sequence of calls on a new exchange, with its history: at most one
submission of an id was accepted, the first with valid fields; an id is active
exactly if it was accepted and not cancelled since; an active order has the
identity of its submission and the terms of the latest accepted amendment; it
is valid; refused calls have no effect and every reply answers its call; and
the number of active orders is that of accepted submissions less that of
accepted cancels.
-/
theorem run_is_fold_of_history (calls : List ExchangeCall) :
    let history := historyOf calls
    let exchange := exchangeAfter calls
    (∀ sequenceId,
        submissionsOf sequenceId history =
          (validSubmissionsOf sequenceId history).take 1) ∧
      (∀ sequenceId, exchange.hasActiveOrder sequenceId = true ↔
        ∃ submission later,
          AcceptedBefore history submission later ∧
            submission.sequenceId = sequenceId ∧
            cancelsOf sequenceId later = []) ∧
      (∀ sequenceId order,
        exchange.findActiveOrder sequenceId = some order →
          ∃ submission later,
            AcceptedBefore history submission later ∧
              submission.sequenceId = sequenceId ∧
              order.sequenceId = sequenceId ∧
              order.symbol = submission.symbol ∧
              order.side = submission.side ∧
              (order.price, order.quantity) =
                match (amendsOf sequenceId later).getLast? with
                | some last => (last.newPrice, last.newQuantity)
                | none => (submission.price, submission.quantity)) ∧
      (∀ sequenceId order,
        exchange.findActiveOrder sequenceId = some order →
          order.symbol.view ≠ [] ∧ order.price.isFinite = true ∧
            0.0 < order.price ∧ order.quantity ≠ 0) ∧
      (∀ event ∈ history,
        (event.output.accepted = false → event.after = event.before) ∧
          Answers event.input event.output) ∧
      ((history.filterMap acceptedCancel).length ≤
          (history.filterMap acceptedSubmission).length ∧
        exchange.activeOrderCount =
          (history.filterMap acceptedSubmission).length -
            (history.filterMap acceptedCancel).length) := by
  intro history exchange
  have explained : Explained history exchange := explained_run calls
  refine ⟨explained.first, fun sequenceId => ?_, ?_, ?_, ?_, ?_⟩
  · rw [ExchangeSimulator.hasActiveOrder_iff]
    constructor
    · intro member
      rcases Finmap.mem_iff.mp member with ⟨order, found⟩
      obtain ⟨submission, later, accepted, same, cancels, _⟩ :=
        explained.active sequenceId order found
      exact ⟨submission, later, accepted, same, cancels⟩
    · rintro ⟨submission, later, accepted, rfl, cancels⟩
      exact explained.alive submission later accepted cancels
  · intro sequenceId order found
    obtain ⟨submission, later, accepted, same, _, rfl⟩ :=
      explained.active sequenceId order found
    have terms :=
      foldl_amendedOrder submission (amendsOf sequenceId later)
    exact ⟨submission, later, accepted, same, terms.1.trans same,
      terms.2.1, terms.2.2.1, terms.2.2.2⟩
  · intro sequenceId order found
    have valid := explained.valid sequenceId order found
    exact ⟨valid.symbol, valid.price.1, validPrice_pos valid.price,
      valid.quantity⟩
  · exact
      events_forall_of_step exchangeStep _
        (fun exchange call =>
          have effect := exchangeStep_effect exchange call
          ⟨effect.unchanged, effect.answers⟩)
        _ calls
  · have count := explained.count
    constructor <;> omega

end Llgw.ExchangeHistory
