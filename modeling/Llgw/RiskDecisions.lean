import Llgw.Foundation.GuardChain
import Llgw.RiskFailClosed

/-!
# Decisions and counters of the risk check

The documented tests of `PreTradeRiskManager` form a chain of guards over
the configured limits.  `Check` decides as that chain does, independently of
earlier calls, and its counters partition the decisions of a run.
-/

namespace Llgw.RiskDecisions

open Llgw.Foundation
open Llgw.Foundation.GuardChain
open Llgw.Foundation.TransitionRun
open Llgw.Messages
open Llgw.Risk
open Llgw.Risk.PreTradeRiskManager (notional)
open Llgw.Exchange
open Llgw.RiskFailClosed

/-! ## The documented tests -/

/-- The tests of the risk layer in their documented order. -/
def documentedChecks (limits : RiskLimits) :
    List (Guard OrderRequest RiskRejectReason) :=
  [{ fires := fun request => request.symbol.view = []
     verdict := .invalidSymbol },
   { fires := fun request =>
       request.price.isFinite = false ∨ ¬ 0.0 < request.price
     verdict := .invalidPrice },
   { fires := fun request => request.quantity = 0
     verdict := .invalidQuantity },
   { fires := fun request => limits.maxOrderQuantity < request.quantity
     verdict := .quantityLimit },
   { fires := fun request =>
       (notional request).isFinite = false ∨
         limits.maxOrderNotional < notional request
     verdict := .notionalLimit },
   { fires := fun request =>
       effectiveAllowlist limits ≠ [] ∧
         request.symbol.view ∉ effectiveAllowlist limits
     verdict := .symbolNotAllowed }]

/-- The price test of the source is the documented one. -/
theorem price_test_iff (price : Float) :
    (!price.isFinite || price ≤ 0.0) = true ↔
      price.isFinite = false ∨ ¬ 0.0 < price := by
  have number : ¬ (0.0 : Float).isNaN = true := by decide
  rw [Bool.or_eq_true, Bool.not_eq_true', decide_eq_true_eq]
  constructor
  · rintro (infinite | notPositive)
    · exact Or.inl infinite
    · right
      intro positive
      exact FloatOrder.not_le_of_lt positive notPositive
  · rintro (infinite | notPositive)
    · exact Or.inl infinite
    · cases finite : price.isFinite with
      | false => exact Or.inl rfl
      | true =>
          right
          exact
            FloatOrder.le_of_not_lt
              (FloatOrder.not_isNaN_of_isFinite finite) number notPositive

/-- The allowlist test of the source is the documented one. -/
theorem allowlist_test_iff (limits : RiskLimits) (request : OrderRequest) :
    (!(PreTradeRiskManager.ofLimits limits).isAllowedSymbol request) =
        true ↔
      effectiveAllowlist limits ≠ [] ∧
        request.symbol.view ∉ effectiveAllowlist limits := by
  rw [Bool.not_eq_true', ← Bool.not_eq_true, isAllowedSymbol_iff, not_or]

/-- The tests of the source decide as the documented chain does. -/
theorem firstFailure_decides (limits : RiskLimits)
    (request : OrderRequest) :
    Decides (documentedChecks limits) request
      ((PreTradeRiskManager.ofLimits limits).firstFailure request) := by
  unfold PreTradeRiskManager.firstFailure documentedChecks
  apply decides_ite
  · simp [FixedSymbol.empty]
  apply decides_ite
  · exact price_test_iff request.price
  apply decides_ite
  · exact beq_iff_eq
  apply decides_ite
  · rfl
  apply decides_ite
  · rw [Bool.or_eq_true, Bool.not_eq_true', decide_eq_true_eq]
    rfl
  apply decides_ite
  · exact allowlist_test_iff limits request
  exact decides_nil

/-- What a check returns for a verdict, `none` for what passes. -/
def decisionOf : Option RiskRejectReason → RiskDecision
  | none => { accepted := true, rejectReason := .none }
  | some reason => { accepted := false, rejectReason := reason }

theorem decisionOf_injective : Function.Injective decisionOf := by
  intro left right equal
  cases left with
  | none =>
      cases right with
      | none => rfl
      | some reason => simp [decisionOf] at equal
  | some first =>
      cases right with
      | none => simp [decisionOf] at equal
      | some second =>
          exact congrArg some (congrArg RiskDecision.rejectReason equal)

theorem check_decision (manager : PreTradeRiskManager)
    (request : OrderRequest) :
    (manager.check request).1 =
      decisionOf (manager.firstFailure request) := by
  rw [PreTradeRiskManager.check_eq]
  cases manager.firstFailure request <;> rfl

/-- A decision that names the first documented test that fires. -/
structure DecidedInOrder (limits : RiskLimits) (request : OrderRequest)
    (decision : RiskDecision) : Prop where
  accepted_iff :
    decision = { accepted := true, rejectReason := .none } ↔
      Passes (documentedChecks limits) request
  rejected_iff :
    ∀ reason,
      decision = { accepted := false, rejectReason := reason } ↔
        Rejects request (documentedChecks limits) reason

theorem decidedInOrder_decisionOf (limits : RiskLimits)
    (request : OrderRequest) :
    DecidedInOrder limits request
      (decisionOf
        ((PreTradeRiskManager.ofLimits limits).firstFailure request)) := by
  have decides := firstFailure_decides limits request
  constructor
  · rw [← decides.eq_none_iff]
    exact decisionOf_injective.eq_iff (b := none)
  · intro reason
    rw [← decides.eq_some_iff]
    exact decisionOf_injective.eq_iff (b := some reason)

/-! ## The counters -/

/-- The counter of the rejections for one reason. -/
def rejectedFor (manager : PreTradeRiskManager) : RiskRejectReason → Nat
  | .none => 0
  | .invalidSymbol => manager.rejectedInvalidSymbol
  | .invalidPrice => manager.rejectedInvalidPrice
  | .invalidQuantity => manager.rejectedInvalidQuantity
  | .quantityLimit => manager.rejectedQuantityLimit
  | .notionalLimit => manager.rejectedNotionalLimit
  | .symbolNotAllowed => manager.rejectedSymbolNotAllowed

/-- A rejection counts for its own reason and for no other. -/
theorem afterReject_rejectedFor (manager : PreTradeRiskManager)
    {reason other : RiskRejectReason} (counted : other ≠ .none) :
    rejectedFor (manager.afterReject reason) other =
      rejectedFor manager other + if reason = other then 1 else 0 := by
  cases other with
  | none => contradiction
  | _ => cases reason <;> rfl

/-- The counters partition the checked orders. -/
structure Partitioned (manager : PreTradeRiskManager) : Prop where
  checked :
    manager.ordersChecked = manager.ordersAccepted + manager.ordersRejected
  rejected :
    manager.ordersRejected =
      manager.rejectedInvalidSymbol + manager.rejectedInvalidPrice +
        manager.rejectedInvalidQuantity + manager.rejectedQuantityLimit +
        manager.rejectedNotionalLimit + manager.rejectedSymbolNotAllowed

theorem Partitioned.check {manager : PreTradeRiskManager}
    (partitioned : Partitioned manager) (request : OrderRequest) :
    Partitioned (manager.check request).2 := by
  rcases partitioned with ⟨checked, rejected⟩
  rw [PreTradeRiskManager.check_eq]
  cases failure : manager.firstFailure request with
  | none =>
      constructor
      · simp only [PreTradeRiskManager.afterAccept]
        omega
      · exact rejected
  | some reason =>
      have counted := PreTradeRiskManager.firstFailure_ne_none failure
      constructor
      · simp only [PreTradeRiskManager.afterReject_ordersChecked,
          PreTradeRiskManager.afterReject_ordersAccepted,
          PreTradeRiskManager.afterReject_ordersRejected]
        omega
      · cases reason with
        | none => contradiction
        | _ =>
            simp only [PreTradeRiskManager.afterReject,
              PreTradeRiskManager.reject]
            omega

/-- The counters of a manager that has returned these decisions. -/
structure Tallies (decisions : List RiskDecision)
    (manager : PreTradeRiskManager) : Prop where
  checked : manager.ordersChecked = decisions.length
  accepted :
    manager.ordersAccepted =
      decisions.countP fun decision => decision.accepted
  rejected :
    manager.ordersRejected =
      decisions.countP fun decision => !decision.accepted
  reasons :
    ∀ reason, reason ≠ .none →
      rejectedFor manager reason =
        decisions.countP fun decision => decision.rejectReason = reason

/-- The step lemma: one more check counts its own decision. -/
theorem Tallies.check {decisions : List RiskDecision}
    {manager : PreTradeRiskManager} (tallies : Tallies decisions manager)
    (request : OrderRequest) :
    Tallies (decisions ++ [(manager.check request).1])
      (manager.check request).2 := by
  rcases tallies with ⟨checked, accepted, rejected, reasons⟩
  rw [PreTradeRiskManager.check_eq]
  cases failure : manager.firstFailure request with
  | none =>
      constructor
      · simpa [PreTradeRiskManager.afterAccept] using checked
      · simpa [PreTradeRiskManager.afterAccept] using accepted
      · simpa [PreTradeRiskManager.afterAccept] using rejected
      · intro reason counted
        have other : RiskRejectReason.none ≠ reason := counted.symm
        have kept :
            rejectedFor manager.afterAccept reason =
              rejectedFor manager reason := by
          cases reason <;> rfl
        simpa [kept, other] using reasons reason counted
  | some reason =>
      constructor
      · simpa using checked
      · simpa using accepted
      · simpa using rejected
      · intro other counted
        rw [afterReject_rejectedFor manager counted, reasons other counted,
          List.countP_append, List.countP_singleton]
        simp only [decide_eq_true_eq]

/-- What a finite run of checks returns and counts. -/
theorem tallies_run (limits : RiskLimits) (calls : List OrderRequest) :
    Tallies
      (outputs PreTradeRiskManager.check (.ofLimits limits) calls)
      (managerAfter limits calls) := by
  apply
    run_history_induction PreTradeRiskManager.check
      (motive := fun history manager =>
        Tallies (history.map Event.output) manager)
  · exact ⟨rfl, rfl, rfl, fun reason _ => by cases reason <;> rfl⟩
  · intro history manager request tallies
    rw [List.map_append]
    exact tallies.check request

theorem partitioned_run (limits : RiskLimits)
    (calls : List OrderRequest) :
    Partitioned (managerAfter limits calls) := by
  apply run_invariant PreTradeRiskManager.check Partitioned
  · exact ⟨rfl, rfl⟩
  · intro manager request partitioned
    exact partitioned.check request

/-! ## Decisions over a run -/

/-- A decision does not depend on what was checked before. -/
theorem check_managerAfter (limits : RiskLimits)
    (earlier : List OrderRequest) (request : OrderRequest) :
    ((managerAfter limits earlier).check request).1 =
      ((PreTradeRiskManager.ofLimits limits).check request).1 := by
  rw [check_decision, check_decision, managerAfter_firstFailure]

theorem decided_run (limits : RiskLimits) (calls : List OrderRequest) :
    List.Forall₂ (DecidedInOrder limits) calls
      (outputs PreTradeRiskManager.check (.ofLimits limits) calls) := by
  apply
    forall₂_outputs_of_invariant PreTradeRiskManager.check fun manager =>
      manager.firstFailure =
        (PreTradeRiskManager.ofLimits limits).firstFailure
  · rfl
  · intro manager request same
    exact (manager.check_firstFailure request).trans same
  · intro manager request same
    rw [check_decision, same]
    exact decidedInOrder_decisionOf limits request

/--
Every decision of a run names the first documented test that fires, whatever
was checked before it, and the counters partition the decisions.  No counter
exceeds the number of checks, so a run of fewer than `2 ^ 64` wraps none.
-/
theorem run_decisions_partitioned (limits : RiskLimits)
    (calls : List OrderRequest) :
    let decisions :=
      outputs PreTradeRiskManager.check (.ofLimits limits) calls
    let manager := managerAfter limits calls
    List.Forall₂ (DecidedInOrder limits) calls decisions ∧
      (∀ earlier request,
        ((managerAfter limits earlier).check request).1 =
          ((PreTradeRiskManager.ofLimits limits).check request).1) ∧
      Partitioned manager ∧
      Tallies decisions manager := by
  intro decisions manager
  constructor
  · exact decided_run limits calls
  constructor
  · exact check_managerAfter limits
  constructor
  · exact partitioned_run limits calls
  · exact tallies_run limits calls

end Llgw.RiskDecisions
