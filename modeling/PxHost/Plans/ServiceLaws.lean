import Mathlib.Data.List.Dedup
import PxHost.Capacity.MathLaws
import PxHost.Plans.Service
import PxHost.Schema.DatabaseLaws

/-! What editing a plan and pushing it to its servers did when it succeeded. -/

namespace PxHost

open Store

variable {db after : Db} {now : Time} {planId : PlanId}

theorem updatePlanRow_ok {dto : UpdatePlanDto} (updates : updatePlanRow db planId dto = .ok after) :
    ∃ f, (∀ plan, (f plan).maxSlots = dto.maxSlots.getD plan.maxSlots) ∧
      after = { db with plans := db.plans.modify planId f } := by
  unfold updatePlanRow at updates
  split at updates
  · cases updates
  · exact ⟨_, fun _ => rfl, (Db.updatePlan_ok_iff.mp updates).2⟩

/-- Every live node with a drifted server on it has room for the resize. -/
theorem applyToServers_ok (applies : applyToServers db now planId = .ok after) :
    ∃ plan, db.plans.get? planId = some plan ∧
      (∀ nodeId node, db.nodes.get? nodeId = some node → node.deletedAt.isNone →
        (∃ id row, db.servers.get? id = some row ∧ row.val.drifted planId plan.limits ∧
          row.val.nodeId = nodeId) →
        Fits (resolveNodeCapacity now node).toNodeCapacityInputs (usageForNode db nodeId)
          (computeNodeDelta plan (computeDriftRows db planId plan) nodeId)) ∧
      after = { db with
        servers := db.servers.updateWhere (fun _ s => s.val.drifted planId plan.limits)
          fun s => ServerRow.withLimits s plan.limits } := by
  unfold applyToServers at applies
  cases found : (db.plans.get? planId).filter (·.deletedAt.isNone) with
  | none => simp [found] at applies
  | some plan =>
    simp only [found] at applies
    split at applies
    · cases applies
    · rename_i fits
      simp only [Pure.pure, Except.pure, Except.ok.injEq] at applies
      refine ⟨plan, (Option.filter_eq_some_iff.mp found).1, ?_, applies.symm⟩
      rintro nodeId node stored live ⟨id, row, listed, drifted, rfl⟩
      -- The node of a drifted server is among the checked ones, so it reported no shortfall.
      simp only [ne_eq, not_not, List.filterMap_eq_nil_iff, List.mem_mergeSort, List.mem_dedup,
        List.mem_map] at fits
      have quiet := fits _ ⟨(id, row), Table.mem_filter_iff.mpr ⟨listed, drifted⟩, rfl⟩
      simp only [nodeShortfall, stored, Option.filter_some, live, if_true] at quiet
      split at quiet
      · rename_i none
        exact nodeFitReasons_eq_nil_iff.mp (by simpa using none)
      · cases quiet

end PxHost
