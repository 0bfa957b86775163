import PxHost.Public.Plans
import PxHost.System.UserIds

/-! When the storefront calls a plan sold out, and when the plan really is. -/

namespace PxHost

open Store Machine

section Node

variable {node : NodeCapacityInputs} {usage : NodeUsage} {request : ResourceRequest}

/-- The node takes so many more servers, in the dimensions they use at all. -/
def Takes (node : NodeCapacityInputs) (usage : NodeUsage) (request : ResourceRequest) (k : Nat) :
    Prop :=
  k = 0 ∨ ∀ d ceiling, 0 < request.get d → node.ceiling d = some ceiling →
    usage.get d + k * request.get d ≤ ceiling

/-- A bound is not below a number when every value of it is not. -/
def AtLeast (bound : Option Int) (k : Nat) : Prop := ∀ b, bound = some b → (k : Int) ≤ b

instance (bound : Option Int) (k : Nat) : Decidable (AtLeast bound k) :=
  inferInstanceAs (Decidable (∀ b, bound = some b → _))

@[simp] theorem atLeast_none (k : Nat) : AtLeast none k := by simp [AtLeast]

@[simp] theorem atLeast_some {b : Int} {k : Nat} : AtLeast (some b) k ↔ (k : Int) ≤ b := by
  simp [AtLeast]

theorem atLeast_slotsIn_iff {d : Dimension} {k : Nat} :
    AtLeast (slotsIn node usage request d) k ↔ k = 0 ∨ ∀ ceiling, 0 < request.get d →
      node.ceiling d = some ceiling → usage.get d + k * request.get d ≤ ceiling := by
  unfold AtLeast slotsIn
  by_cases idle : request.get d ≤ 0
  · simp [idle, not_lt.mpr idle]
  · have used : 0 < request.get d := not_le.mp idle
    cases node.ceiling d with
    | none => simp [idle]
    | some ceiling =>
      simp only [idle, if_false, Option.map_some, Option.some.injEq, forall_eq', used,
        forall_const, Int.le_ediv_iff_mul_le used]
      constructor
      · intro fits
        by_cases none : k = 0
        · exact .inl none
        · -- A positive demand needs room above what is in use already.
          have positive : 0 < (k : Int) * request.get d := Int.mul_pos (by omega) used
          exact .inr (by omega)
      · rintro (rfl | fits)
        · simp
        · omega

theorem atLeast_foldl_tighten {dims : List Dimension} {best : Option (Dimension × Int)} {k : Nat} :
    AtLeast ((dims.foldl (tighten node usage request) best).map Prod.snd) k ↔
      AtLeast (best.map Prod.snd) k ∧ ∀ d ∈ dims, AtLeast (slotsIn node usage request d) k := by
  induction dims generalizing best with
  | nil => simp
  | cons d rest ih =>
    have one : AtLeast ((tighten node usage request best d).map Prod.snd) k ↔
        AtLeast (best.map Prod.snd) k ∧ AtLeast (slotsIn node usage request d) k := by
      unfold tighten AtLeast
      cases slotsIn node usage request d with
      | none => simp
      | some slots =>
        cases best with
        | none => simp
        | some least =>
          dsimp only
          split <;> simp <;> omega
    simp only [List.foldl_cons, ih, one, List.forall_mem_cons, and_assoc]

theorem atLeast_slotsForPlanOnNode_iff {k : Nat} :
    AtLeast (slotsForPlanOnNode node usage request).slots k ↔ Takes node usage request k := by
  unfold slotsForPlanOnNode Takes
  dsimp only
  have every : (∀ d ∈ [Dimension.memory, .disk, .cpu], AtLeast (slotsIn node usage request d) k) ↔
      ∀ d, AtLeast (slotsIn node usage request d) k := by
    simp [forall_dimension]
  rw [atLeast_foldl_tighten, every]
  simp only [atLeast_slotsIn_iff, Option.map_none, atLeast_none, true_and, forall_or_left]

/-- A bound is the last number it does not fall below, and there is none without a bound. -/
theorem exact_of_atLeast {bound : Option Int} (nonneg : AtLeast bound 0) :
    (∀ n : Nat, bound = some (n : Int) ↔ AtLeast bound n ∧ ¬AtLeast bound (n + 1)) ∧
      (bound = none ↔ ∀ n, AtLeast bound n) := by
  cases bound with
  | none => simp
  | some b =>
    simp only [atLeast_some] at nonneg ⊢
    refine ⟨fun n => ?_, by simp, fun every => ?_⟩
    · rw [Option.some.injEq]
      omega
    · have beyond := every (b.toNat + 1)
      omega

/-- The use of a node with one more server of a size on it. -/
def Resources.add (usage request : Resources) : Resources where
  memoryMb := usage.memoryMb + request.memoryMb
  diskMb := usage.diskMb + request.diskMb
  cpuPercent := usage.cpuPercent + request.cpuPercent

@[simp] theorem Resources.get_add (usage request : Resources) (d : Dimension) :
    (usage.add request).get d = usage.get d + request.get d := by
  cases d <;> rfl

/-- So many servers can be added one after another, each past the gate with the earlier ones. -/
def addable (node : NodeCapacityInputs) (request : ResourceRequest) : NodeUsage → Nat → Bool
  | _, 0 => true
  | usage, k + 1 => (assertNodeFits node usage request).isOk
      && addable node request (usage.add request) k

theorem addable_iff (nonneg : ∀ d, 0 ≤ request.get d) {k : Nat} : addable node request usage k ↔
    k = 0 ∨ ∀ d ceiling, node.ceiling d = some ceiling →
      usage.get d + k * request.get d ≤ ceiling := by
  induction k generalizing usage with
  | zero => simp [addable]
  | succ k ih =>
    simp only [addable, Bool.and_eq_true, Fallible.isOk_iff, assertNodeFits_ok_iff, exists_const, ih,
      Resources.get_add, Nat.add_one_ne_zero, false_or, Nat.cast_add, Nat.cast_one, add_mul, one_mul]
    constructor
    · rintro ⟨first, rfl | rest⟩ d ceiling bounded
      · simpa using first d ceiling bounded
      · have last := rest d ceiling bounded
        omega
    · intro last
      refine ⟨fun d ceiling bounded => ?_, .inr fun d ceiling bounded => ?_⟩
      · have added := Int.mul_nonneg (Int.natCast_nonneg k) (nonneg d)
        have fits := last d ceiling bounded
        omega
      · have fits := last d ceiling bounded
        omega

/-- The node is not above its ceiling in any dimension that the request leaves out. -/
def SpareUnasked (node : NodeCapacityInputs) (usage : NodeUsage) (request : ResourceRequest) :
    Prop :=
  ∀ d, request.get d = 0 → ∀ ceiling ∈ node.ceiling d, usage.get d ≤ ceiling

instance : Decidable (SpareUnasked node usage request) :=
  inferInstanceAs (Decidable (∀ d, request.get d = 0 → _))

/-- Some dimension that the request asks for has no room for even one of it. -/
def LacksAsked (node : NodeCapacityInputs) (usage : NodeUsage) (request : ResourceRequest) : Prop :=
  ∃ d, 0 < request.get d ∧ ∃ ceiling ∈ node.ceiling d, ceiling < usage.get d + request.get d

/-- A dimension that is not asked for stands in nobody's way while it is under its ceiling. -/
theorem addable_iff_takes (nonneg : ∀ d, 0 ≤ request.get d)
    (spare : SpareUnasked node usage request) {k : Nat} :
    addable node request usage k ↔ Takes node usage request k := by
  rw [addable_iff nonneg]
  refine or_congr_right ⟨fun fits d ceiling _ => fits d ceiling, fun fits d ceiling bounded => ?_⟩
  rcases Int.lt_or_eq_of_le (nonneg d) with asked | unasked
  · exact fits d ceiling asked bounded
  · simpa [← unasked] using spare d unasked.symm ceiling bounded

/-- Where a dimension that is asked for is full, neither count gets beyond none. -/
theorem addable_iff_takes_of_lacks (nonneg : ∀ d, 0 ≤ request.get d)
    (lacks : LacksAsked node usage request) {k : Nat} :
    addable node request usage k ↔ Takes node usage request k := by
  obtain ⟨d, asked, ceiling, bounded, above⟩ := lacks
  -- A positive number of servers takes at least what one does.
  have excess (some_ : ¬ k = 0) : ¬ usage.get d + k * request.get d ≤ ceiling := by
    have least : 1 * request.get d ≤ k * request.get d :=
      Int.mul_le_mul_of_nonneg_right (by omega) asked.le
    omega
  rw [addable_iff nonneg]
  refine or_congr_right' fun some_ => iff_of_false (fun fits => ?_) fun fits => ?_
  · exact excess some_ (fits d ceiling bounded)
  · exact excess some_ (fits d ceiling asked bounded)

/--
The slots of a plan on a node are the servers that can be added to it exactly if some dimension the
plan asks for has no room for one server, or if none that it does not ask for is above its ceiling.
-/
theorem slots_are_addable_servers_iff (node : NodeCapacityInputs) (usage : NodeUsage)
    (request : ResourceRequest) (nonneg : ∀ d, 0 ≤ request.get d) :
    ((∀ n : Nat, (slotsForPlanOnNode node usage request).slots = some (n : Int) ↔
        addable node request usage n ∧ ¬addable node request usage (n + 1)) ∧
      ((slotsForPlanOnNode node usage request).slots = none ↔
        ∀ n, addable node request usage n)) ↔
    LacksAsked node usage request ∨ SpareUnasked node usage request := by
  have counts {k : Nat} : AtLeast (slotsForPlanOnNode node usage request).slots k ↔ _ :=
    atLeast_slotsForPlanOnNode_iff
  constructor
  · -- Above an unasked ceiling the gate refuses the first server, so no slot may be advertised.
    intro exact
    by_contra wrong
    simp only [SpareUnasked, not_or, not_forall] at wrong
    obtain ⟨room, d, unasked, ceiling, bounded, above⟩ := wrong
    have refused : ¬addable node request usage 1 := fun one => by
      have fits := (addable_iff nonneg).mp one
      simp only [one_ne_zero, false_or] at fits
      have within := fits d ceiling bounded
      simp only [unasked] at within
      omega
    have none_ := (exact.1 0).mpr ⟨rfl, refused⟩
    -- But every dimension that is asked for has room for one.
    have one : AtLeast (slotsForPlanOnNode node usage request).slots 1 := by
      refine counts.mpr (.inr fun d ceiling asked bounded => ?_)
      by_contra full
      exact room ⟨d, asked, ceiling, bounded, by push_cast at full; omega⟩
    rw [none_, atLeast_some] at one
    omega
  · intro condition
    have same : ∀ n, addable node request usage n ↔
        AtLeast (slotsForPlanOnNode node usage request).slots n := by
      intro n
      rw [counts]
      rcases condition with lacks | spare
      · exact addable_iff_takes_of_lacks nonneg lacks
      · exact addable_iff_takes nonneg spare
    simp only [same]
    exact exact_of_atLeast (counts.mpr (.inl rfl))

def sampleInputs : NodeCapacityInputs := ⟨1000, 0, 0, 1000, 0, 0, 200, 0, 0⟩

theorem sample_slots_are_addable_servers :
    (slotsForPlanOnNode sampleInputs ⟨300, 0, 0⟩ ⟨200, 100, 0⟩).slots = some 3 ∧
      (∀ n : Nat, (slotsForPlanOnNode sampleInputs ⟨300, 0, 0⟩ ⟨200, 100, 0⟩).slots =
          some (n : Int) ↔ addable sampleInputs ⟨200, 100, 0⟩ ⟨300, 0, 0⟩ n ∧
            ¬addable sampleInputs ⟨200, 100, 0⟩ ⟨300, 0, 0⟩ (n + 1)) ∧
        ((slotsForPlanOnNode sampleInputs ⟨300, 0, 0⟩ ⟨200, 100, 0⟩).slots = none ↔
          ∀ n, addable sampleInputs ⟨200, 100, 0⟩ ⟨300, 0, 0⟩ n) :=
  ⟨by decide +kernel, (slots_are_addable_servers_iff sampleInputs ⟨300, 0, 0⟩ ⟨200, 100, 0⟩
    (by decide)).mpr (.inr (by decide +kernel))⟩

/-- On a node above its ceiling for cpu, a plan without cpu has slots but no server is added. -/
theorem slots_are_advertised_in_vain :
    (slotsForPlanOnNode sampleInputs ⟨300, 0, 300⟩ ⟨200, 100, 0⟩).slots = some 3 ∧
      addable sampleInputs ⟨200, 100, 0⟩ ⟨300, 0, 300⟩ 1 = false := by
  decide +kernel

end Node

def Node.accepts (now : Time) (node : Node) : Bool :=
  (nodeAcceptsNewServers node (deriveHealthStatus now node.lastHeartbeatAt)
    (resolveNodeCapacity now node)).isOk

def nodeSlots (db : Db) (now : Time) (limits : Limits) (row : NodeId × Node) : Option Int :=
  (slotsForPlanOnNode (resolveNodeCapacity now row.2).toNodeCapacityInputs (usageForNode db row.1)
    limits.request).slots

section Derived

variable {db : Db} {now : Time} {limits : Limits}

theorem addNodeSlots_eq (derived : Option Int) (row : NodeId × Node) :
    addNodeSlots db now limits.request derived row =
      if row.2.accepts now then
        derived.bind fun sum => (nodeSlots db now limits row).map (sum + ·)
      else derived := by
  unfold addNodeSlots Node.accepts nodeSlots
  dsimp only
  cases nodeAcceptsNewServers row.2 (deriveHealthStatus now row.2.lastHeartbeatAt)
      (resolveNodeCapacity now row.2) with
  | error reason => simp [Except.isOk, Except.toBool]
  | ok =>
    simp only [Except.isOk, Except.toBool, if_true]
    cases (slotsForPlanOnNode (resolveNodeCapacity now row.2).toNodeCapacityInputs
      (usageForNode db row.1) limits.request).slots <;> cases derived <;> rfl

/-- The loop over the nodes adds up what they take, unless one of them takes any number. -/
theorem foldl_addNodeSlots (rows : List (NodeId × Node)) (sum : Int) :
    rows.foldl (addNodeSlots db now limits.request) (some sum) =
      if (rows.filter (·.2.accepts now)).all fun row => (nodeSlots db now limits row).isSome then
        some (sum + ((rows.filter (·.2.accepts now)).map
          fun row => (nodeSlots db now limits row).getD 0).sum)
      else none := by
  induction rows generalizing sum with
  | nil => simp
  | cons row rest ih =>
    have stuck : rest.foldl (addNodeSlots db now limits.request) none = none := by
      clear ih
      induction rest with
      | nil => rfl
      | cons row rest ih => simp [addNodeSlots_eq, ih]
    rw [List.foldl_cons, addNodeSlots_eq]
    by_cases accepts : row.2.accepts now
    · rw [List.filter_cons_of_pos (by exact accepts), if_pos accepts]
      cases slots : nodeSlots db now limits row with
      | none => simp [slots, stuck]
      | some bound =>
        rw [List.all_cons, List.map_cons, List.sum_cons, slots, Option.bind_some, Option.map_some,
          ih, Option.isSome_some, Bool.true_and, Option.getD_some, add_assoc]
    · rw [List.filter_cons_of_neg (by exact accepts), if_neg accepts, ih]

end Derived

/-- The nodes a plan is sold on: eligible for it and taking new servers. -/
def sellingNodes (db : Db) (now : Time) (planId : PlanId) : List (NodeId × Node) :=
  (eligibleNodes db planId).filter (·.2.accepts now)

/-- Some node the plan is sold on passes the check for one more server of it. -/
def Placeable (db : Db) (now : Time) (planId : PlanId) (plan : Plan) : Prop :=
  ∃ row ∈ sellingNodes db now planId,
    assertNodeFits (resolveNodeCapacity now row.2).toNodeCapacityInputs (usageForNode db row.1)
      plan.limits.request = .ok ()

/-- The nodes the plan is sold on have room for so many more servers, spread over them. -/
def RoomFor (db : Db) (now : Time) (planId : PlanId) (plan : Plan) (k : Nat) : Prop :=
  ∃ spread : NodeId × Node → Nat,
    (∀ row ∈ sellingNodes db now planId,
      Takes (resolveNodeCapacity now row.2).toNodeCapacityInputs (usageForNode db row.1)
        plan.limits.request (spread row)) ∧
    k ≤ ((sellingNodes db now planId).map spread).sum

/-- So many more servers can be placed one after another, each past the gate of some node. -/
def CanPlace (db : Db) (now : Time) (planId : PlanId) (plan : Plan) (k : Nat) : Prop :=
  ∃ spread : NodeId × Node → Nat,
    (∀ row ∈ sellingNodes db now planId,
      addable (resolveNodeCapacity now row.2).toNodeCapacityInputs plan.limits.request
        (usageForNode db row.1) (spread row)) ∧
    k ≤ ((sellingNodes db now planId).map spread).sum

/-- No node the plan is sold on is above a ceiling that the plan does not ask anything of. -/
def SparesUnasked (db : Db) (now : Time) (planId : PlanId) (plan : Plan) : Prop :=
  ∀ row ∈ sellingNodes db now planId,
    SpareUnasked (resolveNodeCapacity now row.2).toNodeCapacityInputs (usageForNode db row.1)
      plan.limits.request

instance (db : Db) (now : Time) (planId : PlanId) (plan : Plan) :
    Decidable (SparesUnasked db now planId plan) :=
  inferInstanceAs (Decidable (∀ row ∈ sellingNodes db now planId, _))

def Full (db : Db) (planId : PlanId) (plan : Plan) : Prop :=
  ∃ max ∈ plan.maxSlots, max ≤ occupiedSlots db planId

instance (db : Db) (planId : PlanId) (plan : Plan) : Decidable (Full db planId plan) :=
  inferInstanceAs (Decidable (∃ max ∈ plan.maxSlots, _))

instance (db : Db) (now : Time) (planId : PlanId) (plan : Plan) :
    Decidable (Placeable db now planId plan) :=
  inferInstanceAs (Decidable (∃ row ∈ sellingNodes db now planId, _))

section Plan

variable {db : Db} {now : Time} {planId : PlanId} {plan : Plan}

/-- What the storefront derives from the nodes is the number of servers they have room for. -/
theorem atLeast_derivedSlots_iff {k : Nat} :
    AtLeast (derivedSlotsForPlan db now planId plan.limits) k ↔ RoomFor db now planId plan k := by
  rw [derivedSlotsForPlan, foldl_addNodeSlots]
  have takes_iff (row : NodeId × Node) (k : Nat) :
      Takes (resolveNodeCapacity now row.2).toNodeCapacityInputs (usageForNode db row.1)
        plan.limits.request k ↔ AtLeast (nodeSlots db now plan.limits row) k :=
    atLeast_slotsForPlanOnNode_iff.symm
  have atLeast_zero (row : NodeId × Node) : AtLeast (nodeSlots db now plan.limits row) 0 :=
    (takes_iff row 0).mp (.inl rfl)
  have nonneg (row : NodeId × Node) : 0 ≤ (nodeSlots db now plan.limits row).getD 0 := by
    have zero := atLeast_zero row
    cases slots : nodeSlots db now plan.limits row with
    | none => simp
    | some bound => simpa [slots] using zero
  unfold RoomFor
  simp only [takes_iff]
  change _ ↔ ∃ spread : NodeId × Node → Nat, (∀ row ∈ sellingNodes db now planId, _) ∧ _
  change AtLeast (if (sellingNodes db now planId).all _ then _ else _) k ↔ _
  split
  · rename_i bounded
    rw [List.all_eq_true] at bounded
    rw [atLeast_some, zero_add]
    constructor
    · intro reached
      refine ⟨fun row => ((nodeSlots db now plan.limits row).getD 0).toNat, ?_, ?_⟩
      · intro row selling
        obtain ⟨bound, slots⟩ := Option.isSome_iff_exists.mp (bounded row selling)
        have unsigned := nonneg row
        simp only [slots, Option.getD_some, atLeast_some] at unsigned ⊢
        omega
      · have exact_ : (((sellingNodes db now planId).map fun row =>
            ((nodeSlots db now plan.limits row).getD 0).toNat).sum : Int) =
            ((sellingNodes db now planId).map fun row =>
              (nodeSlots db now plan.limits row).getD 0).sum := by
          rw [Nat.cast_list_sum, List.map_map]
          refine congrArg List.sum (List.map_congr_left fun row _ => ?_)
          exact Int.toNat_of_nonneg (nonneg row)
        exact_mod_cast exact_ ▸ reached
    · rintro ⟨spread, takes, reached⟩
      have bound : (((sellingNodes db now planId).map spread).sum : Int) ≤
          ((sellingNodes db now planId).map fun row =>
            (nodeSlots db now plan.limits row).getD 0).sum := by
        rw [Nat.cast_list_sum, List.map_map]
        refine List.sum_le_sum fun row selling => ?_
        obtain ⟨bound, slots⟩ := Option.isSome_iff_exists.mp (bounded row selling)
        simpa [slots] using takes row selling
      exact le_trans (by exact_mod_cast reached) bound
  · rename_i unbounded
    simp only [List.all_eq_true, not_forall] at unbounded
    obtain ⟨row, selling, endless⟩ := unbounded
    simp only [atLeast_none, true_iff]
    -- A node without a bound takes them all.
    refine ⟨fun other => if other = row then k else 0, ?_, ?_⟩
    · intro other _
      by_cases same : other = row
      · have unbounded : nodeSlots db now plan.limits other = none := by
          simpa [same] using endless
        simp [unbounded]
      · simpa [same] using atLeast_zero other
    · refine le_trans (le_of_eq ?_) (List.single_le_sum (by simp) _ (List.mem_map_of_mem selling))
      simp

theorem computeAvailability_status_iff {maxSlots : Option Nat} {occupied : Nat}
    {derived : Option (Option Int)} :
    (computeAvailability maxSlots occupied derived).status = .soldOut ↔
      ∃ slots, effectiveSlots maxSlots derived = some slots ∧ slots ≤ occupied := by
  unfold computeAvailability
  cases effectiveSlots maxSlots derived with
  | none => simp
  | some slots =>
    dsimp only
    by_cases used : slots - occupied ≤ 0
    · have within : slots ≤ occupied := by omega
      simp [used, within]
    · have left : ¬ slots ≤ occupied := by omega
      have shown : (if slots - occupied ≤ LOW_STOCK_THRESHOLD then AvailabilityStatus.limited
          else .available) ≠ .soldOut := by
        split <;> decide
      rw [if_neg used]
      exact iff_of_false shown (by simpa using left)

/-- Calling a plan sold out means that it is full, or that the nodes have too little room. -/
theorem computeAvailability_soldOut_iff {maxSlots : Option Nat} {occupied : Nat}
    {derived : Option Int} :
    (computeAvailability maxSlots occupied (some derived)).status = .soldOut ↔
      (∃ max, maxSlots = some max ∧ max ≤ occupied) ∨ ¬ AtLeast derived (occupied + 1) := by
  rw [computeAvailability_status_iff]
  unfold effectiveSlots
  cases derived with
  | none => cases maxSlots <;> simp
  | some slots =>
    rw [atLeast_some]
    cases maxSlots with
    | none =>
      simp only [Option.some.injEq, exists_eq_left', reduceCtorEq, false_and, exists_false, false_or]
      omega
    | some max =>
      simp only [Option.some.injEq, exists_eq_left']
      omega

theorem listPublicPlans_entry {availability : PlanAvailability}
    (stored : db.plans.get? planId = some plan) (healthy : hasAnyHealthyNode db now)
    (listed : (planId, availability) ∈ listPublicPlans db now) :
    availability = computeAvailability plan.maxSlots (occupiedSlots db planId)
      (some (derivedSlotsForPlan db now planId plan.limits)) := by
  obtain ⟨⟨id, row⟩, member, shown⟩ := List.mem_map.mp listed
  obtain ⟨rfl, rfl⟩ := Prod.mk.inj shown
  obtain ⟨found, -⟩ := Table.mem_filter_iff.mp member
  obtain rfl : row = plan := Option.mem_unique found stored
  have counted : id ∈ (publicPlans db).map Prod.fst := List.mem_map.mpr ⟨(id, row), member, rfl⟩
  simp [occupancyForPlans, counted, derivedSlotsForPlans, healthy]

/-- Servers that are placed one after another are the servers there is room for. -/
theorem canPlace_iff_roomFor (spares : SparesUnasked db now planId plan) {k : Nat} :
    CanPlace db now planId plan k ↔ RoomFor db now planId plan k := by
  have nonneg (d : Dimension) : 0 ≤ plan.limits.request.get d := by
    cases d <;> exact Int.natCast_nonneg _
  refine exists_congr fun spread => and_congr_left' ?_
  exact forall₂_congr fun row selling => addable_iff_takes nonneg (spares row selling)

/-- One server can be placed exactly if the check of some node lets it pass. -/
theorem canPlace_one_iff : CanPlace db now planId plan 1 ↔ Placeable db now planId plan := by
  constructor
  · rintro ⟨spread, fits, reached⟩
    -- Some node is given a server, and the first one it is given has passed its check.
    obtain ⟨row, selling, given⟩ : ∃ row ∈ sellingNodes db now planId, spread row ≠ 0 := by
      by_contra none
      push Not at none
      rw [List.map_congr_left none] at reached
      simp at reached
    obtain ⟨k, more⟩ := Nat.exists_eq_succ_of_ne_zero given
    have passes := fits row selling
    rw [more, addable, Bool.and_eq_true, Fallible.isOk_iff] at passes
    exact ⟨row, selling, passes.1.choose_spec⟩
  · rintro ⟨row, selling, passes⟩
    refine ⟨fun other => if other = row then 1 else 0, fun other _ => ?_, ?_⟩
    · by_cases same : other = row
      · subst same
        simp [addable, passes, Except.isOk, Except.toBool]
      · simp [same, addable]
    · refine le_trans (le_of_eq ?_) (List.single_le_sum (by simp) _ (List.mem_map_of_mem selling))
      simp

/--
While some node is healthy, and none the plan is sold on is above a ceiling that the plan asks
nothing of, a public plan is shown as sold out exactly when it is full or no node takes one more
server of it, as long as it is full, or nothing of it can be placed, or more servers can be placed
one after another than the plan has already.
-/
theorem sold_out_is_honest_iff (db : Db) (now : Time) (planId : PlanId) (plan : Plan)
    (availability : PlanAvailability) (stored : db.plans.get? planId = some plan)
    (healthy : hasAnyHealthyNode db now)
    (listed : (planId, availability) ∈ listPublicPlans db now)
    (spares : SparesUnasked db now planId plan) :
    (availability.status = .soldOut ↔
        Full db planId plan ∨ ¬ Placeable db now planId plan) ↔
      Full db planId plan ∨ ¬ CanPlace db now planId plan 1 ∨
        CanPlace db now planId plan (occupiedSlots db planId + 1) := by
  -- The storefront subtracts what is sold from what is left, as if both counted the same servers.
  have soldOut : availability.status = .soldOut ↔ Full db planId plan ∨
      ¬ CanPlace db now planId plan (occupiedSlots db planId + 1) := by
    rw [listPublicPlans_entry stored healthy listed, computeAvailability_soldOut_iff,
      atLeast_derivedSlots_iff, canPlace_iff_roomFor spares]
    rfl
  have fewer : CanPlace db now planId plan (occupiedSlots db planId + 1) →
      CanPlace db now planId plan 1 := by
    rintro ⟨spread, fits, reached⟩
    exact ⟨spread, fits, le_trans (Nat.le_add_left 1 _) reached⟩
  rw [soldOut, ← canPlace_one_iff]
  tauto

end Plan

theorem sampleMarket_node_unused : (Table.empty : Table NodeId Node).get? 1 = none := rfl

def sampleMarket : Db :=
  run commit
    { samplePanel with
      nodes := Table.empty.add 1 { name := "node-a", memoryTotalMb := 5000, diskTotalMb := 100000
                                   lastHeartbeatAt := some 0 } sampleMarket_node_unused }
    [.updatePlan 1 { maxSlots := some (some 5) }]

def sampleOffer : Plan := { samplePlan with maxSlots := some 5 }

/-- Before anything is sold, the plan is on offer because it can be placed. -/
theorem sample_sold_out_is_honest :
    (⟨.limited, some 2⟩ : PlanAvailability).status = .soldOut ↔
      Full sampleMarket 1 sampleOffer ∨ ¬ Placeable sampleMarket 5 1 sampleOffer :=
  (sold_out_is_honest_iff sampleMarket 5 1 sampleOffer ⟨.limited, some 2⟩ (by decide +kernel)
    (by decide +kernel) (by decide +kernel) (by decide +kernel)).mpr
    (.inr (.inr ((canPlace_iff_roomFor (by decide +kernel)).mpr
      (atLeast_derivedSlots_iff.mp (by decide +kernel)))))

/-- With one server sold and room for another, the plan is shown as sold out. -/
theorem placeable_plan_is_sold_out :
    let db := run commit sampleMarket sampleInstalled
    db.plans.get? 1 = some sampleOffer ∧ hasAnyHealthyNode db 5 ∧
    (1, ⟨.soldOut, some 0⟩) ∈ listPublicPlans db 5 ∧
    ¬ Full db 1 sampleOffer ∧ Placeable db 5 1 sampleOffer ∧
    ¬ (AvailabilityStatus.soldOut = .soldOut ↔
      Full db 1 sampleOffer ∨ ¬ Placeable db 5 1 sampleOffer) := by
  decide +kernel

end PxHost
