import Society.Kernel.Forum
import Society.Latency.Analysis

namespace Society.Latency
open Society.Kernel (Blake3Digest I64 hexText)

/-! The counts of a metric's summary against the cells of the pairs and the rows of the table. -/

section Table

def Cl001Metric.name : Cl001Metric → String
  | .correctionAdoptionLatency => "correction_adoption_latency"
  | .finalDecisionCorrect => "final_decision_correct"
  | .falseClaimPersistence => "false_claim_persistence"
  | .correctionVisibilityBasisPoints => "correction_visibility_bps"
  | .dissentSurvival => "dissent_survival"
  | .forumHistoryUtilizationBasisPoints => "forum_history_utilization_bps"
  | .forumAttentionBytes => "forum_attention_bytes"
  | .forumAttentionTurns => "forum_attention_turns"
  | .forumAttentionRuntimeMicros => "forum_attention_runtime_micros"
  | .operationalCostMicroUsd => "operational_cost_microusd"
  | .amortizedInstitutionalCostMicroUsd => "amortized_institutional_cost_microusd"

/-- The four cells of an arm: status, value, digest and reason. -/
def MeasurementOutcome.cells : MeasurementOutcome → List String
  | .observed value valueDigest => ["observed",toString value.val,hexText valueDigest,"-"]
  | .unavailable reasonDigest => ["unavailable","-","-",hexText reasonDigest]
  | .invalidated reasonDigest => ["invalidated","-","-",hexText reasonDigest]

def optionalI64Cell : Option I64 → String
  | some value => toString value.val
  | none => "-"

/-- A row of raw values; the rendered line has a tab between its cells. -/
def rawRow (pair : PairObservation) (metric : Cl001Metric) : List String :=
  let retained := pair.retained.value metric
  let reset := pair.reset.value metric
  let delta := deltaCell retained reset
  ["raw",pair.pairId.text,metric.name]++retained.cells++reset.cells++
    [delta.1.text,optionalI64Cell delta.2]

/-- The rows in the order they are rendered in: pair by pair, and each pair metric by metric. -/
def rawRows (pairs : List PairObservation) : List (List String) :=
  pairs.flatMap (fun pair => Cl001Metric.all.map (rawRow pair))

/-- How many rows of a metric have a cell of the column `delta_status`. -/
def deltaRows (metric : Cl001Metric) (status : DeltaStatus) (pairs : List PairObservation) : Nat :=
  (rawRows pairs).countP (fun row => row[2]? =some metric.name && row[11]? =some status.text)

end Table

section Counts

def MeasurementOutcome.isObserved : MeasurementOutcome → Bool
  | .observed .. => true
  | _ => false

def MeasurementOutcome.isUnavailable : MeasurementOutcome → Bool
  | .unavailable _ => true
  | _ => false

def MeasurementOutcome.isInvalidated : MeasurementOutcome → Bool
  | .invalidated _ => true
  | _ => false

/-- The status of the difference of a pair's arms. -/
def PairObservation.delta (p : PairObservation) (metric : Cl001Metric) : DeltaStatus :=
  (deltaCell (p.retained.value metric) (p.reset.value metric)).1

/-- A difference is observed when both arms are and it is an `i64`; it is invalidated when an arm
is, or when it is none. -/
theorem deltaCell_status (left right : MeasurementOutcome) :
    ((deltaCell left right).1=.observed ↔ ∃ a d b d',left=.observed a d ∧ right=.observed b d' ∧
      (checkedSub a b).isSome) ∧
    ((deltaCell left right).1=.invalidated ↔ left.isInvalidated=true ∨ right.isInvalidated=true ∨
      ∃ a d b d',left=.observed a d ∧ right=.observed b d' ∧ checkedSub a b=none) ∧
    ((deltaCell left right).1=.observed ↔ (deltaCell left right).2.isSome) := by
  cases left with
  | observed a d =>
    cases right with
    | observed b d' =>
      cases hsub : checkedSub a b with
      | none => simp [deltaCell,hsub,MeasurementOutcome.isInvalidated]
      | some v => simp [deltaCell,hsub,MeasurementOutcome.isInvalidated]
    | unavailable r => simp [deltaCell,MeasurementOutcome.isInvalidated]
    | invalidated r => simp [deltaCell,MeasurementOutcome.isInvalidated]
  | unavailable r => cases right <;> simp [deltaCell,MeasurementOutcome.isInvalidated]
  | invalidated r => cases right <;> simp [deltaCell,MeasurementOutcome.isInvalidated]

variable (metric : Cl001Metric)

theorem ArmTally.classify_counts (t : ArmTally) (o : MeasurementOutcome) :
    (t.classify o).observed.length=t.observed.length+(if o.isObserved then 1 else 0) ∧
    (t.classify o).unavailable=t.unavailable+(if o.isUnavailable then 1 else 0) ∧
    (t.classify o).invalidated=t.invalidated+(if o.isInvalidated then 1 else 0) := by
  cases o <;> simp [ArmTally.classify,MeasurementOutcome.isObserved,
    MeasurementOutcome.isUnavailable,MeasurementOutcome.isInvalidated]

theorem DeltaTally.classify_counts (t : DeltaTally) (left right : MeasurementOutcome) :
    let cell := deltaCell left right
    (t.classify cell).deltas.length=t.deltas.length+(if decide (cell.1=.observed) then 1 else 0) ∧
    (t.classify cell).unavailable=t.unavailable+(if decide (cell.1=.unavailable) then 1 else 0) ∧
    (t.classify cell).invalidated=t.invalidated+(if decide (cell.1=.invalidated) then 1 else 0) := by
  obtain ⟨_,_,hsome⟩ := deltaCell_status left right
  intro cell
  change cell.1=.observed ↔ cell.2.isSome at hsome
  clear_value cell
  obtain ⟨status,value⟩ := cell
  cases status with
  | observed =>
    obtain ⟨v,rfl⟩ := Option.isSome_iff_exists.mp (hsome.mp rfl)
    simp [DeltaTally.classify]
  | invalidated => simp [DeltaTally.classify]
  | unavailable => simp [DeltaTally.classify]

/-- A measure that each step of a loop adds to for some entries counts them. -/
theorem foldl_counts {α β : Type} {step : β → α → β} (m : β → Nat) (q : α → Bool)
    (h : ∀ t a,m (step t a)=m t+if q a then 1 else 0) (l : List α) (t : β) :
    m (l.foldl step t)=m t+l.countP q := by
  induction l generalizing t with
  | nil => rfl
  | cons a l ih =>
    rw [List.foldl_cons,ih,h,List.countP_cons]
    omega

variable (pairs : List PairObservation)

/-- What the loop counts. -/
theorem summarize_eq : summarize metric pairs=
    { metric,
      retainedObserved := pairs.countP (fun p => (p.retained.value metric).isObserved),
      resetObserved := pairs.countP (fun p => (p.reset.value metric).isObserved),
      pairedObserved := pairs.countP (fun p => p.delta metric=.observed),
      retainedUnavailable := pairs.countP (fun p => (p.retained.value metric).isUnavailable),
      retainedInvalidated := pairs.countP (fun p => (p.retained.value metric).isInvalidated),
      resetUnavailable := pairs.countP (fun p => (p.reset.value metric).isUnavailable),
      resetInvalidated := pairs.countP (fun p => (p.reset.value metric).isInvalidated),
      deltaUnavailable := pairs.countP (fun p => p.delta metric=.unavailable),
      deltaInvalidated := pairs.countP (fun p => p.delta metric=.invalidated) } := by
  have hcount (m : ArmTally × ArmTally × DeltaTally → Nat) (q : PairObservation → Bool)
      (h0 : m (⟨[],0,0⟩,⟨[],0,0⟩,⟨[],0,0⟩)=0) (h : ∀ t p,m (tallyPair metric t p)=m t+if q p then 1 else 0) :
      m (pairs.foldl (tallyPair metric) (⟨[],0,0⟩,⟨[],0,0⟩,⟨[],0,0⟩))=pairs.countP q := by
    rw [foldl_counts m q h,h0,Nat.zero_add]
  have harm (t : ArmTally) (o : MeasurementOutcome) := ArmTally.classify_counts t o
  have hdelta (t : DeltaTally) (left right : MeasurementOutcome) :=
    DeltaTally.classify_counts t left right
  unfold summarize
  simp only [MetricSummary.mk.injEq,true_and]
  refine ⟨?_,?_,?_,?_,?_,?_,?_,?_,?_⟩
  · exact hcount (·.1.observed.length) _ rfl fun t p => (harm t.1 _).1
  · exact hcount (·.2.1.observed.length) _ rfl fun t p => (harm t.2.1 _).1
  · exact hcount (·.2.2.deltas.length) _ rfl fun t p => (hdelta t.2.2 _ _).1
  · exact hcount (·.1.unavailable) _ rfl fun t p => (harm t.1 _).2.1
  · exact hcount (·.1.invalidated) _ rfl fun t p => (harm t.1 _).2.2
  · exact hcount (·.2.1.unavailable) _ rfl fun t p => (harm t.2.1 _).2.1
  · exact hcount (·.2.1.invalidated) _ rfl fun t p => (harm t.2.1 _).2.2
  · exact hcount (·.2.2.unavailable) _ rfl fun t p => (hdelta t.2.2 _ _).2.1
  · exact hcount (·.2.2.invalidated) _ rfl fun t p => (hdelta t.2.2 _ _).2.2

/-- Three tests of which just one holds of each entry split a list. -/
theorem countP_partition {α : Type} {p q r : α → Bool}
    (h : ∀ a,(if p a then 1 else 0)+(if q a then 1 else 0)+(if r a then 1 else 0)=1)
    (l : List α) :
    l.countP p+l.countP q+l.countP r=l.length := by
  induction l with
  | nil => rfl
  | cons a l ih =>
    have ha := h a
    simp only [List.countP_cons,List.length_cons]
    omega

theorem MeasurementOutcome.partition (o : MeasurementOutcome) :
    (if o.isObserved then 1 else 0)+(if o.isUnavailable then 1 else 0)+
      (if o.isInvalidated then 1 else 0)=1 := by
  cases o <;> rfl

theorem DeltaStatus.partition (d : DeltaStatus) : (if decide (d=.observed) then 1 else 0)+
    (if decide (d=.unavailable) then 1 else 0)+(if decide (d=.invalidated) then 1 else 0)=1 := by
  cases d <;> rfl

theorem name_injective {m m' : Cl001Metric} (h : m.name=m'.name) : m=m' := by
  have hall : ∀ m∈Cl001Metric.all,∀ m'∈Cl001Metric.all,m.name=m'.name → m=m' := by decide
  have hmem (m : Cl001Metric) : m∈Cl001Metric.all := by cases m <;> decide
  exact hall m (hmem m) m' (hmem m') h

theorem text_injective {d d' : DeltaStatus} (h : d.text=d'.text) : d=d' := by
  cases d <;> cases d' <;> first | rfl | exact absurd h (by decide)

theorem rawRow_columns (p : PairObservation) :
    (rawRow p metric)[2]? =some metric.name ∧ (rawRow p metric)[11]? =some (p.delta metric).text := by
  refine ⟨rfl,?_⟩
  unfold rawRow PairObservation.delta
  cases p.retained.value metric <;> cases p.reset.value metric <;> rfl

theorem rawRow_matches (p : PairObservation) (m : Cl001Metric) (status : DeltaStatus) :
    ((rawRow p m)[2]? =some metric.name && (rawRow p m)[11]? =some status.text)=
      (decide (m=metric) && decide (p.delta m=status)) := by
  obtain ⟨hname,hstatus⟩ := rawRow_columns m p
  rw [hname,hstatus,Bool.eq_iff_iff]
  simp only [Option.some.injEq,Bool.and_eq_true,decide_eq_true_eq]
  exact and_congr ⟨name_injective,congrArg _⟩ ⟨text_injective,congrArg _⟩

/-- The table has one row for each pair and metric, with the status of the difference. -/
theorem deltaRows_eq (status : DeltaStatus) :
    deltaRows metric status pairs=pairs.countP (fun p => p.delta metric=status) := by
  unfold deltaRows rawRows
  induction pairs with
  | nil => rfl
  | cons p pairs ih =>
    have hone : (Cl001Metric.all.map (rawRow p)).countP (fun row =>
        row[2]? =some metric.name && row[11]? =some status.text)=
        if decide (p.delta metric=status) then 1 else 0 := by
      rw [List.countP_map]
      simp only [Function.comp_def,rawRow_matches]
      cases metric <;> simp [Cl001Metric.all,List.countP_cons]
    rw [List.flatMap_cons,List.countP_append,ih,hone,List.countP_cons,Nat.add_comm]

def fits64 (a b : I64) : Bool := -(2 : Int)^63≤a.val-b.val && a.val-b.val<2^63

theorem checkedSub_isSome (a b : I64) : (checkedSub a b).isSome=fits64 a b := by
  unfold checkedSub fits64
  split
  · next h => simpa [Society.Relational.bigintLimit] using h
  · next h => simpa [Society.Relational.bigintLimit] using h

theorem delta_observed (p : PairObservation) : decide (p.delta metric=.observed)=
    match p.retained.value metric,p.reset.value metric with
    | .observed a _,.observed b _ => fits64 a b
    | _,_ => false := by
  unfold PairObservation.delta
  cases p.retained.value metric <;> cases p.reset.value metric <;> try rfl
  next a d b d' =>
  rcases Option.eq_none_or_eq_some (checkedSub a b) with hsub | ⟨v,hsub⟩
  · simp [deltaCell,hsub,← checkedSub_isSome]
  · simp [deltaCell,hsub,← checkedSub_isSome]

theorem delta_invalidated (p : PairObservation) : decide (p.delta metric=.invalidated)=
    match p.retained.value metric,p.reset.value metric with
    | .observed a _,.observed b _ => !fits64 a b
    | left,right => left.isInvalidated || right.isInvalidated := by
  unfold PairObservation.delta
  cases p.retained.value metric <;> cases p.reset.value metric <;> try rfl
  next a d b d' =>
  rcases Option.eq_none_or_eq_some (checkedSub a b) with hsub | ⟨v,hsub⟩
  · simp [deltaCell,hsub,← checkedSub_isSome]
  · simp [deltaCell,hsub,← checkedSub_isSome]

/-- Each arm's and the difference's counts split the pairs, a difference is observed just where both
arms are and it is an `i64`, the order of the pairs does not matter, and the rows of the table have
the same statuses. -/
theorem summary_accounts :
    ((summarize metric pairs).retainedObserved+(summarize metric pairs).retainedUnavailable+
        (summarize metric pairs).retainedInvalidated=pairs.length ∧
      (summarize metric pairs).resetObserved+(summarize metric pairs).resetUnavailable+
        (summarize metric pairs).resetInvalidated=pairs.length ∧
      (summarize metric pairs).pairedObserved+(summarize metric pairs).deltaUnavailable+
        (summarize metric pairs).deltaInvalidated=pairs.length) ∧
    (summarize metric pairs).pairedObserved=pairs.countP (fun p =>
      match p.retained.value metric,p.reset.value metric with
      | .observed a _,.observed b _ => fits64 a b
      | _,_ => false) ∧
    (summarize metric pairs).deltaInvalidated=pairs.countP (fun p =>
      match p.retained.value metric,p.reset.value metric with
      | .observed a _,.observed b _ => !fits64 a b
      | left,right => left.isInvalidated || right.isInvalidated) ∧
    (∀ pairs',pairs.Perm pairs' → summarize metric pairs'=summarize metric pairs) ∧
    (summarize metric pairs).pairedObserved=deltaRows metric .observed pairs ∧
    (summarize metric pairs).deltaUnavailable=deltaRows metric .unavailable pairs ∧
    (summarize metric pairs).deltaInvalidated=deltaRows metric .invalidated pairs := by
  have harm (value : PairObservation → MeasurementOutcome) :
      pairs.countP (fun p => (value p).isObserved)+pairs.countP (fun p => (value p).isUnavailable)+
        pairs.countP (fun p => (value p).isInvalidated)=pairs.length :=
    countP_partition (fun p => (value p).partition) pairs
  have hdelta : pairs.countP (fun p => p.delta metric=.observed)+
      pairs.countP (fun p => p.delta metric=.unavailable)+
        pairs.countP (fun p => p.delta metric=.invalidated)=pairs.length :=
    countP_partition (fun p => (p.delta metric).partition) pairs
  simp only [deltaRows_eq,summarize_eq,and_true]
  refine ⟨⟨harm _,harm _,hdelta⟩,?_,?_,?_⟩
  · exact List.countP_congr fun p _ => by rw [delta_observed]
  · exact List.countP_congr fun p _ => by rw [delta_invalidated]
  · intro pairs' hperm
    simp only [hperm.countP_eq]

end Counts
end Society.Latency
