import Society.Kernel.Ledger

namespace Society.Kernel
open Society.Relational Society.Coding

/-! The end of an operating cycle: which cycles reconcile, and what a drained cycle owns. -/

section Reconcile
variable {hash : Bytes → Blake3Digest} {W : List Tbl} {s : Store} {c : OperatingCycleId}
  {cycle : OperatingCycleRow} {r : CommandRequest}

@[simp] theorem total_cycleForGeneration {g : ExpectedGeneration} {Q : OperatingCycleRow → Store → Prop} :
    Tx.total (cycleForGeneration c g : Transition W _) Q s ↔
      ∃ q,s.find .operatingCycles c=some q ∧ g=.exact q.admissionGeneration ∧ Q q s := by
  have hrow {Q : OperatingCycleRow → Store → Prop} :
      Tx.total (cycleRow c : Transition W _) Q s ↔ ∃ q,s.find .operatingCycles c=some q ∧ Q q s :=
    Tx.total_get ..
  cases g <;> simp [cycleForGeneration,hrow]

/-- A cycle row can always move to another state. -/
theorem transitionCycle_total (hv : s.Valid) (cmd : CommandRowId) (state : OperatingCycleState)
    (n : AdmissionGeneration) (hw : .operatingCycles ∈ W) {Q : Unit → Store → Prop}
    (hq : Q () (s.modify .operatingCycles (fun q => q.operatingCycleId==c) (fun q => some
      {q with lifecycleState := state,admissionGeneration := n,lastTransitionCommandId := cmd}))) :
    Tx.total (transitionCycle cmd c state n hw) Q s := by
  simp only [transitionCycle,Tx.total_bind,Tx.total_update,Tx.total_pure]
  refine ⟨hv.admits_update (fun _ _ => rfl) (fun _ _ => rfl) ?_ ?_,hq⟩
  · exact fun q hq _ => hv.checked .operatingCycles q hq
  · exact fun q hq _ => hv.linked .operatingCycles q hq

/-- The table of reconciliations has room for one row per cycle. -/
theorem reconciliation_admits (cmd : CommandRowId) {q : OperatingCycleRow}
    (hc : s.find .operatingCycles c=some q) :
    s.admits .operatingCycleReconciliations ⟨c,cmd,none⟩=true ↔
      ∀ q ∈ s.rows .operatingCycleReconciliations,q.operatingCycleId≠c := by
  have hconflict (q : OperatingCycleReconciliationRow) :
      conflict Tbl.operatingCycleReconciliations q ⟨c,cmd,none⟩=(q.operatingCycleId==c) := rfl
  have hlinked : s.linked .operatingCycleReconciliations ⟨c,cmd,none⟩=true := by
    refine List.all_eq_true.mpr (fun p hp => ?_)
    rw [List.mem_singleton.mp hp]
    exact Db.has_iff.mpr ⟨q,Db.find_mem hc,Db.find_key hc⟩
  have hcheck : check Tbl.operatingCycleReconciliations
      (OperatingCycleReconciliationRow.mk c cmd none)=true := rfl
  rw [Db.admits,hcheck,hlinked,Bool.true_and,Bool.true_and,List.all_eq_true]
  simp only [hconflict,Bool.not_eq_true',beq_eq_false_iff_ne]

/-- Reconciliation begins exactly once. -/
theorem beginReconciliation_total_iff (hv : s.Valid) (cmd : CommandRowId)
    (hc : s.find .operatingCycles c=some cycle) (hd : cycle.lifecycleState=.drained) :
    Tx.total (beginReconciliation cmd (.exact cycle.admissionGeneration) c) (fun _ _ => True) s ↔
      ∀ q ∈ s.rows .operatingCycleReconciliations,q.operatingCycleId≠c := by
  simp only [beginReconciliation,Tx.total_bind,total_cycleForGeneration,Tx.total_require,
    Tx.total_store,Tx.total_pure]
  let s' := s.modify .operatingCycles (fun q => q.operatingCycleId==c) (fun q => some
    {q with lifecycleState := .reconciling,admissionGeneration := cycle.admissionGeneration,
            lastTransitionCommandId := cmd})
  have hrows : s'.rows .operatingCycleReconciliations=s.rows .operatingCycleReconciliations := by
    simp [s',Db.rows]
  have hfind : ∃ q,s'.find .operatingCycles c=some q := by
    refine ⟨_,(Db.find_modify ?_).trans (congrArg _ hc)⟩
    intro q q' hq
    cases hq
    rfl
  obtain ⟨q,hq⟩ := hfind
  rw [← hrows,← reconciliation_admits cmd hq]
  constructor
  · rintro ⟨q,hq,_,_,htotal⟩
    rw [hc] at hq
    cases hq
    simp only [transitionCycle,Tx.total_bind,Tx.total_update,Tx.total_pure] at htotal
    exact htotal.2.1
  · intro hadmits
    exact ⟨cycle,hc,rfl,by simp [hd],transitionCycle_total hv cmd _ _ _ ⟨hadmits,trivial⟩⟩

/-- An accepted reconciliation leaves its cycle reconciling. -/
theorem beginReconciliation_moves (cmd : CommandRowId) (g : ExpectedGeneration) :
    Tx.wp (beginReconciliation cmd g c) (fun _ s' =>
      ∃ q,s'.find .operatingCycles c=some q ∧ q.lifecycleState=.reconciling) s := by
  simp only [beginReconciliation,transitionCycle,Tx.wp_bind,wp_cycleForGeneration,Tx.wp_require,
    Tx.wp_update,Tx.wp_store,Tx.wp_pure]
  intro q hq _ _ _ _
  rw [Db.find,Db.rows,Db.append_ne _ _ _ (by decide),← Db.rows,← Db.find,Db.find_modify,hq]
  · have hkey : q.operatingCycleId=c := Relational.Id.ext (Db.find_key hq)
    exact ⟨_,rfl,by simp [hkey]⟩
  · intro q q' hq
    cases hq
    rfl

/-- An authorized principal asks to reconcile the drained cycle `c` at its own generation. -/
structure ReconcilesDrained (s : Store) (r : CommandRequest) (c : OperatingCycleId) : Prop where
  body : r.body=.reconcileOperatingCycle c
  fresh : storedCommand s r.commandId=none
  room : (s .commands).next<bigintLimit
  allowed : authorized s r=true
  drained : (s.find .operatingCycles c).any (fun q => q.lifecycleState==.drained &&
    r.expectedGeneration==.exact q.admissionGeneration)=true

def ReconcilesDrained.check (s : Store) (r : CommandRequest) (c : OperatingCycleId) : Bool :=
  (storedCommand s r.commandId).isNone && decide ((s .commands).next<bigintLimit) && authorized s r &&
    (s.find .operatingCycles c).any (fun q => q.lifecycleState==.drained &&
      r.expectedGeneration==.exact q.admissionGeneration)

theorem reconcilesDrained_of_check (hb : r.body=.reconcileOperatingCycle c)
    (h : ReconcilesDrained.check s r c=true) : ReconcilesDrained s r c := by
  simp only [ReconcilesDrained.check,Bool.and_eq_true,Option.isNone_iff_eq_none,decide_eq_true_eq] at h
  exact ⟨hb,h.1.1.1,h.1.1.2,h.1.2,h.2⟩

/-- A drained cycle can be reconciled exactly if it has not been reconciling before. -/
theorem reconcile_accepted_iff (h : Reachable hash s) (hr : ReconcilesDrained s r c) :
    (accepts hash s r ∧ ∃ q,(execute hash r s).2.find .operatingCycles c=some q ∧
      q.lifecycleState=.reconciling) ↔
      ∀ q ∈ s.rows .operatingCycleReconciliations,q.operatingCycleId≠c := by
  obtain ⟨hb,hq,hroom,ha,hd⟩ := hr
  obtain ⟨i,p,k,cap,e,b⟩ := r
  cases hb
  simp only [Option.any_eq_true,Bool.and_eq_true,beq_iff_eq] at hd
  obtain ⟨cycle,hc,hd,rfl⟩ := hd
  obtain ⟨s₁,cmd,hsame,hv,hiff⟩ := accepts_body h hq rfl hroom ha rfl
  have hc₁ : s₁.find .operatingCycles c=some cycle := by
    rw [Db.find,Db.rows,hsame _ (by decide)]
    exact hc
  have hrows : s₁.rows .operatingCycleReconciliations=s.rows .operatingCycleReconciliations := by
    rw [Db.rows,hsame _ (by decide)]
  rw [← hrows,← beginReconciliation_total_iff hv cmd hc₁ hd]
  refine ⟨fun hacc => hiff.mp hacc.1,fun htotal => ⟨hiff.mpr htotal,?_⟩⟩
  refine accepts_wp (D := [.operatingCycles]) (P := fun s' => ∃ q,s'.find .operatingCycles c=some q ∧
    q.lifecycleState=.reconciling) (by decide) ?_ h.valid (hiff.mpr htotal) ?_
  · rintro s s' hrows ⟨q,hq,hstate⟩
    refine ⟨q,?_,hstate⟩
    rw [Db.find,hrows _ (by decide)]
    exact hq
  · exact fun s₂ cmd _ => beginReconciliation_moves cmd _

/-- A cycle whose reservation freezes while it reconciles, and that is then cancelled. -/
def frozenReconciliation : List CommandRequest :=
  founding .deterministicPiHostFixtureV1++
  [request 10 (.startRootAuthorityOfficeSession (nth 1)) firstGeneration,
   request 11 (.reserveBudget (nth 1) (micros 100)) firstGeneration,
   request 12 (.quiesceOperatingCycle (nth 1)) firstGeneration,
   request 13 (.recordCycleDrained (nth 1)),
   request 14 (.reconcileOperatingCycle (nth 1)) (.exact ⟨1,by decide⟩),
   request 15 (.reconcileBudget (nth 1) (.unknown .providerDidNotReport)),
   request 16 (.recordOfficeSessionTerminal (nth 1) .failed) (.exact ⟨2,by decide⟩),
   request 17 (.reconcileCancellation (nth 1))]

theorem reconcile_accepted_once :
    (accepts blake3 (runCommands blake3 (frozenReconciliation.take 14) Store.initial)
        (request 14 (.reconcileOperatingCycle (nth 1)) (.exact ⟨1,by decide⟩)) ∧
      ∃ q,(execute blake3 (request 14 (.reconcileOperatingCycle (nth 1)) (.exact ⟨1,by decide⟩))
        (runCommands blake3 (frozenReconciliation.take 14) Store.initial)).2.find
          .operatingCycles (nth 1)=some q ∧ q.lifecycleState=.reconciling) ↔
      ∀ q ∈ (runCommands blake3 (frozenReconciliation.take 14) Store.initial).rows
        .operatingCycleReconciliations,q.operatingCycleId≠nth 1 :=
  reconcile_accepted_iff (Reaches.runCommands .initial _) (reconcilesDrained_of_check rfl (by decide +kernel))

theorem frozenReconciliation_stuck : ¬∀ s r c,Reachable blake3 s → ReconcilesDrained s r c →
    accepts blake3 s r := by
  intro h
  have hrun : ReconcilesDrained.check (runCommands blake3 frozenReconciliation Store.initial)
      (request 18 (.reconcileOperatingCycle (nth 1)) (.exact ⟨2,by decide⟩)) (nth 1)=true ∧
      (execute blake3 (request 18 (.reconcileOperatingCycle (nth 1)) (.exact ⟨2,by decide⟩))
        (runCommands blake3 frozenReconciliation Store.initial)).1=
          .ok ⟨.rejected .invalidLifecycleTransition,false⟩ := by decide +kernel
  obtain ⟨i,hi⟩ := h _ _ _ (Reaches.runCommands .initial _) (reconcilesDrained_of_check rfl hrun.1)
  rw [hrun.2] at hi
  cases hi

end Reconcile
end Society.Kernel
