import Society.Kernel.BudgetLaws
import Society.Kernel.WorkLaws
import Society.Relational.Members

namespace Society.Kernel
open Society.Relational Society.Coding

/-! The commands that move money, one step of the books each. -/

/-- A property of the books that the steps of the commands keep. -/
structure BookRule (I : Store → Prop) : Prop where
  same : Db.ReadsOnly bookTables I
  step : ∀ s s' : Store,s.Valid → I s → BookStep s s' → I s'

section Reserve
variable {s : Store}

/-- An envelope after an amount was booked on `b`. -/
theorem reserving_found {b e : BudgetEnvelopeId} {amount : UsdMicros} {q' : BudgetEnvelopeRow}
    (ha : s.admitsModified .budgetEnvelopes (fun r => r.budgetEnvelopeId==b)
      (fun r => r.reserving amount)=true)
    (h : (s.modify .budgetEnvelopes (fun r => r.budgetEnvelopeId==b)
      (fun r => r.reserving amount)).find .budgetEnvelopes e=some q') :
    ∃ q,s.find .budgetEnvelopes e=some q ∧ q'.ceilingMicros=q.ceilingMicros ∧
      q'.spentMicros=q.spentMicros ∧
      q'.reservedMicros.val=q.reservedMicros.val+(if e=b then amount.val else 0) := by
  obtain ⟨q,hq,hyes,hno⟩ := found_modify
    (fun _ _ h => congrArg Relational.Id.val (BudgetEnvelopeRow.reserving_key h)) ha h
  refine ⟨q,hq,?_⟩
  have hkey : q.budgetEnvelopeId=e := Relational.Id.ext (Db.find_key hq)
  by_cases he : e=b
  · obtain ⟨x,hx,rfl⟩ := BudgetEnvelopeRow.reserving_eq_some.mp
      (hyes (beq_iff_eq.mpr (hkey.trans he)))
    rw [Ranged.checkedAdd_eq_some] at hx
    simp [he,hx]
  · rw [hno (beq_eq_false_iff_ne.mpr (fun h => he (hkey.symm.trans h)))]
    simp [he]

theorem reserveOnEnvelopes_step (hv : s.Valid) (cmd : CommandRowId) (cycle : OperatingCycleRow)
    (c : OperatingCycleId) (amount : UsdMicros) :
    Tx.wp (reserveOnEnvelopes cmd cycle c amount) (fun _ s' => BookStep s s') s := by
  simp only [reserveOnEnvelopes,budgetEnvelopesForCycle,Tx.each,Tx.wp_bind,Tx.wp_andThen,Tx.wp_ret,
    Tx.wp_pure,Tx.wp_read,Tx.wp_the,Tx.wp_require,wp_budgetAmounts,Tx.wp_insert,Tx.wp_updateM]
  intro x hx y hy b hb next hnext hroom b' hb' next' hnext' hroom' i hi _ hm j hj _ hm' k hk _
  have hsociety : envelopeOf s (.society cycle.societyId)=some x.budgetEnvelopeId := by
    rw [envelopeOf,hx]; rfl
  have hcycle : envelopeOf s (.cycle c)=some y.budgetEnvelopeId := by
    rw [envelopeOf,hy]; rfl
  have hne : x.budgetEnvelopeId≠y.budgetEnvelopeId := by
    intro h
    rw [← h] at hcycle
    cases envelopeOf_inj hv hsociety hcycle
  rw [Ranged.checkedAdd_eq_some] at hnext hnext'
  refine .reserved ⟨i,c,amount,.zero,.reserved,cmd,none⟩ cycle.societyId x.budgetEnvelopeId y.budgetEnvelopeId
    ⟨j,i,x.budgetEnvelopeId,amount⟩ ⟨k,i,y.budgetEnvelopeId,amount⟩ ⟨hsociety,hcycle⟩ (hv.find_fresh rfl hi) ?_ ⟨rfl,rfl⟩
    ?_ ⟨rfl,rfl,rfl⟩ ⟨rfl,rfl,rfl⟩ ?_ ?_ ?_
  · simp [Db.rows]
  · simp [Db.rows]
  · intro e q' hq'
    rw [Db.find_append_ne (by decide)] at hq'
    obtain ⟨q₂,hq₂,hceil₂,hspent₂,hres₂⟩ := reserving_found hm' hq'
    rw [Db.find_append_ne (by decide)] at hq₂
    obtain ⟨q₁,hq₁,hceil₁,hspent₁,hres₁⟩ := reserving_found hm hq₂
    rw [Db.find_append_ne (by decide)] at hq₁
    refine ⟨q₁,hq₁,hceil₂.trans hceil₁,hspent₂.trans hspent₁,?_⟩
    rw [hres₂,hres₁]
    by_cases hx : e=x.budgetEnvelopeId
    · simp [hx,hne]
    · simp [hx]
  · intro e q he hq
    rcases he with rfl | rfl
    · rw [hb] at hq
      cases hq
      obtain ⟨v,hv,hle⟩ := (Option.any_eq_true ..).mp hroom
      rw [Ranged.checkedAdd_eq_some] at hv
      have := of_decide_eq_true hle
      change b.reservedMicros.val+amount.val+b.spentMicros.val≤b.ceilingMicros.val
      omega
    · rw [hb'] at hq
      cases hq
      obtain ⟨v,hv,hle⟩ := (Option.any_eq_true ..).mp hroom'
      rw [Ranged.checkedAdd_eq_some] at hv
      have := of_decide_eq_true hle
      change b'.reservedMicros.val+amount.val+b'.spentMicros.val≤b'.ceilingMicros.val
      omega
  · intro t ht
    simp only [List.mem_cons,List.not_mem_nil,or_false] at ht
    rcases ht with rfl | rfl | rfl | rfl <;> simp [Db.rows]

end Reserve
section Freeze
variable {s : Store} {i : BudgetReservationId} {r : BudgetReservationRow} {left : UsdMicros}
  {reason : BudgetFreezeReason}

/-- The postmortem that a freeze opens. -/
def openedPostmortem (cmd : CommandRowId) (i : BudgetReservationId) (c : OperatingCycleId)
    (cancellation : CancellationRequestId) (left : UsdMicros) (reason : BudgetFreezeReason)
    (j : CostPostmortemId) : CostPostmortemRow where
  postmortemId := j
  budgetReservationId := i
  operatingCycleId := c
  cancellationRequestId := cancellation
  causeKind := (postmortemColumns reason).1
  observedMicros := (postmortemColumns reason).2.1
  reservedMicros := some left
  unknownReason := (postmortemColumns reason).2.2.1
  unavailableReason := (postmortemColumns reason).2.2.2
  lifecycleState := .opened
  openedByCommandId := cmd
  closedByCommandId := none

theorem freezeBudget_step (hv : s.Valid) (cmd : CommandRowId) (c : OperatingCycleId)
    (hr : s.find .budgetReservations i=some r) (hstate : r.reservationState=.reserved)
    (hleft : left.val+r.chargedMicros.val=r.amountMicros.val)
    (hreason : ∀ observed rest,reason=.knownOverrun observed rest → r.amountMicros.val<observed.val) :
    Tx.wp (freezeBudget cmd i c left reason) (fun _ s' => BookStep s s') s := by
  simp only [freezeBudget,transitionCycle,Tx.wp_bind,Tx.wp_update,Tx.wp_read,Tx.wp_the,wp_cycleRow]
  intro _ cycle _ generation _ _
  rw [Tx.wp_pure]
  -- whether a cancellation is open already does not matter to the books
  split
  · next k _ =>
    simp only [Tx.wp_bind,Tx.wp_pure,Tx.wp_insert]
    intro j hj _
    refine .frozen i r (openedPostmortem cmd i c k left reason j) left reason hr hstate hleft hreason ⟨rfl,rfl,rfl,rfl,rfl⟩
      (hv.find_fresh rfl (i := j) (by simpa using hj)) ?_ ?_ ?_
    · simp [Db.rows,BudgetReservationRow.freeze]
    · simp [Db.rows,openedPostmortem]
    · intro t ht
      simp only [List.mem_cons,List.not_mem_nil,or_false] at ht
      rcases ht with rfl | rfl | rfl | rfl | rfl <;> simp [Db.rows]
  · simp only [Tx.wp_bind,Tx.wp_pure,Tx.wp_insert]
    intro k _ _ j hj _
    refine .frozen i r (openedPostmortem cmd i c k left reason j) left reason hr hstate hleft hreason ⟨rfl,rfl,rfl,rfl,rfl⟩
      (hv.find_fresh rfl (i := j) (by simpa using hj)) ?_ ?_ ?_
    · simp [Db.rows,BudgetReservationRow.freeze]
    · simp [Db.rows,openedPostmortem]
    · intro t ht
      simp only [List.mem_cons,List.not_mem_nil,or_false] at ht
      rcases ht with rfl | rfl | rfl | rfl | rfl <;> simp [Db.rows]

end Freeze
section Settle
variable {W : List Tbl} {s s₁ : Store} {i : BudgetReservationId} {r : BudgetReservationRow}
  {delta total : UsdMicros}

/-- What stays while the charges of a reservation move. -/
theorem ChargesMoved.rows {out into : BudgetEnvelopeId → Nat}
    {new : BudgetEnvelopeId → Option UsdMicros} (h : ChargesMoved i out into new s s₁) {t : Tbl}
    (he : t≠.budgetEnvelopes) (hc : t≠.budgetReservationCharges) : s₁.rows t=s.rows t := by
  rw [Db.rows,h.same t he hc]

/-- The end of a settlement whose charges have moved. -/
theorem ChargesMoved.settled {new : BudgetEnvelopeId → Option UsdMicros} (cmd : CommandRowId)
    (hm : ChargesMoved i (released s i) (each s i delta.val) new s s₁)
    (hr : s.find .budgetReservations i=some r) (hstate : r.reservationState=.reserved)
    (htotal : total.val=r.chargedMicros.val+delta.val) (hle : total.val ≤ r.amountMicros.val)
    (hnew : ∀ e,(new e).isSome=(chargeOn s i e).isSome) :
    BookStep s (s₁.modify .budgetReservations (fun q => q.budgetReservationId==i)
      (fun q => some (q.reconciledAt cmd total))) := by
  refine .settled i r delta total cmd new s₁ hr hstate htotal hle hm hnew ?_ ?_ ?_ ?_
  · simp [Db.rows]
  · simp [Db.rows]
  · rw [Db.rows,Db.modify_same]
    exact Db.modified_rows (hm.rows (by decide) (by decide))
  · intro t ht
    simp only [List.mem_cons,List.not_mem_nil,or_false] at ht
    rcases ht with rfl | rfl | rfl | rfl <;>
      simpa [Db.rows] using hm.rows (t := _) (by decide) (by decide)

theorem settleCharges_step (hv : s.Valid) (cmd : CommandRowId) (hw : .budgetEnvelopes ∈ W)
    (hr : s.find .budgetReservations i=some r) (hstate : r.reservationState=.reserved)
    (htotal : total.val=r.chargedMicros.val+delta.val) (hle : total.val ≤ r.amountMicros.val) :
    Tx.wp (settleCharges i delta hw) (fun _ s₁ => BookStep s (s₁.modify .budgetReservations
      (fun q => q.budgetReservationId==i) (fun q => some (q.reconciledAt cmd total)))) s := by
  refine Tx.wp_mono (settleCharges_wp hv delta hw) ?_
  intro _ s₁ hm
  exact hm.settled cmd hr hstate htotal hle (fun _ => rfl)

theorem disposeCharges_step (hv : s.Valid) (cmd : CommandRowId)
    (hr : s.find .budgetReservations i=some r) (hstate : r.reservationState=.reserved)
    (htotal : total.val=r.chargedMicros.val+delta.val) (hle : total.val ≤ r.amountMicros.val) :
    Tx.wp (disposeCharges i delta) (fun _ s₁ => BookStep s (s₁.modify .budgetReservations
      (fun q => q.budgetReservationId==i) (fun q => some (q.reconciledAt cmd total)))) s := by
  refine Tx.wp_mono (disposeCharges_wp hv delta) ?_
  intro _ s₁ hm
  exact hm.settled cmd hr hstate htotal hle (fun e => by rw [Option.isSome_map])

theorem drawCharges_step (hv : s.Valid) (hr : s.find .budgetReservations i=some r)
    (hstate : r.reservationState=.reserved)
    (hle : r.chargedMicros.val+delta.val ≤ r.amountMicros.val) :
    Tx.wp (drawCharges i delta) (fun _ s₁ => BookStep s (s₁.modify .budgetReservations
      (fun q => q.budgetReservationId==i) (fun q => q.charging delta))) s := by
  refine Tx.wp_mono (drawCharges_wp hv delta) ?_
  intro _ s₁ hm
  refine .drawn i r delta s₁ hr hstate hle hm ?_ ?_ ?_ ?_
  · simp [Db.rows]
  · simp [Db.rows]
  · rw [Db.rows,Db.modify_same]
    exact Db.modified_rows (hm.rows (by decide) (by decide))
  · intro t ht
    simp only [List.mem_cons,List.not_mem_nil,or_false] at ht
    rcases ht with rfl | rfl | rfl | rfl <;>
      simpa [Db.rows] using hm.rows (t := _) (by decide) (by decide)

end Settle

section Commands
variable {I : Store → Prop} {s : Store} {cmd : CommandRowId}

theorem settleOfficeTurn_books (hI : BookRule I) (hv : s.Valid) (hs : I s) (i : OfficeTurnId)
    (receipt : PiOfficeTurnTerminalReceiptId) :
    Tx.wp (settleOfficeTurn cmd i receipt) (fun _ s' => I s') s := by
  simp only [settleOfficeTurn,freezeBudgetAdmission,Tx.wp_bind,Tx.wp_read,Tx.wp_the,Tx.wp_require,
    Tx.wp_get,Tx.wp_ite,Tx.wp_widen,Tx.wp_updateM,Tx.wp_update,Tx.wp_pure,transitionSession]
  intro o _ _ o' _ _ _ r hr hstate left hleft delta hdelta _
  rw [Ranged.checkedSub_eq_some] at hleft hdelta
  have hstate := beq_iff_eq.mp hstate
  refine ⟨fun hle => ?_,fun hgt => ?_⟩
  · refine Tx.wp_mono (drawCharges_step hv hr hstate (by omega)) ?_
    intro _ s₁ h₁ _ _ _ _
    exact hI.same.modify (by decide) (hI.same.modify (by decide) (hI.same.modify (by decide) (hI.step s _ hv hs h₁)))
  · refine Tx.wp_mono (freezeBudget_step hv cmd _ hr hstate (by omega) ?_) ?_
    · rintro observed rest ⟨⟩
      omega
    · intro _ s' h
      exact hI.step s s' hv hs h

theorem officeFailureFreeze_step (hv : s.Valid) {i : BudgetReservationId} {c : OperatingCycleId}
    {r : BudgetReservationRow} {left : UsdMicros} (hr : s.find .budgetReservations i=some r)
    (hstate : (r.reservationState==.reserved)=true)
    (hleft : r.amountMicros.checkedSub r.chargedMicros=some left)
    (failure : PiOfficeTurnUsageFailure) :
    Tx.wp (freezeBudget cmd i c left (piOfficeTurnUsageFailureFreezeReason failure))
      (fun _ s' => BookStep s s') s := by
  rw [Ranged.checkedSub_eq_some] at hleft
  refine freezeBudget_step hv cmd c hr (beq_iff_eq.mp hstate) (by omega) ?_
  intro observed rest h
  cases failure with
  | unknown k => cases k <;> cases h
  | unavailable k => cases h

theorem taskFailureFreeze_step (hv : s.Valid) {i : BudgetReservationId} {c : OperatingCycleId}
    {r : BudgetReservationRow} {left : UsdMicros} (hr : s.find .budgetReservations i=some r)
    (hstate : (r.reservationState==.reserved)=true)
    (hleft : r.amountMicros.checkedSub r.chargedMicros=some left)
    (failure : PiTaskAttemptUsageFailure) :
    Tx.wp (freezeBudget cmd i c left (taskAttemptUsageFailureFreezeReason failure))
      (fun _ s' => BookStep s s') s := by
  rw [Ranged.checkedSub_eq_some] at hleft
  refine freezeBudget_step hv cmd c hr (beq_iff_eq.mp hstate) (by omega) ?_
  intro observed rest h
  cases failure with
  | unknown k => cases k <;> cases h
  | unavailable k => cases h

theorem recordPiOfficeTurnUsageFailure_books (hI : BookRule I) (hv : s.Valid) (hs : I s)
    (i : OfficeTurnId) (correlation : PiCorrelationIdentity) (sequence : PiProtocolSequence)
    (failure : PiOfficeTurnUsageFailure) :
    Tx.wp (recordPiOfficeTurnUsageFailure cmd i correlation sequence failure) (fun _ s' => I s') s := by
  simp only [recordPiOfficeTurnUsageFailure,activeRemainder,Tx.wp_bind,Tx.wp_read,Tx.wp_the,
    Tx.wp_require,Tx.wp_get,Tx.wp_widen,Tx.wp_pure,Tx.wp_insert]
  intro _ o _ c _ _ r hr hstate left hleft
  refine Tx.wp_mono (officeFailureFreeze_step hv hr hstate hleft failure) ?_
  intro f s₁ h₁ j _ _
  exact hI.same.append (by decide) (hI.step s s₁ hv hs h₁)

theorem wp_officeDisposeGeneration {W : List Tbl} {Q : Unit → Store → Prop} (g : ExpectedGeneration)
    (i : RootAuthorityOfficeSessionId) (h : Q () s) :
    Tx.wp (W := W) (requirePiOfficeSessionDisposeAuthorizationGeneration g i) Q s := by
  simp only [requirePiOfficeSessionDisposeAuthorizationGeneration,Tx.wp_bind,Tx.wp_read,Tx.wp_the]
  intro a _
  cases g with
  | exact n => exact (Tx.wp_require ..).mpr fun _ => h
  | notApplicable => exact (Tx.wp_raise ..).mpr trivial

theorem wp_taskDisposeGeneration {W : List Tbl} {Q : Unit → Store → Prop} (g : ExpectedGeneration)
    (i : ActorAttemptId) (h : Q () s) :
    Tx.wp (W := W) (requirePiTaskAttemptDisposeAuthorizationGeneration g i) Q s := by
  simp only [requirePiTaskAttemptDisposeAuthorizationGeneration,Tx.wp_bind,Tx.wp_read,Tx.wp_the]
  intro a _
  cases g with
  | exact n => exact (Tx.wp_require ..).mpr fun _ => h
  | notApplicable => exact (Tx.wp_raise ..).mpr trivial

theorem recordPiOfficeSessionDisposeUsageFailure_books (hI : BookRule I) (hv : s.Valid) (hs : I s)
    (g : ExpectedGeneration) (i : RootAuthorityOfficeSessionId) (correlation : PiCorrelationIdentity)
    (sequence : PiProtocolSequence) (failure : PiOfficeTurnUsageFailure) :
    Tx.wp (recordPiOfficeSessionDisposeUsageFailure cmd g i correlation sequence failure)
      (fun _ s' => I s') s := by
  simp only [recordPiOfficeSessionDisposeUsageFailure,activeRemainder,Tx.wp_bind,Tx.wp_read,
    Tx.wp_the,Tx.wp_require,Tx.wp_get,Tx.wp_widen,Tx.wp_pure,Tx.wp_store]
  refine wp_officeDisposeGeneration g i ?_
  intro d _ accepted _ session _ parent _ _ _ r hr hstate left hleft
  refine Tx.wp_mono (officeFailureFreeze_step hv hr hstate hleft failure) ?_
  intro f s₁ h₁ _
  exact hI.same.append (by decide) (hI.step s s₁ hv hs h₁)

theorem recordPiOfficeSessionDisposed_books (hI : BookRule I) (hv : s.Valid) (hs : I s)
    (g : ExpectedGeneration) (i : RootAuthorityOfficeSessionId) (correlation : PiCorrelationIdentity)
    (disposed : PiProtocolSequence) (transcript : PiOfficeSessionTranscriptReceipt) :
    Tx.wp (recordPiOfficeSessionDisposed cmd g i correlation disposed transcript)
      (fun _ s' => I s') s := by
  simp only [recordPiOfficeSessionDisposed,reconcileOfficeSessionReservation,markReconciled,
    transitionSession,Tx.wp_bind,Tx.wp_read,Tx.wp_the,Tx.wp_require,Tx.wp_get,Tx.wp_widen,Tx.wp_ite,
    Tx.wp_pure,Tx.wp_insert,Tx.wp_update]
  refine wp_officeDisposeGeneration g i ?_
  intro o _ _ _ _ r hr hstate left hleft delta hdelta
  rw [Ranged.checkedSub_eq_some] at hleft hdelta
  have hstate := beq_iff_eq.mp hstate
  refine ⟨fun hle => ?_,fun hgt => ?_⟩
  · refine Tx.wp_mono (disposeCharges_step hv cmd hr hstate (by omega) hle) ?_
    intro _ s₁ h₁ _ _ _ _ _
    exact hI.same.modify (by decide) (hI.same.append (by decide) (hI.step s _ hv hs h₁))
  · refine Tx.wp_mono (freezeBudget_step hv cmd _ hr hstate (by omega) ?_) ?_
    · rintro observed rest ⟨⟩
      omega
    · intro _ s₁ h₁ _ _ _ _
      exact hI.same.modify (by decide) (hI.same.append (by decide) (hI.step s _ hv hs h₁))

theorem recordPiTaskAttemptUsageFailure_books (hI : BookRule I) (hv : s.Valid) (hs : I s)
    (i : ActorAttemptId) (correlation : PiCorrelationIdentity) (sequence : PiProtocolSequence)
    (failure : PiTaskAttemptUsageFailure) :
    Tx.wp (recordPiTaskAttemptUsageFailure cmd i correlation sequence failure) (fun _ s' => I s') s := by
  simp only [recordPiTaskAttemptUsageFailure,piTaskAttemptBinding,activeRemainder,Tx.wp_bind,
    Tx.wp_read,Tx.wp_the,Tx.wp_require,Tx.wp_get,Tx.wp_widen,Tx.wp_pure,Tx.wp_insert]
  intro _ attempt _ reservation _ b _ _ a _ _ r hr hstate left hleft
  refine Tx.wp_mono (taskFailureFreeze_step hv hr hstate hleft failure) ?_
  intro f s₁ h₁ j _ _
  exact hI.same.append (by decide) (hI.step s s₁ hv hs h₁)

theorem recordPiTaskAttemptSessionDisposeUsageFailure_books (hI : BookRule I) (hv : s.Valid)
    (hs : I s) (g : ExpectedGeneration) (i : ActorAttemptId) (correlation : PiCorrelationIdentity)
    (sequence : PiProtocolSequence) (failure : PiTaskAttemptUsageFailure) :
    Tx.wp (recordPiTaskAttemptSessionDisposeUsageFailure cmd g i correlation sequence failure)
      (fun _ s' => I s') s := by
  simp only [recordPiTaskAttemptSessionDisposeUsageFailure,taskAttemptDisposeUsageBinding,
    piTaskAttemptBinding,activeRemainder,Tx.wp_bind,Tx.wp_read,Tx.wp_the,Tx.wp_require,Tx.wp_get,
    Tx.wp_widen,Tx.wp_pure,Tx.wp_store]
  refine wp_taskDisposeGeneration g i ?_
  intro d _ _ attempt _ reservation _ b _ r hr hstate left hleft
  refine Tx.wp_mono (taskFailureFreeze_step hv hr hstate hleft failure) ?_
  intro f s₁ h₁ _
  exact hI.same.append (by decide) (hI.step s s₁ hv hs h₁)

theorem recordPiTaskAttemptSessionDisposed_books (hI : BookRule I) (hv : s.Valid) (hs : I s)
    (g : ExpectedGeneration) (i : ActorAttemptId) (correlation : PiCorrelationIdentity)
    (disposed : PiProtocolSequence) (transcript : PiTaskAttemptSessionTranscriptReceipt) :
    Tx.wp (recordPiTaskAttemptSessionDisposed cmd g i correlation disposed transcript)
      (fun _ s' => I s') s := by
  simp only [recordPiTaskAttemptSessionDisposed,reconcileTaskAttemptReservation,markReconciled,
    Tx.wp_bind,Tx.wp_read,Tx.wp_the,Tx.wp_require,Tx.wp_get,Tx.wp_widen,Tx.wp_ite,Tx.wp_pure,
    Tx.wp_insert,Tx.wp_update]
  refine wp_taskDisposeGeneration g i ?_
  intro o _ _ _ r hr hstate delta hdelta left hleft
  rw [Ranged.checkedSub_eq_some] at hleft hdelta
  have hstate := beq_iff_eq.mp hstate
  refine ⟨fun hle => ?_,fun hgt => ?_⟩
  · refine Tx.wp_mono (settleCharges_step hv cmd _ hr hstate (by omega) hle) ?_
    intro _ s₁ h₁ _ _ _ _
    exact hI.same.append (by decide) (hI.step s _ hv hs h₁)
  · refine Tx.wp_mono (freezeBudget_step hv cmd _ hr hstate (by omega) ?_) ?_
    · rintro observed rest ⟨⟩
      omega
    · intro _ s₁ h₁ _ _ _
      exact hI.same.append (by decide) (hI.step s _ hv hs h₁)

theorem reconcileBudget_books (hI : BookRule I) (hv : s.Valid) (hs : I s) (i : BudgetReservationId)
    (observation : CostObservation) :
    Tx.wp (reconcileBudget cmd i observation) (fun _ s' => I s') s := by
  simp only [reconcileBudget,freezeBudgetAdmission,markReconciled,Tx.wp_bind,Tx.wp_read,Tx.wp_the,
    Tx.wp_require,Tx.wp_get]
  intro r hr hstate _ left hleft
  rw [Ranged.checkedSub_eq_some] at hleft
  have hstate := beq_iff_eq.mp hstate
  cases observation with
  | known observed =>
    simp only [Tx.wp_bind,Tx.wp_require,Tx.wp_ite,Tx.wp_the,Tx.wp_update,Tx.wp_widen,Tx.wp_pure]
    intro _
    refine ⟨fun hle delta hdelta => ?_,fun hgt => ?_⟩
    · rw [Ranged.checkedSub_eq_some] at hdelta
      refine Tx.wp_mono (settleCharges_step hv cmd _ hr hstate (by omega) hle) ?_
      intro _ s₁ h₁ _
      exact hI.step s _ hv hs h₁
    · refine Tx.wp_mono (freezeBudget_step hv cmd _ hr hstate (by omega) ?_) ?_
      · rintro observed rest ⟨⟩
        omega
      · intro _ s₁ h₁
        exact hI.step s _ hv hs h₁
  | unknown reason =>
    simp only [Tx.wp_bind,Tx.wp_widen,Tx.wp_pure]
    refine Tx.wp_mono (freezeBudget_step hv cmd _ hr hstate (by omega) (by rintro _ _ ⟨⟩)) ?_
    intro _ s₁ h₁
    exact hI.step s _ hv hs h₁
  | unavailable reason =>
    simp only [Tx.wp_bind,Tx.wp_widen,Tx.wp_pure]
    refine Tx.wp_mono (freezeBudget_step hv cmd _ hr hstate (by omega) (by rintro _ _ ⟨⟩)) ?_
    intro _ s₁ h₁
    exact hI.step s _ hv hs h₁

theorem closeCostPostmortem_books (hI : BookRule I) (hv : s.Valid) (hs : I s)
    (g : ExpectedGeneration) (i : CostPostmortemId) (resolution : CostPostmortemResolution) :
    Tx.wp (closeCostPostmortem cmd g i resolution) (fun _ s' => I s') s := by
  simp only [closeCostPostmortem,markReconciled,Tx.wp_bind,Tx.wp_read,Tx.wp_the,Tx.wp_require,
    Tx.wp_get,wp_cycleForGeneration]
  intro p hp hopened cycle _ _ hdrained remaining hremaining r hr hstate left hleft heq charged
    hcharged _
  rw [Ranged.checkedSub_eq_some] at hleft
  have hid : p.postmortemId=i := Relational.Id.ext (Db.find_key hp)
  have hleft' : remaining.val+r.chargedMicros.val=r.amountMicros.val := by
    rw [← beq_iff_eq.mp heq]
    omega
  refine Tx.wp_mono (settleCharges_wp hv charged _) ?_
  intro _ s₁ hm
  simp only [Tx.wp_update,Tx.wp_store,Tx.wp_pure]
  intro total htotal _ _ _
  rw [Ranged.checkedAdd_eq_some] at htotal
  refine hI.step s _ hv hs (.closed p r remaining charged total resolution cmd
    ⟨i,resolution,charged,cmd⟩ s₁ (hid ▸ hp) (beq_iff_eq.mp hopened) hremaining hr
    (beq_iff_eq.mp hstate) hleft' hcharged htotal hm ?_ ?_ ?_ ?_ ?_ hid.symm ?_)
  · simp [Db.rows]
  · simp [Db.rows]
  · rw [Db.rows,Db.append_ne _ _ _ (by decide),Db.modify_ne _ _ _ (by decide),Db.modify_same]
    exact Db.modified_rows (hm.rows (by decide) (by decide))
  · rw [Db.rows,Db.append_ne _ _ _ (by decide),Db.modify_same,hid]
    refine Db.modified_rows ?_
    rw [Db.rows,Db.modify_ne _ _ _ (by decide)]
    exact hm.rows (by decide) (by decide)
  · rw [Db.rows,Db.append_same,Db.rows,Db.modify_ne _ _ _ (by decide),Db.modify_ne _ _ _ (by decide)]
    rw [← Db.rows,hm.rows (by decide) (by decide)]
  · intro t ht
    simp only [List.mem_cons,List.not_mem_nil,or_false] at ht
    rcases ht with rfl | rfl <;> simpa [Db.rows] using hm.rows (t := _) (by decide) (by decide)

theorem reserveBudget_books (hI : BookRule I) (hv : s.Valid) (hs : I s) (g : ExpectedGeneration)
    (c : OperatingCycleId) (amount : UsdMicros) :
    Tx.wp (reserveBudget cmd g c amount) (fun _ s' => I s') s := by
  simp only [reserveBudget,Tx.wp_bind,Tx.wp_require,Tx.wp_pure,wp_cycleForGeneration]
  intro cycle _ _ _ _
  refine Tx.wp_mono (reserveOnEnvelopes_step hv cmd cycle c amount) ?_
  intro _ s' h
  exact hI.step s s' hv hs h

theorem startAttempt_books (hI : BookRule I) (hv : s.Valid) (hs : I s) (g : ExpectedGeneration)
    (c : OperatingCycleId) (i : WorkItemId) (amount : UsdMicros) :
    Tx.wp (startAttempt cmd g c i amount) (fun _ s' => I s') s := by
  simp only [startAttempt,reserveAttemptBudget,moveWorkItem,Tx.wp_bind,Tx.wp_read,Tx.wp_the,
    Tx.wp_require,Tx.wp_widen,Tx.wp_insert,Tx.wp_store,Tx.wp_update,Tx.wp_pure,wp_coordinationCycle,
    wp_workItemRow,wp_actorInstanceRow,wp_ticketRow,wp_projectIsActive,
    wp_recordCoordinationProvenance]
  intro cycle _ _ _ work _ actor _ ticket _ _ _ _ lease _ _ _
  refine Tx.wp_mono (reserveOnEnvelopes_step hv cmd cycle c amount) ?_
  intro _ s₁ h₁
  have hs₁ := hI.step s s₁ hv hs h₁
  intro j _ _ _ _ _
  exact hI.same.append (by decide) (hI.same.modify (by decide) (hI.same.append (by decide) (hI.same.append (by decide) hs₁)))

theorem startActorAttempt_books (hI : BookRule I) (hv : s.Valid) (hs : I s) (g : ExpectedGeneration)
    (c : OperatingCycleId) (i : WorkItemId) (amount : UsdMicros) :
    Tx.wp (startActorAttempt cmd g c i amount) (fun _ s' => I s') s := by
  simp only [startActorAttempt,Tx.wp_bind,Tx.wp_pure]
  exact Tx.wp_mono (startAttempt_books hI hv hs g c i amount) (fun _ _ h => h)

theorem claimStudyActorTaskAttemptLaunch_books (hI : BookRule I) (hv : s.Valid) (hs : I s)
    (g : ExpectedGeneration) (o : StudyActorObligationId) (c : OperatingCycleId) (i : WorkItemId)
    (amount : UsdMicros) (epoch : SupervisorEpochId) (identity : SupervisorEpochIdentity)
    (name : NativeWorkspaceId) (path : CanonicalWorkspacePath) :
    Tx.wp (claimStudyActorTaskAttemptLaunch cmd g o c i amount epoch identity name path)
      (fun _ s' => I s') s := by
  simp only [claimStudyActorTaskAttemptLaunch,requireSupervisorEpoch,requireQualifiedProfile,
    Tx.wp_bind,wp_coordinationCycle,Tx.wp_read,Tx.wp_require]
  intro cycle _ _ _ _ _ _ _
  refine Tx.wp_mono (registerWorkspace_outside hv _ _ _ _) ?_
  rintro _ s₁ ⟨hsame,hv₁⟩
  have hs₁ : I s₁ := hI.same s s₁ (fun t ht => by
    rw [Db.rows,hsame t (by rintro rfl; exact absurd ht (by decide))]) hs
  simp only [wp_workItemRow,wp_actorInstanceRow,Tx.wp_widen]
  intro _ _ _ _ _ _
  refine Tx.wp_mono (startAttempt_books hI hv₁ hs₁ g c i amount) ?_
  intro _ s₂ hs₂
  simp only [Tx.wp_insert,Tx.wp_pure]
  intro _ _ _
  exact hI.same.append (by decide) hs₂

theorem claimNativeExecutionProfileQualificationLaunch_books (hI : BookRule I) (hv : s.Valid)
    (hs : I s) (g : ExpectedGeneration) (c : OperatingCycleId) (amount : UsdMicros)
    (epoch : SupervisorEpochId) (identity : SupervisorEpochIdentity) (name : NativeWorkspaceId)
    (path : CanonicalWorkspacePath) :
    Tx.wp (claimNativeExecutionProfileQualificationLaunch cmd g c amount epoch identity name path)
      (fun _ s' => I s') s := by
  simp only [claimNativeExecutionProfileQualificationLaunch,requireSupervisorEpoch,Tx.wp_bind,
    Tx.wp_read,Tx.wp_require,wp_cycleForGeneration]
  intro cycle _ _ _ _ _ _ _
  refine Tx.wp_mono (registerWorkspace_outside hv _ _ _ _) ?_
  rintro _ s₁ ⟨hsame,hv₁⟩
  have hs₁ : I s₁ := hI.same s s₁ (fun t ht => by
    rw [Db.rows,hsame t (by rintro rfl; exact absurd ht (by decide))]) hs
  -- the cycle starts before the reservation is booked
  simp only [transitionCycle,Tx.wp_bind,Tx.wp_pure,Tx.wp_update,Tx.wp_widen,Tx.wp_insert]
  intro hm hm' running _ _ _
  have hv₂ := Db.modify_valid (fun _ _ h => by cases h; rfl) hv₁ hm
  have hv₃ := Db.modify_valid (fun _ _ h => by cases h; exact OperatingCycleAdmissionRow.started_key _ _) hv₂ hm'
  refine Tx.wp_mono (reserveOnEnvelopes_step hv₃ cmd running c amount) ?_
  intro _ s₂ h₂ _ _ _
  refine hI.same.append (by decide) (hI.step _ s₂ hv₃ ?_ h₂)
  exact hI.same.modify (by decide) (hI.same.modify (by decide) hs₁)

theorem createSociety_books (hI : BookRule I) (hv : s.Valid) (hs : I s) (name : SocietyName) :
    Tx.wp (createSociety name) (fun _ s' => I s') s := by
  simp only [createSociety,Tx.wp_bind,Tx.wp_read,Tx.wp_require,Tx.wp_insert,Tx.wp_pure]
  intro hnone i _ _
  have hempty : s.rows .societies=[] := by simpa using hnone
  refine hI.step s _ hv hs (.founded ⟨i,name.stored,.identified⟩ hempty ?_ ?_)
  · rw [Db.rows,Db.append_same,hempty]
    rfl
  · intro t _ hne
    rw [Db.rows,Db.append_ne _ _ _ hne]

theorem bootstrapSociety_books (hI : BookRule I) (hv : s.Valid) (hs : I s) :
    Tx.wp (bootstrapSociety cmd) (fun _ s' => I s') s := by
  simp only [bootstrapSociety,createBudgetEnvelope,onlySocietyId,activeFoundingMissionId,
    rootAuthorityOfficeId,activeRootAuthorityOccupancyId,hardCeilingFromEventBody,Tx.wp_bind,
    Tx.wp_read,Tx.wp_the,Tx.wp_require,Tx.wp_insert,Tx.wp_store,Tx.wp_update,Tx.wp_pure]
  intro society _ _ mission _ office _ occupancy _ ceiling _ _ _ i hi _ j _ _
  refine hI.step s _ hv hs (.enveloped ⟨i,ceiling,.zero,.zero,cmd⟩ ⟨j,i,.society society.societyId⟩
    ?_ (hv.find_fresh rfl (i := i) ?_) ⟨rfl,rfl⟩ ?_ ?_ ?_)
  · simp [Db.rows]
  · simpa using hi
  · simp [Db.rows]
  · simp only [Db.rows,Db.append_ne _ _ _ (show Tbl.societies≠.budgetEnvelopeConstraints by decide),
      Db.append_ne _ _ _ (show Tbl.societies≠.budgetEnvelopes by decide),Db.modify_same,Db.modified,
      Db.append_ne _ _ _ (show Tbl.societies≠.societyBootstraps by decide),List.map_map]
    refine List.map_congr_left (fun q _ => ?_)
    by_cases hq : q.societyId=society.societyId <;> simp [hq]
  · intro t ht
    simp only [List.mem_cons,List.not_mem_nil,or_false] at ht
    rcases ht with rfl | rfl | rfl | rfl <;> simp [Db.rows]

theorem proposeOperatingCycle_books (hI : BookRule I) (hv : s.Valid) (hs : I s)
    (treatment : OperatingCycleTreatment) (ceiling : UsdMicros) :
    Tx.wp (proposeOperatingCycle cmd treatment ceiling) (fun _ s' => I s') s := by
  simp only [proposeOperatingCycle,createBudgetEnvelope,bootstrappedConstitution,Tx.wp_bind,
    Tx.wp_read,Tx.wp_the,Tx.wp_require,Tx.wp_insert,Tx.wp_pure]
  intro constitution _ _ _ cycle _ _ i hi _ j _ _
  refine hI.step s _ hv hs (.enveloped ⟨i,ceiling,.zero,.zero,cmd⟩ ⟨j,i,.cycle cycle⟩
    ?_ (hv.find_fresh rfl (i := i) ?_) ⟨rfl,rfl⟩ ?_ ?_ ?_)
  · simp [Db.rows]
  · simpa using hi
  · simp [Db.rows]
  · simp [Db.rows]
  · intro t ht
    simp only [List.mem_cons,List.not_mem_nil,or_false] at ht
    rcases ht with rfl | rfl | rfl | rfl <;> simp [Db.rows]

end Commands

section Runs
variable {hash : Bytes → Blake3Digest} {ok : Store → CommandRequest → Prop} {I : Store → Prop}
  {s : Store} {r : CommandRequest}

/-- The transitions that write the books are the commands above. -/
theorem action_books (hI : BookRule I) (hv : s.Valid) (hs : I s) (cmd : CommandRowId)
    (hw : ∃ t ∈ bookTables,t ∈ (r.action hash).writes) :
    Tx.wp ((r.action hash).body cmd) (fun _ s' => I s') s := by
  obtain ⟨i,p,k,q,g,b⟩ := r
  cases b
  case createSocietyIdentity => exact createSociety_books hI hv hs _
  case bootstrapSociety => exact bootstrapSociety_books hI hv hs
  case proposeOperatingCycle => exact proposeOperatingCycle_books hI hv hs _ _
  case reserveBudget => exact reserveBudget_books hI hv hs _ _ _
  case reconcileBudget => exact reconcileBudget_books hI hv hs _ _
  case closeCostPostmortem => exact closeCostPostmortem_books hI hv hs _ _ _
  case settleOfficeTurn => exact settleOfficeTurn_books hI hv hs _ _
  case recordPiOfficeTurnUsageFailure => exact recordPiOfficeTurnUsageFailure_books hI hv hs _ _ _ _
  case recordPiOfficeSessionDisposeUsageFailure =>
    exact recordPiOfficeSessionDisposeUsageFailure_books hI hv hs _ _ _ _ _
  case recordPiOfficeSessionDisposed => exact recordPiOfficeSessionDisposed_books hI hv hs _ _ _ _ _
  case recordPiTaskAttemptUsageFailure =>
    exact recordPiTaskAttemptUsageFailure_books hI hv hs _ _ _ _
  case recordPiTaskAttemptSessionDisposeUsageFailure =>
    exact recordPiTaskAttemptSessionDisposeUsageFailure_books hI hv hs _ _ _ _ _
  case recordPiTaskAttemptSessionDisposed =>
    exact recordPiTaskAttemptSessionDisposed_books hI hv hs _ _ _ _ _
  case startActorAttempt => exact startActorAttempt_books hI hv hs _ _ _ _
  case claimStudyActorTaskAttemptLaunch =>
    exact claimStudyActorTaskAttemptLaunch_books hI hv hs _ _ _ _ _ _ _ _ _
  case claimNativeExecutionProfileQualificationLaunch =>
    exact claimNativeExecutionProfileQualificationLaunch_books hI hv hs _ _ _ _ _ _ _
  case studyTransition c => cases c <;> exact absurd hw (of_decide_eq_true rfl)
  all_goals exact absurd hw (of_decide_eq_true rfl)

/-- What one step of the books keeps holds in every state of a run. -/
theorem Reaches.books (hI : BookRule I) (h₀ : I Store.initial) (h : Reaches hash ok s) : I s := by
  refine h.invariant (D := bookTables) (by decide) hI.same h₀ ?_
  intro s r s₁ cmd _ _ hst hs₁ hw
  exact action_books hI hst.valid hs₁ cmd hw

theorem balanced_rule : BookRule Balanced where
  same _ _ h hb := hb.congr h
  step _ _ hv hb h := h.balanced hv hb

theorem initial_balanced : Balanced Store.initial := by
  constructor <;> simp [Store.initial,Db.find,Db.rows]

theorem Reaches.balanced (h : Reaches hash ok s) : Balanced s := h.books balanced_rule initial_balanced

theorem envelopeOf_society (hv : s.Valid) {i : SocietyId} {e : BudgetEnvelopeId}
    (h : envelopeOf s (.society i)=some e) : ∃ q ∈ s.rows .societies,q.societyId=i := by
  obtain ⟨c,hc,_⟩ := Option.map_eq_some_iff.mp h
  have hp := List.find?_some hc
  have hscope : c.scope=.society i := beq_iff_eq.mp hp
  obtain ⟨q,hq,he⟩ := hv.target (t := .budgetEnvelopeConstraints) (List.mem_of_find?_eq_some hc)
    (u := .societies) (k := i.val) (by
      change _ ∈ [ref c.budgetEnvelopeId]++scopeRefs c.scope
      rw [hscope]
      simp [scopeRefs,ref])
  exact ⟨q,hq,Relational.Id.ext he⟩

/-- The charge row of a reservation on an envelope, when there is exactly one. -/
theorem charge_once (hv : s.Valid) {i : BudgetReservationId} {e : BudgetEnvelopeId}
    (h : (chargeOn s i e).isSome=true) : ∃! x,x ∈ s.rows .budgetReservationCharges ∧
      x.budgetReservationId=i ∧ x.budgetEnvelopeId=e := by
  obtain ⟨a,ha⟩ := Option.isSome_iff_exists.mp h
  obtain ⟨x,hx,_⟩ := Option.map_eq_some_iff.mp ha
  refine ⟨x,(chargeRow_iff hv).mp hx,fun y hy => ?_⟩
  have hy' := (chargeRow_iff hv).mpr hy
  rw [hx] at hy'
  exact (Option.some.inj hy').symm

/-- The books add up. -/
structure BudgetConserved (s : Store) : Prop where
  reserved : ∀ q ∈ s.rows .budgetEnvelopes,q.reservedMicros.val=heldOn s q.budgetEnvelopeId
  spent : ∀ q ∈ s.rows .budgetEnvelopes,q.spentMicros.val=spentOn s q.budgetEnvelopeId
  capped : ∀ q ∈ s.rows .budgetEnvelopes,Overrun s q.budgetEnvelopeId ∨
    q.reservedMicros.val+q.spentMicros.val≤q.ceilingMicros.val
  charged : ∀ r ∈ s.rows .budgetReservations,∃ society ∈ s.rows .societies,∃ a b,a≠b ∧
    envelopeOf s (.society society.societyId)=some a ∧
    envelopeOf s (.cycle r.operatingCycleId)=some b ∧
    (∃! x,x ∈ s.rows .budgetReservationCharges ∧ x.budgetReservationId=r.budgetReservationId ∧
      x.budgetEnvelopeId=a) ∧
    (∃! x,x ∈ s.rows .budgetReservationCharges ∧ x.budgetReservationId=r.budgetReservationId ∧
      x.budgetEnvelopeId=b) ∧
    ∀ x ∈ s.rows .budgetReservationCharges,x.budgetReservationId=r.budgetReservationId →
      x.budgetEnvelopeId=a ∨ x.budgetEnvelopeId=b
  rest : ∀ r ∈ s.rows .budgetReservations,r.reservationState≠.reconciled →
    ∀ x ∈ s.rows .budgetReservationCharges,x.budgetReservationId=r.budgetReservationId →
      r.chargedMicros.val ≤ r.amountMicros.val ∧
        x.amountMicros.val=r.amountMicros.val-r.chargedMicros.val

theorem budget_conserved (h : Reachable hash s) : BudgetConserved s := by
  have hv := h.valid
  have hb := h.balanced
  have henvelope {q : BudgetEnvelopeRow} (hq : q ∈ s.rows .budgetEnvelopes) :
      s.find .budgetEnvelopes q.budgetEnvelopeId=some q := hv.find_eq rfl hq rfl
  have hreservation {r : BudgetReservationRow} (hr : r ∈ s.rows .budgetReservations) :
      s.find .budgetReservations r.budgetReservationId=some r := hv.find_eq rfl hr rfl
  have hcharge {i : BudgetReservationId} {x : BudgetReservationChargeRow}
      (hx : x ∈ s.rows .budgetReservationCharges) (hi : x.budgetReservationId=i) :
      chargeOn s i x.budgetEnvelopeId=some x.amountMicros := by
    rw [chargeOn,(chargeRow_iff hv).mpr ⟨hx,hi,rfl⟩,Option.map_some]
  constructor
  case reserved => exact fun q hq => hb.reserved _ _ (henvelope hq)
  case spent => exact fun q hq => hb.spent _ _ (henvelope hq)
  case capped => exact fun q hq => hb.capped _ _ (henvelope hq)
  case charged =>
    intro r hr
    obtain ⟨i,a,b,ha,hb',hne,hon⟩ := hb.booked _ _ (hreservation hr)
    obtain ⟨society,hs,rfl⟩ := envelopeOf_society hv ha
    refine ⟨society,hs,a,b,hne,ha,hb',charge_once hv ((hon a).mpr (.inl rfl)),
      charge_once hv ((hon b).mpr (.inr rfl)),?_⟩
    intro x hx hi
    exact (hon _).mp (by rw [hcharge hx hi]; rfl)
  case rest =>
    intro r hr hst x hx hi
    have hsum := hb.rest _ _ _ _ (hreservation hr) hst (hcharge hx hi)
    omega

theorem budget_conserved_reserved :
    BudgetConserved (runCommands blake3 secondAttempt Store.initial) :=
  budget_conserved (Reaches.runCommands .initial _)

end Runs
end Society.Kernel
