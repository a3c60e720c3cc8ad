import Society.Kernel.ForumLaws

namespace Society.Kernel
open Society.Relational Society.Coding

/-! What the commands of a study do to its episodes and to the obligations of their actors. -/

section States
variable {s s' s₁ : Store} {i : StudyEpisodeId} {e : StudyEpisodeRow}

/-- The order in which an episode goes through its states. -/
def StudyEpisodeState.rank : StudyEpisodeState → Nat
  | .admitted => 0
  | .sourceActive => 1
  | .sourceReconciled => 2
  | .successorAdmitted => 3
  | .correctionReleased => 4
  | .successorActive => 5
  | .closed => 6

/-- An episode without the command that touched it last. -/
def StudyEpisodeRow.steady (e : StudyEpisodeRow) : StudyEpisodeRow :=
  {e with lastTransitionCommandId := e.admittedByCommandId}

def StudyEpisodeRow.inState (e : StudyEpisodeRow) (x : StudyEpisodeState) : StudyEpisodeRow :=
  {e with lifecycleState := x}

def episodeOf (s : Store) (i : StudyEpisodeId) : Option StudyEpisodeRow :=
  (s.find .studyEpisodes i).map (·.steady)

theorem episodeOf_rows (h : s'.rows .studyEpisodes=s.rows .studyEpisodes) :
    episodeOf s'=episodeOf s := by
  funext i
  rw [episodeOf,Db.find,h,← Db.find,episodeOf]

theorem episodeOf_find (h : s.find .studyEpisodes i=some e) : episodeOf s i=some e.steady := by
  rw [episodeOf,h,Option.map_some]

theorem episodeOf_set (cmd : CommandRowId) (x : StudyEpisodeState) (h : episodeOf s i=some e) :
    episodeOf (s.modify .studyEpisodes (fun r => r.studyEpisodeId==i) (fun r => some
      {r with lifecycleState := x,lastTransitionCommandId := cmd}))=
      Function.update (episodeOf s) i (some (e.inState x)) := by
  have hview := Db.view_update (s := s) (t := .studyEpisodes) (k := i)
    (p := fun r => r.studyEpisodeId==i)
    (g := fun r => {r with lifecycleState := x,lastTransitionCommandId := cmd})
    (fun r => r.steady) (·.inState x)
    (fun q => by
      rw [beq_iff_eq]
      exact ⟨fun h => congrArg Relational.Id.val h,fun h => Relational.Id.ext h⟩)
    (fun _ => rfl) (fun _ => rfl)
  have hold : (s.find .studyEpisodes i).map (·.steady)=some e := h
  rw [hold] at hview
  exact hview

/-- An episode that exists enters a state; nothing else changes. -/
theorem setEpisodeState_wp {W : List Tbl} {Q : Unit → Store → Prop} (cmd : CommandRowId)
    {x : StudyEpisodeState} {hw : .studyEpisodes ∈ W} {f : StudyEpisodeId → Option StudyEpisodeRow}
    (hf : episodeOf s=f) (h : f i=some e) (hq : ∀ s' : Store,
      episodeOf s'=Function.update f i (some (e.inState x)) →
        (∀ t,t≠.studyEpisodes → s'.rows t=s.rows t) → Q () s') :
    Tx.wp (setEpisodeState cmd i x hw) Q s := by
  subst hf
  simp only [setEpisodeState,Tx.wp_bind,Tx.wp_update,Tx.wp_pure]
  intro _
  exact hq _ (episodeOf_set cmd x h) (fun t ht => Db.rows_modify_ne ht)

theorem episodeOf_append {r : StudyEpisodeRow} {n : Nat} (hv : s.Valid)
    (hi : r.studyEpisodeId.val=(s .studyEpisodes).next) :
    episodeOf (s.append .studyEpisodes r n)=
      Function.update (episodeOf s) r.studyEpisodeId (some r.steady) := by
  have hview := Db.view_append (s := s) (t := .studyEpisodes) (r := r) (n := n)
    (i := r.studyEpisodeId) (fun q : StudyEpisodeRow => q.steady) (hv.find_fresh rfl hi) rfl
  exact hview

theorem episodeOf_fresh (hv : s.Valid) (hi : i.val=(s .studyEpisodes).next) : episodeOf s i=none := by
  rw [episodeOf,hv.find_fresh rfl hi]
  rfl

/-- What the obligations of an episode have been charged. -/
def episodeCharge (s : Store) (i : StudyEpisodeId) : Nat :=
  s.sum .studyActorObligations (fun o => if o.studyEpisodeId=i then o.chargedBudgetUnits.val else 0)

/-- Obligations stay with their episode and phase, none becomes active again, and episodes
are charged `c`. -/
structure SeatsKept (s s' : Store) (c : StudyEpisodeId → Nat) : Prop where
  old : ∀ o' ∈ s'.rows .studyActorObligations,∃ o ∈ s.rows .studyActorObligations,
    o'.studyActorObligationId=o.studyActorObligationId ∧ o'.studyEpisodeId=o.studyEpisodeId ∧
      o'.populationPhase=o.populationPhase ∧ (o'.lifecycleState=.active → o.lifecycleState=.active)
  new : ∀ o ∈ s.rows .studyActorObligations,∃ o' ∈ s'.rows .studyActorObligations,
    o'.studyActorObligationId=o.studyActorObligationId ∧ o'.studyEpisodeId=o.studyEpisodeId ∧
      o'.populationPhase=o.populationPhase
  charges : episodeCharge s'=c

theorem episodeCharge_rows (h : s'.rows .studyActorObligations=s.rows .studyActorObligations) :
    episodeCharge s'=episodeCharge s := funext (fun _ => Db.sum_rows h)

theorem SeatsKept.of_rows (h : s'.rows .studyActorObligations=s.rows .studyActorObligations) :
    SeatsKept s s' (episodeCharge s) := by
  refine ⟨?_,?_,episodeCharge_rows h⟩ <;> rw [h]
  · exact fun o ho => ⟨o,ho,rfl,rfl,rfl,id⟩
  · exact fun o ho => ⟨o,ho,rfl,rfl,rfl⟩

/-- An update of the obligations that makes none of them active. -/
theorem SeatsKept.update (p : StudyActorObligationRow → Bool)
    (g : StudyActorObligationRow → StudyActorObligationRow) {c : StudyEpisodeId → Nat}
    (hrows : s'.rows .studyActorObligations=
      (s.modify .studyActorObligations p (fun o => some (g o))).rows .studyActorObligations)
    (hg : ∀ o,(g o).studyActorObligationId=o.studyActorObligationId ∧
      (g o).studyEpisodeId=o.studyEpisodeId ∧ (g o).populationPhase=o.populationPhase ∧
      ((g o).lifecycleState=.active → o.lifecycleState=.active))
    (hc : episodeCharge (s.modify .studyActorObligations p (fun o => some (g o)))=c) :
    SeatsKept s s' c := by
  refine ⟨?_,?_,(episodeCharge_rows hrows).trans hc⟩
  · intro o' ho'
    rw [hrows] at ho'
    obtain ⟨o,ho,rfl⟩ := Db.mem_update.mp ho'
    refine ⟨o,ho,?_⟩
    split
    · exact hg o
    · exact ⟨rfl,rfl,rfl,id⟩
  · intro o ho
    rw [hrows]
    refine ⟨_,Db.mem_update.mpr ⟨o,ho,rfl⟩,?_⟩
    split
    · exact ⟨(hg o).1,(hg o).2.1,(hg o).2.2.1⟩
    · exact ⟨rfl,rfl,rfl⟩

/-- An update of the obligations that charges none of them. -/
theorem episodeCharge_update {p : StudyActorObligationRow → Bool}
    (g : StudyActorObligationRow → StudyActorObligationRow)
    (hg : ∀ o,(g o).studyEpisodeId=o.studyEpisodeId ∧ (g o).chargedBudgetUnits=o.chargedBudgetUnits) :
    episodeCharge (s.modify .studyActorObligations p (fun o => some (g o)))=episodeCharge s := by
  funext i
  have hmodify := Db.sum_modify (s := s) (t := .studyActorObligations) (p := p) g
    (f := fun o => if o.studyEpisodeId=i then o.chargedBudgetUnits.val else 0)
  refine hmodify.trans (Db.sum_congr (fun o _ => ?_))
  split
  · rw [(hg o).1,(hg o).2]
  · rfl

/-- An obligation that has not been charged is charged. -/
theorem episodeCharge_charge (hv : s.Valid) {k : StudyActorObligationId} {o : StudyActorObligationRow}
    (ho : s.find .studyActorObligations k=some o) (hzero : o.chargedBudgetUnits.val=0)
    (g : StudyActorObligationRow → StudyActorObligationRow)
    (hg : ∀ o,(g o).studyEpisodeId=o.studyEpisodeId) :
    episodeCharge (s.modify .studyActorObligations (fun r => r.studyActorObligationId==k)
      (fun o => some (g o)))=Function.update (episodeCharge s) o.studyEpisodeId
        (episodeCharge s o.studyEpisodeId+(g o).chargedBudgetUnits.val) := by
  funext i
  let f (o : StudyActorObligationRow) : Nat :=
    if o.studyEpisodeId=i then o.chargedBudgetUnits.val else 0
  have hmodify := Db.sum_modify (s := s) (t := .studyActorObligations)
    (p := fun r => r.studyActorObligationId==k) g (f := f)
  have hsum := hv.sum_change (t := .studyActorObligations)
    (f := fun o : StudyActorObligationRow => f (if o.studyActorObligationId==k then g o else o)) (g := f) rfl ho
    (fun q _ hne => by
      have hne : q.studyActorObligationId≠k := fun h => hne (congrArg Relational.Id.val h)
      simp [hne])
  have hk : o.studyActorObligationId=k := Relational.Id.ext (Db.find_key ho)
  have hold : f o=0 := by simp [f,hzero]
  simp only [hk,beq_self_eq_true,if_true,hold,Nat.add_zero] at hsum
  refine hmodify.trans (hsum.trans ?_)
  rw [Function.update_apply]
  by_cases hi : i=o.studyEpisodeId
  · subst hi
    have hnew : f (g o)=(g o).chargedBudgetUnits.val := by simp [f,hg]
    rw [if_pos rfl,hnew]
    rfl
  · have hnew : f (g o)=0 := by simp [f,hg,Ne.symm hi]
    rw [if_neg hi,hnew]
    rfl

/-- No obligation of the episode that satisfies `p` is active. -/
def NoneActive (s : Store) (i : StudyEpisodeId) (p : StudyActorObligationRow → Prop) : Prop :=
  ∀ o ∈ s.rows .studyActorObligations,o.studyEpisodeId=i → p o → o.lifecycleState≠.active

theorem none_active {p : StudyActorObligationRow → Bool} :
    (!hasActiveObligation s i p)=true ↔ NoneActive s i (fun o => p o=true) := by
  simp only [hasActiveObligation,NoneActive,Bool.not_eq_true',List.any_eq_false,Bool.and_eq_true,
    beq_iff_eq]
  constructor
  · intro h o ho he hp hactive
    exact h o ho ⟨⟨he,hactive⟩,hp⟩
  · intro h o ho ho'
    exact h o ho ho'.1.1 ho'.2 ho'.1.2

def resultsOf (s : Store) (i : StudyEpisodeId) : Nat :=
  s.count .studyMeasurementResults (fun r => r.studyEpisodeId==i)

/-- Why an episode moves on to another state. -/
inductive EpisodeMove (s : Store) (i : StudyEpisodeId) (e : StudyEpisodeRow) :
    StudyEpisodeState → Prop
  | replaced (hx : e.lifecycleState=.sourceActive)
      (h : NoneActive s i (fun o => o.populationPhase=.source)) : EpisodeMove s i e .sourceReconciled
  | released (hx : e.lifecycleState=.successorAdmitted) : EpisodeMove s i e .correctionReleased
  | answered (hx : e.lifecycleState=.correctionReleased) (o : StudyActorObligationRow)
      (ho : o ∈ s.rows .studyActorObligations) (hi : o.studyEpisodeId=i)
      (hactive : o.lifecycleState=.active) : EpisodeMove s i e .successorActive
  | closed (hx : e.lifecycleState.afterCorrection=true) (h : NoneActive s i (fun _ => True))
      (q : StudyMeasurementRevisionRow)
      (hq : s.find .studyMeasurementRevisions e.studyMeasurementRevisionId=some q)
      (hall : resultsOf s i=q.measurementSlotCount.val) : EpisodeMove s i e .closed

/-- What one command, or one arm of a matched correction, does to episodes and obligations.
Afterwards `c` tells what the obligations of each episode are charged. -/
inductive StudyStep (s s' : Store) (c : StudyEpisodeId → Nat) : Prop
  | kept (hepisodes : episodeOf s'=episodeOf s) (hseats : SeatsKept s s' c)
  | opened (i : StudyEpisodeId) (e : StudyEpisodeRow) (hnone : episodeOf s i=none)
      (hepisodes : episodeOf s'=Function.update (episodeOf s) i (some (e.inState .admitted)))
      (hseats : SeatsKept s s' c)
  | seated (i : StudyEpisodeId) (e : StudyEpisodeRow) (new : StudyActorObligationRow)
      (he : episodeOf s i=some e) (hadmits : new.populationPhase.admitsFrom e.lifecycleState=true)
      (hepisodes : episodeOf s'=Function.update (episodeOf s) i
        (some (e.inState new.populationPhase.admittedState)))
      (hnew : new.studyEpisodeId=i ∧ new.lifecycleState=.active)
      (hseats : s'.rows .studyActorObligations=s.rows .studyActorObligations++[new])
      (hcharge : episodeCharge s'=c)
  | moved (i : StudyEpisodeId) (e : StudyEpisodeRow) (y : StudyEpisodeState)
      (he : episodeOf s i=some e) (hmove : EpisodeMove s i e y)
      (hepisodes : episodeOf s'=Function.update (episodeOf s) i (some (e.inState y)))
      (hseats : SeatsKept s s' c)

end States

section Commands
variable {hash : Bytes → Blake3Digest} {s : Store} {cmd : CommandRowId}

theorem admitEpisode_step (hv : s.Valid) (a : StudyProtocolRevisionId) (b : StudyWorldRevisionId)
    (c : StudyMeasurementRevisionId) (d : StudyInstitutionRevisionId)
    (e : StudyPopulationSnapshotId) (f : Blake3Digest) :
    Tx.wp (admitEpisode cmd a b c d e f) (fun _ s' => StudyStep s s' (episodeCharge s)) s := by
  simp only [admitEpisode,Tx.wp_bind,Tx.wp_read,Tx.wp_require,Tx.wp_insert,Tx.wp_pure]
  intro _ i hi _
  exact .opened i _ (episodeOf_fresh hv hi) (episodeOf_append hv hi) (.of_rows (by simp))

theorem forkEpisode_step (hv : s.Valid) (i : StudyEpisodeId) (treatment : StudyTreatment) :
    Tx.wp (forkEpisode hash cmd i treatment) (fun _ s' => StudyStep s s' (episodeCharge s)) s := by
  simp only [forkEpisode,Tx.wp_bind,wp_studyEpisodeRow,Tx.wp_read,Tx.wp_the,Tx.wp_require,
    Tx.wp_insert,Tx.wp_pure]
  intro source _ _ _ _ _ j hj _ _ _ _ _ _ _
  exact .opened j _ (episodeOf_fresh hv hj) (by
    rw [episodeOf_rows (Db.rows_append_ne (by decide)),
      episodeOf_rows (Db.rows_append_ne (by decide))]
    exact episodeOf_append hv hj) (.of_rows (by simp))

theorem admitActorObligation_step (i : StudyEpisodeId) (phase : StudyPopulationPhase)
    (role : StudyRoleOrdinal) (view prompt tool : Blake3Digest) (budget : StudyBudgetUnits)
    (reads : ForumReadBudget) (posts : ForumPostBudget) :
    Tx.wp (admitActorObligation cmd i phase role view prompt tool budget reads posts)
      (fun _ s' => StudyStep s s' (episodeCharge s)) s := by
  simp only [admitActorObligation,Tx.wp_bind,wp_studyEpisodeRow,wp_protocolRow,Tx.wp_read,Tx.wp_the,
    Tx.wp_require,Tx.wp_insert,Tx.wp_pure]
  intro episode hepisode _ hadmits _ population _ protocol _ _ j _ _ k _ _
  have he := episodeOf_find hepisode
  refine setEpisodeState_wp cmd (episodeOf_rows (s := s) (by simp)) he ?_
  intro s' hepisodes hsame
  have hseats := hsame .studyActorObligations (by decide)
  rw [Db.rows_append_ne (by decide)] at hseats
  have hseats := hseats.trans (by rw [Db.rows,Db.append_same])
  refine .seated i _ _ he hadmits hepisodes ⟨rfl,rfl⟩ hseats (funext (fun k => ?_))
  simp [episodeCharge,Db.sum,hseats]

theorem publishForumMessage_step (i : StudyActorObligationId) (kind : ForumMessageKind)
    (body : ForumMessageBody) (reply supersedes : Option ForumMessageId) :
    Tx.wp (publishForumMessage hash cmd i kind body reply supersedes)
      (fun _ s' => StudyStep s s' (episodeCharge s)) s := by
  simp only [publishForumMessage,Tx.wp_bind,wp_obligationRow,wp_studyEpisodeRow,
    wp_threadForObligation,Tx.wp_read,Tx.wp_the,Tx.wp_require,Tx.wp_update,Tx.wp_ite,Tx.wp_pure]
  intro obligation hobligation hactive _ episode hepisode _ _ thread _ ordinal _ _ author _
  refine Tx.wp_mono (appendMessage_outside hash cmd thread _ _ _ _ _ _ _ _ _) ?_
  intro _ s₁ h₁ used _ _
  have hrows := h₁ .studyActorObligations (by decide)
  have hseats {s' : Store} (h : s'.rows .studyActorObligations=
      (s₁.modify .studyActorObligations (fun r => r.studyActorObligationId==i)
        (fun r => some {r with postsUsed := used})).rows .studyActorObligations) :
      SeatsKept s s' (episodeCharge s) := by
    refine .update (fun r => r.studyActorObligationId==i) (fun r => {r with postsUsed := used})
      (h.trans ?_) (fun _ => ⟨rfl,rfl,rfl,id⟩) (episodeCharge_update _ (fun _ => ⟨rfl,rfl⟩))
    simp only [Db.rows,Db.modify_same]
    exact Db.modified_rows hrows
  have hepisodes : episodeOf (s₁.modify .studyActorObligations (fun r => r.studyActorObligationId==i)
      (fun r => some {r with postsUsed := used}))=episodeOf s :=
    episodeOf_rows ((Db.rows_modify_ne (by decide)).trans (h₁ .studyEpisodes (by decide)))
  refine ⟨?_,fun _ => .kept hepisodes (hseats rfl)⟩
  rintro ⟨_,hreleased⟩
  have he := episodeOf_find hepisode
  refine setEpisodeState_wp cmd hepisodes he ?_
  intro s' hepisodes hsame
  exact .moved _ _ _ he (.answered hreleased obligation (Db.find_mem hobligation) rfl
    (beq_iff_eq.mp hactive)) hepisodes (hseats (hsame _ (by decide)))

theorem releaseCorrectionForEpisode_step {W : List Tbl} (i : StudyEpisodeId)
    (thread : ForumThreadId) (correction : ForumMessageBody) (hm : .studyForumMessages ∈ W)
    (hh : .studyForumThreads ∈ W) (he : .studyForumExposures ∈ W) (hs : .studyEpisodes ∈ W) :
    Tx.wp (releaseCorrectionForEpisode hash cmd i thread correction hm hh he hs)
      (fun _ s' => StudyStep s s' (episodeCharge s)) s := by
  simp only [releaseCorrectionForEpisode,Tx.wp_bind,wp_studyEpisodeRow,Tx.wp_read,Tx.wp_the,
    Tx.wp_require,Tx.wp_pure]
  intro episode hepisode hadmitted r _ expected _ _ ordinal _
  refine Tx.wp_mono (appendMessage_outside hash cmd r _ _ _ _ _ _ _ _ _) ?_
  intro _ s₁ h₁
  have he := episodeOf_find hepisode
  refine setEpisodeState_wp cmd (episodeOf_rows (h₁ .studyEpisodes (by decide))) he ?_
  intro s' hepisodes hsame
  exact .moved i _ _ he (.released (beq_iff_eq.mp hadmitted)) hepisodes
    (.of_rows ((hsame _ (by decide)).trans (h₁ .studyActorObligations (by decide))))

theorem replacePopulation_step (i : StudyEpisodeId) (successor : StudyPopulationSnapshotId) :
    Tx.wp (replacePopulation cmd i successor) (fun _ s' => StudyStep s s' (episodeCharge s)) s := by
  simp only [replacePopulation,Tx.wp_bind,wp_studyEpisodeRow,Tx.wp_read,Tx.wp_get,Tx.wp_require,
    Tx.wp_store,Tx.wp_pure]
  intro episode hepisode hstate hlive _ _ _ _ _ _
  have he := episodeOf_find hepisode
  simp only [Bool.and_eq_true,beq_iff_eq] at hstate
  refine setEpisodeState_wp cmd (episodeOf_rows (s := s) (by simp)) he ?_
  intro s' hepisodes hsame
  refine .moved i _ _ he (.replaced hstate.1 ?_) hepisodes
    (.of_rows ((hsame _ (by decide)).trans (by simp)))
  intro o ho he hp
  exact none_active.mp hlive o ho he (beq_iff_eq.mpr hp)

theorem closeEpisode_step (i : StudyEpisodeId) :
    Tx.wp (closeEpisode cmd i) (fun _ s' => StudyStep s s' (episodeCharge s)) s := by
  simp only [closeEpisode,measurementSlotCount,Tx.wp_bind,wp_studyEpisodeRow,wp_protocolRow,
    Tx.wp_read,Tx.wp_get,Tx.wp_the,Tx.wp_require,Tx.wp_update,Tx.wp_pure]
  intro episode hepisode hafter hlive q hq hall _ _ _ _ _ _
  have he := episodeOf_find hepisode
  refine setEpisodeState_wp cmd (episodeOf_rows (s := s) (by simp)) he ?_
  intro s' hepisodes hsame
  refine .moved i _ _ he (.closed hafter ?_ q hq (beq_iff_eq.mp hall)) hepisodes
    (.of_rows ((hsame _ (by decide)).trans (by simp)))
  intro o ho he _
  exact none_active.mp hlive o ho he rfl

theorem completeActorObligation_step (hv : s.Valid) (i : StudyActorObligationId)
    (charged : StudyBudgetUnits) :
    Tx.wp (completeActorObligation cmd i charged) (fun _ s' => ∃ o,
      s.find .studyActorObligations i=some o ∧ o.lifecycleState=.active ∧
        charged.val ≤ o.budgetUnits.val ∧ StudyStep s s' (Function.update (episodeCharge s) o.studyEpisodeId
          (episodeCharge s o.studyEpisodeId+charged.val))) s := by
  simp only [completeActorObligation,Tx.wp_bind,wp_obligationRow,Tx.wp_read,Tx.wp_require,
    Tx.wp_update,Tx.wp_pure]
  intro o ho hready _ _
  simp only [Bool.and_eq_true,beq_iff_eq,decide_eq_true_eq] at hready
  refine ⟨o,ho,hready.1.1,hready.1.2,.kept (episodeOf_rows (Db.rows_modify_ne (by decide)))
    (.update _ _ rfl (fun _ => ⟨rfl,rfl,rfl,by rintro ⟨⟩⟩) ?_)⟩
  exact episodeCharge_charge hv ho hready.2 _ (fun _ => rfl)

theorem failActorObligation_step (i : StudyActorObligationId) (reason : Blake3Digest) :
    Tx.wp (failActorObligation cmd i reason) (fun _ s' => StudyStep s s' (episodeCharge s)) s := by
  simp only [failActorObligation,Tx.wp_bind,Tx.wp_read,Tx.wp_require,Tx.wp_update,Tx.wp_pure]
  intro _ _ _
  exact .kept (episodeOf_rows (Db.rows_modify_ne (by decide)))
    (.update _ _ rfl (fun _ => ⟨rfl,rfl,rfl,by rintro ⟨⟩⟩) (episodeCharge_update _ (fun _ => ⟨rfl,rfl⟩)))

theorem readForum_step (i : StudyActorObligationId) (first through : I64)
    (rendered : ContentObjectId) :
    Tx.wp (readForum hash i cmd first through rendered) (fun _ s' => StudyStep s s' (episodeCharge s)) s := by
  simp only [readForum,forumReadThread,Tx.wp_bind,wp_obligationRow,wp_studyEpisodeRow,
    wp_threadForObligation,Tx.wp_read,Tx.wp_the,Tx.wp_get,Tx.wp_require,Tx.wp_insert,Tx.wp_update,
    Tx.wp_pure]
  intro _ _ _ _ _ _ _ _ _ _ _ _ _ _ _ _ _ _ _ _ _ _ _ _ _ used _ _
  refine .kept (episodeOf_rows ((Db.rows_modify_ne (by decide)).trans (Db.rows_append_ne (by decide))))
    (.update (fun r => r.studyActorObligationId==i) (fun r => {r with readsUsed := used}) ?_
      (fun _ => ⟨rfl,rfl,rfl,id⟩) (episodeCharge_update _ (fun _ => ⟨rfl,rfl⟩)))
  simp only [Db.rows,Db.modify_same]
  exact Db.modified_rows (Db.rows_append_ne (by decide))

theorem releaseMatchedCorrection_step {P : Store → Prop} (hv : s.Valid)
    (hP : ∀ s s' : Store,s.Valid → (∀ t ∉ [Tbl.studyForumMessages,.studyForumThreads,
      .studyForumExposures,.studyEpisodes],s'.rows t=s.rows t) →
        StudyStep s s' (episodeCharge s) → P s → P s') (hs : P s)
    (i : StudyPairId) (a b : ForumThreadId) (correction : ForumMessageBody) :
    Tx.wp (releaseMatchedCorrection hash cmd i a b correction) (fun _ s' => P s') s := by
  simp only [releaseMatchedCorrection,Tx.wp_bind,Tx.wp_get,wp_studyEpisodeRow,wp_protocolRow,
    Tx.wp_require,Tx.wp_pure]
  intro pair _ episode _ protocol _ _
  have hone {s : Store} (hv : s.Valid) (hs : P s) (i : StudyEpisodeId) (thread : ForumThreadId) :
      Tx.wp (releaseCorrectionForEpisode (W := [.studyForumMessages,.studyForumThreads,
        .studyForumExposures,.studyEpisodes]) hash cmd i thread correction)
        (fun _ s' => s'.Valid ∧ P s') s := by
    refine Tx.wp_mono (Tx.wp_and (Tx.wp_outside _ hv) (releaseCorrectionForEpisode_step i thread
      correction (by decide) (by decide) (by decide) (by decide))) ?_
    rintro _ s' ⟨⟨hsame,hv'⟩,hstep⟩
    exact ⟨hv',hP s s' hv (fun t ht => by rw [Db.rows,hsame t ht,Db.rows]) hstep hs⟩
  refine Tx.wp_mono (hone hv hs pair.retainedEpisodeId a) ?_
  rintro _ s₁ ⟨hv₁,hs₁⟩
  exact Tx.wp_mono (hone hv₁ hs₁ pair.resetEpisodeId b) (fun _ _ h => h.2)

end Commands

section Rule
variable {hash : Bytes → Blake3Digest} {ok : Store → CommandRequest → Prop} {s : Store}
  {r : CommandRequest} {X : List Tbl} {C : Store → (StudyEpisodeId → Nat) → Prop}
  {I : Store → Prop}

abbrev studyTables : List Tbl := [.studyEpisodes,.studyActorObligations]

/-- What every step of the study keeps that leaves the tables of `X` alone and charges the
episodes as `C` allows. -/
structure KeptByStudy (X : List Tbl) (C : Store → (StudyEpisodeId → Nat) → Prop)
    (I : Store → Prop) : Prop where
  reads : Db.ReadsOnly (studyTables++X) I
  charge : ∀ s,I s → C s (episodeCharge s)
  step : ∀ (s s' : Store) (c : StudyEpisodeId → Nat),s.Valid → (∀ t ∈ X,s'.rows t=s.rows t) →
    C s c → StudyStep s s' c → I s → I s'

theorem action_study (hI : KeptByStudy X C I) (hv : s.Valid) (hs : I s) (cmd : CommandRowId)
    (hcharge : ∀ i u o,r.body=.studyTransition (.completeActorObligation i u) →
      s.find .studyActorObligations i=some o → o.lifecycleState=.active →
        u.val ≤ o.budgetUnits.val → C s (Function.update (episodeCharge s) o.studyEpisodeId
          (episodeCharge s o.studyEpisodeId+u.val)))
    (hX : ∀ t ∈ X,t ∉ (r.action hash).writes) (hw : ∃ t ∈ studyTables,t ∈ (r.action hash).writes) :
    Tx.wp ((r.action hash).body cmd) (fun _ s' => I s') s := by
  have hone {W : List Tbl} {α : Type} {m : Transition W α} (hX : ∀ t ∈ X,t ∉ W)
      (h : Tx.wp m (fun _ s' => StudyStep s s' (episodeCharge s)) s) :
      Tx.wp m (fun _ s' => I s') s := by
    refine Tx.wp_mono (Tx.wp_and (Db.rows_outside m hX) h) ?_
    rintro _ s' ⟨hsame,hstep⟩
    exact hI.step s s' _ hv hsame (hI.charge s hs) hstep hs
  obtain ⟨i,p,k,q,g,b⟩ := r
  cases b
  case studyTransition c =>
    cases c
    case admitEpisode =>
      exact studyTransition_wp (hone hX (admitEpisode_step hv _ _ _ _ _ _))
    case forkEpisode =>
      exact studyTransition_wp (hone hX (forkEpisode_step hv _ _))
    case admitActorObligation =>
      exact studyTransition_wp (hone hX (admitActorObligation_step _ _ _ _ _ _ _ _ _))
    case completeActorObligation i u =>
      refine studyTransition_wp (Tx.wp_mono (Tx.wp_and (Db.rows_outside _ hX)
        (completeActorObligation_step hv i u)) ?_)
      rintro _ s' ⟨hsame,o,ho,hactive,hle,hstep⟩
      exact hI.step s s' _ hv hsame (hcharge i u o rfl ho hactive hle) hstep hs
    case failActorObligation =>
      exact studyTransition_wp (hone hX (failActorObligation_step _ _))
    case publishForumMessage =>
      exact studyTransition_wp (hone hX (publishForumMessage_step _ _ _ _ _))
    case readForum =>
      exact studyTransition_wp (hone hX (readForum_step _ _ _ _))
    case replacePopulation =>
      exact studyTransition_wp (hone hX (replacePopulation_step _ _))
    case closeEpisode =>
      exact studyTransition_wp (hone hX (closeEpisode_step _))
    case releaseMatchedCorrection =>
      refine studyTransition_wp (releaseMatchedCorrection_step hv ?_ hs _ _ _ _)
      intro s s' hv hsame hstep hs
      exact hI.step s s' _ hv (fun t ht => hsame t (hX t ht)) (hI.charge s hs) hstep hs
    all_goals exact absurd hw (of_decide_eq_true rfl)
  all_goals exact absurd hw (of_decide_eq_true rfl)

/-- The rule of study invariants: besides the steps of the study, only the transitions that
write the tables of `X` need an argument of their own. -/
theorem Reaches.study (hD : ∀ t ∈ X,t ∉ Tbl.capabilityGrants::ledger) (hI : KeptByStudy X C I)
    (h₀ : I Store.initial)
    (hcharge : ∀ s r s₁ i u o,Reaches hash ok s → ok s r → Step hash s r s₁ → I s₁ →
      r.body=.studyTransition (.completeActorObligation i u) →
      s₁.find .studyActorObligations i=some o → o.lifecycleState=.active →
        u.val ≤ o.budgetUnits.val → C s₁ (Function.update (episodeCharge s₁) o.studyEpisodeId
          (episodeCharge s₁ o.studyEpisodeId+u.val)))
    (hown : ∀ s r s₁ cmd,Reaches hash ok s → Step hash s r s₁ → I s₁ →
      (∃ t ∈ X,t ∈ (r.action hash).writes) →
      Tx.wp ((r.action hash).body cmd) (fun _ s' => I s') s₁)
    (h : Reaches hash ok s) : I s := by
  refine h.invariant (D := studyTables++X) ?_ hI.reads h₀ ?_
  · intro t ht
    rcases List.mem_append.mp ht with ht | ht
    · exact (show ∀ t ∈ studyTables,t ∉ Tbl.capabilityGrants::ledger by decide) t ht
    · exact hD t ht
  · rintro s r s₁ cmd hr hok hst hs₁ ⟨t,ht,hw⟩
    by_cases hx : ∃ t ∈ X,t ∈ (r.action hash).writes
    · exact hown s r s₁ cmd hr hst hs₁ hx
    · have hX : ∀ t ∈ X,t ∉ (r.action hash).writes := fun t ht hw => hx ⟨t,ht,hw⟩
      rcases List.mem_append.mp ht with ht | ht
      · exact action_study hI hst.valid hs₁ cmd
          (fun i u o => hcharge s r s₁ i u o hr hok hst hs₁) hX ⟨t,ht,hw⟩
      · exact absurd hw (hX t ht)

end Rule
end Society.Kernel
