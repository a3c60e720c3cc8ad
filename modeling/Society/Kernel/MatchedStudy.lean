import Society.Kernel.ForumRuns

namespace Society.Kernel
open Society.Relational Society.Coding

/-! The pairs of a study, and what is promised about their episodes over whole runs. -/

section Pairs
variable {hash : Bytes → Blake3Digest} {ok : Store → CommandRequest → Prop} {s s' : Store}
  {c : StudyEpisodeId → Nat}

/-- The two episodes of a pair differ in treatment, under one protocol. -/
def Paired (s : Store) : Prop :=
  ∀ q ∈ s.rows .studyPairs,∃ a b,episodeOf s q.retainedEpisodeId=some a ∧
    episodeOf s q.resetEpisodeId=some b ∧ a.studyProtocolRevisionId=b.studyProtocolRevisionId ∧
    treatmentOf s q.retainedEpisodeId=some .retained ∧ treatmentOf s q.resetEpisodeId=some .reset

abbrev pairTables : List Tbl := [.studyPairs,.studyTreatmentAssignments]

theorem treatmentOf_rows
    (h : s'.rows .studyTreatmentAssignments=s.rows .studyTreatmentAssignments) :
    treatmentOf s'=treatmentOf s := by
  funext i
  rw [treatmentOf,h,treatmentOf]

/-- An assignment stays. -/
theorem treatmentOf_append {l : List StudyTreatmentAssignmentRow} {i : StudyEpisodeId}
    {x : StudyTreatment}
    (h : s'.rows .studyTreatmentAssignments=s.rows .studyTreatmentAssignments++l)
    (hx : treatmentOf s i=some x) : treatmentOf s' i=some x := by
  obtain ⟨r,hr,rfl⟩ := Option.map_eq_some_iff.mp hx
  rw [treatmentOf,h,List.find?_append,hr]
  rfl

theorem paired_reads : Db.ReadsOnly (studyTables++pairTables) Paired := by
  intro s s' h hs
  rw [Paired,episodeOf_rows (h .studyEpisodes (by decide)),h .studyPairs (by decide),
    treatmentOf_rows (h .studyTreatmentAssignments (by decide))]
  exact hs

/-- A step of the study that adds treatments only. -/
theorem Paired.step (hs : Paired s) (h : StudyStep s s' c)
    (hpairs : s'.rows .studyPairs=s.rows .studyPairs) {l : List StudyTreatmentAssignmentRow}
    (htreatments : s'.rows .studyTreatmentAssignments=s.rows .studyTreatmentAssignments++l) :
    Paired s' := by
  intro q hq
  rw [hpairs] at hq
  obtain ⟨a,b,ha,hb,hprotocol,hretained,hreset⟩ := hs q hq
  obtain ⟨x,hx,_⟩ := h.forward ha
  obtain ⟨y,hy,_⟩ := h.forward hb
  exact ⟨_,_,hx,hy,hprotocol,treatmentOf_append htreatments hretained,
    treatmentOf_append htreatments hreset⟩

theorem paired_kept : KeptByStudy pairTables (fun _ _ => True) Paired where
  reads := paired_reads
  charge _ _ := trivial
  step _ _ _ _ hX _ hstep hs := hs.step hstep (hX .studyPairs (by decide)) (l := [])
    ((hX .studyTreatmentAssignments (by decide)).trans (List.append_nil _).symm)

theorem admitMatchedPair_paired (hs : Paired s) (cmd : CommandRowId) (a b : StudyEpisodeId) :
    Tx.wp (admitMatchedPair cmd a b) (fun _ s' => Paired s') s := by
  simp only [admitMatchedPair,Tx.wp_bind,Tx.wp_read,Tx.wp_require,Tx.wp_insert,Tx.wp_pure]
  intro hmatched j _ _ q hq
  rw [episodeOf_rows (Db.rows_append_ne (by decide)),treatmentOf_rows (Db.rows_append_ne (by decide))]
  rcases Db.mem_append.mp hq with hq | rfl
  · exact hs q hq
  · obtain ⟨x,hx,hmatched⟩ := (Option.any_eq_true ..).mp hmatched
    obtain ⟨y,hy,hmatched⟩ := (Option.any_eq_true ..).mp hmatched
    simp only [episodesMatch,Bool.and_eq_true,beq_iff_eq] at hmatched
    have hxa : x.studyEpisodeId=a := Relational.Id.ext (Db.find_key hx)
    have hyb : y.studyEpisodeId=b := Relational.Id.ext (Db.find_key hy)
    obtain ⟨⟨⟨⟨⟨⟨⟨h₁,h₂⟩,h₃⟩,_⟩,_⟩,_⟩,_⟩,_⟩ := hmatched
    exact ⟨_,_,episodeOf_find hx,episodeOf_find hy,h₃,hxa ▸ h₁,hyb ▸ h₂⟩

theorem assignTreatment_paired (hs : Paired s) (cmd : CommandRowId) (i : StudyEpisodeId)
    (treatment : StudyTreatment) :
    Tx.wp (assignTreatment cmd i treatment) (fun _ s' => Paired s') s := by
  simp only [assignTreatment,Tx.wp_bind,wp_studyEpisodeRow,Tx.wp_require,Tx.wp_insert,Tx.wp_pure]
  intro _ _ _ j _ _ q hq
  rw [Db.rows_append_ne (by decide)] at hq
  obtain ⟨a,b,ha,hb,hprotocol,hretained,hreset⟩ := hs q hq
  rw [episodeOf_rows (Db.rows_append_ne (by decide))]
  refine ⟨a,b,ha,hb,hprotocol,treatmentOf_append (l := [⟨j,i,treatment,cmd⟩]) ?_ hretained,
    treatmentOf_append (l := [⟨j,i,treatment,cmd⟩]) ?_ hreset⟩ <;> rw [Db.rows,Db.append_same]

theorem forkEpisode_paired (hv : s.Valid) (hs : Paired s) (cmd : CommandRowId) (i : StudyEpisodeId)
    (treatment : StudyTreatment) :
    Tx.wp (forkEpisode hash cmd i treatment) (fun _ s' => Paired s') s := by
  have htreatments : Tx.wp (forkEpisode hash cmd i treatment) (fun _ s' =>
      ∃ l,s'.rows .studyTreatmentAssignments=s.rows .studyTreatmentAssignments++l) s := by
    simp only [forkEpisode,Tx.wp_bind,wp_studyEpisodeRow,Tx.wp_read,Tx.wp_the,Tx.wp_require,
      Tx.wp_insert,Tx.wp_pure]
    intro source _ _ _ _ _ j _ _ k _ _ _ _ _
    refine ⟨[⟨k,j,treatment,cmd⟩],?_⟩
    rw [Db.rows_append_ne (by decide),Db.rows,Db.append_same,Db.rows_append_ne (by decide)]
  refine Tx.wp_mono (Tx.wp_and (forkEpisode_step hv i treatment) (Tx.wp_and htreatments
    (Db.rows_outside (D := [.studyPairs]) _ (by decide)))) ?_
  rintro _ s' ⟨hstep,⟨l,hl⟩,hpairs⟩
  exact hs.step hstep (hpairs _ (List.mem_singleton.mpr rfl)) hl

theorem Reaches.paired (h : Reaches hash ok s) : Paired s := by
  refine h.study (X := pairTables) (by decide) paired_kept ?_
    (fun _ _ _ _ _ _ _ _ _ _ _ _ _ _ => trivial) ?_
  · intro q hq
    simp [Store.initial,Db.rows] at hq
  · intro s r s₁ cmd _ hst hs₁ hw
    obtain ⟨i,p,k,q,g,b⟩ := r
    cases b
    case studyTransition c =>
      cases c
      case admitMatchedPair => exact studyTransition_wp (admitMatchedPair_paired hs₁ cmd _ _)
      case assignTreatment => exact studyTransition_wp (assignTreatment_paired hs₁ cmd _ _)
      case forkEpisode => exact studyTransition_wp (forkEpisode_paired hst.valid hs₁ cmd _ _)
      all_goals exact absurd hw (of_decide_eq_true rfl)
    all_goals exact absurd hw (of_decide_eq_true rfl)

/-- No episode is in two pairs, or twice in one. -/
theorem pair_episodes_distinct (hv : s.Valid) (hp : Paired s) {q q' : StudyPairRow}
    (hq : q ∈ s.rows .studyPairs) (hq' : q' ∈ s.rows .studyPairs) :
    q.retainedEpisodeId≠q'.resetEpisodeId ∧
      (q.retainedEpisodeId=q'.retainedEpisodeId ∨ q.resetEpisodeId=q'.resetEpisodeId → q=q') := by
  constructor
  · intro heq
    obtain ⟨_,_,_,_,_,hretained,_⟩ := hp q hq
    obtain ⟨_,_,_,_,_,_,hreset⟩ := hp q' hq'
    rw [heq,hreset] at hretained
    cases hretained
  · intro heq
    refine hv.exclusive (t := Tbl.studyPairs) (fun a b => ?_) hq hq' ?_
    · change (_ || _)=(_ || _)
      rw [BEq.comm (a := a.retainedEpisodeId),BEq.comm (a := a.resetEpisodeId)]
    · change (_ || _)=true
      simpa using heq

end Pairs

section StudyRuns
variable {hash : Bytes → Blake3Digest} {ok : Store → CommandRequest → Prop} {s s' : Store}
  {c : StudyEpisodeId → Nat}

def Ended (s : Store) (i : StudyEpisodeId) : Prop :=
  ∃ e,episodeOf s i=some e ∧ e.lifecycleState=.closed

def pairsOf (s : Store) (i : StudyRunId) : Nat := s.count .studyRunPairs (fun p => p.studyRunId==i)

/-- A run has the pairs it counts, in the order it plans, and is complete with them. -/
structure Registered (s : Store) : Prop where
  counted : ∀ r ∈ s.rows .studyRuns,r.registeredPairCount.val=pairsOf s r.studyRunId
  planned : ∀ p ∈ s.rows .studyRunPairs,∀ r ∈ s.rows .studyRuns,r.studyRunId=p.studyRunId →
    p.pairOrdinal.val ≤ r.pairCount.val
  completed : ∀ r ∈ s.rows .studyRuns,r.lifecycleState=.completed →
    r.registeredPairCount.val=r.pairCount.val ∧
    ∀ p ∈ s.rows .studyRunPairs,p.studyRunId=r.studyRunId →
    ∀ q ∈ s.rows .studyPairs,q.studyPairId=p.studyPairId →
      Ended s q.retainedEpisodeId ∧ Ended s q.resetEpisodeId

abbrev runTables : List Tbl := [.studyRuns,.studyRunPairs,.studyPairs]

theorem pairsOf_rows (h : s'.rows .studyRunPairs=s.rows .studyRunPairs) : pairsOf s'=pairsOf s :=
  funext (fun _ => Db.count_rows h)

theorem registered_of (hX : ∀ t ∈ runTables,s'.rows t=s.rows t)
    (hended : ∀ i,Ended s i → Ended s' i) (hs : Registered s) : Registered s' := by
  have hr := hX .studyRuns (by decide)
  have hp := hX .studyRunPairs (by decide)
  have hq := hX .studyPairs (by decide)
  constructor
  · rw [hr,pairsOf_rows hp]
    exact hs.counted
  · rw [hr,hp]
    exact hs.planned
  · rw [hr,hp,hq]
    intro r hr hx
    obtain ⟨hcount,hall⟩ := hs.completed r hr hx
    refine ⟨hcount,fun p hp hpr q hq hqp => ?_⟩
    exact (hall p hp hpr q hq hqp).imp (hended _) (hended _)

theorem runs_kept : KeptByStudy runTables (fun _ _ => True) Registered where
  reads s s' h hs := registered_of (fun t ht => h t (List.mem_append_right _ ht)) (by
    intro i hi
    rw [Ended,episodeOf_rows (h .studyEpisodes (by decide))]
    exact hi) hs
  charge _ _ := trivial
  step _ _ _ _ hX _ hstep hs := registered_of hX (fun _ hi => hstep.closed hi) hs

theorem run_key (hv : s.Valid) {a b : StudyRunRow} (ha : a ∈ s.rows .studyRuns)
    (hb : b ∈ s.rows .studyRuns) (h : a.studyRunId=b.studyRunId) : a=b :=
  hv.key_injective (t := .studyRuns) rfl ha hb (congrArg Relational.Id.val h)

theorem admitStudyRun_registered (hv : s.Valid) (hs : Registered s) (cmd : CommandRowId)
    (protocol : StudyProtocolRevisionId) (plan : ContentObjectId) (digest : Blake3Digest)
    (pairs : StudyRunPairCount) :
    Tx.wp (admitStudyRun cmd protocol plan digest pairs) (fun _ s' => Registered s') s := by
  simp only [admitStudyRun,Tx.wp_bind,Tx.wp_read,Tx.wp_require,Tx.wp_insert,Tx.wp_pure]
  intro _ j hj _
  -- no pair is registered for a run that is new
  have hnew (p : StudyRunPairRow) (hp : p ∈ s.rows .studyRunPairs) : p.studyRunId≠j := by
    have hlt := hv.target_lt hp (u := .studyRuns) (k := p.studyRunId.val) rfl (List.mem_cons_self ..)
    intro he
    rw [he,hj] at hlt
    omega
  constructor
  · intro r hr
    rw [pairsOf_rows (Db.rows_append_ne (by decide))]
    rcases Db.mem_append.mp hr with hr | rfl
    · exact hs.counted r hr
    · exact (Db.count_zero (fun p hp => beq_eq_false_iff_ne.mpr (hnew p hp))).symm
  · intro p hp r hr he
    rw [Db.rows_append_ne (by decide)] at hp
    rcases Db.mem_append.mp hr with hr | rfl
    · exact hs.planned p hp r hr he
    · exact absurd he.symm (hnew p hp)
  · intro r hr hx
    rw [Db.rows_append_ne (by decide),Db.rows_append_ne (by decide)]
    rcases Db.mem_append.mp hr with hr | rfl
    · exact hs.completed r hr hx
    · cases hx

theorem admitMatchedPair_registered (hv : s.Valid) (hs : Registered s) (cmd : CommandRowId)
    (a b : StudyEpisodeId) :
    Tx.wp (admitMatchedPair cmd a b) (fun _ s' => Registered s') s := by
  simp only [admitMatchedPair,Tx.wp_bind,Tx.wp_read,Tx.wp_require,Tx.wp_insert,Tx.wp_pure]
  intro _ j hj _
  constructor
  · rw [Db.rows_append_ne (by decide),pairsOf_rows (Db.rows_append_ne (by decide))]
    exact hs.counted
  · rw [Db.rows_append_ne (by decide),Db.rows_append_ne (by decide)]
    exact hs.planned
  · intro r hr hx
    rw [Db.rows_append_ne (by decide)] at hr
    obtain ⟨hcount,hall⟩ := hs.completed r hr hx
    refine ⟨hcount,fun p hp hpr q hq hqp => ?_⟩
    rw [Db.rows_append_ne (by decide)] at hp
    rcases Db.mem_append.mp hq with hq | rfl
    · exact hall p hp hpr q hq hqp
    · have hlt := hv.target_lt hp (u := .studyPairs) (k := p.studyPairId.val) rfl
        (List.mem_cons_of_mem _ (List.mem_cons_self ..))
      have hqp : j=p.studyPairId := hqp
      rw [← hqp,hj] at hlt
      omega

/-- A run after it moved on. -/
def StudyRunRow.moved (r : StudyRunRow) (n : StudyRunRegisteredPairCount)
    (x : StudyRunLifecycleState) (cmd : CommandRowId) : StudyRunRow :=
  {r with registeredPairCount := n,lifecycleState := x,lastTransitionCommandId := cmd}

/-- A run moves on, with the pairs that it counts. -/
theorem Registered.moved (hv : s.Valid) (hs : Registered s) {i : StudyRunId} {r : StudyRunRow}
    (hr : s.find .studyRuns i=some r) (n : StudyRunRegisteredPairCount) (x : StudyRunLifecycleState)
    (cmd : CommandRowId) {s' : Store}
    (hruns : s'.rows .studyRuns=(s.modify .studyRuns (fun r => r.studyRunId==i)
      (fun r => some (r.moved n x cmd))).rows .studyRuns)
    (hepisodes : s'.rows .studyEpisodes=s.rows .studyEpisodes)
    (hq : s'.rows .studyPairs=s.rows .studyPairs)
    (hcount : n.val=pairsOf s' i ∧ ∀ k,k≠i → pairsOf s' k=pairsOf s k)
    (hpairs : ∀ p ∈ s'.rows .studyRunPairs,p ∈ s.rows .studyRunPairs ∨
      (p.studyRunId=i ∧ p.pairOrdinal.val ≤ r.pairCount.val))
    (hdone : x=.completed → n.val=r.pairCount.val ∧
      ∀ p ∈ s'.rows .studyRunPairs,p.studyRunId=i → ∀ q ∈ s.rows .studyPairs,
        q.studyPairId=p.studyPairId → Ended s q.retainedEpisodeId ∧ Ended s q.resetEpisodeId) :
    Registered s' := by
  have hid : r.studyRunId=i := Relational.Id.ext (Db.find_key hr)
  have hended : Ended s'=Ended s := by
    funext k
    rw [Ended,episodeOf_rows hepisodes,Ended]
  -- a run of the new state is another run as before, or the one that moved
  have hcases (a : StudyRunRow) (ha : a ∈ s'.rows .studyRuns) :
      (a ∈ s.rows .studyRuns ∧ a.studyRunId≠i) ∨ a=r.moved n x cmd := by
    rw [hruns] at ha
    obtain ⟨a₀,ha₀,rfl⟩ := Db.mem_update.mp ha
    by_cases hi : a₀.studyRunId=i
    · cases run_key hv ha₀ (Db.find_mem hr) (hi.trans hid.symm)
      simp [hi]
    · rw [if_neg (by simpa using hi)]
      exact .inl ⟨ha₀,hi⟩
  constructor
  · intro a ha
    rcases hcases a ha with ⟨ha,hi⟩ | rfl
    · rw [hcount.2 _ hi]
      exact hs.counted a ha
    · change n.val=pairsOf s' r.studyRunId
      rw [hid]
      exact hcount.1
  · intro p hp a ha he
    rcases hcases a ha with ⟨ha,hi⟩ | rfl
    · rcases hpairs p hp with hp | ⟨hpi,_⟩
      · exact hs.planned p hp a ha he
      · exact absurd (he.trans hpi) hi
    · rcases hpairs p hp with hp | ⟨_,hle⟩
      · exact hs.planned p hp r (Db.find_mem hr) he
      · exact hle
  · rw [hended,hq]
    intro a ha hx
    rcases hcases a ha with ⟨ha,hi⟩ | rfl
    · obtain ⟨hfull,hall⟩ := hs.completed a ha hx
      refine ⟨hfull,fun p hp hpa => ?_⟩
      rcases hpairs p hp with hp | ⟨hpi,_⟩
      · exact hall p hp hpa
      · exact absurd (hpa.symm.trans hpi) hi
    · obtain ⟨hfull,hall⟩ := hdone hx
      exact ⟨hfull,fun p hp hpa => hall p hp (hpa.trans hid)⟩

theorem startStudyRun_registered (hv : s.Valid) (hs : Registered s) (cmd : CommandRowId)
    (i : StudyRunId) : Tx.wp (startStudyRun cmd i) (fun _ s' => Registered s') s := by
  simp only [startStudyRun,setRunState,Tx.wp_bind,wp_studyRunRow,Tx.wp_require,Tx.wp_update,Tx.wp_pure]
  intro r hr _ _
  have hcount := hs.counted r (Db.find_mem hr)
  rw [show r.studyRunId=i from Relational.Id.ext (Db.find_key hr)] at hcount
  have hsame : pairsOf (s.modify .studyRuns (fun r => r.studyRunId==i)
      (fun q => some (q.moved r.registeredPairCount .running cmd)))=pairsOf s :=
    pairsOf_rows (Db.rows_modify_ne (by decide))
  refine hs.moved hv hr r.registeredPairCount .running cmd rfl (Db.rows_modify_ne (by decide))
    (Db.rows_modify_ne (by decide)) ⟨hcount.trans (congrFun hsame i).symm,fun k _ => congrFun hsame k⟩
    ?_ (by rintro ⟨⟩)
  intro p hp
  rw [Db.rows_modify_ne (by decide)] at hp
  exact .inl hp

theorem completeStudyRun_registered (hv : s.Valid) (hs : Registered s) (cmd : CommandRowId)
    (i : StudyRunId) : Tx.wp (completeStudyRun cmd i) (fun _ s' => Registered s') s := by
  simp only [completeStudyRun,setRunState,Tx.wp_bind,wp_studyRunRow,Tx.wp_read,Tx.wp_require,
    Tx.wp_update,Tx.wp_pure]
  intro r hr hready hclosed _
  simp only [Bool.and_eq_true,beq_iff_eq] at hready
  have hcount := hs.counted r (Db.find_mem hr)
  rw [show r.studyRunId=i from Relational.Id.ext (Db.find_key hr)] at hcount
  have hsame : pairsOf (s.modify .studyRuns (fun r => r.studyRunId==i)
      (fun q => some (q.moved r.registeredPairCount .completed cmd)))=pairsOf s :=
    pairsOf_rows (Db.rows_modify_ne (by decide))
  refine hs.moved hv hr r.registeredPairCount .completed cmd rfl (Db.rows_modify_ne (by decide))
    (Db.rows_modify_ne (by decide)) ⟨hcount.trans (congrFun hsame i).symm,fun k _ => congrFun hsame k⟩
    ?_ (fun _ => ⟨hready.2,?_⟩)
  · intro p hp
    rw [Db.rows_modify_ne (by decide)] at hp
    exact .inl hp
  · intro p hp hpi q hq hqp
    rw [Db.rows_modify_ne (by decide)] at hp
    simp only [Bool.not_eq_true',List.any_eq_false,Bool.and_eq_true,beq_iff_eq,not_and] at hclosed
    have hdone := hclosed p hp hpi
    obtain ⟨a,ha⟩ := hv.find_target hq (u := .studyEpisodes) (k := q.retainedEpisodeId) rfl
      (List.mem_cons_self ..)
    obtain ⟨b,hb⟩ := hv.find_target hq (u := .studyEpisodes) (k := q.resetEpisodeId) rfl
      (List.mem_cons_of_mem _ (List.mem_cons_self ..))
    have hpair : pairEpisodes s p.studyPairId=some (a,b) := by
      rw [pairEpisodes,← hqp,hv.find_eq (t := .studyPairs) rfl hq (k := q.studyPairId) rfl]
      simp [ha,hb]
    rw [hpair] at hdone
    simp only [Option.any_some,Bool.or_eq_true,decide_eq_true_eq,not_or,not_not] at hdone
    exact ⟨⟨_,episodeOf_find ha,hdone.1⟩,⟨_,episodeOf_find hb,hdone.2⟩⟩

theorem registerStudyRunPair_registered (hv : s.Valid) (hs : Registered s) (cmd : CommandRowId)
    (i : StudyRunId) (ordinal : StudyRunPairOrdinal) (pair : StudyPairId)
    (randomization : Blake3Digest) :
    Tx.wp (registerStudyRunPair cmd i ordinal pair randomization) (fun _ s' => Registered s') s := by
  simp only [registerStudyRunPair,setRunState,Tx.wp_bind,wp_studyRunRow,Tx.wp_read,Tx.wp_the,
    Tx.wp_require,Tx.wp_store,Tx.wp_update,Tx.wp_pure]
  intro r hr hready _ _ _ n hn _
  simp only [Bool.and_eq_true,beq_iff_eq,decide_eq_true_eq] at hready
  have hn := Ranged.new_eq_some.mp hn
  have hcount := hs.counted r (Db.find_mem hr)
  rw [show r.studyRunId=i from Relational.Id.ext (Db.find_key hr)] at hcount
  have hpairs (k : StudyRunId) (s₁ : Store) (h : s₁.rows .studyRunPairs=(s.append .studyRunPairs
      ⟨i,ordinal,pair,randomization,cmd⟩ (s .studyRunPairs).next).rows .studyRunPairs) :
      pairsOf s₁ k=pairsOf s k+(if i=k then 1 else 0) := by
    rw [pairsOf,Db.count_rows h,Db.count_append]
    simp [pairsOf]
  refine hs.moved hv hr n (if n.val=r.pairCount.val then .ready else .pairing) cmd ?_ (by simp)
    (by simp) ⟨?_,fun k hk => ?_⟩ ?_ ?_
  · simp only [Db.rows,Db.modify_same]
    exact Db.modified_rows (Db.rows_append_ne (by decide))
  · rw [hpairs _ _ (Db.rows_modify_ne (by decide)),if_pos rfl]
    omega
  · rw [hpairs _ _ (Db.rows_modify_ne (by decide)),if_neg (Ne.symm hk),Nat.add_zero]
  · intro p hp
    rw [Db.rows_modify_ne (by decide)] at hp
    rcases Db.mem_append.mp hp with hp | rfl
    · exact .inl hp
    · exact .inr ⟨rfl,hready.2⟩
  · intro hx
    split at hx <;> cases hx

theorem Reaches.registered (h : Reaches hash ok s) : Registered s := by
  refine h.study (X := runTables) (by decide) runs_kept ?_
    (fun _ _ _ _ _ _ _ _ _ _ _ _ _ _ => trivial) ?_
  · constructor <;> simp [Store.initial,Db.rows]
  · intro s r s₁ cmd _ hst hs₁ hw
    obtain ⟨i,p,k,q,g,b⟩ := r
    cases b
    case studyTransition c =>
      cases c
      case admitStudyRun =>
        exact studyTransition_wp (admitStudyRun_registered hst.valid hs₁ cmd _ _ _ _)
      case admitMatchedPair =>
        exact studyTransition_wp (admitMatchedPair_registered hst.valid hs₁ cmd _ _)
      case registerStudyRunPair =>
        exact studyTransition_wp (registerStudyRunPair_registered hst.valid hs₁ cmd _ _ _ _)
      case startStudyRun => exact studyTransition_wp (startStudyRun_registered hst.valid hs₁ cmd _)
      case completeStudyRun =>
        exact studyTransition_wp (completeStudyRun_registered hst.valid hs₁ cmd _)
      all_goals exact absurd hw (of_decide_eq_true rfl)
    all_goals exact absurd hw (of_decide_eq_true rfl)

/-- The pair ordinals of a run. -/
def ordinalsOf (s : Store) (i : StudyRunId) : List Nat :=
  ((s.rows .studyRunPairs).filter (fun p => p.studyRunId==i)).map (fun p => p.pairOrdinal.val)

theorem mem_ordinalsOf {i : StudyRunId} {n : Nat} : n ∈ ordinalsOf s i ↔
    ∃ p ∈ s.rows .studyRunPairs,p.studyRunId=i ∧ p.pairOrdinal.val=n := by
  simp [ordinalsOf,and_assoc]

theorem ordinalsOf_nodup (hv : s.Valid) (i : StudyRunId) : (ordinalsOf s i).Nodup := by
  refine List.pairwise_map.mpr (List.Pairwise.imp_of_mem ?_ ((hv.unique .studyRunPairs).filter _))
  intro a b ha hb hab heq
  have ha := beq_iff_eq.mp (List.mem_filter.mp ha).2
  have hb := beq_iff_eq.mp (List.mem_filter.mp hb).2
  have hordinal : a.pairOrdinal=b.pairOrdinal := Ranged.ext heq
  change ((a.studyRunId==b.studyRunId && a.pairOrdinal==b.pairOrdinal) || _ || _)=false at hab
  simp [ha,hb,hordinal] at hab

/-- A completed run has the pairs 1 to its pair count. -/
theorem completed_ordinals (hv : s.Valid) (hs : Registered s) {r : StudyRunRow}
    (hr : r ∈ s.rows .studyRuns) (hx : r.lifecycleState=.completed) (n : Nat) :
    n ∈ ordinalsOf s r.studyRunId ↔ 1≤n ∧ n ≤ r.pairCount.val := by
  have hbound (n : Nat) (hn : n ∈ ordinalsOf s r.studyRunId) : 1≤n ∧ n ≤ r.pairCount.val := by
    obtain ⟨p,hp,hpr,rfl⟩ := mem_ordinalsOf.mp hn
    exact ⟨p.pairOrdinal.valid.1,hs.planned p hp r hr hpr.symm⟩
  refine ⟨hbound n,fun hn => (full_iff (ordinalsOf_nodup hv _) hbound).mpr ?_ n hn.1 hn.2⟩
  rw [← (hs.completed r hr hx).1,hs.counted r hr,pairsOf,Db.count,ordinalsOf,List.length_map,
    List.countP_eq_length_filter]

end StudyRuns

section Deliveries
variable {hash : Bytes → Blake3Digest} {s s' : Store} {i : StudyEpisodeId}

/-- The correction of an episode is delivered as `m`. -/
structure Delivered (hash : Bytes → Blake3Digest) (s s' : Store) (i : StudyEpisodeId)
    (correction : ForumMessageBody) (m : StudyForumMessageRow) : Prop where
  rows : s'.rows .studyForumMessages=s.rows .studyForumMessages++[m]
  new : ∀ q ∈ s.rows .studyForumMessages,q.forumMessageId≠m.forumMessageId
  author : m.author=none
  body : m.bodyUtf8=correction.stored ∧ m.bodyDigest=.ofText hash correction
  thread : (threadInEpisode s m.forumThreadId i).isSome=true
  state : ∃ e,s.find .studyEpisodes i=some e ∧ e.lifecycleState=.successorAdmitted
  ready : successorPopulationSize s i=some (readySuccessorCount s i)
  threads : ∀ t j,(threadInEpisode s' t j).isSome=(threadInEpisode s t j).isSome
  readies : readySuccessorCount s'=readySuccessorCount s

/-- An update of the threads that leaves them in their forums. -/
theorem threadInEpisode_update {p : StudyForumThreadRow → Bool}
    (g : StudyForumThreadRow → StudyForumThreadRow)
    (hg : ∀ t,(g t).forumThreadId=t.forumThreadId ∧ (g t).episodeForumId=t.episodeForumId)
    (hthreads : s'.rows .studyForumThreads=
      (s.modify .studyForumThreads p (fun t => some (g t))).rows .studyForumThreads)
    (hforums : s'.rows .studyEpisodeForums=s.rows .studyEpisodeForums) (t : ForumThreadId)
    (j : StudyEpisodeId) :
    (threadInEpisode s' t j).isSome=(threadInEpisode s t j).isSome := by
  have hfind : s'.find .studyForumThreads t=(s.find .studyForumThreads t).map
      (fun t => if p t then g t else t) := by
    rw [Db.find,hthreads,← Db.find,Db.find_modify]
    · rfl
    · rintro q _ ⟨⟩
      exact congrArg Relational.Id.val (hg q).1
  rw [threadInEpisode,threadInEpisode,hfind]
  cases s.find .studyForumThreads t with
  | none => rfl
  | some q =>
    have hforum : (if p q then g q else q).episodeForumId=q.episodeForumId := by
      split
      · exact (hg q).2
      · rfl
    simp only [Option.map_some,Option.filter_some,hforum,Db.find,hforums]
    split <;> rfl

/-- An update of the exposures that leaves them with their actors. -/
theorem readySuccessorCount_update {p : StudyForumExposureRow → Bool}
    (g : StudyForumExposureRow → StudyForumExposureRow)
    (hg : ∀ x,(g x).studyActorObligationId=x.studyActorObligationId)
    (hexposures : s'.rows .studyForumExposures=
      (s.modify .studyForumExposures p (fun x => some (g x))).rows .studyForumExposures)
    (hobligations : s'.rows .studyActorObligations=s.rows .studyActorObligations) :
    readySuccessorCount s'=readySuccessorCount s := by
  have hsome (k : StudyActorObligationId) : (exposureOf s' k).isSome=(exposureOf s k).isSome := by
    rw [exposureOf,exposureOf,hexposures,Db.rows,Db.modify_same,Db.modified]
    rw [List.find?_map,Option.isSome_map]
    congr 2
    funext x
    simp only [Function.comp_apply,Option.getD_some]
    split
    · rw [hg]
    · rfl
  funext j
  rw [readySuccessorCount,readySuccessorCount,hobligations]
  simp only [hsome]

theorem releaseCorrectionForEpisode_delivered {W : List Tbl} (hv : s.Valid) (cmd : CommandRowId)
    (i : StudyEpisodeId) (thread : ForumThreadId) (correction : ForumMessageBody)
    (hm : .studyForumMessages ∈ W) (hh : .studyForumThreads ∈ W) (he : .studyForumExposures ∈ W)
    (hs : .studyEpisodes ∈ W) :
    Tx.wp (releaseCorrectionForEpisode hash cmd i thread correction hm hh he hs)
      (fun _ s' => ∃ m,Delivered hash s s' i correction m) s := by
  simp only [releaseCorrectionForEpisode,appendMessage,setEpisodeState,Tx.wp_bind,wp_studyEpisodeRow,
    Tx.wp_read,Tx.wp_the,Tx.wp_require,Tx.wp_insert,Tx.wp_update,Tx.wp_pure]
  intro e he hadmitted r hr n hn hready ordinal _ j hj _ _ _ _
  have hid : r.forumThreadId=thread := by
    have hmem := (Option.filter_eq_some_iff.mp hr).1
    exact Relational.Id.ext (Db.find_key hmem)
  refine ⟨⟨j,r.forumThreadId,ordinal,none,.correction,none,none,correction.stored,
    .ofText hash correction,.published,cmd⟩,?_,?_,rfl,⟨rfl,rfl⟩,?_,⟨e,he,beq_iff_eq.mp hadmitted⟩,
    ?_,?_,?_⟩
  case refine_1 =>
    rw [Db.rows_modify_ne (by decide),Db.rows_modify_ne (by decide),Db.rows_modify_ne (by decide),
      Db.rows,Db.append_same]
  case refine_2 =>
    intro q hq heq
    have hlt := hv.fresh .studyForumMessages rfl q hq
    change q.forumMessageId.val<_ at hlt
    have heq : q.forumMessageId=j := heq
    rw [heq,hj] at hlt
    omega
  case refine_3 =>
    change (threadInEpisode s r.forumThreadId i).isSome=true
    rw [hid,hr]
    rfl
  case refine_4 => rw [hn,beq_iff_eq.mp hready]
  case refine_5 =>
    refine threadInEpisode_update (p := fun t => t.forumThreadId==r.forumThreadId)
      (fun t => {t with headMessageOrdinal := ⟨ordinal.val,Nat.zero_le _,ordinal.valid.2⟩})
      (fun _ => ⟨rfl,rfl⟩) ?_ (by simp)
    rw [Db.rows_modify_ne (by decide),Db.rows_modify_ne (by decide)]
    simp only [Db.rows,Db.modify_same]
    exact Db.modified_rows (Db.rows_append_ne (by decide))
  case refine_6 =>
    refine readySuccessorCount_update (fun x => {x with
      visibleThroughMessageOrdinal := ⟨ordinal.val,Nat.zero_le _,ordinal.valid.2⟩}) (fun _ => rfl)
      (p := fun x => x.episodeForumId==r.episodeForumId &&
        decide (x.visibleFromMessageOrdinal.val≤ordinal.val)) ?_ (by simp)
    rw [Db.rows_modify_ne (by decide)]
    simp only [Db.rows,Db.modify_same]
    exact Db.modified_rows ((Db.rows_modify_ne (by decide)).trans (Db.rows_append_ne (by decide)))

/-- The service posts `m` to the forum of the episode. -/
def Receives (s s' : Store) (i : StudyEpisodeId) (m : StudyForumMessageRow) : Prop :=
  m ∈ s'.rows .studyForumMessages ∧ m ∉ s.rows .studyForumMessages ∧ m.author=none ∧
    (threadInEpisode s m.forumThreadId i).isSome=true

/-- Both arms of the pair receive the correction that their protocol has committed to, while
the successors of each are at their places. -/
def ReleasedPair (hash : Bytes → Blake3Digest) (s s' : Store) (q : StudyPairRow)
    (correction : ForumMessageBody) : Prop :=
  ∀ j,j=q.retainedEpisodeId ∨ j=q.resetEpisodeId →
    successorPopulationSize s j=some (readySuccessorCount s j) ∧
    (∃ e p,s.find .studyEpisodes j=some e ∧
      s.find .studyProtocolRevisions e.studyProtocolRevisionId=some p ∧
      p.correctionDigest=.ofText hash correction) ∧
    ∃ m,Receives s s' j m ∧ m.bodyUtf8=correction.stored ∧ m.bodyDigest=.ofText hash correction

theorem threadInEpisode_unique {t : ForumThreadId} {i j : StudyEpisodeId}
    (hi : (threadInEpisode s t i).isSome=true) (hj : (threadInEpisode s t j).isSome=true) : i=j := by
  obtain ⟨a,ha⟩ := Option.isSome_iff_exists.mp hi
  obtain ⟨b,hb⟩ := Option.isSome_iff_exists.mp hj
  obtain ⟨ha,hai⟩ := Option.filter_eq_some_iff.mp ha
  obtain ⟨hb,hbj⟩ := Option.filter_eq_some_iff.mp hb
  rw [ha] at hb
  cases hb
  obtain ⟨f,hf,hfi⟩ := (Option.any_eq_true ..).mp hai
  obtain ⟨g,hg,hgj⟩ := (Option.any_eq_true ..).mp hbj
  rw [hf] at hg
  cases hg
  exact (beq_iff_eq.mp hfi).symm.trans (beq_iff_eq.mp hgj)

theorem releaseMatchedCorrection_released (hv : s.Valid) (hp : Paired s) (cmd : CommandRowId)
    (k : StudyPairId) (a b : ForumThreadId) (correction : ForumMessageBody) :
    Tx.wp (releaseMatchedCorrection hash cmd k a b correction) (fun _ s' =>
      ∃ q ∈ s.rows .studyPairs,q.studyPairId=k ∧ ReleasedPair hash s s' q correction ∧
        ∀ i m,Receives s s' i m → i=q.retainedEpisodeId ∨ i=q.resetEpisodeId) s := by
  simp only [releaseMatchedCorrection,Tx.wp_bind,Tx.wp_get,wp_studyEpisodeRow,wp_protocolRow,
    Tx.wp_require,Tx.wp_pure]
  intro q hq e he p hprotocol hcorrection
  have hdelivered {s : Store} (hv : s.Valid) (i : StudyEpisodeId) (thread : ForumThreadId) :=
    Tx.wp_and (Tx.wp_outside (releaseCorrectionForEpisode (W := [.studyForumMessages,
      .studyForumThreads,.studyForumExposures,.studyEpisodes]) hash cmd i thread correction) hv)
      (releaseCorrectionForEpisode_delivered hv cmd i thread correction (by decide)
        (by decide) (by decide) (by decide))
  refine Tx.wp_mono (hdelivered hv q.retainedEpisodeId a) ?_
  rintro _ s₁ ⟨⟨hsame,hv₁⟩,m₁,h₁⟩
  refine Tx.wp_mono (hdelivered hv₁ q.resetEpisodeId b) ?_
  rintro _ s₂ ⟨_,m₂,h₂⟩
  have hnew (m : StudyForumMessageRow) (h : ∀ r ∈ s.rows .studyForumMessages,
      r.forumMessageId≠m.forumMessageId) : m ∉ s.rows .studyForumMessages := fun hm => h m hm rfl
  have hm₂ : ∀ r ∈ s.rows .studyForumMessages,r.forumMessageId≠m₂.forumMessageId :=
    fun r hr => h₂.new r (h₁.rows ▸ List.mem_append_left _ hr)
  have hthread₂ : (threadInEpisode s m₂.forumThreadId q.resetEpisodeId).isSome=true :=
    (h₁.threads _ _).symm.trans h₂.thread
  have hsize : successorPopulationSize s₁=successorPopulationSize s := by
    funext j
    simp only [successorPopulationSize,Db.find,Db.rows,hsame _ (show Tbl.studyEpisodeSuccessorPopulations ∉ _ by decide),
      hsame _ (show Tbl.studyPopulationSnapshots ∉ _ by decide)]
  obtain ⟨x,y,hx,hy,hprotocols,_,_⟩ := hp q (Db.find_mem hq)
  obtain ⟨e₂,he₂,rfl⟩ := Option.map_eq_some_iff.mp hy
  rw [episodeOf_find he] at hx
  cases hx
  have hdigest := beq_iff_eq.mp hcorrection
  refine ⟨q,Db.find_mem hq,Relational.Id.ext (Db.find_key hq),?_,?_⟩
  · rintro j (rfl | rfl)
    · refine ⟨h₁.ready,⟨e,p,he,hprotocol,hdigest⟩,m₁,⟨?_,hnew _ h₁.new,h₁.author,h₁.thread⟩,h₁.body⟩
      rw [h₂.rows,h₁.rows]
      simp
    · refine ⟨?_,⟨e₂,p,he₂,?_,hdigest⟩,m₂,⟨?_,hnew _ hm₂,h₂.author,hthread₂⟩,h₂.body⟩
      · rw [← hsize,h₂.ready,h₁.readies]
      · have hsame : e.studyProtocolRevisionId=e₂.studyProtocolRevisionId := hprotocols
        rw [← hsame]
        exact hprotocol
      · rw [h₂.rows]
        simp
  · rintro i m ⟨hmem,hold,_,hthread⟩
    rw [h₂.rows,h₁.rows] at hmem
    simp only [List.append_assoc,List.mem_append,List.mem_singleton] at hmem
    rcases hmem with hmem | rfl | rfl
    · exact absurd hmem hold
    · exact .inl (threadInEpisode_unique hthread h₁.thread)
    · exact .inr (threadInEpisode_unique hthread hthread₂)

theorem publishForumMessage_posts (cmd : CommandRowId) (i : StudyActorObligationId)
    (kind : ForumMessageKind) (body : ForumMessageBody) (reply supersedes : Option ForumMessageId) :
    Tx.wp (publishForumMessage hash cmd i kind body reply supersedes) (fun _ s' => ∃ o x t,
      s.find .studyActorObligations i=some o ∧ o.lifecycleState=.active ∧
      x ∈ s.rows .studyForumExposures ∧ x.studyActorObligationId=i ∧
      t ∈ s.rows .studyForumThreads ∧ t.episodeForumId=x.episodeForumId ∧
      ∀ m ∈ s'.rows .studyForumMessages,m ∈ s.rows .studyForumMessages ∨
        (m.author≠none ∧ m.forumThreadId=t.forumThreadId)) s := by
  simp only [publishForumMessage,appendMessage,setEpisodeState,Tx.wp_bind,wp_obligationRow,
    wp_studyEpisodeRow,wp_threadForObligation,Tx.wp_read,Tx.wp_the,Tx.wp_require,Tx.wp_insert,
    Tx.wp_update,Tx.wp_ite,Tx.wp_pure]
  intro o ho hactive _ _ _ _ _ t ht ordinal _ _ author _ j _ _ _ _ used _ _
  obtain ⟨x,hx,ht⟩ := Option.bind_eq_some_iff.mp ht
  have hxi := List.find?_some hx
  obtain ⟨htm,htf⟩ := threadOfForum_mem ht
  refine ⟨fun _ _ => ?_,fun _ => ?_⟩ <;>
    refine ⟨o,x,t,ho,beq_iff_eq.mp hactive,List.mem_of_find?_eq_some hx,beq_iff_eq.mp hxi,htm,htf,
      fun m hm => ?_⟩ <;>
    simp only [Db.rows_modify_ne (show Tbl.studyForumMessages≠.studyEpisodes by decide),
      Db.rows_modify_ne (show Tbl.studyForumMessages≠.studyActorObligations by decide),
      Db.rows_modify_ne (show Tbl.studyForumMessages≠.studyForumExposures by decide),
      Db.rows_modify_ne (show Tbl.studyForumMessages≠.studyForumThreads by decide),
      Db.mem_append] at hm <;>
    rcases hm with hm | rfl
  · exact .inl hm
  · exact .inr ⟨Option.some_ne_none _,rfl⟩
  · exact .inl hm
  · exact .inr ⟨Option.some_ne_none _,rfl⟩

theorem retractForumMessage_posts (hv : s.Valid) (i : StudyActorObligationId) (k : ForumMessageId) :
    Tx.wp (retractForumMessage i k) (fun _ s' => ∀ m ∈ s'.rows .studyForumMessages,
      m ∈ s.rows .studyForumMessages ∨ (m.author≠none ∧
        ∃ m₀ ∈ s.rows .studyForumMessages,m₀.forumMessageId=m.forumMessageId)) s := by
  simp only [retractForumMessage,Tx.wp_bind,wp_obligationRow,wp_studyEpisodeRow,Tx.wp_read,
    Tx.wp_the,Tx.wp_get,Tx.wp_require,Tx.wp_update,Tx.wp_pure]
  intro _ _ _ _ _ q hq author hauthor _ _ _ _ _ m hm
  obtain ⟨m₀,hm₀,rfl⟩ := Db.mem_update.mp hm
  by_cases hk : m₀.forumMessageId=k
  · have hsame : m₀=q := hv.key_injective (t := .studyForumMessages) rfl hm₀ (Db.find_mem hq)
      ((congrArg Relational.Id.val hk).trans (Db.find_key hq).symm)
    rw [if_pos (by simpa using hk)]
    refine .inr ⟨?_,m₀,hm₀,rfl⟩
    change m₀.author≠none
    rw [hsame,hauthor]
    exact Option.some_ne_none _
  · rw [if_neg (by simpa using hk)]
    exact .inl hm₀

variable {ok : Store → CommandRequest → Prop} {r : CommandRequest}

/-- What a study reads is not in the ledger. -/
theorem Step.rows {s₁ : Store} (h : Step hash s r s₁) {t : Tbl} (ht : t ∉ ledger) :
    s₁.rows t=s.rows t := by
  rw [Db.rows,h.same t ht,Db.rows]

theorem Step.find {s₁ : Store} (h : Step hash s r s₁) {t : Tbl} (ht : t ∉ ledger)
    (k : Relational.Id t) : s₁.find t k=s.find t k := by
  rw [Db.find,h.rows ht,Db.find]

theorem Step.threadInEpisode {s₁ : Store} (h : Step hash s r s₁) :
    threadInEpisode s₁=threadInEpisode s := by
  funext t i
  simp only [Kernel.threadInEpisode,h.find (t := .studyForumThreads) (by decide),
    h.find (t := .studyEpisodeForums) (by decide)]

theorem Step.receives {s₁ : Store} (h : Step hash s r s₁) : Receives s₁=Receives s := by
  funext s' i m
  rw [Receives,Receives,h.rows (t := .studyForumMessages) (by decide),h.threadInEpisode]

theorem Step.releasedPair {s₁ : Store} (h : Step hash s r s₁) {q : StudyPairRow}
    {correction : ForumMessageBody} (hp : ReleasedPair hash s₁ s' q correction) :
    ReleasedPair hash s s' q correction := by
  have hsize : successorPopulationSize s₁=successorPopulationSize s := by
    funext j
    simp only [successorPopulationSize,h.rows (t := .studyEpisodeSuccessorPopulations) (by decide),
      h.find (t := .studyPopulationSnapshots) (by decide)]
  have hready : readySuccessorCount s₁=readySuccessorCount s := by
    funext j
    simp only [readySuccessorCount,exposureOf,h.rows (t := .studyActorObligations) (by decide),
      h.rows (t := .studyForumExposures) (by decide)]
  simpa only [ReleasedPair,hsize,hready,h.receives,h.find (t := .studyEpisodes) (by decide),
    h.find (t := .studyProtocolRevisions) (by decide)] using hp

/-- The service posts to an episode only when it releases the correction of its pair. -/
theorem corrections_released (h : Reaches hash ok s) (r : CommandRequest) : ∀ i m,
    Receives s (execute hash r s).2 i m → ∃ q ∈ s.rows .studyPairs,
      (i=q.retainedEpisodeId ∨ i=q.resetEpisodeId) ∧ accepts hash s r ∧
      ∃ a b correction,r.body=.studyTransition (.releaseMatchedCorrection q.studyPairId a b correction) ∧
        ReleasedPair hash s (execute hash r s).2 q correction := by
  refine execute_invariant (D := [.studyForumMessages]) (I := fun s' => ∀ i m,Receives s s' i m →
    ∃ q ∈ s.rows .studyPairs,(i=q.retainedEpisodeId ∨ i=q.resetEpisodeId) ∧ accepts hash s r ∧
      ∃ a b correction,r.body=.studyTransition (.releaseMatchedCorrection q.studyPairId a b correction) ∧
        ReleasedPair hash s s' q correction) (by decide) ?_ h.valid ?_ ?_
  · intro s₁ s₂ hd h₁
    have hrows := hd .studyForumMessages (by decide)
    have hreceives : Receives s s₂=Receives s s₁ := by
      funext i m
      rw [Receives,hrows,Receives]
    simpa only [ReleasedPair,hreceives] using h₁
  · rintro i m ⟨hm,hn,_⟩
    exact absurd hm hn
  · intro s₁ cmd hst h₁ hw
    have hreceives := hst.receives
    have hmessages := hst.rows (t := .studyForumMessages) (by decide)
    have hpairs := hst.rows (t := .studyPairs) (by decide)
    have hpaired : Paired s₁ := paired_reads s s₁ (fun t ht => hst.rows
      ((show ∀ t ∈ studyTables++pairTables,t ∉ ledger by decide) t ht)) h.paired
    have haccepted := hst.accepted
    obtain ⟨i,p,k,x,g,b⟩ := r
    cases b
    case studyTransition c =>
      cases c
      case publishForumMessage =>
        refine studyTransition_wp (Tx.wp_mono (publishForumMessage_posts cmd _ _ _ _ _) ?_)
        rintro _ s' ⟨_,_,_,_,_,_,_,_,_,hposts⟩ j m ⟨hm,hn,hauthor,hthread⟩
        rcases hposts m hm with hold | ⟨hauthor',_⟩
        · exact absurd (hmessages ▸ hold) hn
        · exact absurd hauthor hauthor'
      case retractForumMessage =>
        refine studyTransition_wp (Tx.wp_mono (retractForumMessage_posts hst.valid _ _) ?_)
        rintro _ s' hposts j m ⟨hm,hn,hauthor,hthread⟩
        rcases hposts m hm with hold | ⟨hauthor',_⟩
        · exact absurd (hmessages ▸ hold) hn
        · exact absurd hauthor hauthor'
      case releaseMatchedCorrection k a b correction =>
        refine studyTransition_wp (Tx.wp_mono
          (releaseMatchedCorrection_released hst.valid hpaired cmd k a b correction) ?_)
        rintro _ s' ⟨q,hq,rfl,hreleased,hall⟩ j m hm
        rw [← hreceives] at hm
        exact ⟨q,hpairs ▸ hq,hall j m hm,haccepted,a,b,correction,rfl,
          hst.releasedPair hreleased⟩
      all_goals exact absurd hw (of_decide_eq_true rfl)
    all_goals exact absurd hw (of_decide_eq_true rfl)

end Deliveries

section Aftermath
variable {hash : Bytes → Blake3Digest} {ok : Store → CommandRequest → Prop} {s s' : Store}
  {v : StudyGroundTruthRevealRow}

/-- What still happens to an episode whose ground truth is known: nothing but decisions of
actors that have completed their work, each on a message of the actor's own. -/
structure Aftermath (s s' : Store) (i : StudyEpisodeId) : Prop where
  obligations : ∀ o' ∈ s'.rows .studyActorObligations,o'.studyEpisodeId=i →
    ∃ o ∈ s.rows .studyActorObligations,o.studyActorObligationId=o'.studyActorObligationId
  messages : ∀ m ∈ s'.rows .studyForumMessages,(threadInEpisode s m.forumThreadId i).isSome=true →
    ∃ m₀ ∈ s.rows .studyForumMessages,m₀.forumMessageId=m.forumMessageId
  receipts : ∀ q ∈ s'.rows .studyForumReadReceipts,q ∉ s.rows .studyForumReadReceipts →
    ∀ o ∈ s.rows .studyActorObligations,o.studyActorObligationId=q.studyActorObligationId →
      o.studyEpisodeId≠i
  decisions : ∀ d ∈ s'.rows .studyDecisions,d ∉ s.rows .studyDecisions →
    ∀ o ∈ s.rows .studyActorObligations,o.studyActorObligationId=d.studyActorObligationId →
      o.studyEpisodeId=i → o.lifecycleState=.completed ∧
        ∃ k,d.citedForumMessageId=some k ∧ ownPublishedMessage s o.studyActorObligationId k=true

theorem Step.reads {D : List Tbl} {I : Store → Prop} {r : CommandRequest} {s₁ : Store}
    (h : Step hash s r s₁) (hI : Db.ReadsOnly D I) (hD : ∀ t ∈ D,t ∉ ledger) (hs : I s) : I s₁ :=
  hI s s₁ (fun t ht => h.rows (hD t ht)) hs

theorem obligations_after (h : Reaches hash ok s) (hv : v ∈ s.rows .studyGroundTruthReveals)
    (r : CommandRequest) : ∀ o' ∈ (execute hash r s).2.rows .studyActorObligations,
      o'.studyEpisodeId=v.studyEpisodeId →
        ∃ o ∈ s.rows .studyActorObligations,o.studyActorObligationId=o'.studyActorObligationId := by
  let I (s' : Store) : Prop := (∃ e,episodeOf s' v.studyEpisodeId=some e ∧
    e.lifecycleState.unblinded=true) ∧ ∀ o' ∈ s'.rows .studyActorObligations,
      o'.studyEpisodeId=v.studyEpisodeId →
        ∃ o ∈ s.rows .studyActorObligations,o.studyActorObligationId=o'.studyActorObligationId
  have hreads : Db.ReadsOnly studyTables I := by
    intro s₁ s₂ hd h₁
    change (∃ _,_) ∧ ∀ _ ∈ _,_
    rw [episodeOf_rows (hd .studyEpisodes (by decide)),hd .studyActorObligations (by decide)]
    exact h₁
  have hkept : KeptByStudy [] (fun _ _ => True) I := by
    refine ⟨hreads.mono (by simp),fun _ _ => trivial,?_⟩
    rintro s₁ s₂ c - - - hstep ⟨⟨e,he,hx⟩,hall⟩
    refine ⟨hstep.unblinded he hx,fun o' ho' hoi => ?_⟩
    have hseats (h : SeatsKept s₁ s₂ c) :
        ∃ o ∈ s.rows .studyActorObligations,o.studyActorObligationId=o'.studyActorObligationId := by
      obtain ⟨o,ho,hid,hoe,_⟩ := h.old o' ho'
      rw [hid]
      exact hall o ho (hoe.symm.trans hoi)
    cases hstep with
    | kept _ h => exact hseats h
    | opened _ _ _ _ h => exact hseats h
    | moved _ _ _ _ _ _ h => exact hseats h
    | seated i e₁ new he₁ hadmits _ hnew hrows =>
      rw [hrows] at ho'
      rcases List.mem_append.mp ho' with ho' | ho'
      · exact hall o' ho' hoi
      · cases List.mem_singleton.mp ho'
        rw [hnew.1] at hoi
        rw [hoi,he] at he₁
        cases he₁
        exact absurd hadmits (unblinded_not_admits hx)
  have hall : I (execute hash r s).2 := by
    refine execute_invariant (D := studyTables) (by decide) hreads h.valid
      ⟨(h.blinded.revealed v hv).2,fun o ho _ => ⟨o,ho,rfl⟩⟩ ?_
    intro s₁ cmd hst h₁ hw
    exact action_study hkept hst.valid h₁ cmd (fun _ _ _ _ _ _ _ => trivial) (by simp) hw
  exact hall.2

theorem releaseMatchedCorrection_silent (hval : s.Valid) (hb : Blinded s)
    (hv : v ∈ s.rows .studyGroundTruthReveals) (cmd : CommandRowId) (k : StudyPairId)
    (a b : ForumThreadId) (correction : ForumMessageBody) :
    Tx.wp (releaseMatchedCorrection hash cmd k a b correction) (fun _ s' =>
      ∀ m ∈ s'.rows .studyForumMessages,m ∈ s.rows .studyForumMessages ∨
        (threadInEpisode s m.forumThreadId v.studyEpisodeId).isSome=false) s := by
  simp only [releaseMatchedCorrection,Tx.wp_bind,Tx.wp_get,wp_studyEpisodeRow,wp_protocolRow,
    Tx.wp_require,Tx.wp_pure]
  intro q hq e he p hprotocol hcorrection
  have hone {s : Store} (hval : s.Valid) (hb : Blinded s)
      (hv : v ∈ s.rows .studyGroundTruthReveals) (i : StudyEpisodeId) (thread : ForumThreadId) :
      Tx.wp (releaseCorrectionForEpisode (W := [.studyForumMessages,.studyForumThreads,
        .studyForumExposures,.studyEpisodes]) hash cmd i thread correction) (fun _ s' =>
          (s'.Valid ∧ Blinded s' ∧ v ∈ s'.rows .studyGroundTruthReveals) ∧
          (∀ t j,(threadInEpisode s' t j).isSome=(threadInEpisode s t j).isSome) ∧
          ∀ m ∈ s'.rows .studyForumMessages,m ∈ s.rows .studyForumMessages ∨
            (threadInEpisode s m.forumThreadId v.studyEpisodeId).isSome=false) s := by
    refine Tx.wp_mono (Tx.wp_and (Tx.wp_outside _ hval) (Tx.wp_and
      (releaseCorrectionForEpisode_step i thread correction (by decide) (by decide) (by decide)
        (by decide)) (releaseCorrectionForEpisode_delivered hval cmd i thread correction (by decide)
        (by decide) (by decide) (by decide)))) ?_
    rintro _ s' ⟨⟨hsame,hval'⟩,hstep,m₁,h₁⟩
    have hX : ∀ t ∈ measureTables,s'.rows t=s.rows t := fun t ht => by
      rw [Db.rows,hsame t ((show ∀ t ∈ measureTables,t ∉ _ by decide) t ht),Db.rows]
    refine ⟨⟨hval',hstep.blinded hX hb,?_⟩,h₁.threads,fun m hm => ?_⟩
    · rw [hX _ (by decide)]
      exact hv
    · rw [h₁.rows] at hm
      rcases List.mem_append.mp hm with hm | hm
      · exact .inl hm
      · cases List.mem_singleton.mp hm
        refine .inr (Bool.eq_false_iff.mpr (fun hthread => ?_))
        -- the episode of the thread waits for its correction, so it is not revealed
        obtain ⟨e,he,hx⟩ := h₁.state
        obtain ⟨_,e',he',hx'⟩ := hb.revealed v hv
        rw [threadInEpisode_unique hthread h₁.thread,episodeOf_find he] at he'
        cases he'
        have hx' : e.lifecycleState.unblinded=true := hx'
        rw [hx] at hx'
        cases hx'
  refine Tx.wp_mono (hone hval hb hv q.retainedEpisodeId a) ?_
  rintro _ s₁ ⟨⟨hval₁,hb₁,hv₁⟩,hthreads,hmessages⟩
  refine Tx.wp_mono (hone hval₁ hb₁ hv₁ q.resetEpisodeId b) ?_
  rintro _ s₂ ⟨_,_,hmessages₂⟩ m hm
  rcases hmessages₂ m hm with hm | hm
  · exact hmessages m hm
  · exact .inr ((hthreads _ _).symm.trans hm)

theorem messages_after (h : Reaches hash ok s) (hv : v ∈ s.rows .studyGroundTruthReveals)
    (r : CommandRequest) : ∀ m ∈ (execute hash r s).2.rows .studyForumMessages,
      (threadInEpisode s m.forumThreadId v.studyEpisodeId).isSome=true →
        ∃ m₀ ∈ s.rows .studyForumMessages,m₀.forumMessageId=m.forumMessageId := by
  refine execute_invariant (D := [.studyForumMessages]) (I := fun s' =>
    ∀ m ∈ s'.rows .studyForumMessages,
      (threadInEpisode s m.forumThreadId v.studyEpisodeId).isSome=true →
        ∃ m₀ ∈ s.rows .studyForumMessages,m₀.forumMessageId=m.forumMessageId) (by decide) ?_ h.valid
    (fun m hm _ => ⟨m,hm,rfl⟩) ?_
  · intro s₁ s₂ hd h₁
    rw [hd .studyForumMessages (by decide)]
    exact h₁
  · intro s₁ cmd hst h₁ hw
    have hmessages := hst.rows (t := .studyForumMessages) (by decide)
    have hb : Blinded s₁ := hst.reads blinded_reads (by decide) h.blinded
    have hhoused : Housed s₁ := hst.reads housed_reads (by decide) h.housed
    have hv₁ : v ∈ s₁.rows .studyGroundTruthReveals := hst.rows (t := .studyGroundTruthReveals) (by decide) ▸ hv
    have hthreads := hst.threadInEpisode
    have hval := hst.valid
    obtain ⟨i,p,k,x,g,b⟩ := r
    cases b
    case studyTransition c =>
      cases c
      case publishForumMessage =>
        refine studyTransition_wp (Tx.wp_mono (publishForumMessage_posts cmd _ _ _ _ _) ?_)
        rintro _ s' ⟨o,x,t,ho,hactive,hx,hxi,ht,htf,hposts⟩ m hm hthread
        rcases hposts m hm with hold | ⟨_,hmt⟩
        · exact ⟨m,hmessages ▸ hold,rfl⟩
        · -- an actor posts to its own episode, and works there
          exfalso
          obtain ⟨o',ho',hid,f,hf,hfid,hepisode⟩ := hhoused.exposed x hx
          have hobligation : o'=o := hval.key_injective (t := .studyActorObligations) rfl ho'
            (Db.find_mem ho) ((congrArg Relational.Id.val (hid.trans hxi)).trans (Db.find_key ho).symm)
          rw [← hthreads,hmt] at hthread
          have hown : (threadInEpisode s₁ t.forumThreadId o.studyEpisodeId).isSome=true := by
            have hforum := hval.find_eq (t := .studyEpisodeForums) rfl hf (k := t.episodeForumId)
              (congrArg Relational.Id.val (hfid.trans htf.symm))
            rw [Kernel.threadInEpisode,hval.find_eq (t := .studyForumThreads) rfl ht
              (k := t.forumThreadId) rfl]
            simp [hforum,hepisode,hobligation]
          exact (hb.revealed v hv₁).1 o (Db.find_mem ho) (threadInEpisode_unique hown hthread) trivial
            hactive
      case retractForumMessage =>
        refine studyTransition_wp (Tx.wp_mono (retractForumMessage_posts hst.valid _ _) ?_)
        rintro _ s' hposts m hm _
        rcases hposts m hm with hold | ⟨_,m₀,hm₀,hid⟩
        · exact ⟨m,hmessages ▸ hold,rfl⟩
        · exact ⟨m₀,hmessages ▸ hm₀,hid⟩
      case releaseMatchedCorrection k a b correction =>
        refine studyTransition_wp (Tx.wp_mono
          (releaseMatchedCorrection_silent hval hb hv₁ cmd k a b correction) ?_)
        rintro _ s' hsilent m hm hthread
        rcases hsilent m hm with hold | hno
        · exact ⟨m,hmessages ▸ hold,rfl⟩
        · rw [hthreads,hthread] at hno
          cases hno
      all_goals exact absurd hw (of_decide_eq_true rfl)
    all_goals exact absurd hw (of_decide_eq_true rfl)

theorem receipts_after (h : Reaches hash ok s) (hv : v ∈ s.rows .studyGroundTruthReveals)
    (r : CommandRequest) : ∀ q ∈ (execute hash r s).2.rows .studyForumReadReceipts,
      q ∉ s.rows .studyForumReadReceipts → ∀ o ∈ s.rows .studyActorObligations,
        o.studyActorObligationId=q.studyActorObligationId → o.studyEpisodeId≠v.studyEpisodeId := by
  refine execute_invariant (D := [.studyForumReadReceipts]) (I := fun s' =>
    ∀ q ∈ s'.rows .studyForumReadReceipts,q ∉ s.rows .studyForumReadReceipts →
      ∀ o ∈ s.rows .studyActorObligations,o.studyActorObligationId=q.studyActorObligationId →
        o.studyEpisodeId≠v.studyEpisodeId) (by decide) ?_ h.valid (fun q hq hn => absurd hq hn) ?_
  · intro s₁ s₂ hd h₁
    rw [hd .studyForumReadReceipts (by decide)]
    exact h₁
  · intro s₁ cmd hst h₁ hw
    have hobligations := hst.rows (t := .studyActorObligations) (by decide)
    obtain ⟨i,p,k,x,g,b⟩ := r
    cases b
    case studyTransition c =>
      cases c
      case readForum i first through rendered =>
        refine studyTransition_wp ?_
        change Tx.wp (readForum hash i cmd first through rendered) _ s₁
        simp only [readForum,forumReadThread,Tx.wp_bind,wp_obligationRow,wp_studyEpisodeRow,
          wp_threadForObligation,Tx.wp_read,Tx.wp_the,Tx.wp_get,Tx.wp_require,Tx.wp_insert,
          Tx.wp_update,Tx.wp_pure]
        intro o ho hready _ _ _ _ _ _ _ _ _ _ _ _ _ _ _ _ _ _ _ _ _ _ _ _ _ q hq hn o' ho' hid
        rw [Db.rows_modify_ne (by decide)] at hq
        rcases Db.mem_append.mp hq with hq | rfl
        · exact h₁ q hq hn o' ho' hid
        · simp only [Bool.and_eq_true,beq_iff_eq] at hready
          have hsame : o'=o := h.valid.key_injective (t := .studyActorObligations) rfl ho'
            (hobligations ▸ Db.find_mem ho) ((congrArg Relational.Id.val hid).trans (Db.find_key ho).symm)
          subst hsame
          intro he
          exact (h.blinded.revealed v hv).1 o' ho' he trivial hready.1.1.1.1
      all_goals exact absurd hw (of_decide_eq_true rfl)
    all_goals exact absurd hw (of_decide_eq_true rfl)

theorem decisions_after (h : Reaches hash ok s) (hv : v ∈ s.rows .studyGroundTruthReveals)
    (r : CommandRequest) : ∀ d ∈ (execute hash r s).2.rows .studyDecisions,
      d ∉ s.rows .studyDecisions → ∀ o ∈ s.rows .studyActorObligations,
        o.studyActorObligationId=d.studyActorObligationId → o.studyEpisodeId=v.studyEpisodeId →
          o.lifecycleState=.completed ∧ ∃ k,d.citedForumMessageId=some k ∧
            ownPublishedMessage s o.studyActorObligationId k=true := by
  refine execute_invariant (D := [.studyDecisions]) (I := fun s' =>
    ∀ d ∈ s'.rows .studyDecisions,d ∉ s.rows .studyDecisions →
      ∀ o ∈ s.rows .studyActorObligations,o.studyActorObligationId=d.studyActorObligationId →
        o.studyEpisodeId=v.studyEpisodeId → o.lifecycleState=.completed ∧
          ∃ k,d.citedForumMessageId=some k ∧ ownPublishedMessage s o.studyActorObligationId k=true)
    (by decide) ?_ h.valid (fun d hd hn => absurd hd hn) ?_
  · intro s₁ s₂ hd h₁
    rw [hd .studyDecisions (by decide)]
    exact h₁
  · intro s₁ cmd hst h₁ hw
    have hobligations := hst.rows (t := .studyActorObligations) (by decide)
    have hown : ownPublishedMessage s₁=ownPublishedMessage s := by
      funext i k
      simp only [ownPublishedMessage,hst.find (t := .studyForumMessages) (by decide),
        hst.find (t := .studyActorOccurrences) (by decide)]
    obtain ⟨i,p,k,x,g,b⟩ := r
    cases b
    case studyTransition c =>
      cases c
      case recordDecision i decision cited =>
        refine studyTransition_wp ?_
        change Tx.wp (recordDecision hash cmd i decision cited) _ s₁
        simp only [recordDecision,Tx.wp_bind,wp_obligationRow,Tx.wp_read,Tx.wp_require,Tx.wp_store,
          Tx.wp_pure]
        intro o ho hstate hcompleted _ _ d hd hn o' ho' hid he
        rcases Db.mem_append.mp hd with hd | rfl
        · exact h₁ d hd hn o' ho' hid he
        · have hsame : o'=o := h.valid.key_injective (t := .studyActorObligations) rfl ho'
            (hobligations ▸ Db.find_mem ho) ((congrArg Relational.Id.val hid).trans (Db.find_key ho).symm)
          subst hsame
          have hidle := (h.blinded.revealed v hv).1 o' ho' he trivial
          have hdone : o'.lifecycleState=.completed := by simpa [hidle] using hstate
          refine ⟨hdone,?_⟩
          rw [hown] at hcompleted
          obtain ⟨k,hk,hp⟩ := (Option.any_eq_true ..).mp (by simpa [hdone] using hcompleted)
          have hi : o'.studyActorObligationId=i := hid
          exact ⟨k,hk,hi ▸ hp⟩
      all_goals exact absurd hw (of_decide_eq_true rfl)
    all_goals exact absurd hw (of_decide_eq_true rfl)

theorem after_reveal (h : Reaches hash ok s) (hv : v ∈ s.rows .studyGroundTruthReveals)
    (r : CommandRequest) : Aftermath s (execute hash r s).2 v.studyEpisodeId :=
  ⟨obligations_after h hv r,messages_after h hv r,receipts_after h hv r,decisions_after h hv r⟩

end Aftermath

section Discipline
variable {hash : Bytes → Blake3Digest} {ok : Store → CommandRequest → Prop} {s : Store}

/-- The states of an episode only move on, whatever command comes next. -/
theorem episodes_forward (h : Reaches hash ok s) (r : CommandRequest) :
    ∀ e ∈ s.rows .studyEpisodes,∃ e' ∈ (execute hash r s).2.rows .studyEpisodes,
      e'.studyEpisodeId=e.studyEpisodeId ∧ e.lifecycleState.rank≤e'.lifecycleState.rank := by
  intro e he
  have hfind := episodeOf_find (h.valid.find_eq (t := .studyEpisodes) rfl he (k := e.studyEpisodeId) rfl)
  let I (s' : Store) : Prop := ∃ x : StudyEpisodeState,
    episodeOf s' e.studyEpisodeId=some (e.steady.inState x) ∧ e.lifecycleState.rank≤x.rank
  have hreads : Db.ReadsOnly studyTables I := by
    intro s₁ s₂ hd h₁
    change ∃ _,_ ∧ _
    rw [episodeOf_rows (hd .studyEpisodes (by decide))]
    exact h₁
  have hkept : KeptByStudy [] (fun _ _ => True) I := by
    refine ⟨hreads.mono (by simp),fun _ _ => trivial,?_⟩
    rintro s₁ s₂ c - - - hstep ⟨x,hx,hle⟩
    obtain ⟨y,hy,hle'⟩ := hstep.forward hx
    exact ⟨y,hy,hle.trans hle'⟩
  have hall : I (execute hash r s).2 := by
    refine execute_invariant (D := studyTables) (by decide) hreads h.valid
      ⟨e.lifecycleState,hfind,le_rfl⟩ ?_
    intro s₁ cmd hst h₁ hw
    exact action_study hkept hst.valid h₁ cmd (fun _ _ _ _ _ _ _ => trivial) (by simp) hw
  obtain ⟨x,hx,hle⟩ := hall
  obtain ⟨e',he',heq⟩ := Option.map_eq_some_iff.mp hx
  refine ⟨e',Db.find_mem he',Relational.Id.ext (Db.find_key he'),?_⟩
  have hstate := congrArg StudyEpisodeRow.lifecycleState heq
  change e'.lifecycleState=x at hstate
  rw [hstate]
  exact hle

/-- The discipline of a matched study: what holds of a state and of the next command. `D` tells
what may still happen to an episode whose ground truth is known. -/
structure StudyDiscipline (hash : Bytes → Blake3Digest)
    (D : Store → Store → StudyEpisodeId → Prop) (s : Store) : Prop where
  forward : ∀ r,∀ e ∈ s.rows .studyEpisodes,∃ e' ∈ (execute hash r s).2.rows .studyEpisodes,
    e'.studyEpisodeId=e.studyEpisodeId ∧ e.lifecycleState.rank≤e'.lifecycleState.rank
  corrected : ∀ r i m,Receives s (execute hash r s).2 i m → ∃ q ∈ s.rows .studyPairs,
    (i=q.retainedEpisodeId ∨ i=q.resetEpisodeId) ∧ accepts hash s r ∧
    ∃ a b correction,r.body=.studyTransition (.releaseMatchedCorrection q.studyPairId a b correction) ∧
      ReleasedPair hash s (execute hash r s).2 q correction
  revealed : ∀ v ∈ s.rows .studyGroundTruthReveals,Idle s v.studyEpisodeId
  measured : ∀ q ∈ s.rows .studyMeasurementResults,
    ∃ v ∈ s.rows .studyGroundTruthReveals,v.studyEpisodeId=q.studyEpisodeId
  after : ∀ r,∀ v ∈ s.rows .studyGroundTruthReveals,D s (execute hash r s).2 v.studyEpisodeId
  closed : ∀ e ∈ s.rows .studyEpisodes,e.lifecycleState=.closed → ∀ m,
    s.find .studyMeasurementRevisions e.studyMeasurementRevisionId=some m →
    (slotsOf s e.studyEpisodeId).Nodup ∧
      ∀ n,n ∈ slotsOf s e.studyEpisodeId ↔ 1≤n ∧ n ≤ m.measurementSlotCount.val
  completed : ∀ r ∈ s.rows .studyRuns,r.lifecycleState=.completed →
    (ordinalsOf s r.studyRunId).Nodup ∧
    (∀ n,n ∈ ordinalsOf s r.studyRunId ↔ 1≤n ∧ n ≤ r.pairCount.val) ∧
    (∀ p ∈ s.rows .studyRunPairs,∀ p' ∈ s.rows .studyRunPairs,p.studyPairId=p'.studyPairId → p=p') ∧
    ∀ p ∈ s.rows .studyRunPairs,p.studyRunId=r.studyRunId →
      ∀ q ∈ s.rows .studyPairs,q.studyPairId=p.studyPairId →
        Ended s q.retainedEpisodeId ∧ Ended s q.resetEpisodeId ∧
        ∀ q' ∈ s.rows .studyPairs,q.retainedEpisodeId≠q'.resetEpisodeId ∧
          (q.retainedEpisodeId=q'.retainedEpisodeId ∨ q.resetEpisodeId=q'.resetEpisodeId → q=q')

theorem study_disciplined (h : Reaches hash ok s) : StudyDiscipline hash Aftermath s where
  forward r := episodes_forward h r
  corrected r := corrections_released h r
  revealed v hv := (h.blinded.revealed v hv).1
  measured q hq := (h.blinded.measured q hq).1
  after r v hv := after_reveal h hv r
  closed e he hx m hm := by
    have hepisode := episodeOf_find (h.valid.find_eq (t := .studyEpisodes) rfl he
      (k := e.studyEpisodeId) rfl)
    obtain ⟨_,m',hm',hcount⟩ := h.blinded.closed _ _ hepisode hx
    have hsame : m'=m := Option.some.inj (hm'.symm.trans hm)
    subst hsame
    refine ⟨slotsOf_nodup h.valid,fun n => ⟨fun hn => ?_,fun hn => ?_⟩⟩
    · obtain ⟨q,hq,hqe,rfl⟩ := mem_slotsOf.mp hn
      obtain ⟨_,e',m'',he',hm'',hle⟩ := h.blinded.measured q hq
      rw [hqe,hepisode] at he'
      cases he'
      have hsame : m''=m' := Option.some.inj (hm''.symm.trans hm)
      subst hsame
      exact ⟨q.measurementSlot.valid.1,hle⟩
    · exact (h.blinded.slots_iff h.valid hepisode hm).mpr hcount n hn.1 hn.2
  completed r hr hx := by
    refine ⟨ordinalsOf_nodup h.valid _,completed_ordinals h.valid h.registered hr hx,?_,?_⟩
    · intro p hp p' hp' heq
      refine h.valid.exclusive (t := Tbl.studyRunPairs) (fun a b => ?_) hp hp' ?_
      · change (_ || _ || _)=(_ || _ || _)
        rw [BEq.comm (a := a.studyRunId),BEq.comm (a := a.pairOrdinal),BEq.comm (a := a.studyPairId)]
      · change (_ || _ || _)=true
        simp [heq]
    · intro p hp hpr q hq hqp
      obtain ⟨ha,hb⟩ := (h.registered.completed r hr hx).2 p hp hpr q hq hqp
      exact ⟨ha,hb,fun q' hq' => pair_episodes_distinct h.valid h.paired hq hq'⟩

theorem study_disciplined_matched : StudyDiscipline blake3 Aftermath
    (runCommands blake3 matchedRun Store.initial) := study_disciplined (Reaches.runCommands .initial _)

/-- Nothing at all happens to an episode whose ground truth is known, in the tables that its
actors write. -/
structure Untouched (s s' : Store) (i : StudyEpisodeId) : Prop extends Aftermath s s' i where
  undecided : ∀ d ∈ s'.rows .studyDecisions,d ∉ s.rows .studyDecisions →
    ∀ o ∈ s.rows .studyActorObligations,o.studyActorObligationId=d.studyActorObligationId →
      o.studyEpisodeId≠i

/-- An actor decides after the truth of its episode is out, and a correction finds more active
successors than there are seats. -/
theorem matchedRun_decides : (¬∀ s,Reachable blake3 s → StudyDiscipline blake3 Untouched s) ∧
    ¬∀ s,Reachable blake3 s → ∀ r i m,Receives s (execute blake3 r s).2 i m →
      successorPopulationSize s i=some (activeSuccessors s i) := by
  refine ⟨fun h => ?_,fun h => ?_⟩
  · obtain ⟨hknows,d,hd,hdi⟩ := matchedRun_knows
    simp only [knows,Bool.and_eq_true,List.isEmpty_iff,List.any_eq_true,beq_iff_eq] at hknows
    obtain ⟨hnone,o,ho,hoi,v,hv,hve⟩ := hknows
    have hrun := (h _ (Reaches.runCommands .initial (matchedRun.take 41))).after
      lateDecision v hv
    exact hrun.undecided d hd (by rw [hnone]; exact List.not_mem_nil) o ho (hoi.trans hdi.symm)
      hve.symm
  · obtain ⟨_,hcrowded,hcorrected⟩ := matchedRun_waiting
    simp only [crowded,Bool.and_eq_true,bne_iff_ne,List.all_eq_true] at hcrowded
    obtain ⟨⟨hmany,hthread⟩,hauthors⟩ := hcrowded
    obtain ⟨m,hm,hcheck⟩ := List.any_eq_true.mp hcorrected
    simp only [Bool.and_eq_true,beq_iff_eq] at hcheck
    obtain ⟨hservice,hmt⟩ := hcheck
    refine hmany (h _ (Reaches.runCommands .initial (matchedRun.take 35)) release (nth 1) m
      ⟨hm,fun hold => ?_,hservice,hmt ▸ hthread⟩)
    have hauthor := hauthors m hold
    rw [hservice] at hauthor
    cases hauthor

end Discipline
end Society.Kernel
