import Society.Relational.Lookup
import Society.Latency.StudyJoin

namespace Society.Latency
open Society.Coding Society.Relational
open Society.Kernel (Blake3Digest I64 Store StudyEpisodeId StudyEpisodeObservation
  StudyMeasurementObservation StudyPairObservation StudyRunId StudyRunObservation
  StudyRunPairRegistrationObservation episodeObservation pairObservation pairObservation_row
  runObservation)

/-! What an analysis artifact carries of the stored run it was made from. -/

section Slots
variable {hash : Bytes → Blake3Digest} {e : StudyEpisodeObservation}

/-- One record for each metric's slot, and no other. -/
def Complete (e : StudyEpisodeObservation) : Prop :=
  (e.measurements.map (·.measurementSlot.val)).Perm (List.range' 1 metricCount)

theorem complete_of_exact (h : hasExactMeasurementSlots e=true) : Complete e := by
  simp only [hasExactMeasurementSlots,Bool.and_eq_true,beq_iff_eq,List.all_eq_true,
    List.mem_range] at h
  obtain ⟨hlength,hslots⟩ := h
  have hsub : List.range' 1 metricCount⊆e.measurements.map (·.measurementSlot.val) := by
    intro k hk
    obtain ⟨j,hj,rfl⟩ := List.mem_range'.mp hk
    have hone := hslots j hj
    have hpos : 0 < e.measurements.countP (fun m => m.measurementSlot.val==j+1) := by omega
    obtain ⟨m,hm,hslot⟩ := List.countP_pos_iff.mp hpos
    refine List.mem_map.mpr ⟨m,hm,?_⟩
    have := beq_iff_eq.mp hslot
    omega
  have hsubperm := List.subperm_of_subset (List.nodup_range' 1) hsub
  exact (hsubperm.perm_of_length_le (by simp [hlength])).symm

/-- Each metric is observed or unavailable just as the record of its slot says. -/
def Carries (e : StudyEpisodeObservation) (a : ArmAnalysisObservation) : Prop :=
  ∀ metric : Cl001Metric,
    (∀ value digest,a.value metric=.observed value digest ↔ ∃ m∈e.measurements,
      m.measurementSlot.val=metric.index.val+1 ∧ m.status=.observed ∧ m.value=some value ∧
        m.valueDigest=some digest) ∧
    ∀ digest,a.value metric=.unavailable digest ↔ ∃ m∈e.measurements,
      m.measurementSlot.val=metric.index.val+1 ∧ m.status=.unavailable ∧
        m.reasonDigest=some digest

theorem Complete.slot_unique (h : Complete e) {m m' : StudyMeasurementObservation}
    (hm : m∈e.measurements) (hm' : m'∈e.measurements)
    (hslot : m.measurementSlot.val=m'.measurementSlot.val) : m=m' := by
  have hnodup : (e.measurements.map (·.measurementSlot.val)).Nodup :=
    h.nodup_iff.mpr (List.nodup_range' 1)
  exact List.inj_on_of_nodup_map hnodup hm hm' hslot

theorem Complete.find (h : Complete e) {k : Nat} (hk : k < metricCount) :
    ∃ m,e.measurements.find? (fun m => m.measurementSlot.val==k+1)=some m ∧ m∈e.measurements ∧
      m.measurementSlot.val=k+1 ∧ ∀ m'∈e.measurements,m'.measurementSlot.val=k+1 → m'=m := by
  have hmem : k+1∈e.measurements.map (·.measurementSlot.val) :=
    h.mem_iff.mpr (List.mem_range'.mpr ⟨k,hk,by omega⟩)
  obtain ⟨m₀,hm₀,hslot₀⟩ := List.mem_map.mp hmem
  cases hfind : e.measurements.find? (fun m => m.measurementSlot.val==k+1) with
  | none => exact absurd (beq_iff_eq.mpr hslot₀) (List.find?_eq_none.mp hfind m₀ hm₀)
  | some m =>
    have hm := List.mem_of_find?_eq_some hfind
    have hbeq := List.find?_some hfind
    have hslot : m.measurementSlot.val=k+1 := by simpa using hbeq
    exact ⟨m,rfl,hm,hslot,fun m' hm' hslot' => h.slot_unique hm' hm (hslot'.trans hslot.symm)⟩

theorem value_fromPersistedEpisode (metric : Cl001Metric) :
    (ArmAnalysisObservation.fromPersistedEpisode hash e).value metric=
      measuredOutcome hash e (metric.index.val+1) := by
  unfold ArmAnalysisObservation.value ArmAnalysisObservation.fromPersistedEpisode
  rw [List.Vector.get_ofFn]

theorem Complete.carries (h : Complete e) :
    Carries e (ArmAnalysisObservation.fromPersistedEpisode hash e) := by
  intro metric
  obtain ⟨m,hfind,hm,hslot,huniq⟩ := h.find metric.index.isLt
  have hcarried (P : StudyMeasurementObservation → Prop) :
      (∃ m'∈e.measurements,m'.measurementSlot.val=metric.index.val+1 ∧ P m') ↔ P m :=
    ⟨fun ⟨m',hm',hslot',hP⟩ => huniq m' hm' hslot' ▸ hP,fun hP => ⟨m,hm,hslot,hP⟩⟩
  rw [value_fromPersistedEpisode,measuredOutcome,hfind]
  simp only [hcarried]
  refine ⟨fun value digest => ?_,fun digest => ?_⟩
  · cases hstatus : m.status with
    | observed =>
      cases hvalue : m.value with
      | none => simp [missingMeasurement]
      | some v => cases hdigest : m.valueDigest <;> simp [missingMeasurement]
    | unavailable => cases hreason : m.reasonDigest <;> simp [missingMeasurement]
    | invalidated => cases hreason : m.reasonDigest <;> simp [missingMeasurement]
  · cases hstatus : m.status with
    | observed =>
      cases hvalue : m.value with
      | none => simp [missingMeasurement]
      | some v => cases hdigest : m.valueDigest <;> simp [missingMeasurement]
    | unavailable => cases hreason : m.reasonDigest <;> simp [missingMeasurement]
    | invalidated => cases hreason : m.reasonDigest <;> simp [missingMeasurement]

end Slots
section Pairs
variable {hash : Bytes → Blake3Digest}

theorem validatePersistedPair_ok {p : StudyPairObservation} (h : validatePersistedPair p=.ok ()) :
    Complete p.retained ∧ Complete p.reset := by
  unfold validatePersistedPair at h
  split at h
  · cases h
  split at h
  · cases h
  next hmatched =>
  simp only [Mismatched,not_or] at hmatched
  obtain ⟨_,_,_,_,_,_,_,_,_,_,hretained,hreset⟩ := hmatched
  exact ⟨complete_of_exact (by simpa using hretained),complete_of_exact (by simpa using hreset)⟩

/-- What an observed pair has of a persisted one. -/
theorem fromPersistedStudyPair_ok {p : StudyPairObservation} {q : PairObservation}
    (h : PairObservation.fromPersistedStudyPair hash p=.ok q) :
    Complete p.retained ∧ Complete p.reset ∧ Carries p.retained q.retained ∧
      Carries p.reset q.reset := by
  unfold PairObservation.fromPersistedStudyPair at h
  cases hvalid : validatePersistedPair p with
  | error e => rw [hvalid] at h; cases h
  | ok u =>
    obtain ⟨hretained,hreset⟩ := validatePersistedPair_ok hvalid
    rw [hvalid] at h
    simp only [bind,Except.bind] at h
    repeat' split at h
    all_goals cases h
    exact ⟨hretained,hreset,hretained.carries,hreset.carries⟩

/-- The join takes the lists in step, from the ordinal on. -/
theorem joinPairs_ok {n : Nat} {registrations : List StudyRunPairRegistrationObservation}
    {persisted : List StudyPairObservation} {ids : List AnalysisPairId} {seeds : List Blake3Digest}
    {pairs : List PairObservation}
    (h : joinPairs hash n registrations persisted ids seeds=.ok pairs)
    (hr : registrations.length=ids.length) (hp : persisted.length=ids.length)
    (hs : seeds.length=ids.length) :
    registrations.map (·.pairOrdinal.val)=List.range' n ids.length ∧
    registrations.map (·.pairId)=persisted.map (·.pairId) ∧
    persisted.map (·.retained.randomizationDigest)=seeds ∧
    persisted.map (·.reset.randomizationDigest)=seeds ∧ pairs.map (·.pairId)=ids ∧
    List.Forall₂ (fun p q => Complete p.retained ∧ Complete p.reset ∧
      Carries p.retained q.retained ∧ Carries p.reset q.reset) persisted pairs := by
  induction ids generalizing n registrations persisted seeds pairs with
  | nil =>
    obtain rfl := List.length_eq_zero_iff.mp hr
    obtain rfl := List.length_eq_zero_iff.mp hp
    obtain rfl := List.length_eq_zero_iff.mp hs
    cases h
    exact ⟨rfl,rfl,rfl,rfl,rfl,.nil⟩
  | cons id ids ih =>
    obtain ⟨r,registrations,rfl⟩ := List.exists_cons_of_length_eq_add_one hr
    obtain ⟨p,persisted,rfl⟩ := List.exists_cons_of_length_eq_add_one hp
    obtain ⟨seed,seeds,rfl⟩ := List.exists_cons_of_length_eq_add_one hs
    rw [joinPairs] at h
    split at h
    · next hregistered =>
      obtain ⟨hordinal,hid,_,hretained,hreset⟩ := hregistered
      cases hpair : PairObservation.fromPersistedStudyPair hash p with
      | error e => rw [hpair] at h; cases h
      | ok q =>
        cases hrest : joinPairs hash (n+1) registrations persisted ids seeds with
        | error e => rw [hpair] at h; simp only [bind,Except.bind,hrest] at h; cases h
        | ok rest =>
          rw [hpair] at h
          simp only [bind,Except.bind,hrest] at h
          cases h
          obtain ⟨h1,h2,h3,h4,h5,h6⟩ := ih hrest (Nat.succ.inj hr) (Nat.succ.inj hp)
            (Nat.succ.inj hs)
          have hcarried := fromPersistedStudyPair_ok hpair
          simp only [List.map_cons,List.length_cons,List.range'_succ,h1,h2,h3,h4,h5,hordinal,hid,
            hretained,hreset,true_and]
          exact .cons hcarried h6
    · cases h

theorem fromPairs_ok {pairs : List PairObservation} {artifact : AnalysisArtifact}
    (h : AnalysisArtifact.fromPairs pairs=.ok artifact) : artifact.pairs=pairs := by
  unfold AnalysisArtifact.fromPairs at h
  split at h
  · cases h
  · cases hd : AnalysisArtifact.rejectDuplicatePairs [] pairs <;> rw [hd] at h <;> cases h
    rfl

theorem fromPreregisteredPlan_ok {plan : PreregisteredAnalysisPlan} {pairs : List PairObservation}
    {artifact : AnalysisArtifact}
    (h : AnalysisArtifact.fromPreregisteredPlan plan pairs=.ok artifact) :
    artifact.pairs=pairs ∧ artifact.plan=some plan := by
  unfold AnalysisArtifact.fromPreregisteredPlan at h
  split at h
  · cases h
  · cases hmatch : AnalysisArtifact.matchPlan pairs plan.pairIds plan.worldSeedDigests with
    | error e => rw [hmatch] at h; cases h
    | ok u =>
      cases hpairs : AnalysisArtifact.fromPairs pairs with
      | error e => rw [hmatch,hpairs] at h; cases h
      | ok a =>
        rw [hmatch,hpairs] at h
        have hsame := fromPairs_ok hpairs
        cases h
        exact ⟨hsame,rfl⟩

theorem plan_lengths {pairIds : List AnalysisPairId} {seeds : List Blake3Digest}
    {estimand : AnalysisEstimand} {policy : AnalysisExclusionPolicy} {targets : PrecisionTargets}
    {plan : PreregisteredAnalysisPlan}
    (h : PreregisteredAnalysisPlan.new pairIds seeds estimand policy targets=.ok plan) :
    plan.worldSeedDigests.length=plan.pairIds.length := by
  unfold PreregisteredAnalysisPlan.new at h
  split at h
  · cases h
  next hshape =>
  obtain ⟨_,hlength⟩ := not_or.mp hshape
  cases hd : rejectDuplicates (ε := AnalysisInputError) .duplicatePairId .duplicateWorldSeed []
    (pairIds.zip seeds) <;> rw [hd] at h <;> cases h
  exact (not_not.mp hlength).symm

end Pairs

section Stored
variable {s : Store}

/-- The pairs of a stored run are registered once. -/
theorem runObservation_pairs (hv : s.Valid) {i : StudyRunId} {run : StudyRunObservation}
    (h : runObservation s i=.ok run) : (run.pairs.map (·.pairId)).Nodup := by
  unfold runObservation at h
  cases hrow : s.find .studyRuns i with
  | none => rw [hrow] at h; cases h
  | some row =>
    rw [hrow] at h
    simp only at h
    split at h <;> cases h
    have hsorted := List.perm_insertionSort (fun a b => a.pairOrdinal.val≤b.pairOrdinal.val)
      ((s.rows .studyRunPairs).filter (fun r => r.studyRunId==i))
    simp only [List.map_map]
    rw [(hsorted.map _).nodup_iff]
    refine List.pairwise_map.mpr (((hv.unique .studyRunPairs).filter _).imp fun {a b} hfree hid => ?_)
    have hclash : conflict Kernel.Tbl.studyRunPairs a b=true := by
      change ((_ || _ || a.studyPairId==b.studyPairId)=true)
      rw [show a.studyPairId=b.studyPairId from hid,beq_self_eq_true,Bool.or_true]
    rw [hfree] at hclash
    cases hclash

theorem studyPairs_conflict (a b : Row Kernel.Tbl.studyPairs) :
    conflict Kernel.Tbl.studyPairs a b=true ↔
      a.retainedEpisodeId=b.retainedEpisodeId ∨ a.resetEpisodeId=b.resetEpisodeId := by
  change (a.retainedEpisodeId==b.retainedEpisodeId || a.resetEpisodeId==b.resetEpisodeId)=true ↔ _
  rw [Bool.or_eq_true,beq_iff_eq,beq_iff_eq]

theorem studyPairs_symm (a b : Row Kernel.Tbl.studyPairs) :
    conflict Kernel.Tbl.studyPairs a b=conflict Kernel.Tbl.studyPairs b a := by
  rw [Bool.eq_iff_iff,studyPairs_conflict,studyPairs_conflict]
  exact or_congr eq_comm eq_comm

/-- A retained arm and a reset arm that are read are different episodes. -/
theorem treatments_apart {e e' : StudyEpisodeObservation}
    (he : episodeObservation s e.episodeId=.ok e) (he' : episodeObservation s e'.episodeId=.ok e')
    (ht : e.treatment=.retained) (ht' : e'.treatment=.reset) : e.episodeId≠e'.episodeId := by
  intro h
  rw [h,he'] at he
  cases he
  rw [ht] at ht'
  cases ht'

/-- Pairs of one store that are read under different identities have no episode in common. -/
theorem pairs_episodes {persisted : List StudyPairObservation} (hv : s.Valid)
    (hread : ∀ p∈persisted,pairObservation s p.pairId=.ok p)
    (hids : (persisted.map (·.pairId)).Nodup) :
    (persisted.flatMap (fun p => [p.retained.episodeId,p.reset.episodeId])).Nodup := by
  refine List.nodup_flatMap.mpr ⟨fun p hp => ?_,?_⟩
  · obtain ⟨_,_,_,_,_,hretained,hreset,ht,ht'⟩ := pairObservation_row (hread p hp)
    simpa using treatments_apart hretained hreset ht ht'
  · refine (List.pairwise_map.mp hids).imp_of_mem fun {p q} hp hq hne => ?_
    obtain ⟨r,hr,_,hretained,hreset,he,he',ht,ht'⟩ := pairObservation_row (hread p hp)
    obtain ⟨r',hr',_,hretained',hreset',hd,hd',hu,hu'⟩ := pairObservation_row (hread q hq)
    have hrows : r≠r' := by
      rintro rfl
      have hkey := (Db.find_key hr).symm.trans (Db.find_key hr')
      exact hne (Relational.Id.ext hkey)
    have hfree := hv.no_conflict studyPairs_symm (Db.find_mem hr) (Db.find_mem hr') hrows
    have hapart : ¬(r.retainedEpisodeId=r'.retainedEpisodeId ∨ r.resetEpisodeId=r'.resetEpisodeId) := by
      rw [← studyPairs_conflict,hfree]
      exact Bool.false_ne_true
    rw [hretained,hretained',hreset,hreset',not_or] at hapart
    simp only [Function.onFun,List.disjoint_cons_left,List.disjoint_nil_left,List.mem_cons,
      List.not_mem_nil,or_false,not_or,and_true]
    exact ⟨⟨hapart.1,treatments_apart he hd' ht hu'⟩,
      fun h => treatments_apart hd he' hu ht' h.symm,hapart.2⟩

/-- An artifact of a stored run has the planned pairs in their order, each read from two episodes of
its own with one record for each metric, and carries every record in its place. -/
theorem preregistered_join {hash : Bytes → Blake3Digest} {pairIds : List AnalysisPairId}
    {seeds : List Blake3Digest} {estimand : AnalysisEstimand} {policy : AnalysisExclusionPolicy}
    {targets : PrecisionTargets} {plan : PreregisteredAnalysisPlan} {runId : StudyRunId}
    {run : StudyRunObservation} {persisted : List StudyPairObservation}
    {artifact : AnalysisArtifact}
    (hplan : PreregisteredAnalysisPlan.new pairIds seeds estimand policy targets=.ok plan)
    (hv : s.Valid) (hrun : runObservation s runId=.ok run)
    (hread : ∀ p∈persisted,pairObservation s p.pairId=.ok p)
    (h : AnalysisArtifact.fromPreregisteredStudyRun hash plan run persisted=.ok artifact) :
    (run.pairs.map (·.pairOrdinal.val)=List.range' 1 plan.pairIds.length ∧
      run.pairs.map (·.pairId)=persisted.map (·.pairId) ∧
      persisted.map (·.retained.randomizationDigest)=plan.worldSeedDigests ∧
      persisted.map (·.reset.randomizationDigest)=plan.worldSeedDigests ∧
      artifact.pairs.map (·.pairId)=plan.pairIds ∧ artifact.plan=some plan) ∧
    (persisted.flatMap (fun p => [p.retained.episodeId,p.reset.episodeId])).Nodup ∧
    List.Forall₂ (fun p q => Complete p.retained ∧ Complete p.reset ∧
      Carries p.retained q.retained ∧ Carries p.reset q.reset) persisted artifact.pairs := by
  unfold AnalysisArtifact.fromPreregisteredStudyRun at h
  simp only at h
  split at h
  · cases h
  next hready =>
  simp only [not_or,not_not] at hready
  split at h
  · cases h
  next hlength =>
  cases hjoin : joinPairs hash 1 run.pairs persisted plan.pairIds plan.worldSeedDigests with
  | error e => rw [hjoin] at h; cases h
  | ok pairs =>
    rw [hjoin] at h
    obtain ⟨rfl,hsealed⟩ := fromPreregisteredPlan_ok h
    obtain ⟨hordinals,hids,hretained,hreset,hplanned,hcarried⟩ :=
      joinPairs_ok hjoin hready.2.2.2 (not_not.mp hlength) (plan_lengths hplan)
    have hdistinct := runObservation_pairs hv hrun
    rw [hids] at hdistinct
    exact ⟨⟨hordinals,hids,hretained,hreset,hplanned,hsealed⟩,
      pairs_episodes hv hread hdistinct,hcarried⟩

end Stored

section Completed
def zeroDigest : Blake3Digest := Kernel.plainDigest 0

def firstId {t : Kernel.Tbl} : Id t := ⟨1,Id.one_valid⟩

def secondId {t : Kernel.Tbl} : Id t := ⟨2,Id.two_valid⟩

def closedEpisode (i : StudyEpisodeId) : Kernel.StudyEpisodeRow :=
  ⟨i,firstId,firstId,firstId,firstId,firstId,zeroDigest,.closed,firstId,firstId⟩

/-- Every slot is observed, but for the last of the reset arm. -/
def slotResult (k : Fin 22) : Kernel.StudyMeasurementResultRow :=
  let i := ⟨k.val+1,Nat.succ_pos _,by have := k.isLt; unfold bigintLimit; omega⟩
  let slot := ⟨k.val%11+1,Nat.succ_pos _,by omega⟩
  let episode := if k.val<11 then firstId else secondId
  if k.val=21 then ⟨i,episode,slot,.unavailable,none,none,some zeroDigest,firstId⟩
  else ⟨i,episode,slot,.observed,some ⟨0,by decide⟩,some zeroDigest,none,firstId⟩

/-- A completed run of one closed pair. -/
def completedStore : Store
  | .applications => ⟨[⟨firstId,⟨"a",by decide⟩,⟨"a",by decide⟩,firstId⟩],2⟩
  | .contentSealReceipts => ⟨[⟨firstId,zeroDigest,firstId⟩],2⟩
  | .contentObjects => ⟨[⟨firstId,firstId,firstId⟩],2⟩
  | .applicationRevisions =>
    ⟨[⟨firstId,firstId,⟨1,by decide⟩,⟨"a",by decide⟩,zeroDigest,firstId,firstId⟩],2⟩
  | .studyProtocolRevisions => ⟨[⟨firstId,firstId,zeroDigest,zeroDigest,zeroDigest,zeroDigest,
      zeroDigest,zeroDigest,zeroDigest,zeroDigest,⟨0,by decide⟩,firstId⟩],2⟩
  | .studyWorldRevisions => ⟨[⟨firstId,firstId,zeroDigest,firstId⟩],2⟩
  | .studyMeasurementRevisions => ⟨[⟨firstId,firstId,zeroDigest,⟨11,by decide⟩,firstId⟩],2⟩
  | .studyInstitutionRevisions => ⟨[⟨firstId,firstId,zeroDigest,firstId⟩],2⟩
  | .studyPopulationSnapshots => ⟨[⟨firstId,firstId,zeroDigest,⟨1,by decide⟩,firstId⟩],2⟩
  | .studyEpisodes => ⟨[closedEpisode firstId,closedEpisode secondId],3⟩
  | .studyEpisodeSuccessorPopulations =>
    ⟨[⟨firstId,firstId,firstId⟩,⟨secondId,firstId,firstId⟩],1⟩
  | .studyTreatmentAssignments =>
    ⟨[⟨firstId,firstId,.retained,firstId⟩,⟨secondId,secondId,.reset,firstId⟩],3⟩
  | .studyPairs => ⟨[⟨firstId,firstId,secondId,firstId⟩],2⟩
  | .studyRuns => ⟨[⟨firstId,firstId,firstId,zeroDigest,⟨1,by decide⟩,⟨1,by decide⟩,.completed,
      firstId,firstId⟩],2⟩
  | .studyRunPairs => ⟨[⟨firstId,⟨1,by decide⟩,firstId,zeroDigest,firstId⟩],1⟩
  | .studyEpisodeForums => ⟨[⟨firstId,firstId,zeroDigest,.closed,firstId,firstId⟩,
      ⟨secondId,secondId,zeroDigest,.closed,firstId,firstId⟩],3⟩
  | .studyForumThreads => ⟨[⟨firstId,firstId,⟨"a",by decide⟩,.closed,⟨0,by decide⟩,firstId⟩,
      ⟨secondId,secondId,⟨"a",by decide⟩,.closed,⟨0,by decide⟩,firstId⟩],3⟩
  | .studyFrozenForumHeads =>
    ⟨[⟨firstId,firstId,⟨0,by decide⟩,firstId⟩,⟨secondId,secondId,⟨0,by decide⟩,firstId⟩],1⟩
  | .studyGroundTruthReveals => ⟨[⟨firstId,⟨"a",by decide⟩,zeroDigest,firstId⟩,
      ⟨secondId,⟨"a",by decide⟩,zeroDigest,firstId⟩],1⟩
  | .studyMeasurementResults => ⟨(List.finRange 22).map slotResult,23⟩
  | _ => ⟨[],1⟩

theorem completedStore_valid : completedStore.Valid := by
  refine Db.valid_of_sound fun t => ?_
  cases t <;> decide +kernel

def completedRun : StudyRunObservation :=
  ⟨firstId,firstId,firstId,zeroDigest,⟨1,by decide⟩,⟨1,by decide⟩,.completed,
    [⟨⟨1,by decide⟩,firstId,zeroDigest⟩]⟩

/-- What is read of an arm, given its treatment and the record of its last slot. -/
def completedEpisode (i : StudyEpisodeId) (treatment : Kernel.StudyTreatment)
    (last : StudyMeasurementObservation) : StudyEpisodeObservation :=
  ⟨i,firstId,firstId,firstId,⟨11,by decide⟩,firstId,firstId,some firstId,zeroDigest,treatment,
    .closed,0,0,0,0,0,0,0,some ⟨0,by decide⟩,0,0,0,0,some zeroDigest,
    (List.ofFn (fun k : Fin 10 =>
      ⟨⟨k.val+1,Nat.succ_pos _,by omega⟩,.observed,some ⟨0,by decide⟩,some zeroDigest,none⟩))++[last]⟩

def completedPair : StudyPairObservation :=
  ⟨firstId,
    completedEpisode firstId .retained
      ⟨⟨11,by decide⟩,.observed,some ⟨0,by decide⟩,some zeroDigest,none⟩,
    completedEpisode secondId .reset ⟨⟨11,by decide⟩,.unavailable,none,none,some zeroDigest⟩⟩

def singlePlan : PreregisteredAnalysisPlan :=
  ⟨[⟨"pair",by decide⟩],[zeroDigest],.retainedMinusReset,.metricwiseCompleteCase,
    List.Vector.replicate 11 .unit⟩

theorem preregistered_join_completed :
    ∃ artifact,AnalysisArtifact.fromPreregisteredStudyRun (fun _ => zeroDigest) singlePlan
      completedRun [completedPair]=.ok artifact ∧
    artifact.pairs.map (·.pairId)=singlePlan.pairIds ∧
    List.Forall₂ (fun p q => Complete p.retained ∧ Complete p.reset ∧
      Carries p.retained q.retained ∧ Carries p.reset q.reset) [completedPair] artifact.pairs := by
  have hplan : PreregisteredAnalysisPlan.new singlePlan.pairIds singlePlan.worldSeedDigests
      .retainedMinusReset .metricwiseCompleteCase (List.Vector.replicate 11 .unit)=
        .ok singlePlan := by decide +kernel
  have hrun : runObservation completedStore firstId=.ok completedRun := by decide +kernel
  have hread : ∀ p∈[completedPair],pairObservation completedStore p.pairId=.ok p := by
    intro p hp
    obtain rfl := List.mem_singleton.mp hp
    decide +kernel
  have hjoined : (AnalysisArtifact.fromPreregisteredStudyRun (fun _ => zeroDigest) singlePlan
      completedRun [completedPair]).toOption.isSome=true := by decide +kernel
  cases h : AnalysisArtifact.fromPreregisteredStudyRun (fun _ => zeroDigest) singlePlan
      completedRun [completedPair] with
  | error e => rw [h] at hjoined; cases hjoined
  | ok artifact =>
    obtain ⟨⟨_,_,_,_,hplanned,_⟩,_,hcarried⟩ :=
      preregistered_join hplan completedStore_valid hrun hread h
    exact ⟨artifact,rfl,hplanned,hcarried⟩

end Completed
end Society.Latency
