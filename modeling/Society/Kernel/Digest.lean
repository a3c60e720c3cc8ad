import Mathlib.Data.List.Perm.Basic
import Society.Dump
import Society.Kernel.Replay

namespace Society.Kernel
open Society.Relational Society.Coding

/-! The digest of the material state, and the validation of a store by replay. -/

section Digest

def materializedTables : List (String × Tbl) :=
  [("principals",.principals),("societies",.societies),("office_contracts",.officeContracts),
   ("applications",.applications),("application_revisions",.applicationRevisions),
   ("application_revision_principles",.applicationRevisionPrinciples),
   ("application_revision_north_star_questions",.applicationRevisionNorthStarQuestions),
   ("founding_missions",.foundingMissions),("office_occupancies",.officeOccupancies),
   ("capability_grants",.capabilityGrants),("society_bootstraps",.societyBootstraps),
   ("operating_cycles",.operatingCycles),("operating_cycle_admissions",.operatingCycleAdmissions),
   ("operating_cycle_reconciliations",.operatingCycleReconciliations),
   ("root_authority_office_sessions",.rootAuthorityOfficeSessions),("office_turns",.officeTurns),
   ("budget_envelopes",.budgetEnvelopes),
   ("budget_envelope_constraints",.budgetEnvelopeConstraints),
   ("budget_reservations",.budgetReservations),
   ("budget_reservation_charges",.budgetReservationCharges),
   ("cancellation_requests",.cancellationRequests),("cost_postmortems",.costPostmortems),
   ("cost_postmortem_resolutions",.costPostmortemResolutions),("projects",.projects),
   ("project_north_star_alignments",.projectNorthStarAlignments),
   ("project_objectives",.projectObjectives),("project_milestones",.projectMilestones),
   ("project_stop_conditions",.projectStopConditions),("tickets",.tickets),
   ("ticket_acceptance_conditions",.ticketAcceptanceConditions),
   ("ticket_prerequisites",.ticketPrerequisites),("objects",.objects),
   ("object_revisions",.objectRevisions),("observation_revisions",.observationRevisions),
   ("hypothesis_revisions",.hypothesisRevisions),("edges",.edges),("episodes",.episodes),
   ("adversarial_reviews",.adversarialReviews),("review_challenges",.reviewChallenges),
   ("review_challenge_responses",.reviewChallengeResponses),
   ("review_dispositions",.reviewDispositions),("postmortems",.postmortems),
   ("postmortem_causal_claims",.postmortemCausalClaims),
   ("postmortem_action_proposals",.postmortemActionProposals),
   ("coordination_command_provenance",.coordinationCommandProvenance),
   ("execution_profiles",.executionProfiles),("actor_configurations",.actorConfigurations),
   ("actor_configuration_revisions",.actorConfigurationRevisions),("context_packs",.contextPacks),
   ("actor_instances",.actorInstances),("work_items",.workItems),("leases",.leases),
   ("attempts",.attempts),("attempt_budget_reservations",.attemptBudgetReservations),
   ("actor_attempt_terminal_facts",.actorAttemptTerminalFacts),
   ("outcome_obligations",.outcomeObligations),("content_seal_receipts",.contentSealReceipts),
   ("content_objects",.contentObjects),("forensic_manifests",.forensicManifests),
   ("forensic_manifest_objects",.forensicManifestObjects),
   ("deterministic_evaluator_forensic_manifest_bindings",.deterministicEvaluatorForensicManifestBindings),
   ("evaluator_revisions",.evaluatorRevisions),("input_manifests",.inputManifests),
   ("deterministic_experiments",.deterministicExperiments),
   ("deterministic_evaluation_receipts",.deterministicEvaluationReceipts),
   ("evidence_admissions",.evidenceAdmissions),("supervisor_epochs",.supervisorEpochs),
   ("workspaces",.workspaces),("pi_child_sessions",.piChildSessions),
   ("native_child_spawn_admissions",.nativeChildSpawnAdmissions),
   ("pi_child_spawn_sidecars",.piChildSpawnSidecars),
   ("native_child_spawn_invalidations",.nativeChildSpawnInvalidations),
   ("office_session_budget_reservations",.officeSessionBudgetReservations),
   ("native_children",.nativeChildren),("pi_child_session_protocols",.piChildSessionProtocols),
   ("native_child_liveness_observations",.nativeChildLivenessObservations),
   ("process_signal_receipts",.processSignalReceipts),
   ("native_child_reap_receipts",.nativeChildReapReceipts),
   ("native_child_recovery_receipts",.nativeChildRecoveryReceipts),
   ("pi_abort_control_receipts",.piAbortControlReceipts),
   ("native_child_stream_seals",.nativeChildStreamSeals),
   ("cancellation_propagations",.cancellationPropagations),
   ("cancellation_propagation_children",.cancellationPropagationChildren),
   ("cancellation_propagation_targets",.cancellationPropagationTargets),
   ("office_turn_budget_checkpoints",.officeTurnBudgetCheckpoints),
   ("pi_office_turn_prompt_authorizations",.piOfficeTurnPromptAuthorizations),
   ("pi_office_turn_prompt_deliveries",.piOfficeTurnPromptDeliveries),
   ("pi_office_turn_prompt_acceptances",.piOfficeTurnPromptAcceptances),
   ("pi_office_turn_usage_receipts",.piOfficeTurnUsageReceipts),
   ("pi_office_turn_usage_failures",.piOfficeTurnUsageFailures),
   ("pi_office_turn_terminal_receipts",.piOfficeTurnTerminalReceipts),
   ("pi_office_session_dispose_authorizations",.piOfficeSessionDisposeAuthorizations),
   ("pi_office_session_dispose_deliveries",.piOfficeSessionDisposeDeliveries),
   ("pi_office_session_dispose_acceptances",.piOfficeSessionDisposeAcceptances),
   ("pi_office_session_dispose_usage_receipts",.piOfficeSessionDisposeUsageReceipts),
   ("pi_office_session_dispose_usage_failures",.piOfficeSessionDisposeUsageFailures),
   ("pi_office_session_dispose_receipts",.piOfficeSessionDisposeReceipts),
   ("pi_task_attempt_prompt_authorizations",.piTaskAttemptPromptAuthorizations),
   ("pi_task_attempt_prompt_deliveries",.piTaskAttemptPromptDeliveries),
   ("pi_task_attempt_prompt_acceptances",.piTaskAttemptPromptAcceptances),
   ("pi_task_attempt_usage_receipts",.piTaskAttemptUsageReceipts),
   ("pi_task_attempt_usage_failures",.piTaskAttemptUsageFailures),
   ("pi_task_attempt_terminal_receipts",.piTaskAttemptTerminalReceipts),
   ("pi_task_attempt_session_dispose_authorizations",.piTaskAttemptSessionDisposeAuthorizations),
   ("pi_task_attempt_session_dispose_deliveries",.piTaskAttemptSessionDisposeDeliveries),
   ("pi_task_attempt_session_dispose_acceptances",.piTaskAttemptSessionDisposeAcceptances),
   ("pi_task_attempt_session_dispose_usage_receipts",.piTaskAttemptSessionDisposeUsageReceipts),
   ("pi_task_attempt_session_dispose_usage_failures",.piTaskAttemptSessionDisposeUsageFailures),
   ("pi_task_attempt_session_dispose_receipts",.piTaskAttemptSessionDisposeReceipts),
   ("study_protocol_revisions",.studyProtocolRevisions),
   ("study_world_revisions",.studyWorldRevisions),
   ("study_measurement_revisions",.studyMeasurementRevisions),
   ("study_institution_revisions",.studyInstitutionRevisions),("study_runs",.studyRuns),
   ("study_run_pairs",.studyRunPairs),("study_population_snapshots",.studyPopulationSnapshots),
   ("study_episodes",.studyEpisodes),
   ("study_episode_successor_populations",.studyEpisodeSuccessorPopulations),
   ("study_treatment_assignments",.studyTreatmentAssignments),("study_pairs",.studyPairs),
   ("study_episode_forums",.studyEpisodeForums),("study_forum_threads",.studyForumThreads),
   ("study_actor_obligations",.studyActorObligations),
   ("study_actor_occurrences",.studyActorOccurrences),
   ("study_actor_runtime_bindings",.studyActorRuntimeBindings),
   ("study_actor_task_attempt_recovery_settlements",.studyActorTaskAttemptRecoverySettlements),
   ("study_frozen_forum_heads",.studyFrozenForumHeads),
   ("study_forum_exposures",.studyForumExposures),("study_forum_messages",.studyForumMessages),
   ("study_forum_read_receipts",.studyForumReadReceipts),("study_decisions",.studyDecisions),
   ("study_ground_truth_reveals",.studyGroundTruthReveals),
   ("study_measurement_results",.studyMeasurementResults),
   ("study_experimental_forks",.studyExperimentalForks)]

/-- What the digest takes from the database: the columns of a row as `SELECT *` returns
them, their number, and the order of a full `ORDER BY`. -/
structure Backend where
  columns : (t : Tbl) → Row t → List Cell
  width : Tbl → Nat
  sort : Tbl → List (List Cell) → List (List Cell)

def Backend.scan (db : Backend) (s : Store) (t : Tbl) : List (List Cell) :=
  db.sort t ((s.rows t).map (db.columns t))

def Backend.dump (db : Backend) (s : Store) : Bytes :=
  materializedTables.flatMap (fun t => putTable (utf8 t.1) (db.width t.2) (db.scan s t.2))

def materializedStateDigest (hash : Bytes → Blake3Digest) (db : Backend) (s : Store) :
    Blake3Digest := hash (db.dump s)

def validateReplayedMaterializedState (hash : Bytes → Blake3Digest) (db : Backend) (s : Store) :
    Option Blake3Digest := do
  let expected ← replayLedger hash s
  let commands ← replayCommandRequests s
  let reconstructed ← replayAll hash commands Store.initial
  let replayed ← replayLedger hash reconstructed
  if replayed=expected then
    if materializedStateDigest hash db s=materializedStateDigest hash db reconstructed then
      some (materializedStateDigest hash db s)
    else none
  else none

end Digest

section Replay
variable {hash : Bytes → Blake3Digest} {ok : Store → CommandRequest → Prop} {s s' : Store}

theorem Reaches.replayLedger (h : Reaches hash ok s) : ∃ l,replayLedger hash s=some l := by
  have hmission : verifyApplicationMissionSourceBindings s=true := by
    refine List.all_eq_true.mpr (fun a ha => List.any_eq_true.mpr ?_)
    obtain ⟨o,ho,hid,r,hr,hrid,hd⟩ := h.missionsSealed a ha
    refine ⟨o,ho,?_⟩
    rw [Bool.and_eq_true,List.any_eq_true]
    exact ⟨by simp [hid],r,hr,by simp [hrid,hd]⟩
  have hgraph : verifyGraphRevisionBodies s=true := by
    refine List.all_eq_true.mpr (fun r hr => List.all_eq_true.mpr (fun o ho => ?_))
    by_cases hid : o.graphObjectId=r.graphObjectId
    · have hc := h.revisionsTyped r hr o ho hid
      simp only [bodyCounts] at hc
      cases hk : o.objectKind <;> simp_all [GraphObjectKind.counts]
    · simp [hid]
  obtain ⟨l,hl⟩ := h.ledgerEvents
  refine ⟨l,?_⟩
  rw [Kernel.replayLedger,h.verifyCommandBodies,hmission,hgraph,h.numbered.sequences]
  simpa using hl

theorem replayAll_append (l l' : List (CommandRequest × CommandDisposition)) (s : Store) :
    replayAll hash (l++l') s=(replayAll hash l s).bind (replayAll hash l') := by
  induction l generalizing s with
  | nil => rfl
  | cons a l ih =>
    obtain ⟨r,d⟩ := a
    simp only [List.cons_append,replayAll]
    split
    · split
      · exact ih _
      · rfl
    · rfl

/-- A call that leaves no record fails on its body or on the last identity. -/
def Recordable (s : Store) (r : CommandRequest) : Prop :=
  storedCommand s r.commandId=none → r.body.fits s=true ∧ (s .commands).next<bigintLimit

instance (s : Store) (r : CommandRequest) : Decidable (Recordable s r) :=
  if h : r.body.fits s=true ∧ (s .commands).next<bigintLimit then isTrue (fun _ => h)
  else if hq : (storedCommand s r.commandId).isNone then
    isFalse (fun hr => h (hr (Option.isNone_iff_eq_none.mp hq)))
  else isTrue (fun hn => absurd (Option.isNone_iff_eq_none.mpr hn) hq)

/-- The stored commands lead from the fresh schema to the very same store. -/
def Replayable (hash : Bytes → Blake3Digest) (s : Store) : Prop :=
  ∃ l,replayCommandRequests s=some l ∧ replayAll hash l Store.initial=some s

theorem mapM_congr {α β : Type} {f g : α → Option β} {l : List α} (h : ∀ a ∈ l,f a=g a) :
    l.mapM f=l.mapM g := by
  induction l with
  | nil => rfl
  | cons a l ih =>
    rw [List.mapM_cons,List.mapM_cons,h a List.mem_cons_self,
      ih (fun b hb => h b (List.mem_cons_of_mem a hb))]

theorem replayCommandRequests_new (hv : s.Valid) {cmd : CommandRowId} {r : CommandRequest}
    {d : CommandDisposition} {l : List (CommandRequest × CommandDisposition)}
    (hc : cmd.val=(s .commands).next)
    (hq : s'.rows .commands=s.rows .commands++[{r.row hash cmd with disposition := d}])
    (hb : s'.rows .commandBodies=s.rows .commandBodies++[⟨cmd,r.body⟩])
    (h : replayCommandRequests s=some l) : replayCommandRequests s'=some (l++[(r,d)]) := by
  have hold : (s.rows .commands).mapM
      (fun q => (storedRequest s' q).map (fun r => (r,q.disposition)))=some l := by
    rw [← h,replayCommandRequests]
    refine mapM_congr (fun q hm => ?_)
    rw [storedRequest_append (Ne.symm (command_fresh hv hc q hm)) hb]
  rw [replayCommandRequests,hq,List.mapM_append,hold]
  simp [storedRequest_new (bodies_fresh hv hc) hb]

theorem execute_replayable {r : CommandRequest} (h : Reaches hash ok s) (hr : Recordable s r)
    (hs : Replayable hash s) : Replayable hash (execute hash r s).2 := by
  obtain ⟨l,hl,hrun⟩ := hs
  -- a new receipt extends the stored list by the request that it answers
  have hnew {d : CommandDisposition} (hd : (execute hash r s).1=.ok ⟨d,false⟩) {cmd : CommandRowId}
      (hc : cmd.val=(s .commands).next) (hq : (execute hash r s).2.rows .commands=
        s.rows .commands++[{r.row hash cmd with disposition := d}])
      (hb : (execute hash r s).2.rows .commandBodies=s.rows .commandBodies++[⟨cmd,r.body⟩]) :
      Replayable hash (execute hash r s).2 := by
    refine ⟨l++[(r,d)],replayCommandRequests_new h.valid hc hq hb hl,?_⟩
    have he : execute hash r s=(.ok ⟨d,false⟩,(execute hash r s).2) := Prod.ext hd rfl
    rw [replayAll_append,hrun,Option.bind_some,replayAll,he]
    simp [replayAll]
  by_cases hn : ∃ d,(execute hash r s).1=.ok ⟨d,false⟩
  · obtain ⟨d,hd⟩ := hn
    cases d with
    | rejected e =>
      obtain ⟨cmd,hc,hq,hb,_⟩ := execute_rejected h.valid hd
      exact hnew hd hc hq hb
    | accepted i =>
      obtain ⟨cmd,n,body,hc,_,_,hq,hb,_⟩ := execute_accepted h.valid hd
      exact hnew hd hc hq hb
  · have hx := execute_executed hash s r
    have hrec : storedCommand s r.commandId=none → ∃ c,(execute hash r s).1=.ok c :=
      fun hq => (execute_records h hq).mpr (hr hq)
    generalize (execute hash r s).1=o at hx hn hrec
    generalize (execute hash r s).2=s' at hx
    cases hx with
    | replayed q hq hf => exact ⟨l,hl,hrun⟩
    | conflict q hq hf => exact ⟨l,hl,hrun⟩
    | aborted hq e s₁ hle =>
      obtain ⟨c,hc⟩ := hrec hq
      cases hc
    | rejected hq cmd hc ha e s₂ hr => exact absurd ⟨_,rfl⟩ hn
    | accepted hq cmd hc ha body s₂ hr i hi n hs => exact absurd ⟨_,rfl⟩ hn

theorem Reaches.replayable (h : Reaches hash Recordable s) : Replayable hash s := by
  induction h with
  | initial => exact ⟨[],rfl,rfl⟩
  | step h r hr ih => exact execute_replayable h hr ih

/-- Replay refines execution: the stored commands, executed on a fresh schema, receive
the stored dispositions and leave the same events and the same material rows. -/
def ReplayRefines (hash : Bytes → Blake3Digest) (s : Store) : Prop :=
  (∃ commands reconstructed events,replayCommandRequests s=some commands ∧
    replayAll hash commands Store.initial=some reconstructed ∧
    replayLedger hash s=some events ∧ replayLedger hash reconstructed=some events ∧
    ∀ t ∈ materializedTables,(reconstructed.rows t.2).Perm (s.rows t.2)) ∧
  ∀ db,validateReplayedMaterializedState hash db s=some (materializedStateDigest hash db s)

theorem replay_refines (h : Reaches hash Recordable s) : ReplayRefines hash s := by
  obtain ⟨l,hl,hrun⟩ := h.replayable
  obtain ⟨events,he⟩ := h.replayLedger
  refine ⟨⟨l,s,events,hl,hrun,he,he,fun t _ => List.Perm.refl _⟩,fun db => ?_⟩
  simp [validateReplayedMaterializedState,hl,hrun,he]

theorem replay_refines_founding :
    ReplayRefines blake3 (execute blake3 (request 1 .installRootAuthorityOffice) Store.initial).2 :=
  replay_refines (.step .initial _ (fun _ => ⟨rfl,by decide⟩))

/-- One failed delivery report shifts every later command identity. -/
def shiftedRun : List CommandRequest :=
  [orphanDelivery,request 1 (.createSocietyIdentity societyName),
   request 2 .installRootAuthorityOffice]

theorem shiftedRun_not_replayed : ¬∀ s,Reachable blake3 s → ReplayRefines blake3 s := by
  intro h
  have hreach : Reachable blake3 (runCommands blake3 shiftedRun Store.initial) :=
    Reaches.runCommands .initial _
  obtain ⟨⟨commands,reconstructed,_,hc,hr,_,_,hperm⟩,_⟩ := h _ hreach
  have hactual : ((runCommands blake3 shiftedRun Store.initial).rows .officeContracts).map
      (·.installedByCommandId.val)=[3] := by decide +kernel
  have hreplay : ((replayCommandRequests (runCommands blake3 shiftedRun Store.initial)).bind
      (fun l => replayAll blake3 l Store.initial)).map (fun x => (x.rows .officeContracts).map
      (·.installedByCommandId.val))=some [2] := by decide +kernel
  rw [hc,Option.bind_some,hr,Option.map_some] at hreplay
  have hrows : (reconstructed.rows .officeContracts).Perm
      ((runCommands blake3 shiftedRun Store.initial).rows .officeContracts) :=
    hperm ("office_contracts",.officeContracts) (by decide +kernel)
  have hm : List.Perm [2] [3] := by
    rw [← Option.some.inj hreplay,← hactual]
    exact hrows.map _
  exact absurd (List.perm_singleton.mp hm) (by decide)

end Replay

section Tamper
variable {hash : Bytes → Blake3Digest} {s s' : Store} {db : Backend}

/-- `db` shows the listed tables of `s` and `s'` as they are: every row in as many cells as
its table has columns, different rows in different cells, and equal sets of rows in one order. -/
structure Backend.Shows (db : Backend) (s s' : Store) : Prop where
  width : ∀ t ∈ materializedTables,∀ r ∈ s.rows t.2++s'.rows t.2,
    (db.columns t.2 r).length=db.width t.2
  distinct : ∀ t ∈ materializedTables,∀ a ∈ s.rows t.2++s'.rows t.2,
    ∀ b ∈ s.rows t.2++s'.rows t.2,db.columns t.2 a=db.columns t.2 b → a=b
  rows : ∀ t l,(db.sort t l).Perm l
  ordered : ∀ t ∈ materializedTables,(s'.rows t.2).Perm (s.rows t.2) → db.scan s' t.2=db.scan s t.2

/-- Lists with the same images are permutations of each other where the images are distinct. -/
theorem perm_of_map {α β : Type} [DecidableEq β] {f : α → β} {l l' : List α}
    (hf : ∀ a ∈ l++l',∀ b ∈ l++l',f a=f b → a=b) (h : (l.map f).Perm (l'.map f)) : l.Perm l' := by
  -- the preimage among the two lists inverts `f` on them
  let g : β → Option α := fun y => (l++l').find? (fun a => f a==y)
  have hg : ∀ a ∈ l++l',g (f a)=some a := by
    intro a ha
    obtain ⟨b,hb⟩ : ∃ b,(l++l').find? (fun x => f x==f a)=some b :=
      Option.isSome_iff_exists.mp (List.find?_isSome.mpr ⟨a,ha,by simp⟩)
    have he : f b=f a := by simpa using List.find?_some hb
    rw [show g (f a)=some b from hb,hf b (List.mem_of_find?_eq_some hb) a ha he]
  have hmap {m : List α} (hm : ∀ a ∈ m,a ∈ l++l') : (m.map f).map g=m.map some := by
    rw [List.map_map]
    exact List.map_congr_left (fun a ha => hg a (hm a ha))
  have hp := h.map g
  rw [hmap (fun a ha => List.mem_append_left _ ha),hmap (fun a ha => List.mem_append_right _ ha)] at hp
  exact (List.map_perm_map_iff (Option.some_injective α)).mp hp

/-- The dump determines the rows of every listed table. -/
theorem Backend.Shows.dump_inj (h : db.Shows s s') (he : db.dump s'=db.dump s) :
    ∀ t ∈ materializedTables,(s'.rows t.2).Perm (s.rows t.2) := by
  have hwidth {x : Store} (hx : ∀ t : String × Tbl,∀ r ∈ x.rows t.2,r ∈ s.rows t.2++s'.rows t.2)
      (t : String × Tbl) (ht : t ∈ materializedTables) :
      ∀ c ∈ db.scan x t.2,c.length=db.width t.2 := by
    intro c hc
    obtain ⟨r,hr,rfl⟩ := List.mem_map.mp ((h.rows _ _).mem_iff.mp hc)
    exact h.width t ht r (hx t r hr)
  have hscan : ∀ t ∈ materializedTables,db.scan s' t.2=db.scan s t.2 := by
    refine Coding.dump_inj ?_ ?_ he
    · exact hwidth (fun t r hr => List.mem_append_right _ hr)
    · exact hwidth (fun t r hr => List.mem_append_left _ hr)
  intro t ht
  have hcells : ((s'.rows t.2).map (db.columns t.2)).Perm ((s.rows t.2).map (db.columns t.2)) :=
    ((h.rows _ _).symm.trans (List.Perm.of_eq (hscan t ht))).trans (h.rows _ _)
  refine perm_of_map (fun a ha b hb => ?_) hcells
  exact h.distinct t ht a (List.perm_append_comm.mem_iff.mp ha) b
    (List.perm_append_comm.mem_iff.mp hb)

theorem any_perm {α : Type} {l l' : List α} (h : l.Perm l') (p : α → Bool) : l.any p=l'.any p := by
  rw [Bool.eq_iff_iff,List.any_eq_true,List.any_eq_true]
  exact exists_congr (fun a => and_congr_left (fun _ => h.mem_iff))

theorem all_perm {α : Type} {l l' : List α} (h : l.Perm l') (p : α → Bool) : l.all p=l'.all p := by
  rw [Bool.eq_iff_iff,List.all_eq_true,List.all_eq_true]
  exact forall_congr' (fun a => imp_congr_left h.mem_iff)

/-- Ledger verification looks at the ledger and at listed tables only. -/
theorem replayLedger_congr (hl : ∀ t ∈ ledger,s'.rows t=s.rows t)
    (hp : ∀ t ∈ materializedTables,(s'.rows t.2).Perm (s.rows t.2)) :
    replayLedger hash s'=replayLedger hash s := by
  have hcommands := hl .commands (by decide)
  have hbodies := hl .commandBodies (by decide)
  have hevents := hl .events (by decide)
  have heventBodies := hl .eventBodies (by decide)
  have hstored (q : CommandRow) : storedRequest s' q=storedRequest s q := by
    simp only [storedRequest,hbodies]
  have hverify : verifyCommandBodies hash s'=verifyCommandBodies hash s := by
    simp only [verifyCommandBodies,receiptAgrees,hstored,hcommands,hevents]
  have hmission : verifyApplicationMissionSourceBindings s'=
      verifyApplicationMissionSourceBindings s := by
    have ho := hp ("content_objects",.contentObjects) (by decide +kernel)
    have hr := hp ("content_seal_receipts",.contentSealReceipts) (by decide +kernel)
    have ha := hp ("application_revisions",.applicationRevisions) (by decide +kernel)
    simp only [verifyApplicationMissionSourceBindings,all_perm ha,any_perm ho,any_perm hr]
  have hgraph : verifyGraphRevisionBodies s'=verifyGraphRevisionBodies s := by
    have hr := hp ("object_revisions",.objectRevisions) (by decide +kernel)
    have ho := hp ("objects",.objects) (by decide +kernel)
    have hb := hp ("observation_revisions",.observationRevisions) (by decide +kernel)
    have hh := hp ("hypothesis_revisions",.hypothesisRevisions) (by decide +kernel)
    simp only [verifyGraphRevisionBodies,all_perm hr,all_perm ho,hb.countP_eq,hh.countP_eq]
  have hevent (e : EventRow) : ledgerEvent s' e=ledgerEvent s e := by
    simp only [ledgerEvent,Db.find,hcommands,heventBodies]
  simp only [replayLedger,hverify,hmission,hgraph,hevents,funext hevent]

theorem replayCommandRequests_congr (hl : ∀ t ∈ ledger,s'.rows t=s.rows t) :
    replayCommandRequests s'=replayCommandRequests s := by
  simp only [replayCommandRequests,storedRequest,hl .commands (by decide),
    hl .commandBodies (by decide)]

/-- A store with the ledger of `s` passes if it shows the same listed rows. -/
theorem validate_unchanged (h : Reaches hash Recordable s)
    (hl : ∀ t ∈ ledger,s'.rows t=s.rows t)
    (hp : ∀ t ∈ materializedTables,(s'.rows t.2).Perm (s.rows t.2))
    (hscan : ∀ t ∈ materializedTables,db.scan s' t.2=db.scan s t.2) :
    validateReplayedMaterializedState hash db s'=some (materializedStateDigest hash db s) := by
  have hdump : db.dump s'=db.dump s := by
    simp only [Backend.dump,List.flatMap]
    exact congrArg _ (List.map_congr_left (fun t ht => by rw [hscan t ht]))
  have hdigest : materializedStateDigest hash db s'=materializedStateDigest hash db s := by
    rw [materializedStateDigest,hdump,materializedStateDigest]
  have hs := (replay_refines h).2 db
  rw [validateReplayedMaterializedState] at hs ⊢
  rw [replayLedger_congr hl hp,replayCommandRequests_congr hl,hdigest]
  exact hs

/-- The columns of the rows that the schema itself inserts. -/
def seedColumns : (t : Tbl) → Row t → List Cell
  | .principals,(r : PrincipalRow) =>
    [.number r.principalId.val,.number (r.principalKind.ctorIdx+1),
     .string (utf8 r.displayName.val),.string [if r.active then 1 else 0]]
  | .executionProfiles,(r : ExecutionProfileRow) =>
    [.number r.executionProfileId.val,.number (r.profileKind.ctorIdx+1),
     .number (r.readiness.ctorIdx+1)]
  | .capabilityGrants,(r : CapabilityGrantRow) =>
    [.number r.capabilityGrantId.val,.number r.principalId.val,
     .number (r.capabilityKind.ctorIdx+1),.nullable (r.officeOccupancyId.map (·.val)),
     .nullable (r.actorInstanceId.map (·.val)),.number (r.grantState.ctorIdx+1),
     .number (r.grantOrigin.ctorIdx+1),.nullable (r.grantedByCommandId.map (·.val)),
     .nullable (r.consumedByCommandId.map (·.val))]
  | _,_ => []

def columnCount : Tbl → Nat
  | .observationRevisions | .hypothesisRevisions | .piChildSpawnSidecars
  | .cancellationPropagationChildren => 2
  | .societies | .officeContracts | .operatingCycleAdmissions
  | .operatingCycleReconciliations | .ticketPrerequisites | .executionProfiles
  | .actorAttemptTerminalFacts | .contentSealReceipts | .contentObjects | .supervisorEpochs
  | .nativeChildSpawnInvalidations | .officeSessionBudgetReservations
  | .piOfficeSessionDisposeAcceptances | .piTaskAttemptSessionDisposeAcceptances
  | .studyEpisodeSuccessorPopulations | .studyActorOccurrences => 3
  | .principals | .applications | .applicationRevisionPrinciples
  | .budgetEnvelopeConstraints | .budgetReservationCharges | .costPostmortemResolutions
  | .projectObjectives | .projectStopConditions | .reviewChallengeResponses
  | .coordinationCommandProvenance | .actorConfigurations | .attemptBudgetReservations
  | .inputManifests | .workspaces | .piChildSessionProtocols
  | .nativeChildLivenessObservations | .piOfficeTurnPromptAcceptances
  | .piTaskAttemptPromptAcceptances | .studyWorldRevisions | .studyInstitutionRevisions
  | .studyTreatmentAssignments | .studyPairs | .studyFrozenForumHeads
  | .studyGroundTruthReveals => 4
  | .applicationRevisionNorthStarQuestions | .officeOccupancies | .budgetEnvelopes
  | .reviewDispositions | .postmortemCausalClaims | .postmortemActionProposals
  | .contextPacks | .forensicManifests | .forensicManifestObjects | .piChildSessions
  | .nativeChildRecoveryReceipts | .piOfficeTurnPromptDeliveries
  | .piOfficeSessionDisposeDeliveries | .piTaskAttemptPromptDeliveries
  | .piTaskAttemptSessionDisposeDeliveries | .studyMeasurementRevisions | .studyRunPairs
  | .studyPopulationSnapshots | .studyDecisions | .studyExperimentalForks => 5
  | .foundingMissions | .societyBootstraps | .rootAuthorityOfficeSessions | .officeTurns
  | .projects | .projectMilestones | .tickets | .ticketAcceptanceConditions | .objects
  | .objectRevisions | .edges | .episodes | .actorConfigurationRevisions | .leases
  | .outcomeObligations | .piOfficeSessionDisposeAuthorizations
  | .piTaskAttemptSessionDisposeAuthorizations | .studyEpisodeForums | .studyForumThreads
  | .studyActorTaskAttemptRecoverySettlements | .studyForumExposures => 6
  | .applicationRevisions | .budgetReservations | .cancellationRequests
  | .projectNorthStarAlignments | .postmortems | .actorInstances | .evaluatorRevisions
  | .deterministicEvaluationReceipts | .nativeChildReapReceipts | .piAbortControlReceipts
  | .nativeChildStreamSeals | .cancellationPropagations | .cancellationPropagationTargets
  | .officeTurnBudgetCheckpoints => 7
  | .reviewChallenges | .processSignalReceipts | .studyMeasurementResults => 8
  | .capabilityGrants | .adversarialReviews
  | .deterministicEvaluatorForensicManifestBindings | .nativeChildren | .studyRuns => 9
  | .operatingCycles | .deterministicExperiments | .studyEpisodes
  | .studyActorRuntimeBindings | .studyForumReadReceipts => 10
  | .workItems | .evidenceAdmissions | .piOfficeSessionDisposeUsageFailures
  | .piTaskAttemptPromptAuthorizations | .piTaskAttemptSessionDisposeUsageFailures => 11
  | .costPostmortems | .piOfficeTurnPromptAuthorizations
  | .piOfficeSessionDisposeUsageReceipts | .piTaskAttemptSessionDisposeUsageReceipts
  | .studyProtocolRevisions | .studyForumMessages => 12
  | .piOfficeTurnUsageFailures | .piTaskAttemptUsageFailures => 13
  | .attempts | .piOfficeTurnUsageReceipts | .piTaskAttemptUsageReceipts => 14
  | .nativeChildSpawnAdmissions | .piOfficeTurnTerminalReceipts
  | .piOfficeSessionDisposeReceipts | .piTaskAttemptTerminalReceipts
  | .piTaskAttemptSessionDisposeReceipts => 16
  | .studyActorObligations => 19
  | _ => 0

/-- The fresh schema as the database shows it: its rows are inserted in key order. -/
def seedBackend : Backend := ⟨seedColumns,columnCount,fun _ l => l⟩

theorem seedBackend_shows (hs : ∀ t ∈ materializedTables,s'.rows t.2=Store.initial.rows t.2) :
    seedBackend.Shows Store.initial s' := by
  have hwidth (t : Tbl) : ∀ r ∈ Store.initial.rows t,(seedColumns t r).length=columnCount t := by
    cases t <;> decide +kernel
  have hdistinct (t : Tbl) : ((Store.initial.rows t).map (seedColumns t)).Nodup := by
    cases t <;> decide +kernel
  refine ⟨?_,?_,fun t l => List.Perm.refl l,?_⟩
  · intro t ht r hr
    rw [hs t ht,List.mem_append,or_self] at hr
    exact hwidth t.2 r hr
  · intro t ht a ha b hb he
    rw [hs t ht,List.mem_append,or_self] at ha hb
    exact List.inj_on_of_nodup_map (hdistinct t.2) ha hb he
  · intro t ht _
    rw [Backend.scan,Backend.scan,hs t ht]

/-- A run that claims a qualification launch. -/
def launchRun : List CommandRequest :=
  qualificationFounding++
  [request 10 (.openSupervisorEpoch (nth 1) epochIdentity),
   request 11 (.claimNativeExecutionProfileQualificationLaunch (nth 1) (micros 100) (nth 1)
     epochIdentity workspaceName workspacePath) firstGeneration]

/-- The launch claims with another admission generation. -/
def forgeClaims (s : Store) : Store :=
  s.modify .nativeExecutionProfileQualificationLaunchClaims (fun _ => true)
    (fun q => some {q with admissionGeneration := ⟨7,by decide⟩})

theorem forgeClaims_other (s : Store) {t : Tbl}
    (ht : t≠.nativeExecutionProfileQualificationLaunchClaims) :
    (forgeClaims s).rows t=s.rows t := by
  rw [Db.rows,forgeClaims,Db.modify_ne _ _ _ ht]

theorem forgeClaims_ledger (s : Store) : ∀ t ∈ ledger,(forgeClaims s).rows t=s.rows t := by
  intro t ht
  refine forgeClaims_other s ?_
  rintro rfl
  exact absurd ht (by decide)

theorem claims_unlisted :
    ∀ t ∈ materializedTables,t.2≠.nativeExecutionProfileQualificationLaunchClaims := by
  decide +kernel

end Tamper
end Society.Kernel
