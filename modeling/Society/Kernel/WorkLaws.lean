import Society.Kernel.Ledger
import Society.Kernel.WorkModel
import Society.Relational.Lookup

namespace Society.Kernel
open Society.Relational Society.Coding Function

/-! The work of the store: how its commands refine the steps of the model. -/

section View
variable {s : Store}

/-- The work that the rows of the store describe. -/
def work (s : Store) : Work where
  ticket t := (s.find .tickets t).map (·.lifecycleState)
  prerequisite t p := ∃ q ∈ s.rows .ticketPrerequisites,q.ticketId=t ∧ q.prerequisiteTicketId=p
  item i := (s.find .workItems i).map (fun q => ⟨q.ticketId,q.actorInstanceId,q.lifecycleState⟩)
  lease l := (s.find .leases l).map (fun q => ⟨q.workItemId,q.actorInstanceId,q.lifecycleState==.active⟩)
  attempt a := (s.find .attempts a).map (fun q =>
    ⟨q.ticketId,q.workItemId,q.workLeaseId,q.actorInstanceId,q.lifecycleState⟩)

abbrev workTables : List Tbl := [.tickets,.ticketPrerequisites,.workItems,.leases,.attempts]

theorem work_congr {s s' : Store} (h : ∀ t ∈ workTables,s'.rows t=s.rows t) : work s'=work s := by
  have hf {t : Tbl} (ht : t ∈ workTables) (k : Relational.Id t) : s'.find t k=s.find t k := by
    rw [Db.find,Db.find,h t ht]
  simp only [work,hf (t := .tickets) (by decide),hf (t := .workItems) (by decide),
    hf (t := .leases) (by decide),hf (t := .attempts) (by decide),h .ticketPrerequisites (by decide)]

theorem work_append_other {t : Tbl} {r : Row t} {n : Nat} (h : t ∉ workTables) :
    work (s.append t r n)=work s :=
  work_congr (fun u hu => by rw [Db.rows,Db.append_ne _ _ _ (by rintro rfl; exact h hu)])

theorem work_modify_other {t : Tbl} {p : Row t → Bool} {f : Row t → Option (Row t)}
    (h : t ∉ workTables) : work (s.modify t p f)=work s :=
  work_congr (fun u hu => by rw [Db.rows,Db.modify_ne _ _ _ (by rintro rfl; exact h hu)])

theorem work_ticket {i : TicketId} {r : TicketRow} (h : s.find .tickets i=some r) :
    (work s).ticket i=some r.lifecycleState := by
  simp [work,h]

theorem work_item {i : WorkItemId} {r : WorkItemRow} (h : s.find .workItems i=some r) :
    (work s).item i=some ⟨r.ticketId,r.actorInstanceId,r.lifecycleState⟩ := by
  simp [work,h]

theorem work_lease {i : WorkLeaseId} {r : LeaseRow} (h : s.find .leases i=some r) :
    (work s).lease i=some ⟨r.workItemId,r.actorInstanceId,r.lifecycleState==.active⟩ := by
  simp [work,h]

theorem work_attempt {i : ActorAttemptId} {r : AttemptRow} (h : s.find .attempts i=some r) :
    (work s).attempt i=some
      ⟨r.ticketId,r.workItemId,r.workLeaseId,r.actorInstanceId,r.lifecycleState⟩ := by
  simp [work,h]

/-- Two identities of one table agree if their values do. -/
theorem id_beq {t : Tbl} {i j : Relational.Id t} : (i==j)=true ↔ i.val=j.val := by
  rw [beq_iff_eq,Relational.Id.ext_iff]

@[simp] theorem work_setTicket {i : TicketId} {q : TicketState} {cmd : CommandRowId} :
    work (s.modify .tickets (fun r => r.ticketId==i) (fun r => some
      {r with lifecycleState := q,lastTransitionCommandId := cmd}))=(work s).setTicket i q := by
  refine Work.ext (Db.view_update _ _ (fun _ => id_beq) (fun _ => rfl) (fun _ => rfl)) ?_ ?_ ?_ ?_
  all_goals simp [work,Work.setTicket,Db.rows]

@[simp] theorem work_setItem {i : WorkItemId} {q : WorkItemState} {cmd : CommandRowId} :
    work (s.modify .workItems (fun r => r.workItemId==i) (fun r => some
      {r with lifecycleState := q,lastTransitionCommandId := cmd}))=(work s).setItem i q := by
  refine Work.ext ?_ ?_ (Db.view_update _ _ (fun _ => id_beq) (fun _ => rfl) (fun _ => rfl)) ?_ ?_
  all_goals simp [work,Work.setItem,Db.rows]

@[simp] theorem work_retryItem {i : WorkItemId} {q : WorkItemState} {a : ActorAttemptId}
    {cmd : CommandRowId} :
    work (s.modify .workItems (fun r => r.workItemId==i) (fun r => some
      {r with lifecycleState := q,retryOfActorAttemptId := some a,lastTransitionCommandId := cmd}))=
        (work s).setItem i q := by
  refine Work.ext ?_ ?_ (Db.view_update _ _ (fun _ => id_beq) (fun _ => rfl) (fun _ => rfl)) ?_ ?_
  all_goals simp [work,Work.setItem,Db.rows]

@[simp] theorem work_expireLease {l : WorkLeaseId} {cmd : CommandRowId} :
    work (s.modify .leases (fun r => r.workLeaseId==l) (fun r => some
      {r with lifecycleState := .expired,terminalByCommandId := some cmd}))=(work s).endLease l := by
  refine Work.ext ?_ ?_ ?_ (Db.view_update _ _ (fun _ => id_beq) (fun _ => rfl) (fun _ => rfl)) ?_
  all_goals simp [work,Work.endLease,Db.rows]

/-- A lease that has ended already stays as it is. -/
@[simp] theorem work_endLease {l : WorkLeaseId} {q : ActorAttemptTerminalKind} {cmd : CommandRowId} :
    work (s.modify .leases (fun r => r.workLeaseId==l && r.lifecycleState==.active) (fun r => some
      {r with lifecycleState := q.leaseState,terminalByCommandId := some cmd}))=(work s).endLease l := by
  have hq : (q.leaseState==WorkLeaseState.active)=false := by cases q <;> rfl
  ext1
  case lease =>
    funext m
    simp only [work,Work.endLease,update_apply]
    rw [Db.find_modify (by rintro r _ ⟨⟩; rfl)]
    split
    · next he =>
      subst he
      cases hf : s.find .leases m with
      | none => rfl
      | some r =>
        have hkey : r.workLeaseId=m := Relational.Id.ext (Db.find_key hf)
        by_cases hact : r.lifecycleState=.active <;> simp [hkey,hact,hq]
    · next he =>
      cases hf : s.find .leases m with
      | none => rfl
      | some r =>
        have hkey : r.workLeaseId=m := Relational.Id.ext (Db.find_key hf)
        simp [hkey,he]
  all_goals simp [work,Work.endLease,Db.rows]

@[simp] theorem work_endAttempt {a : ActorAttemptId} {q : ActorAttemptState} {cmd : CommandRowId} :
    work (s.modify .attempts (fun r => r.actorAttemptId==a) (fun r => some
      {r with lifecycleState := q,terminalByCommandId := some cmd}))=(work s).setAttempt a q := by
  refine Work.ext ?_ ?_ ?_ ?_ (Db.view_update _ _ (fun _ => id_beq) (fun _ => rfl) (fun _ => rfl))
  all_goals simp [work,Work.setAttempt,Db.rows]

@[simp] theorem work_validateAttempt {a : ActorAttemptId} {q : ActorAttemptState} {cmd : CommandRowId} :
    work (s.modify .attempts (fun r => r.actorAttemptId==a) (fun r => some
      {r with lifecycleState := q,validatedByCommandId := some cmd}))=(work s).setAttempt a q := by
  refine Work.ext ?_ ?_ ?_ ?_ (Db.view_update _ _ (fun _ => id_beq) (fun _ => rfl) (fun _ => rfl))
  all_goals simp [work,Work.setAttempt,Db.rows]

@[simp] theorem work_cancelAttempt {a : ActorAttemptId} {q : ActorAttemptState} :
    work (s.modify .attempts (fun r => r.actorAttemptId==a) (fun r => some
      {r with lifecycleState := q}))=(work s).setAttempt a q := by
  refine Work.ext ?_ ?_ ?_ ?_ (Db.view_update _ _ (fun _ => id_beq) (fun _ => rfl) (fun _ => rfl))
  all_goals simp [work,Work.setAttempt,Db.rows]

theorem work_putItem {r : WorkItemRow} {n : Nat} (hn : s.find .workItems r.workItemId=none) :
    work (s.append .workItems r n)=(work s).putItem r.workItemId
      ⟨r.ticketId,r.actorInstanceId,r.lifecycleState⟩ := by
  refine Work.ext ?_ ?_ (Db.view_append _ hn rfl) ?_ ?_
  all_goals simp [work,Work.putItem,Db.rows]

theorem work_putLease {r : LeaseRow} {n : Nat} (hn : s.find .leases r.workLeaseId=none) :
    work (s.append .leases r n)=(work s).putLease r.workLeaseId
      ⟨r.workItemId,r.actorInstanceId,r.lifecycleState==.active⟩ := by
  refine Work.ext ?_ ?_ ?_ (Db.view_append _ hn rfl) ?_
  all_goals simp [work,Work.putLease,Db.rows]

theorem work_putAttempt {r : AttemptRow} {n : Nat} (hn : s.find .attempts r.actorAttemptId=none) :
    work (s.append .attempts r n)=(work s).putAttempt r.actorAttemptId
      ⟨r.ticketId,r.workItemId,r.workLeaseId,r.actorInstanceId,r.lifecycleState⟩ := by
  refine Work.ext ?_ ?_ ?_ ?_ (Db.view_append _ hn rfl)
  all_goals simp [work,Work.putAttempt,Db.rows]

theorem work_putTicket {r : TicketRow} {n : Nat} (hn : s.find .tickets r.ticketId=none) :
    work (s.append .tickets r n)=
      {work s with ticket := update (work s).ticket r.ticketId (some r.lifecycleState)} := by
  refine Work.ext (Db.view_append _ hn rfl) ?_ ?_ ?_ ?_
  all_goals simp [work,Db.rows]

theorem work_prerequisite {r : TicketPrerequisiteRow} {n : Nat} :
    work (s.append .ticketPrerequisites r n)={work s with
      prerequisite := fun a b => (work s).prerequisite a b ∨ r.ticketId=a ∧ r.prerequisiteTicketId=b} := by
  ext1
  case prerequisite =>
    funext a b
    simp only [work,Db.rows,Db.append_same,List.mem_append,List.mem_singleton,or_and_right,exists_or,
      exists_eq_left]
  all_goals simp [work]

end View

section Refinement
variable {s : Store} {cmd : CommandRowId} {g : ExpectedGeneration} {c : OperatingCycleId}

theorem admitTicket_refines (i : TicketId) :
    Tx.wp (admitTicket cmd g c i) (fun _ s' => Work.Step (work s) .ordinary (work s')) s := by
  simp only [admitTicket,moveTicket,Tx.wp_bind,wp_coordinationCycle,wp_ticketRow,wp_projectIsActive,
    Tx.wp_require,Tx.wp_update,Tx.wp_pure,wp_recordCoordinationProvenance,beq_iff_eq]
  intro cycle _ _ _ r hr _ _ _ hd _ _
  rw [work_append_other (by decide),work_setTicket]
  exact .admitTicket i (hd ▸ work_ticket hr)

theorem validateTicketAttempt_refines (i : ActorAttemptId) :
    Tx.wp (validateTicketAttempt cmd g c i) (fun _ s' => Work.Step (work s) .ordinary (work s')) s := by
  simp only [validateTicketAttempt,moveTicket,Tx.wp_bind,wp_coordinationCycle,wp_ticketRow,
    wp_actorAttemptRow,Tx.wp_read,Tx.wp_require,Tx.wp_update,Tx.wp_pure,
    wp_recordCoordinationProvenance,beq_iff_eq,Bool.and_eq_true]
  intro cycle _ _ _ a ha t ht hguard _ _ _ _ _
  rw [work_append_other (by decide),work_setTicket,work_modify_other (by decide),work_validateAttempt]
  exact .validate i _ (work_attempt ha) hguard.1.2 (hguard.2 ▸ work_ticket ht)

theorem completeTicket_refines (i : ActorAttemptId) :
    Tx.wp (completeTicket cmd g c i) (fun _ s' => Work.Step (work s) .ordinary (work s')) s := by
  simp only [completeTicket,moveTicket,Tx.wp_bind,wp_coordinationCycle,wp_ticketRow,
    wp_actorAttemptRow,Tx.wp_read,Tx.wp_require,Tx.wp_update,Tx.wp_pure,
    wp_recordCoordinationProvenance,beq_iff_eq,Bool.and_eq_true]
  intro cycle _ _ _ a ha t ht hguard _ _ _
  rw [work_append_other (by decide),work_setTicket]
  exact .complete i _ (work_attempt ha) hguard.1.2 (hguard.2 ▸ work_ticket ht)

theorem retryActorAttempt_refines (i : ActorAttemptId) :
    Tx.wp (retryActorAttempt cmd g c i) (fun _ s' => Work.Step (work s) (.retry i) (work s')) s := by
  simp only [retryActorAttempt,moveTicket,Tx.wp_bind,wp_coordinationCycle,wp_ticketRow,
    wp_actorAttemptRow,wp_workItemRow,wp_projectIsActive,Tx.wp_require,Tx.wp_update,Tx.wp_pure,
    wp_recordCoordinationProvenance,beq_iff_eq,Bool.and_eq_true]
  intro cycle _ _ _ a ha t ht _ _ _ hguard x hx hsettled _ _ _
  rw [work_append_other (by decide),work_setTicket,work_retryItem]
  exact .retry i _ _ (work_attempt ha) hguard.2 (work_item hx) hsettled

theorem cancelActorAttempt_refines (i : ActorAttemptId) (reason : ActorAttemptCancellationReason) :
    Tx.wp (cancelActorAttempt cmd i reason)
      (fun _ s' => Work.Step (work s) .ordinary (work s')) s := by
  simp only [cancelActorAttempt,Tx.wp_bind,wp_ticketRow,wp_cycleRow,wp_actorAttemptRow,Tx.wp_require,
    Tx.wp_update,Tx.wp_pure,wp_recordCoordinationProvenance,beq_iff_eq]
  intro a ha hrun _ _ _ _ _ _
  rw [work_append_other (by decide),work_cancelAttempt]
  exact .cancel i _ (work_attempt ha) hrun

theorem attestActorAttemptTerminal_refines (i : ActorAttemptId) (kind : ActorAttemptTerminalKind) :
    Tx.wp (attestActorAttemptTerminal cmd i kind)
      (fun _ s' => Work.Step (work s) .ordinary (work s')) s := by
  simp only [attestActorAttemptTerminal,moveTicket,moveWorkItem,Tx.wp_bind,wp_ticketRow,wp_cycleRow,
    wp_actorAttemptRow,Tx.wp_read,Tx.wp_require,Tx.wp_store,Tx.wp_update,Tx.wp_pure,
    wp_recordCoordinationProvenance]
  intro _ a ha hallowed _ _ _ _ _ _ _ _ _ _
  rw [work_append_other (by decide),work_setTicket,work_setItem,work_endLease,work_endAttempt,
    work_append_other (by decide)]
  exact .attest i _ kind (work_attempt ha) hallowed

theorem expireWorkLease_refines (i : WorkLeaseId) :
    Tx.wp (expireWorkLease cmd i) (fun _ s' => Work.Step (work s) .ordinary (work s')) s := by
  simp only [expireWorkLease,moveTicket,moveWorkItem,Tx.wp_bind,wp_ticketRow,wp_cycleRow,
    wp_workItemRow,wp_actorInstanceRow,Tx.wp_get,Tx.wp_read,Tx.wp_require,Tx.wp_update,Tx.wp_pure,
    wp_recordCoordinationProvenance,beq_iff_eq]
  intro l hl x hx _ _ hact hunused _ _ _ _ _ _ _ _
  rw [work_append_other (by decide),work_setTicket,work_setItem,work_expireLease]
  refine .expire i _ _ (work_lease hl) (by simp [hact]) (work_item hx) ?_
  intro a y ha hy
  obtain ⟨r,hr,rfl⟩ := Option.map_eq_some_iff.mp ha
  simp only [Bool.not_eq_true',List.any_eq_false,beq_iff_eq] at hunused
  exact hunused r (Db.find_mem hr) hy

/-- Prerequisites are compared with the tickets they name, which exist. -/
theorem prerequisites_completed (hv : s.Valid) {i : TicketId}
    (h : ticketPrerequisitesComplete s i=true) (p : TicketId) (hp : (work s).prerequisite i p) :
    (work s).ticket p=some .completed := by
  obtain ⟨q,hq,rfl,rfl⟩ := hp
  have hall := List.all_eq_true.mp h q hq
  obtain ⟨r,hfind⟩ := hv.find_target (u := .tickets) (k := q.prerequisiteTicketId) hq rfl
    (List.mem_cons_of_mem _ List.mem_cons_self)
  simp only [hfind,ne_eq,not_true_eq_false,decide_false,Bool.false_or] at hall
  rw [work_ticket hfind]
  exact congrArg some (beq_iff_eq.mp hall)

theorem requireReviewBinding_reads {W : List Tbl} {project : ProjectId} {kind : WorkItemKind}
    {review : Option AdversarialReviewId} :
    Tx.wp (requireReviewBinding project kind review : Transition W Unit) (fun _ s' => s'=s) s := by
  cases kind <;> cases review <;> simp [requireReviewBinding,graphRevisionRow]

theorem registerWorkItem_refines (hv : s.Valid) (t : TicketId) (actor : ActorInstanceId)
    (context : ContextPackId) (kind : WorkItemKind) (review : Option AdversarialReviewId)
    (assignment : WorkAssignmentText) :
    Tx.wp (registerWorkItem cmd g c t actor context kind review assignment)
      (fun _ s' => Work.Step (work s) .ordinary (work s')) s := by
  simp only [registerWorkItem,moveTicket,Tx.wp_bind,wp_coordinationCycle,wp_ticketRow,
    wp_actorInstanceRow,wp_projectIsActive,Tx.wp_get,Tx.wp_read,Tx.wp_require]
  intro cycle _ _ _ r hr _ _ _ hguard _ _ _ _ _ _
  refine Tx.wp_mono requireReviewBinding_reads ?_
  rintro _ _ rfl
  simp only [Tx.wp_insert,Tx.wp_update,Tx.wp_pure,wp_recordCoordinationProvenance]
  intro i hi _ _ _
  rw [work_append_other (by decide),work_setTicket,work_putItem (hv.find_fresh rfl hi)]
  simp only [Bool.and_eq_true,beq_iff_eq] at hguard
  exact .register i ⟨t,actor,.ready⟩ (hguard.1 ▸ work_ticket hr)
    (prerequisites_completed hv hguard.2) (by simp [work,hv.find_fresh rfl hi]) rfl

theorem claimWork_refines (hv : s.Valid) (principal : PrincipalId) (i : WorkItemId) :
    Tx.wp (claimWork cmd principal g c i)
      (fun _ s' => Work.Step (work s) .ordinary (work s')) s := by
  simp only [claimWork,moveTicket,moveWorkItem,Tx.wp_bind,wp_coordinationCycle,wp_ticketRow,
    wp_workItemRow,wp_actorInstanceRow,wp_projectIsActive,Tx.wp_require,Tx.wp_insert,Tx.wp_update,
    Tx.wp_pure,wp_recordCoordinationProvenance]
  intro cycle _ _ _ x hx _ _ t ht _ _ _ _ hguard l hl _ _ _ _
  rw [work_append_other (by decide),work_setTicket,work_setItem,work_putLease (hv.find_fresh rfl hl)]
  simp only [Bool.and_eq_true,beq_iff_eq] at hguard
  exact .claim i _ l (work_item hx) hguard.1 (hguard.2 ▸ work_ticket ht)
    (by simp [work,hv.find_fresh rfl hl])

theorem startAttempt_refines (hv : s.Valid) (i : WorkItemId) (amount : UsdMicros) :
    Tx.wp (startAttempt cmd g c i amount)
      (fun _ s' => Work.Step (work s) .start (work s')) s := by
  simp only [startAttempt,moveWorkItem,Tx.wp_bind,wp_coordinationCycle,wp_ticketRow,wp_workItemRow,
    wp_actorInstanceRow,wp_projectIsActive,Tx.wp_read,Tx.wp_the,Tx.wp_require,Tx.wp_widen]
  intro cycle _ _ _ x hx _ _ t ht _ _ _ hguard l hl
  refine Tx.wp_mono (Tx.wp_outside _ hv) ?_
  rintro reservation s₁ ⟨hsame,hv₁⟩
  have hwork : work s₁=work s := by
    refine work_congr (fun t ht => ?_)
    rw [Db.rows,hsame t (by revert t; decide)]
  simp only [Tx.wp_insert,Tx.wp_store,Tx.wp_update,Tx.wp_pure,wp_recordCoordinationProvenance]
  intro a ha _ _ _ _
  rw [work_append_other (by decide),work_setItem,work_append_other (by decide),
    work_putAttempt (hv₁.find_fresh rfl ha),hwork]
  simp only [Bool.and_eq_true,beq_iff_eq] at hguard
  have hlease := List.find?_some hl
  simp only [Bool.and_eq_true,beq_iff_eq] at hlease
  have hfind : s.find .leases l.workLeaseId=some l :=
    (hv.find_iff rfl).mpr ⟨List.mem_of_find?_eq_some hl,rfl⟩
  refine .start i _ l.workLeaseId a (work_item hx) hguard.1.1.1 (hguard.1.1.2 ▸ work_ticket ht) ?_ ?_
  · rw [work_lease hfind,hlease.1.1,hlease.1.2,hlease.2]
    rfl
  · intro b y hb
    obtain ⟨r,hr,_⟩ := Option.map_eq_some_iff.mp hb
    rw [ha,hsame .attempts (by decide),← Db.find_key hr]
    exact hv.fresh .attempts rfl r (Db.find_mem hr)

theorem claimWorkItem_refines (hv : s.Valid) (principal : PrincipalId) (i : WorkItemId) :
    Tx.wp (claimWorkItem cmd principal g c i)
      (fun _ s' => Work.Step (work s) .ordinary (work s')) s := by
  simp only [claimWorkItem,Tx.wp_bind,Tx.wp_pure]
  exact claimWork_refines hv principal i

theorem startActorAttempt_refines (hv : s.Valid) (i : WorkItemId) (amount : UsdMicros) :
    Tx.wp (startActorAttempt cmd g c i amount)
      (fun _ s' => Work.Step (work s) .start (work s')) s := by
  simp only [startActorAttempt,Tx.wp_bind,Tx.wp_pure]
  exact startAttempt_refines hv i amount

theorem createTicket_refines (hv : s.Valid) (project : ProjectId) (title : TicketTitle)
    (condition : TicketAcceptanceConditionText) (prerequisite : Option TicketId) :
    Tx.wp (createTicket cmd g c project title condition prerequisite)
      (fun _ s' => Work.Step (work s) .ordinary (work s')) s := by
  cases prerequisite with
  | none =>
    simp only [createTicket,Tx.each,Option.toList,Tx.wp_bind,wp_coordinationCycle,
      wp_projectIsActive,Tx.wp_ret,Tx.wp_pure,Tx.wp_insert,wp_recordCoordinationProvenance]
    intro cycle _ _ _ _ _ _ i hi _ _ _ _ _
    have hn := hv.find_fresh rfl hi
    rw [work_append_other (by decide),work_append_other (by decide),work_putTicket hn]
    simpa using Work.Step.create (w := work s) i [] (by simp [work,hn])
  | some p =>
    simp only [createTicket,Tx.each,Option.toList,Tx.wp_bind,Tx.wp_andThen,wp_coordinationCycle,
      wp_ticketRow,Tx.wp_require,wp_projectIsActive,Tx.wp_ret,Tx.wp_pure,Tx.wp_insert,Tx.wp_store,
      wp_recordCoordinationProvenance]
    intro cycle _ _ _ _ _ _ _ _ _ i hi _ _ _ _ _ _
    have hn := hv.find_fresh rfl hi
    rw [work_append_other (by decide),work_prerequisite,work_append_other (by decide),work_putTicket hn]
    simpa [eq_comm] using Work.Step.create (w := work s) i [p] (by simp [work,hn])

/-- Registering a workspace writes nothing else. -/
theorem registerWorkspace_outside {W : List Tbl} (hv : s.Valid) (name : NativeWorkspaceId)
    (path : CanonicalWorkspacePath) (same : WorkspaceRow → WorkspaceRow → Bool)
    (hw : Tbl.workspaces ∈ W) :
    Tx.wp (registerWorkspace cmd name path same hw)
      (fun _ s' => (∀ t,t≠.workspaces → s' t=s t) ∧ s'.Valid) s := by
  refine Tx.wp_and ?_ (Tx.wp_valid _ hv)
  simp only [registerWorkspace,Tx.wp_bind,Tx.wp_insertUnless,Tx.wp_read,Tx.wp_the,Tx.wp_pure]
  intro i hi
  exact ⟨fun _ _ _ t ht => by simp [Db.draw,ht],fun _ _ _ _ t ht => by simp [Db.append,ht]⟩

theorem claimStudyActorTaskAttemptLaunch_refines (hv : s.Valid) (o : StudyActorObligationId)
    (i : WorkItemId) (amount : UsdMicros) (epoch : SupervisorEpochId)
    (identity : SupervisorEpochIdentity) (name : NativeWorkspaceId) (path : CanonicalWorkspacePath) :
    Tx.wp (claimStudyActorTaskAttemptLaunch cmd g o c i amount epoch identity name path)
      (fun _ s' => Work.Step (work s) .start (work s')) s := by
  simp only [claimStudyActorTaskAttemptLaunch,requireSupervisorEpoch,requireQualifiedProfile,
    Tx.wp_bind,wp_coordinationCycle,Tx.wp_read,Tx.wp_require]
  intro cycle _ _ _ _ _ _ _
  refine Tx.wp_mono (registerWorkspace_outside hv _ _ _ _) ?_
  rintro _ s₁ ⟨hsame,hv₁⟩
  have hwork : work s₁=work s := by
    refine work_congr (fun t ht => ?_)
    rw [Db.rows,hsame t (by rintro rfl; revert ht; decide)]
  simp only [wp_workItemRow,wp_actorInstanceRow,Tx.wp_widen]
  intro _ _ _ _ _ _
  refine Tx.wp_mono (startAttempt_refines hv₁ i amount) ?_
  rintro ⟨a,reservation⟩ s₂ hstep
  simp only [Tx.wp_insert,Tx.wp_pure]
  intro _ _ _
  rw [work_append_other (by decide),← hwork]
  exact hstep

theorem allocateStudyActorWork_refines (hv : s.Valid) (run : StudyRunId) (pair : StudyRunPairOrdinal)
    (treatment : StudyTreatment) (phase : StudyPopulationPhase) (role : StudyRoleOrdinal)
    (i : WorkItemId) (amount : UsdMicros) (epoch : SupervisorEpochId)
    (identity : SupervisorEpochIdentity) :
    Tx.wp (allocateStudyActorWork cmd g run pair treatment phase role c i amount epoch identity)
      (fun _ s' => Work.Step (work s) .ordinary (work s')) s := by
  simp only [allocateStudyActorWork,requireSupervisorEpoch,requireQualifiedProfile,Tx.wp_bind,
    wp_coordinationCycle,wp_workItemRow,wp_actorInstanceRow,Tx.wp_read,Tx.wp_require,Tx.wp_widen]
  intro cycle _ _ _ _ _ _ _ _ _ actor _ _ _ _
  refine Tx.wp_mono (claimWork_refines hv _ i) ?_
  intro _ s₁ hstep
  simp only [Tx.wp_insert,Tx.wp_pure]
  intro _ _ _
  rw [work_append_other (by decide)]
  exact hstep

theorem settleActorTaskAttemptAfterRecovery_refines (o : StudyActorObligationId) (a : ActorAttemptId)
    (child : NativeChildId) (receipt : NativeChildRecoveryReceiptId) :
    Tx.wp (settleActorTaskAttemptAfterRecovery cmd o a child receipt)
      (fun _ s' => Work.Step (work s) (.recover a) (work s')) s := by
  simp only [settleActorTaskAttemptAfterRecovery,Tx.wp_bind,Tx.wp_read,Tx.wp_the,Tx.wp_require,
    Tx.wp_store,Tx.wp_update,Tx.wp_pure]
  intro _ _ _ _ _ hlive _ _ _ _ _ _
  rw [work_append_other (by decide),work_endAttempt,work_modify_other (by decide),
    work_append_other (by decide)]
  obtain ⟨r,hr,hlive⟩ := Option.any_eq_true .. |>.mp hlive
  exact .recover a _ (work_attempt hr) hlive

end Refinement

section Simulation
variable {hash : Bytes → Blake3Digest} {ok : Store → CommandRequest → Prop} {s s₁ : Store}
  {r : CommandRequest}

/-- What a command is to the model of work. -/
def CommandBody.workEvent : CommandBody → WorkEvent
  | .startActorAttempt .. | .claimStudyActorTaskAttemptLaunch .. => .start
  | .retryActorAttempt _ a => .retry a
  | .studyTransition (.settleActorTaskAttemptAfterRecovery _ a _ _) => .recover a
  | _ => .ordinary

/-- The transitions that write the tables of work are steps of the model. -/
theorem action_refines (hv : s.Valid) (cmd : CommandRowId)
    (hw : ∃ t ∈ workTables,t ∈ (r.action hash).writes) :
    Tx.wp ((r.action hash).body cmd)
      (fun _ s' => Work.Step (work s) r.body.workEvent (work s')) s := by
  obtain ⟨i,p,k,q,g,b⟩ := r
  cases b
  case createTicket => exact createTicket_refines hv _ _ _ _
  case admitTicket => exact admitTicket_refines _
  case registerWorkItem => exact registerWorkItem_refines hv _ _ _ _ _ _
  case claimWorkItem => exact claimWorkItem_refines hv _ _
  case startActorAttempt => exact startActorAttempt_refines hv _ _
  case attestActorAttemptTerminal => exact attestActorAttemptTerminal_refines _ _
  case validateTicketAttempt => exact validateTicketAttempt_refines _
  case retryActorAttempt => exact retryActorAttempt_refines _
  case completeTicket => exact completeTicket_refines _
  case expireWorkLease => exact expireWorkLease_refines _
  case cancelActorAttempt => exact cancelActorAttempt_refines _ _
  case claimStudyActorTaskAttemptLaunch =>
    exact claimStudyActorTaskAttemptLaunch_refines hv _ _ _ _ _ _ _
  case allocateStudyActorWork => exact allocateStudyActorWork_refines hv _ _ _ _ _ _ _ _ _
  case studyTransition c =>
    cases c
    case settleActorTaskAttemptAfterRecovery =>
      exact studyTransition_wp (settleActorTaskAttemptAfterRecovery_refines _ _ _ _)
    all_goals exact absurd hw (of_decide_eq_true rfl)
  all_goals exact absurd hw (of_decide_eq_true rfl)

/-- Every command, with any outcome, is one step of the work. -/
theorem execute_work (hv : s.Valid) (r : CommandRequest) :
    Work.Step (work s) r.body.workEvent (work (execute hash r s).2) := by
  refine execute_invariant (D := workTables)
    (I := fun s' => Work.Step (work s) r.body.workEvent (work s')) (by decide) ?_ hv (.idle _) ?_
  · intro s₁ s₂ hrows hstep
    rw [work_congr hrows]
    exact hstep
  · intro s₁ cmd hst _ hw
    have hsame : work s₁=work s := by
      refine work_congr (fun t ht => ?_)
      rw [Db.rows,hst.same t (by revert t; decide)]
    rw [← hsame]
    exact action_refines hst.valid cmd hw

theorem Reaches.work_sound (h : Reaches hash ok s) : (work s).Sound := by
  induction h with
  | initial => constructor <;> intro i <;> simp [work,Store.initial,Db.find,Db.rows]
  | step h r _ ih => exact (execute_work h.valid r).sound ih

end Simulation

section Discipline
variable {hash : Bytes → Blake3Digest} {s : Store} {r : CommandRequest}

/-- Items, leases and attempts hang together, row by row. -/
structure WorkDiscipline (s : Store) : Prop where
  oneItem : ∀ x ∈ s.rows .workItems,∀ y ∈ s.rows .workItems,x.ticketId=y.ticketId → x=y
  oneLease : ∀ l ∈ s.rows .leases,∀ m ∈ s.rows .leases,l.lifecycleState=.active →
    m.lifecycleState=.active → l.workItemId=m.workItemId → l=m
  oneAttempt : ∀ a ∈ s.rows .attempts,∀ b ∈ s.rows .attempts,a.lifecycleState.isLive=true →
    b.lifecycleState.isLive=true → a.workItemId=b.workItemId → a=b
  leased : ∀ x ∈ s.rows .workItems,(x.lifecycleState=.claimed ∨ x.lifecycleState=.running) ↔
    ∃ l ∈ s.rows .leases,l.workItemId=x.workItemId ∧ l.lifecycleState=.active
  running : ∀ x ∈ s.rows .workItems,x.lifecycleState=.running ↔
    ∃ a ∈ s.rows .attempts,a.workItemId=x.workItemId ∧ a.lifecycleState.isLive=true
  held : ∀ a ∈ s.rows .attempts,a.lifecycleState.isLive=true → ∃ l ∈ s.rows .leases,
    l.workLeaseId=a.workLeaseId ∧ l.lifecycleState=.active ∧ l.workItemId=a.workItemId ∧
      l.actorInstanceId=a.actorInstanceId
  reserved : ∀ a ∈ s.rows .attempts,
    ∃! b,b ∈ s.rows .attemptBudgetReservations ∧ b.actorAttemptId=a.actorAttemptId
  unshared : ∀ b ∈ s.rows .attemptBudgetReservations,∀ d ∈ s.rows .attemptBudgetReservations,
    b.budgetReservationId=d.budgetReservationId → b=d

/-- The command settles, after a recovery, an attempt that is live. -/
def settlesLive (s : Store) : CommandBody → Bool
  | .studyTransition (.settleActorTaskAttemptAfterRecovery _ a _ _) =>
    (s.find .attempts a).any (·.lifecycleState.isLive)
  | _ => false

theorem unrecovered_of (h : settlesLive s r.body=false) : (work s).Unrecovered r.body.workEvent := by
  intro a y he ha
  obtain ⟨q,hq,rfl⟩ := Option.map_eq_some_iff.mp ha
  have hb : settlesLive s r.body=q.lifecycleState.isLive := by
    unfold CommandBody.workEvent at he
    split at he <;> cases he
    next o a c d hb => simp [hb,settlesLive,hq]
  exact hb ▸ h

/-- A new attempt comes with its reservation. -/
theorem startAttempt_reserves {cmd : CommandRowId} {g : ExpectedGeneration} {c : OperatingCycleId}
    (hv : s.Valid) (i : WorkItemId) (amount : UsdMicros) :
    Tx.wp (startAttempt cmd g c i amount) (fun _ s' => ∀ k,s'.has .attempts k=true →
      s.has .attempts k=true ∨ s'.has .attemptBudgetReservations k=true) s := by
  simp only [startAttempt,moveWorkItem,Tx.wp_bind,wp_coordinationCycle,wp_ticketRow,wp_workItemRow,
    wp_actorInstanceRow,wp_projectIsActive,Tx.wp_read,Tx.wp_the,Tx.wp_require,Tx.wp_widen]
  intro cycle _ _ _ x hx _ _ t ht _ _ _ hguard l hl
  refine Tx.wp_mono (Tx.wp_outside _ hv) ?_
  rintro reservation s₁ ⟨hsame,hv₁⟩
  simp only [Tx.wp_insert,Tx.wp_store,Tx.wp_update,Tx.wp_pure,wp_recordCoordinationProvenance]
  intro a ha _ _ _ _ k hk
  simp only [ne_eq,reduceCtorEq,not_false_eq_true,Db.has_append_ne,Db.has_modify_ne,Db.has_append,
    Bool.or_eq_true] at hk ⊢
  rcases hk with hk | hk
  · rw [Db.has,Db.rows,hsame .attempts (by decide)] at hk
    exact .inl hk
  · exact .inr (.inr hk)

theorem claimStudyActorTaskAttemptLaunch_reserves {cmd : CommandRowId} {g : ExpectedGeneration}
    {c : OperatingCycleId} (hv : s.Valid) (o : StudyActorObligationId) (i : WorkItemId)
    (amount : UsdMicros) (epoch : SupervisorEpochId) (identity : SupervisorEpochIdentity)
    (name : NativeWorkspaceId) (path : CanonicalWorkspacePath) :
    Tx.wp (claimStudyActorTaskAttemptLaunch cmd g o c i amount epoch identity name path)
      (fun _ s' => ∀ k,s'.has .attempts k=true →
        s.has .attempts k=true ∨ s'.has .attemptBudgetReservations k=true) s := by
  simp only [claimStudyActorTaskAttemptLaunch,requireSupervisorEpoch,requireQualifiedProfile,
    Tx.wp_bind,wp_coordinationCycle,Tx.wp_read,Tx.wp_require]
  intro cycle _ _ _ _ _ _ _
  refine Tx.wp_mono (registerWorkspace_outside hv _ _ _ _) ?_
  rintro _ s₁ ⟨hsame,hv₁⟩
  simp only [wp_workItemRow,wp_actorInstanceRow,Tx.wp_widen]
  intro _ _ _ _ _ _
  refine Tx.wp_mono (startAttempt_reserves hv₁ i amount) ?_
  rintro ⟨a,reservation⟩ s₂ hstep
  simp only [Tx.wp_insert,Tx.wp_pure]
  intro _ _ _ k hk
  simp only [ne_eq,reduceCtorEq,not_false_eq_true,Db.has_append_ne] at hk ⊢
  have := hstep k hk
  rwa [Db.has,Db.rows,hsame .attempts (by decide)] at this

/-- A command makes no attempt without a reservation. -/
theorem execute_reserves (hv : s.Valid) (hr : r.body.workEvent=.start) (k : Nat)
    (hk : (execute hash r s).2.has .attempts k=true) : s.has .attempts k=true ∨
      (execute hash r s).2.has .attemptBudgetReservations k=true := by
  refine execute_invariant (D := [.attempts,.attemptBudgetReservations])
    (I := fun s' => ∀ k,s'.has .attempts k=true →
      s.has .attempts k=true ∨ s'.has .attemptBudgetReservations k=true) (by decide) ?_ hv
    (fun _ hk => .inl hk) ?_ k hk
  · intro s₁ s₂ hrows h k hk
    rw [Db.has,hrows _ (by decide)] at hk
    rw [Db.has.eq_1 s₂,hrows _ (by decide)]
    exact h k hk
  · intro s₁ cmd hst hs hw
    clear hs hw
    have hsame : s₁.has .attempts=s.has .attempts := by
      funext k
      rw [Db.has,Db.rows,hst.same _ (by decide),Db.has]
    rw [← hsame]
    obtain ⟨i,p,k,q,g,b⟩ := r
    cases b
    case startActorAttempt =>
      simp only [CommandRequest.action,commandAction,startActorAttempt,Tx.wp_bind,Tx.wp_pure]
      exact startAttempt_reserves hst.valid _ _
    case claimStudyActorTaskAttemptLaunch =>
      exact claimStudyActorTaskAttemptLaunch_reserves hst.valid _ _ _ _ _ _ _
    case studyTransition c => cases c <;> cases hr
    all_goals cases hr

theorem attempt_reserved {ok : Store → CommandRequest → Prop} (h : Reaches hash ok s) (k : Nat)
    (hk : s.has .attempts k=true) : s.has .attemptBudgetReservations k=true := by
  induction h generalizing k with
  | initial => cases hk
  | @step s h r _ ih =>
    have hgrow := (execute_keeps hash r h.valid).1.has .attemptBudgetReservations k
    by_cases hr : r.body.workEvent=.start
    · rcases execute_reserves h.valid hr k hk with hold | hnew
      · exact hgrow (ih k hold)
      · exact hnew
    · obtain ⟨q,hq,rfl⟩ := Db.has_iff.mp hk
      obtain ⟨x,hx⟩ := Db.has_find (k := q.actorAttemptId).mp hk
      obtain ⟨y,hy⟩ := (execute_work h.valid r).attempt_old hr (work_attempt hx)
      obtain ⟨z,hz,_⟩ := Option.map_eq_some_iff.mp hy
      exact hgrow (ih _ (Db.has_find.mpr ⟨z,hz⟩))

theorem Reaches.work_attended (h : Reaches hash (fun s r => settlesLive s r.body=false) s) :
    (work s).Attended := by
  induction h with
  | initial => intro i; simp [work,Store.initial,Db.find,Db.rows]
  | step h r hok ih => exact (execute_work h.valid r).attended ih (unrecovered_of hok)

/-- Neither an attempt nor a reservation stands in two rows. -/
theorem attemptReservation_unique (hv : s.Valid) {b d : AttemptBudgetReservationRow}
    (hb : b ∈ s.rows .attemptBudgetReservations) (hd : d ∈ s.rows .attemptBudgetReservations)
    (h : b.actorAttemptId=d.actorAttemptId ∨ b.budgetReservationId=d.budgetReservationId) : b=d := by
  have hc (a b : AttemptBudgetReservationRow) : conflict Tbl.attemptBudgetReservations a b=
      (a.actorAttemptId==b.actorAttemptId || a.budgetReservationId==b.budgetReservationId) := rfl
  refine hv.exclusive (t := .attemptBudgetReservations) ?_ hb hd ?_
  · intro a b
    rw [hc,hc,Bool.beq_comm,Bool.beq_comm (a := a.budgetReservationId)]
  · rw [hc]
    simpa using h

/-- As long as no recovery settles a live attempt, rows of work keep the discipline. -/
theorem work_discipline (h : Reaches hash (fun s r => settlesLive s r.body=false) s) :
    WorkDiscipline s := by
  have hsound := h.work_sound
  have hv := h.valid
  have hitem {x : WorkItemRow} (hx : x ∈ s.rows .workItems) := work_item (hv.find_eq rfl hx rfl)
  have hlease {x : LeaseRow} (hx : x ∈ s.rows .leases) := work_lease (hv.find_eq rfl hx rfl)
  have hattempt {x : AttemptRow} (hx : x ∈ s.rows .attempts) := work_attempt (hv.find_eq rfl hx rfl)
  have hof {t : Tbl} {x y : Row t} (ht : serial t=true) (hx : x ∈ s.rows t) (hy : y ∈ s.rows t)
      {i j : Relational.Id t} (hi : key t x=i.val) (hj : key t y=j.val) (he : i=j) : x=y :=
    hv.key_injective ht hx hy (by rw [hi,hj,he])
  constructor
  case oneItem =>
    intro x hx y hy he
    exact hof rfl hx hy rfl rfl (hsound.oneItem _ _ _ _ (hitem hx) (hitem hy) he)
  case oneLease =>
    intro l hl m hm hact hact' he
    exact hof rfl hl hm rfl rfl (hsound.oneLease _ _ _ _ (hlease hl) (hlease hm) (by simp [hact])
      (by simp [hact']) he)
  case oneAttempt =>
    intro a ha b hb hlive hlive' he
    exact hof rfl ha hb rfl rfl (hsound.oneAttempt (hattempt ha) (hattempt hb) hlive hlive' he)
  case held =>
    intro a ha hlive
    obtain ⟨_,hl⟩ := hsound.live _ _ (hattempt ha) hlive
    obtain ⟨l,hl,he⟩ := Option.map_eq_some_iff.mp hl
    simp only [Lease.mk.injEq,beq_iff_eq] at he
    exact ⟨l,Db.find_mem hl,Relational.Id.ext (Db.find_key hl),he.2.2,he.1,he.2.1⟩
  case running =>
    intro x hx
    constructor
    · intro hrun
      obtain ⟨a,y,ha,hy,hlive⟩ := h.work_attended _ _ (hitem hx) hrun
      obtain ⟨q,hq,rfl⟩ := Option.map_eq_some_iff.mp ha
      exact ⟨q,Db.find_mem hq,hy,hlive⟩
    · rintro ⟨a,ha,he,hlive⟩
      obtain ⟨⟨y,hy,hrun⟩,_⟩ := hsound.live _ _ (hattempt ha) hlive
      simp only [he,hitem hx,Option.some.injEq] at hy
      rw [← hy] at hrun
      exact hrun
  case leased =>
    intro x hx
    constructor
    · intro hst
      obtain ⟨l,hl⟩ : ∃ l,(work s).lease l=some ⟨x.workItemId,x.actorInstanceId,true⟩ := by
        rcases hst with hst | hst
        · exact hsound.claimed _ _ (hitem hx) hst
        · obtain ⟨l,_,_,hl,_⟩ := hsound.running _ _ (hitem hx) hst
          exact ⟨l,hl⟩
      obtain ⟨q,hq,he⟩ := Option.map_eq_some_iff.mp hl
      simp only [Lease.mk.injEq,beq_iff_eq] at he
      exact ⟨q,Db.find_mem hq,he.1,he.2.2⟩
    · rintro ⟨l,hl,he,hact⟩
      obtain ⟨y,hy,hst,_⟩ := hsound.leased _ _ (hlease hl) (by simp [hact])
      simp only [he,hitem hx,Option.some.injEq] at hy
      rw [← hy] at hst
      exact hst
  case reserved =>
    intro a ha
    obtain ⟨b,hb,hk⟩ := Db.has_iff.mp (attempt_reserved h a.actorAttemptId.val
      (Db.has_iff.mpr ⟨a,ha,rfl⟩))
    have hkey : b.actorAttemptId=a.actorAttemptId := Relational.Id.ext hk
    refine ⟨b,⟨hb,hkey⟩,?_⟩
    rintro d ⟨hd,he⟩
    exact attemptReservation_unique hv hd hb (.inl (he.trans hkey.symm))
  case unshared =>
    intro b hb d hd he
    exact attemptReservation_unique hv hb hd (.inr he)

theorem work_discipline_opened : WorkDiscipline (runCommands blake3 workOpened Store.initial) :=
  work_discipline (Reaches.allowed .initial workOpened (allowed_of_forall (by
    simp [workOpened,founding,request,actorRequest,settlesLive]) _))

/-- The supervisor of a study's attempt is lost, and the attempt settled after the recovery. -/
def settledAttempt : List CommandRequest :=
  workOpened++childSpawned++studyOpened++
  [obligationRequest 47 (nth 1) .source oneSlot (micros 10),
   studyRequest 48 (.bindActorTaskAttemptRuntime (nth 1) (nth 1) (nth 1) (nth 1)),
   request 49 (.recordChildRecovery (nth 1) .parentageLost .absent) firstGeneration,
   studyRequest 50 (.settleActorTaskAttemptAfterRecovery (nth 1) (nth 1) (nth 1) (nth 1))]

/-- Its item keeps running with no attempt that is live. -/
theorem settledAttempt_unattended : ¬∀ s,Reachable blake3 s → WorkDiscipline s := by
  intro h
  have hsame : ∀ r∈settledAttempt,SameHash blake3 forumHash r := sameHash_all (by decide +kernel)
  have hall : acceptsAll forumHash (fun s => (s.rows .workItems).any (·.lifecycleState==.running) &&
      (s.rows .attempts).all (fun a => !a.lifecycleState.isLive)) settledAttempt Store.initial
        true=true := by
    decide +kernel
  rw [← acceptsAll_congr hsame] at hall
  have hrun := Bool.and_eq_true_iff.mp (acceptsAll_end _ hall)
  obtain ⟨x,hx,hstate⟩ := List.any_eq_true.mp hrun.1
  obtain ⟨a,ha,_,hlive⟩ := ((h _ (Reaches.runCommands .initial _)).running x hx).mp
    (beq_iff_eq.mp hstate)
  have hdead := List.all_eq_true.mp hrun.2 a ha
  rw [hlive] at hdead
  cases hdead

end Discipline

section Retry
variable {hash : Bytes → Blake3Digest} {s : Store} {r : CommandRequest}

/-- No attempt of the same item is younger than the one that the command retries. -/
def retriesLatest (s : Store) : CommandBody → Bool
  | .retryActorAttempt _ a => (s.find .attempts a).all (fun q =>
    (s.rows .attempts).all (fun b => b.workItemId≠q.workItemId || b.actorAttemptId.val≤a.val))
  | _ => true

def ticketCompleted (s : Store) (t : TicketId) : Prop :=
  ∃ q,s.find .tickets t=some q ∧ q.lifecycleState=.completed

theorem ticketCompleted_iff {t : TicketId} :
    ticketCompleted s t ↔ (work s).ticket t=some .completed := by
  simp [ticketCompleted,work]

theorem latest_of (h : retriesLatest s r.body=true) : (work s).Latest r.body.workEvent := by
  intro a y he ha b z hb hz
  obtain ⟨q,hq,rfl⟩ := Option.map_eq_some_iff.mp ha
  obtain ⟨x,hx,rfl⟩ := Option.map_eq_some_iff.mp hb
  unfold CommandBody.workEvent at he
  split at he <;> cases he
  next c a hbody =>
  rw [hbody] at h
  simp only [retriesLatest,hq] at h
  have hle := List.all_eq_true.mp h x (Db.find_mem hx)
  have hkey : x.actorAttemptId=b := Relational.Id.ext (Db.find_key hx)
  have hitem : x.workItemId=q.workItemId := hz
  simpa [hitem,hkey] using hle

theorem Reaches.work_earned (h : Reaches hash (fun s r => retriesLatest s r.body=true) s) :
    (work s).Earned := by
  induction h with
  | initial => constructor <;> intro i <;> simp [work,Store.initial,Db.find,Db.rows]
  | step h r hok ih => exact (execute_work h.valid r).earned h.work_sound ih (latest_of hok)

theorem Reaches.work_met (h : Reaches hash (fun s r => retriesLatest s r.body=true) s)
    (i : WorkItemId) (x : Item) (p : TicketId) (hi : (work s).item i=some x)
    (hp : (work s).prerequisite x.ticket p) : (work s).ticket p=some .completed := by
  induction h generalizing i x p with
  | initial => simp [work,Store.initial,Db.find,Db.rows] at hi
  | step h r hok ih =>
    exact (execute_work h.valid r).met h.work_sound h.work_earned (latest_of hok) ih i x p hi hp

theorem Reaches.ticket_completed (h : Reaches hash (fun s r => retriesLatest s r.body=true) s)
    (rs : List CommandRequest) (hok : Allowed hash (fun s r => retriesLatest s r.body=true) rs s)
    {t : TicketId} (ht : (work s).ticket t=some .completed) :
    (work (Kernel.runCommands hash rs s)).ticket t=some .completed := by
  induction rs generalizing s with
  | nil => exact ht
  | cons r rs ih =>
    exact ih (h.step r hok.1) hok.2
      ((execute_work h.valid r).completed h.work_sound h.work_earned (latest_of hok.1) ht)

/-- What is retried has failed. -/
theorem accepts_retryable (hv : s.Valid) (h : accepts hash s r) {c : OperatingCycleId}
    {a : ActorAttemptId} (hb : r.body=.retryActorAttempt c a) {q : AttemptRow}
    (hq : s.find .attempts a=some q) : q.lifecycleState.isRetryable=true := by
  refine accepts_wp (D := []) (P := fun _ => q.lifecycleState.isRetryable=true) (by simp)
    (fun _ _ _ h => h) hv h ?_
  intro s₁ cmd hst
  obtain ⟨i,p,k,cap,g,b⟩ := r
  cases hb
  have hq₁ : s₁.find .attempts a=some q := by
    rw [Db.find,Db.rows,hst.same _ (by decide)]
    exact hq
  simp only [CommandRequest.action,commandAction,retryActorAttempt,moveTicket,Tx.wp_bind,
    wp_coordinationCycle,wp_ticketRow,wp_actorAttemptRow,wp_workItemRow,wp_projectIsActive,
    Tx.wp_require,Tx.wp_update,Tx.wp_pure,wp_recordCoordinationProvenance,Bool.and_eq_true]
  intro _ _ _ _ a' ha' _ _ _ _ _ hguard _ _ _ _ _ _
  rw [hq₁] at ha'
  cases ha'
  exact hguard.2

/-- As long as every retry names the most recent attempt of its item, a completed ticket stays
completed, no result is retried away, and work starts only behind completed prerequisites. -/
theorem completed_tickets_final (h : Reaches hash (fun s r => retriesLatest s r.body=true) s) :
    (∀ rs t,Allowed hash (fun s r => retriesLatest s r.body=true) rs s → ticketCompleted s t →
      ticketCompleted (runCommands hash rs s) t) ∧
    (∀ r c a q,retriesLatest s r.body=true → accepts hash s r → r.body=.retryActorAttempt c a →
      s.find .attempts a=some q → ∀ b ∈ s.rows .attempts,b.workItemId=q.workItemId →
        b.actorAttemptId.val≤a.val ∧ b.lifecycleState≠.succeeded ∧ b.lifecycleState≠.validated) ∧
    ∀ x ∈ s.rows .workItems,∀ p ∈ s.rows .ticketPrerequisites,p.ticketId=x.ticketId →
      ticketCompleted s p.prerequisiteTicketId := by
  refine ⟨?_,?_,?_⟩
  · intro rs t hok ht
    exact ticketCompleted_iff.mpr (h.ticket_completed rs hok (ticketCompleted_iff.mp ht))
  · intro r c a q hok hacc hbody hq b hb he
    have hlatest := latest_of hok
    rw [hbody] at hlatest
    have hfind := work_attempt (h.valid.find_eq rfl hb rfl)
    refine ⟨hlatest a _ rfl (work_attempt hq) b.actorAttemptId _ hfind he,?_⟩
    exact not_or.mp (h.work_earned.no_result hlatest (work_attempt hq)
      (accepts_retryable h.valid hacc hbody hq) _ _ hfind he)
  · intro x hx p hp he
    exact ticketCompleted_iff.mpr (h.work_met _ _ _ (work_item (h.valid.find_eq rfl hx rfl))
      ⟨p,hp,he,rfl⟩)

/-- The first attempt fails, the second one completes the ticket. -/
def secondAttempt : List CommandRequest :=
  workOpened++
  [request 23 (.attestActorAttemptTerminal (nth 1) .failed),
   request 24 (.retryActorAttempt (nth 1) (nth 1)) firstGeneration,
   actorRequest 25 (.claimWorkItem (nth 1) (nth 1)) firstGeneration,
   request 26 (.startActorAttempt (nth 1) (nth 1) (micros 10)) firstGeneration,
   request 27 (.attestActorAttemptTerminal (nth 2) .succeeded),
   request 28 (.validateTicketAttempt (nth 1) (nth 2)) firstGeneration,
   request 29 (.completeTicket (nth 1) (nth 2)) firstGeneration]

/-- The run meets the condition, its ticket is completed, and a later retry reopens it. -/
theorem secondAttempt_evaluated :
    Allowed blake3 (fun s r => retriesLatest s r.body=true) secondAttempt Store.initial ∧
    ((runCommands blake3 secondAttempt Store.initial).find .tickets (nth 1)).any
      (·.lifecycleState==.completed)=true ∧
    ((execute blake3 (request 30 (.retryActorAttempt (nth 1) (nth 1)) firstGeneration)
      (runCommands blake3 secondAttempt Store.initial)).2.find .tickets (nth 1)).all
        (·.lifecycleState==.ready)=true := by
  have hall : allowsAll blake3 (fun s r => retriesLatest s r.body) (fun s =>
      (s.find .tickets (nth 1)).any (·.lifecycleState==.completed) &&
      ((execute blake3 (request 30 (.retryActorAttempt (nth 1) (nth 1)) firstGeneration) s).2.find
        .tickets (nth 1)).all (·.lifecycleState==.ready)) secondAttempt Store.initial true=true := by
    decide +kernel
  obtain ⟨-,hallowed,hend⟩ := allowsAll_allowed secondAttempt hall
  exact ⟨hallowed,Bool.and_eq_true_iff.mp hend⟩

theorem secondAttempt_completed :
    ticketCompleted (runCommands blake3 secondAttempt Store.initial) (nth 1) := by
  obtain ⟨q,hq,hstate⟩ := (Option.any_eq_true ..).mp secondAttempt_evaluated.2.1
  exact ⟨q,hq,beq_iff_eq.mp hstate⟩

theorem completed_tickets_final_secondAttempt :
    ticketCompleted (runCommands blake3 [] (runCommands blake3 secondAttempt Store.initial)) (nth 1) :=
  (completed_tickets_final (Reaches.allowed .initial _ secondAttempt_evaluated.1)).1 [] (nth 1) trivial
    secondAttempt_completed

theorem secondAttempt_reopened : ¬∀ s r t,Reachable blake3 s → ticketCompleted s t →
    ticketCompleted (execute blake3 r s).2 t := by
  intro h
  obtain ⟨q,hq,hstate⟩ := h _ (request 30 (.retryActorAttempt (nth 1) (nth 1)) firstGeneration)
    (nth 1) (Reaches.runCommands .initial _) secondAttempt_completed
  have hready := secondAttempt_evaluated.2.2
  rw [hq] at hready
  rw [beq_iff_eq.mp hready] at hstate
  cases hstate

end Retry
end Society.Kernel
