import Society.Resident.TaskAttemptScheduler

namespace Society.Resident
open Society.Kernel Society.Relational Society.Stateful

/-! What every run of the scheduler keeps: entries that only move forward, children that stay. -/

section Outcomes
variable {s : TaskAttemptScheduler}

/-- The states that may follow a state. -/
def TaskAttemptScheduleState.next : TaskAttemptScheduleState → List TaskAttemptScheduleState
  | .spawnPending => [.spawned,.containmentRequired]
  | .spawned => [.runtimeBound,.containmentRequired]
  | .runtimeBound => [.ready,.containmentRequired]
  | .ready => [.disposed,.containmentRequired]
  | .disposed => [.containmentRequired,.physicalReconciled]
  | .containmentRequired => [.physicalReconciled]
  | .physicalReconciled => [.reconciled]
  | .reconciled => []

/-- The place of a state in the order of the lifecycle. -/
@[simp] def TaskAttemptScheduleState.rank : TaskAttemptScheduleState → Nat
  | .spawnPending => 0
  | .spawned => 1
  | .runtimeBound => 2
  | .ready => 3
  | .disposed => 4
  | .containmentRequired => 5
  | .physicalReconciled => 6
  | .reconciled => 7

theorem TaskAttemptScheduleState.rank_le {a b : TaskAttemptScheduleState}
    (h : b=a ∨ b∈a.next) : a.rank≤b.rank := by
  cases a <;> cases b <;> revert h <;> decide

theorem TaskAttemptScheduleState.not_pending {a b : TaskAttemptScheduleState}
    (h : b=a ∨ b∈a.next) (ha : a≠.spawnPending) : b≠.spawnPending := by
  rintro rfl
  cases a <;> revert h ha <;> decide

theorem TaskAttemptScheduleState.two_le_rank {a : TaskAttemptScheduleState}
    (ha : a≠.spawnPending) (hs : a≠.spawned) : 2 ≤ a.rank := by
  cases a <;> revert ha hs <;> decide

/-- How a call that succeeds moves the state of its key. -/
def SchedulerCall.moves (key : TaskAttemptScheduleKey) (a b : TaskAttemptScheduleState) :
    SchedulerCall → Prop
  | .recordContainmentRequired k => k=key ∧ a∈[TaskAttemptScheduleState.spawned,.runtimeBound,
      .ready,.disposed] ∧ b=.containmentRequired
  | .recordRuntimeBound k => k=key ∧ a=.spawned ∧ b=.runtimeBound
  | .recordReady k => k=key ∧ a=.runtimeBound ∧ b=.ready
  | .recordDisposed k => k=key ∧ a=.ready ∧ b=.disposed
  | .recordPhysicalReconciled k => k=key ∧ a∈[TaskAttemptScheduleState.disposed,
      .containmentRequired] ∧ b=.physicalReconciled
  | .recordRuntimeReconciled k => k=key ∧ a=.physicalReconciled ∧ b=.reconciled
  | .drive _ k _ => k=key ∧ ∃ progress,TaskAttemptScheduler.progressed a progress=some b
  | _ => False

theorem progressed_next {a b : TaskAttemptScheduleState} {progress : TaskAttemptPiProgress}
    (h : TaskAttemptScheduler.progressed a progress=some b) : b=a ∨ b∈a.next := by
  cases a <;> cases progress <;> simp only [TaskAttemptScheduler.progressed] at h <;> cases h <;>
    decide

theorem SchedulerCall.moves_next {c : SchedulerCall} {key : TaskAttemptScheduleKey}
    {a b : TaskAttemptScheduleState} (h : c.moves key a b) : b=a ∨ b∈a.next := by
  cases c with
  | drive _ _ _ => exact progressed_next h.2.choose_spec
  | recordContainmentRequired _ =>
    obtain ⟨_,ha,rfl⟩ := h
    simp only [List.mem_cons,List.not_mem_nil,or_false] at ha
    rcases ha with rfl | rfl | rfl | rfl <;> decide
  | recordPhysicalReconciled _ =>
    obtain ⟨_,ha,rfl⟩ := h
    simp only [List.mem_cons,List.not_mem_nil,or_false] at ha
    rcases ha with rfl | rfl <;> decide
  | recordRuntimeBound _ => obtain ⟨_,rfl,rfl⟩ := h; decide
  | recordReady _ => obtain ⟨_,rfl,rfl⟩ := h; decide
  | recordDisposed _ => obtain ⟨_,rfl,rfl⟩ := h; decide
  | recordRuntimeReconciled _ => obtain ⟨_,rfl,rfl⟩ := h; decide
  | _ => exact h.elim

/-- What a call can do. -/
inductive Took (s : TaskAttemptScheduler) : SchedulerCall →
    Except TaskAttemptSchedulerError SchedulerAnswer → TaskAttemptScheduler → Prop
  | refused (c : SchedulerCall) (e : TaskAttemptSchedulerError) : Took s c (.error e) s
  | mismatched (driver : TaskAttemptPiDriver) (key : TaskAttemptScheduleKey)
      (receipt : TaskAttemptSpawnReceipt) : s.schedules key=none →
      driver.spawnTaskAttempt ⟨key⟩=.ok receipt → receipt.actorAttemptId≠key.actorAttemptId →
      Took s (.spawn driver key) (.error .driverIdentityMismatch)
        (s.set key (some ⟨some receipt,.containmentRequired⟩))
  | spawned (c : SchedulerCall) (key : TaskAttemptScheduleKey)
      (receipt : TaskAttemptSpawnReceipt) (answer : SchedulerAnswer) : s.schedules key=none →
      receipt.actorAttemptId=key.actorAttemptId → (∀ command,answer≠.issued command) →
      Took s c (.ok answer) (s.set key (some ⟨some receipt,.spawned⟩))
  | moved (c : SchedulerCall) (key : TaskAttemptScheduleKey) (entry : TaskAttemptScheduleEntry)
      (target : TaskAttemptScheduleState) (answer : SchedulerAnswer) :
      s.schedules key=some entry → c.moves key entry.state target →
      (∀ command,answer≠.issued command) →
      Took s c (.ok answer) (s.set key (some { entry with state := target }))
  | bindingIssued (key : TaskAttemptScheduleKey) (child : TaskAttemptSpawnReceipt) :
      s.schedules key=some ⟨some child,.spawned⟩ →
      Took s (.runtimeBindingCommand key) (.ok (.issued (.bindActorTaskAttemptRuntime
        key.obligationId key.actorAttemptId child.nativeChildId
        child.nativeChildSpawnAdmissionId))) s
  | reconciliationIssued (key : TaskAttemptScheduleKey) (child : TaskAttemptSpawnReceipt) :
      s.schedules key=some ⟨some child,.physicalReconciled⟩ →
      Took s (.runtimeReconciliationCommand key) (.ok (.issued (.reconcileActorRuntime
        key.obligationId child.nativeChildId))) s
  | observed (c : SchedulerCall) (answer : SchedulerAnswer) :
      (∀ command,answer≠.issued command) → Took s c (.ok answer) s

theorem set_schedules (key other : TaskAttemptScheduleKey)
    (entry : Option TaskAttemptScheduleEntry) :
    (s.set key entry).schedules other=if other=key then entry else s.schedules other := rfl

theorem set_set (key : TaskAttemptScheduleKey) (a b : Option TaskAttemptScheduleEntry) :
    (s.set key a).set key b=s.set key b := by
  unfold TaskAttemptScheduler.set
  congr 1
  funext other
  by_cases h : other=key <;> simp [h]

theorem set_same {key : TaskAttemptScheduleKey} {entry : Option TaskAttemptScheduleEntry}
    (h : s.schedules key=entry) : s.set key entry=s := by
  cases s
  unfold TaskAttemptScheduler.set
  congr 1
  funext other
  by_cases ho : other=key
  · rw [if_pos ho,ho,← h]
  · rw [if_neg ho]

theorem advance_wp (sources : List TaskAttemptScheduleState) (target : TaskAttemptScheduleState)
    (key : TaskAttemptScheduleKey) : Handler.wp (TaskAttemptScheduler.advance sources target key)
      (fun _ t => ∃ entry,s.schedules key=some entry ∧ entry.state∈sources ∧
        t=s.set key (some { entry with state := target })) (fun _ t => t=s) s := by
  simp only [TaskAttemptScheduler.advance,TaskAttemptScheduler.entry,TaskAttemptScheduler.insert,
    Handler.wp_bind,Handler.wp_get]
  cases hs : s.schedules key with
  | none => rfl
  | some entry =>
    simp only [Handler.wp_pure,Handler.wp_ensure,Handler.wp_modify]
    exact ⟨fun hstate => ⟨entry,rfl,hstate,rfl⟩,fun _ => trivial⟩

theorem command_wp (source : TaskAttemptScheduleState) (key : TaskAttemptScheduleKey)
    (body : TaskAttemptSpawnReceipt → StudyCommand) :
    Handler.wp (TaskAttemptScheduler.command source key body)
      (fun r t => t=s ∧ ∃ child,s.schedules key=some ⟨some child,source⟩ ∧ r=body child)
      (fun _ t => t=s) s := by
  simp only [TaskAttemptScheduler.command,TaskAttemptScheduler.entry,
    TaskAttemptScheduler.requireChild,Handler.wp_bind,Handler.wp_get]
  rcases hs : s.schedules key with _ | ⟨_ | child,state⟩
  · rfl
  · simp [Handler.wp_ensure]
  · simp only [Handler.wp_pure,Handler.wp_ensure]
    refine ⟨fun hstate => ?_,fun _ => trivial⟩
    subst hstate
    exact ⟨trivial,child,rfl,rfl⟩

theorem spawn_wp (driver : TaskAttemptPiDriver) (key : TaskAttemptScheduleKey) :
    Handler.wp (TaskAttemptScheduler.spawn driver key)
      (fun receipt t => s.schedules key=none ∧ receipt.actorAttemptId=key.actorAttemptId ∧
        t=s.set key (some ⟨some receipt,.spawned⟩))
      (fun e t => t=s ∨ e=.driverIdentityMismatch ∧ s.schedules key=none ∧
        ∃ receipt,driver.spawnTaskAttempt ⟨key⟩=.ok receipt ∧
          receipt.actorAttemptId≠key.actorAttemptId ∧
          t=s.set key (some ⟨some receipt,.containmentRequired⟩)) s := by
  simp only [TaskAttemptScheduler.spawn,TaskAttemptScheduler.requireUnscheduled,
    TaskAttemptScheduler.insert,Handler.wp_bind,Handler.wp_get,Handler.wp_ensure,
    Handler.wp_modify]
  refine ⟨fun hnone => ?_,fun _ => .inl trivial⟩
  cases hd : driver.spawnTaskAttempt ⟨key⟩ with
  | error failure =>
    simp only [Handler.wp_bind,Handler.wp_modify,Handler.wp_fail,set_set]
    exact .inl (set_same hnone)
  | ok receipt =>
    simp only [TaskAttemptScheduler.entry,Handler.wp_bind,Handler.wp_get,set_schedules,if_true,
      Handler.wp_pure]
    by_cases hid : receipt.actorAttemptId=key.actorAttemptId
    · simp only [hid,ne_eq,not_true_eq_false,if_false,Handler.wp_bind,Handler.wp_modify,
        Handler.wp_pure,set_set]
      exact ⟨hnone,trivial,trivial⟩
    · simp only [ne_eq,hid,not_false_eq_true,if_true,Handler.wp_bind,Handler.wp_modify,
        Handler.wp_fail,set_set]
      exact .inr ⟨trivial,hnone,receipt,rfl,hid,rfl⟩

theorem recordSpawned_wp (key : TaskAttemptScheduleKey) (receipt : TaskAttemptSpawnReceipt) :
    Handler.wp (TaskAttemptScheduler.recordSpawned key receipt)
      (fun _ t => s.schedules key=none ∧ receipt.actorAttemptId=key.actorAttemptId ∧
        t=s.set key (some ⟨some receipt,.spawned⟩)) (fun _ t => t=s) s := by
  simp only [TaskAttemptScheduler.recordSpawned,TaskAttemptScheduler.requireUnscheduled,
    TaskAttemptScheduler.insert,Handler.wp_bind,Handler.wp_get,Handler.wp_ensure,
    Handler.wp_modify]
  exact ⟨fun hnone => ⟨fun hid => ⟨hnone,hid,trivial⟩,fun _ => trivial⟩,fun _ => trivial⟩

theorem drive_wp (driver : TaskAttemptPiDriver) (key : TaskAttemptScheduleKey)
    (now : Custody.MonotonicTick) : Handler.wp (TaskAttemptScheduler.drive driver key now)
      (fun target t => ∃ entry progress,s.schedules key=some entry ∧
        TaskAttemptScheduler.progressed entry.state progress=some target ∧
        t=s.set key (some { entry with state := target })) (fun _ t => t=s) s := by
  simp only [TaskAttemptScheduler.drive,TaskAttemptScheduler.entry,
    TaskAttemptScheduler.requireChild,TaskAttemptScheduler.insert,Handler.wp_bind,Handler.wp_get]
  rcases hs : s.schedules key with _ | ⟨_ | child,state⟩
  · rfl
  · rfl
  · simp only [Handler.wp_pure,Handler.wp_ensure]
    refine ⟨fun _ => ?_,fun _ => trivial⟩
    cases driver.driveTaskAttempt child now with
    | error failure => rfl
    | ok progress =>
      cases hp : TaskAttemptScheduler.progressed state progress with
      | none => simp only [hp]; rfl
      | some target =>
        simp only [hp,Handler.wp_bind,Handler.wp_modify,Handler.wp_pure]
        exact ⟨_,progress,rfl,hp,rfl⟩

/-- The step lemma of the calls that advance a key. -/
theorem advance_took {sources : List TaskAttemptScheduleState} {target : TaskAttemptScheduleState}
    {key : TaskAttemptScheduleKey} {c : SchedulerCall}
    (hc : c.step=do TaskAttemptScheduler.advance sources target key; pure .recorded)
    (hmoves : ∀ a∈sources,c.moves key a target) :
    Handler.wp c.step (fun r t => Took s c (.ok r) t) (fun e t => Took s c (.error e) t) s := by
  rw [hc,Handler.wp_bind]
  refine Handler.wp_mono ?_ ?_ (advance_wp sources target key)
  · rintro _ _ ⟨entry,hentry,hstate,rfl⟩
    exact .moved c key entry target .recorded hentry (hmoves entry.state hstate) (by simp)
  · rintro e _ rfl
    exact .refused c e

theorem SchedulerCall.step_wp (c : SchedulerCall) :
    Handler.wp c.step (fun r t => Took s c (.ok r) t) (fun e t => Took s c (.error e) t) s := by
  cases c with
  | spawn driver key =>
    simp only [SchedulerCall.step,Handler.wp_bind,Handler.wp_pure]
    refine Handler.wp_mono ?_ ?_ (spawn_wp driver key)
    · rintro receipt _ ⟨hnone,hid,rfl⟩
      exact .spawned _ key receipt _ hnone hid (by simp)
    · rintro e _ (rfl | ⟨rfl,hnone,receipt,hreceipt,hid,rfl⟩)
      · exact .refused _ e
      · exact .mismatched driver key receipt hnone hreceipt hid
  | recordSpawned key receipt =>
    simp only [SchedulerCall.step,Handler.wp_bind,Handler.wp_pure]
    refine Handler.wp_mono ?_ ?_ (recordSpawned_wp key receipt)
    · rintro _ _ ⟨hnone,hid,rfl⟩
      exact .spawned _ key receipt _ hnone hid (by simp)
    · rintro e _ rfl
      exact .refused _ e
  | recordContainmentRequired key => exact advance_took rfl fun a ha => ⟨rfl,ha,rfl⟩
  | recordRuntimeBound key =>
    exact advance_took rfl fun a ha => ⟨rfl,List.mem_singleton.mp ha,rfl⟩
  | recordReady key => exact advance_took rfl fun a ha => ⟨rfl,List.mem_singleton.mp ha,rfl⟩
  | recordDisposed key => exact advance_took rfl fun a ha => ⟨rfl,List.mem_singleton.mp ha,rfl⟩
  | recordPhysicalReconciled key => exact advance_took rfl fun a ha => ⟨rfl,ha,rfl⟩
  | recordRuntimeReconciled key =>
    exact advance_took rfl fun a ha => ⟨rfl,List.mem_singleton.mp ha,rfl⟩
  | drive driver key now =>
    simp only [SchedulerCall.step,Handler.wp_bind,Handler.wp_pure]
    refine Handler.wp_mono ?_ ?_ (drive_wp driver key now)
    · rintro target _ ⟨entry,progress,hentry,hprogress,rfl⟩
      exact .moved _ key entry target _ hentry ⟨rfl,progress,hprogress⟩ (by simp)
    · rintro e _ rfl
      exact .refused _ e
  | runtimeBindingCommand key =>
    simp only [SchedulerCall.step,Handler.wp_bind,Handler.wp_pure]
    refine Handler.wp_mono ?_ ?_ (command_wp .spawned key _)
    · rintro _ _ ⟨rfl,child,hentry,rfl⟩
      exact .bindingIssued key child hentry
    · rintro e _ rfl
      exact .refused _ e
  | runtimeReconciliationCommand key =>
    simp only [SchedulerCall.step,Handler.wp_bind,Handler.wp_pure]
    refine Handler.wp_mono ?_ ?_ (command_wp .physicalReconciled key _)
    · rintro _ _ ⟨rfl,child,hentry,rfl⟩
      exact .reconciliationIssued key child hentry
    · rintro e _ rfl
      exact .refused _ e
  | state key =>
    simp only [SchedulerCall.step,TaskAttemptScheduler.state,TaskAttemptScheduler.entry,
      Handler.wp_bind,Handler.wp_get]
    cases s.schedules key with
    | none => exact .refused _ _
    | some entry => exact .observed _ _ (by simp)
  | child key =>
    simp only [SchedulerCall.step,TaskAttemptScheduler.child,TaskAttemptScheduler.entry,
      TaskAttemptScheduler.requireChild,Handler.wp_bind,Handler.wp_get]
    rcases s.schedules key with _ | ⟨_ | child,state⟩
    · exact .refused _ _
    · exact .refused _ _
    · exact .observed _ _ (by simp)

theorem SchedulerCall.step_took (c : SchedulerCall) (s : TaskAttemptScheduler) :
    Took s c (c.step s).1 (c.step s).2 := by
  have h := c.step_wp (s := s)
  unfold Handler.wp at h
  rcases hc : c.step s with ⟨_ | _,t⟩ <;> rw [hc] at h <;> exact h

end Outcomes

section Runs
variable {h : List SchedulerEntry} {s : TaskAttemptScheduler} {key : TaskAttemptScheduleKey}
  {entry : TaskAttemptScheduleEntry}

def RuntimeBound (h : List SchedulerEntry) (key : TaskAttemptScheduleKey) : Prop :=
  ∃ answer,(.recordRuntimeBound key,.ok answer)∈h

/-- The containment of a child, by its own record or by the answer of its spawn. -/
def Contained (h : List SchedulerEntry) (key : TaskAttemptScheduleKey) : Prop :=
  (∃ answer,(.recordContainmentRequired key,.ok answer)∈h) ∨
    ∃ driver,(.spawn driver key,.error .driverIdentityMismatch)∈h

/-- What the history tells of an entry. -/
structure EntryKept (h : List SchedulerEntry) (key : TaskAttemptScheduleKey)
    (entry : TaskAttemptScheduleEntry) : Prop where
  child : ∃ child,entry.child=some child
  started : entry.state≠.spawnPending
  owned : entry.state.rank≤4 → ∀ child,entry.child=some child →
    child.actorAttemptId=key.actorAttemptId
  bound : 2 ≤ entry.state.rank → entry.state.rank≤4 → RuntimeBound h key
  joined : 5 ≤ entry.state.rank → RuntimeBound h key ∨ Contained h key

theorem RuntimeBound.mono (hb : RuntimeBound h key) (x : SchedulerEntry) :
    RuntimeBound (h++[x]) key := by
  obtain ⟨answer,hmem⟩ := hb
  exact ⟨answer,List.mem_append_left _ hmem⟩

theorem Contained.mono (hc : Contained h key) (x : SchedulerEntry) : Contained (h++[x]) key := by
  rcases hc with ⟨answer,hmem⟩ | ⟨driver,hmem⟩
  · exact .inl ⟨answer,List.mem_append_left _ hmem⟩
  · exact .inr ⟨driver,List.mem_append_left _ hmem⟩

theorem EntryKept.mono (hk : EntryKept h key entry) (x : SchedulerEntry) :
    EntryKept (h++[x]) key entry where
  child := hk.child
  started := hk.started
  owned := hk.owned
  bound hlow hhigh := (hk.bound hlow hhigh).mono x
  joined hlow := (hk.joined hlow).imp (·.mono x) (·.mono x)

/-- Out of the spawned state lead the binding and the containment only. -/
theorem SchedulerCall.moves_spawned {c : SchedulerCall} {target : TaskAttemptScheduleState}
    (hm : c.moves key .spawned target) : c=.recordRuntimeBound key ∧ target=.runtimeBound ∨
      c=.recordContainmentRequired key ∧ target=.containmentRequired := by
  cases c with
  | recordRuntimeBound k => obtain ⟨rfl,_,rfl⟩ := hm; exact .inl ⟨rfl,rfl⟩
  | recordContainmentRequired k => obtain ⟨rfl,_,rfl⟩ := hm; exact .inr ⟨rfl,rfl⟩
  | recordPhysicalReconciled k => simp [SchedulerCall.moves] at hm
  | drive driver k now =>
    obtain ⟨_,progress,hprogress⟩ := hm
    cases progress <;> cases hprogress
  | _ => simp [SchedulerCall.moves] at hm

theorem EntryKept.moved (hk : EntryKept h key entry) {c : SchedulerCall}
    {target : TaskAttemptScheduleState} (hm : c.moves key entry.state target)
    (answer : SchedulerAnswer) :
    EntryKept (h++[(c,.ok answer)]) key { entry with state := target } := by
  have hnext := SchedulerCall.moves_next hm
  have hrank := TaskAttemptScheduleState.rank_le hnext
  have hpending := TaskAttemptScheduleState.not_pending hnext hk.started
  by_cases hspawned : entry.state=.spawned
  · rw [hspawned] at hm
    rcases SchedulerCall.moves_spawned hm with ⟨rfl,rfl⟩ | ⟨rfl,rfl⟩
    · have hbound : RuntimeBound (h++[(.recordRuntimeBound key,.ok answer)]) key :=
        ⟨answer,List.mem_append_right _ List.mem_cons_self⟩
      exact ⟨hk.child,hpending,fun _ => hk.owned (by rw [hspawned]; decide),fun _ _ => hbound,
        fun _ => .inl hbound⟩
    · have hcontained : Contained (h++[(.recordContainmentRequired key,.ok answer)]) key :=
        .inl ⟨answer,List.mem_append_right _ List.mem_cons_self⟩
      exact ⟨hk.child,hpending,fun hhigh => absurd hhigh (by simp),
        fun _ hhigh => absurd hhigh (by simp),fun _ => .inr hcontained⟩
  · have hlow := TaskAttemptScheduleState.two_le_rank hk.started hspawned
    have hjoined : RuntimeBound h key ∨ Contained h key := by
      by_cases hhigh : entry.state.rank≤4
      · exact .inl (hk.bound hlow hhigh)
      · exact hk.joined (by omega)
    refine ⟨hk.child,hpending,fun hhigh => hk.owned (hrank.trans hhigh),fun _ hhigh => ?_,
      fun _ => hjoined.imp (·.mono _) (·.mono _)⟩
    exact (hk.bound hlow (hrank.trans hhigh)).mono _

/-- One call keeps what the history tells of each entry. -/
theorem Took.kept {c : SchedulerCall} {r : Except TaskAttemptSchedulerError SchedulerAnswer}
    {t : TaskAttemptScheduler} (ht : Took s c r t)
    (hk : ∀ key entry,s.schedules key=some entry → EntryKept h key entry) :
    ∀ key entry,t.schedules key=some entry → EntryKept (h++[(c,r)]) key entry := by
  intro other entry hentry
  cases ht with
  | refused => exact (hk other entry hentry).mono _
  | bindingIssued => exact (hk other entry hentry).mono _
  | reconciliationIssued => exact (hk other entry hentry).mono _
  | observed => exact (hk other entry hentry).mono _
  | mismatched driver key receipt hnone hreceipt hid =>
    rw [set_schedules] at hentry
    split at hentry
    · next heq =>
      cases hentry
      rw [heq]
      exact ⟨⟨receipt,rfl⟩,(fun h => by cases h),fun hhigh => absurd hhigh (by simp),
        fun _ hhigh => absurd hhigh (by simp),
        fun _ => .inr (.inr ⟨driver,List.mem_append_right _ List.mem_cons_self⟩)⟩
    · exact (hk other entry hentry).mono _
  | spawned _ key receipt answer hnone hid =>
    rw [set_schedules] at hentry
    split at hentry
    · next heq =>
      cases hentry
      rw [heq]
      refine ⟨⟨receipt,rfl⟩,(fun h => by cases h),fun _ child hchild => ?_,fun hlow => absurd hlow (by simp),
        fun hlow => absurd hlow (by simp)⟩
      cases hchild
      exact hid
    · exact (hk other entry hentry).mono _
  | moved _ key entry₀ target answer hentry₀ hm =>
    rw [set_schedules] at hentry
    split at hentry
    · next heq =>
      cases hentry
      rw [heq]
      exact (hk key entry₀ hentry₀).moved hm answer
    · exact (hk other entry hentry).mono _

/-- An entry only moves forward, and its child stays. -/
theorem Took.forward {c : SchedulerCall} {r : Except TaskAttemptSchedulerError SchedulerAnswer}
    {t : TaskAttemptScheduler} (ht : Took s c r t) (hentry : s.schedules key=some entry) :
    ∃ entry',t.schedules key=some entry' ∧ entry'.child=entry.child ∧
      (entry'.state=entry.state ∨ entry'.state∈entry.state.next) := by
  have hfresh (other : TaskAttemptScheduleKey) (new : TaskAttemptScheduleEntry)
      (hnone : s.schedules other=none) : (s.set other (some new)).schedules key=some entry := by
    rw [set_schedules,if_neg]
    · exact hentry
    · rintro rfl
      cases hnone.symm.trans hentry
  cases ht with
  | refused => exact ⟨entry,hentry,rfl,.inl rfl⟩
  | bindingIssued => exact ⟨entry,hentry,rfl,.inl rfl⟩
  | reconciliationIssued => exact ⟨entry,hentry,rfl,.inl rfl⟩
  | observed => exact ⟨entry,hentry,rfl,.inl rfl⟩
  | mismatched driver other receipt hnone => exact ⟨entry,hfresh other _ hnone,rfl,.inl rfl⟩
  | spawned _ other receipt answer hnone => exact ⟨entry,hfresh other _ hnone,rfl,.inl rfl⟩
  | moved _ other entry₀ target answer hentry₀ hm =>
    rw [set_schedules]
    split
    · next heq =>
      rw [← heq,hentry] at hentry₀
      cases hentry₀
      exact ⟨_,rfl,rfl,SchedulerCall.moves_next hm⟩
    · exact ⟨entry,hentry,rfl,.inl rfl⟩

theorem SchedulerRun.kept (hr : SchedulerRun h s) :
    ∀ key entry,s.schedules key=some entry → EntryKept h key entry := by
  refine Reached.invariant
    (fun h s => ∀ key entry,s.schedules key=some entry → EntryKept h key entry) ?_ ?_ hr
  · rintro s rfl key entry hentry
    cases hentry
  · intro h s c _ _ hk
    exact Handler.wp_mono (fun _ _ ht => ht.kept hk) (fun _ _ ht => ht.kept hk) c.step_wp

theorem SchedulerRun.forward (calls : List SchedulerCall) (hentry : s.schedules key=some entry) :
    ∃ entry',(trace SchedulerCall.step h s calls).2.schedules key=some entry' ∧
      entry'.child=entry.child ∧ entry.state.rank≤entry'.state.rank := by
  induction calls generalizing h s entry with
  | nil => exact ⟨entry,hentry,rfl,le_rfl⟩
  | cons c calls ih =>
    obtain ⟨mid,hmid,hchild,hnext⟩ := (c.step_took s).forward hentry
    obtain ⟨last,hlast,hchild',hrank⟩ := ih (h := h++[(c,(c.step s).1)]) hmid
    exact ⟨last,hlast,hchild'.trans hchild,
      (TaskAttemptScheduleState.rank_le hnext).trans hrank⟩

/-- In every run entries only move forward and keep their child, a call that fails leaves the
scheduler alone unless it is a spawn whose child belongs to another attempt, and the two commands
are issued for a child of the key's attempt and for a runtime that was bound or contained. -/
theorem scheduler_lawful (hr : SchedulerRun h s) :
    (∀ c key entry,s.schedules key=some entry →
      ∃ entry',(SchedulerCall.step c s).2.schedules key=some entry' ∧
        (entry'.state=entry.state ∨ entry'.state∈entry.state.next)) ∧
    (∀ calls key entry,s.schedules key=some entry →
      ∃ entry',(trace SchedulerCall.step h s calls).2.schedules key=some entry' ∧
        entry'.child=entry.child ∧ entry.state.rank≤entry'.state.rank) ∧
    (∀ c e,(SchedulerCall.step c s).1=.error e → (SchedulerCall.step c s).2=s ∨
      e=.driverIdentityMismatch ∧ ∃ driver key receipt,c=.spawn driver key ∧
        s.schedules key=none ∧ driver.spawnTaskAttempt ⟨key⟩=.ok receipt ∧
        receipt.actorAttemptId≠key.actorAttemptId ∧
        (SchedulerCall.step c s).2=s.set key (some ⟨some receipt,.containmentRequired⟩)) ∧
    (∀ c obligationId actorAttemptId nativeChildId admissionId,
      (SchedulerCall.step c s).1=.ok (.issued (.bindActorTaskAttemptRuntime obligationId
        actorAttemptId nativeChildId admissionId)) →
      ∃ key child,c=.runtimeBindingCommand key ∧ s.schedules key=some ⟨some child,.spawned⟩ ∧
        child.actorAttemptId=key.actorAttemptId ∧ obligationId=key.obligationId ∧
        actorAttemptId=key.actorAttemptId ∧ nativeChildId=child.nativeChildId ∧
        admissionId=child.nativeChildSpawnAdmissionId) ∧
    ∀ c obligationId nativeChildId,(SchedulerCall.step c s).1=
        .ok (.issued (.reconcileActorRuntime obligationId nativeChildId)) →
      ∃ key child,c=.runtimeReconciliationCommand key ∧
        s.schedules key=some ⟨some child,.physicalReconciled⟩ ∧ obligationId=key.obligationId ∧
        nativeChildId=child.nativeChildId ∧ (RuntimeBound h key ∨ Contained h key) := by
  have hk := SchedulerRun.kept hr
  refine ⟨?_,fun calls _ _ hentry => SchedulerRun.forward calls hentry,?_,?_,?_⟩
  · intro c key entry hentry
    obtain ⟨entry',hentry',_,hnext⟩ := (c.step_took s).forward hentry
    exact ⟨entry',hentry',hnext⟩
  · intro c e he
    have ht := c.step_took s
    rw [he] at ht
    generalize (c.step s).2=t at ht ⊢
    cases ht with
    | refused => exact .inl rfl
    | mismatched driver key receipt hnone hreceipt hid =>
      exact .inr ⟨rfl,driver,key,receipt,rfl,hnone,hreceipt,hid,rfl⟩
  · intro c obligationId actorAttemptId nativeChildId admissionId hissued
    have ht := c.step_took s
    rw [hissued] at ht
    generalize (c.step s).2=t at ht
    cases ht with
    | spawned _ _ _ _ _ _ hanswer => exact (hanswer _ rfl).elim
    | moved _ _ _ _ _ _ _ hanswer => exact (hanswer _ rfl).elim
    | observed _ _ hanswer => exact (hanswer _ rfl).elim
    | bindingIssued key child hentry =>
      exact ⟨key,child,rfl,hentry,(hk key _ hentry).owned (by simp) child rfl,rfl,rfl,rfl,rfl⟩
  · intro c obligationId nativeChildId hissued
    have ht := c.step_took s
    rw [hissued] at ht
    generalize (c.step s).2=t at ht
    cases ht with
    | spawned _ _ _ _ _ _ hanswer => exact (hanswer _ rfl).elim
    | moved _ _ _ _ _ _ _ hanswer => exact (hanswer _ rfl).elim
    | observed _ _ hanswer => exact (hanswer _ rfl).elim
    | reconciliationIssued key child hentry =>
      exact ⟨key,child,rfl,hentry,rfl,rfl,(hk key _ hentry).joined (by simp)⟩

def sampleKey : TaskAttemptScheduleKey := ⟨⟨1,Id.one_valid⟩,⟨1,Id.one_valid⟩⟩

def sampleChild : TaskAttemptSpawnReceipt :=
  ⟨⟨1,Id.one_valid⟩,⟨1,Id.one_valid⟩,⟨1,Id.one_valid⟩⟩

/-- A driver that returns the child of another attempt. -/
def foreignDriver : TaskAttemptPiDriver where
  spawnTaskAttempt _ := .ok { sampleChild with actorAttemptId := ⟨2,Id.two_valid⟩ }
  driveTaskAttempt _ _ := .ok .waiting

/-- The child is contained before its runtime is bound. -/
def containedCalls : List SchedulerCall := [.recordSpawned sampleKey sampleChild,
  .recordContainmentRequired sampleKey,.recordPhysicalReconciled sampleKey]

def containedRun : List SchedulerEntry × TaskAttemptScheduler :=
  trace SchedulerCall.step [] .empty containedCalls

theorem containedRun_reached : SchedulerRun containedRun.1 containedRun.2 :=
  Reached.trace (fun _ _ _ _ => trivial) containedCalls (.start rfl) (passes_true containedCalls)

theorem scheduler_lawful_contained : ∃ entry',(trace SchedulerCall.step containedRun.1
      containedRun.2 [.recordRuntimeReconciled sampleKey]).2.schedules sampleKey=some entry' ∧
    entry'.child=some sampleChild ∧
    TaskAttemptScheduleState.physicalReconciled.rank≤entry'.state.rank :=
  (scheduler_lawful containedRun_reached).2.1 [.recordRuntimeReconciled sampleKey] sampleKey
    ⟨some sampleChild,.physicalReconciled⟩ rfl

/-- A spawn that fails leaves an entry behind, and a contained key is reconciled without a bound
runtime. -/
theorem mismatch_retained :
    (SchedulerCall.step (.spawn foreignDriver sampleKey) .empty).1=
      .error .driverIdentityMismatch ∧
    (SchedulerCall.step (.spawn foreignDriver sampleKey) .empty).2.schedules sampleKey≠
      TaskAttemptScheduler.empty.schedules sampleKey ∧
    SchedulerRun containedRun.1 containedRun.2 ∧ ¬RuntimeBound containedRun.1 sampleKey ∧
    (SchedulerCall.step (.runtimeReconciliationCommand sampleKey) containedRun.2).1=
      .ok (.issued (.reconcileActorRuntime sampleKey.obligationId sampleChild.nativeChildId)) := by
  refine ⟨rfl,(fun h => by cases h),containedRun_reached,?_,rfl⟩
  rintro ⟨answer,hmem⟩
  simp [containedRun,containedCalls,trace] at hmem

end Runs
end Society.Resident
