import Society.Kernel.Execute
import Society.Relational.Wp

namespace Society.Kernel
open Society.Relational Society.Coding

/-! The fresh schema and the states that sequences of commands reach from it. -/

section Initial

/-- Capability codes of the compiled grants: the bootstrap principal's first eight, then
the kernel service's. -/
def seededCodes : List Nat :=
  [1,2,3,4,5,6,7,8,17,18,19,20,21,22,38,46,54,55,58,59,62,63,64,66,67]++List.range' 69 46++
    [16,115,116,9,11,12,117]

def seededGrant (i : Fin 78) : CapabilityGrantRow where
  capabilityGrantId := ⟨i.val+1,Nat.succ_pos _,by have := i.isLt; unfold bigintLimit; omega⟩
  principalId := if i.val<8 then bootstrapPrincipal else kernelPrincipal
  capabilityKind := .ofNat (seededCodes.getD i.val 0-1)
  officeOccupancyId := none
  actorInstanceId := none
  grantState := .active
  grantOrigin := if i.val<8 then .compiledBootstrap else .compiledKernelService
  grantedByCommandId := none
  consumedByCommandId := none

def seededPrincipals : List PrincipalRow :=
  [{principalId := bootstrapPrincipal,principalKind := .bootstrap,
    displayName := ⟨"bootstrap_principal",by decide⟩,active := true},
   {principalId := kernelPrincipal,principalKind := .kernelService,
    displayName := ⟨"kernel_service",by decide⟩,active := true}]

def seededProfiles : List ExecutionProfileRow :=
  [{executionProfileId := ⟨1,Id.one_valid⟩,profileKind := .deterministicPiHostProcessDoubleV1,
    readiness := .deterministicFixtureOnly},
   {executionProfileId := ⟨2,Id.two_valid⟩,profileKind := .nativePinnedPiSdkV1,
    readiness := .unqualified},
   {executionProfileId := ⟨3,by decide⟩,
    profileKind := .deterministicEvaluatorProcessFixtureV1,readiness := .deterministicFixtureOnly}]

def Store.initial : Store
  | .principals => ⟨seededPrincipals,3⟩
  | .executionProfiles => ⟨seededProfiles,4⟩
  | .capabilityGrants => ⟨(List.finRange 78).map seededGrant,79⟩
  | _ => ⟨[],1⟩

theorem Store.initial_sound (t : Tbl) : Store.initial.sound t=true := by
  cases t <;> decide +kernel

theorem Store.initial_valid : Store.initial.Valid := Db.valid_of_sound Store.initial_sound

end Initial

section Spec
variable (hash : Bytes → Blake3Digest) {W : List Tbl} (s : Store) (cmd : CommandRowId)

/-- The state right after a command and its body are recorded. -/
def recorded (r : CommandRequest) : Store :=
  (s.append .commands (r.row hash cmd) (cmd.val+1)).append .commandBodies ⟨cmd,r.body⟩
    (s .commandBodies).next

/-- The command and its body pass the constraints of their tables. -/
def recordable (r : CommandRequest) : Prop :=
  s.admits .commands (r.row hash cmd)=true ∧
    (s.append .commands (r.row hash cmd) (cmd.val+1)).admits .commandBodies ⟨cmd,r.body⟩=true

def published (i : EventId) (n : Ordinal) (body : EventBody) : Store :=
  (s.append .events ⟨i,cmd,n⟩ (s .events).next).append .eventBodies ⟨i,body⟩ (s .eventBodies).next

def settled (d : CommandDisposition) : Store :=
  s.modify .commands (fun q => q.commandRowId==cmd) (fun q => some {q with disposition := d})

theorem insertCommand_wp (r : CommandRequest) (hc : .commands ∈ W) (hb : .commandBodies ∈ W) :
    Tx.wp (insertCommand hash r hc hb) (fun cmd s' => cmd.val=(s .commands).next ∧
      recordable hash s cmd r ∧ s'=recorded hash s cmd r) s := by
  simp only [insertCommand,Tx.wp_bind,Tx.wp_insert,Tx.wp_store,Tx.wp_pure]
  intro i hi ha hb
  exact ⟨hi,⟨ha,hb⟩,rfl⟩

theorem settleCommand_wp (d : CommandDisposition) (hc : .commands ∈ W) :
    Tx.wp (settleCommand cmd d hc) (fun c s' => c=⟨d,false⟩ ∧ s'=settled s cmd d) s := by
  simp only [settleCommand,Tx.wp_bind,Tx.wp_update]
  intro _
  simp [settled]

theorem insertEvent_wp (body : EventBody) (he : .events ∈ W) (hb : .eventBodies ∈ W) :
    Tx.wp (insertEvent cmd body he hb) (fun i s' =>
      i.val=nextNumber ((s.rows .events).map (·.eventId.val)) ∧
      ∃ n : Ordinal,n.val=nextNumber ((s.rows .events).map (·.eventSequence.val)) ∧
      s'=published s cmd i n body) s := by
  simp only [insertEvent,Tx.wp_bind,Tx.wp_read,Tx.wp_the,Tx.wp_store,Tx.wp_pure]
  intro n hn i hi _ _
  split at hi
  · cases hi
    exact ⟨rfl,n,Ranged.new_eq_some.mp hn,rfl⟩
  · cases hi

/-- What one call of `execute` can do. -/
inductive Executed (r : CommandRequest) : Except StoreError CommandReceipt → Store → Prop
  /-- The same command again. -/
  | replayed (q : CommandRow) (hq : storedCommand s r.commandId=some q)
      (hf : q.requestFingerprint=requestFingerprint hash r) : Executed r (.ok ⟨q.disposition,true⟩) s
  /-- Another command under a known identity. -/
  | conflict (q : CommandRow) (hq : storedCommand s r.commandId=some q)
      (hf : q.requestFingerprint≠requestFingerprint hash r) :
      Executed r (.error .idempotencyConflict) s
  /-- The transaction fails as a whole; only sequences remember it. -/
  | aborted (hq : storedCommand s r.commandId=none) (e : StoreError) (s₁ : Store)
      (hs : s.Le s₁) : Executed r (.error e) (s.rollback s₁)
  | rejected (hq : storedCommand s r.commandId=none) (cmd : CommandRowId)
      (hc : cmd.val=(s .commands).next) (ha : recordable hash s cmd r)
      (e : Rejection) (s₂ : Store)
      (hr : (applyCommand hash cmd r).run (recorded hash s cmd r)=(.error e,s₂)) :
      Executed r (.ok ⟨.rejected e,false⟩)
        (settled ((recorded hash s cmd r).rollback s₂) cmd (.rejected e))
  | accepted (hq : storedCommand s r.commandId=none) (cmd : CommandRowId)
      (hc : cmd.val=(s .commands).next) (ha : recordable hash s cmd r)
      (body : EventBody) (s₂ : Store)
      (hr : (applyCommand hash cmd r).run (recorded hash s cmd r)=(.ok body,s₂))
      (i : EventId) (hi : i.val=nextNumber ((s₂.rows .events).map (·.eventId.val)))
      (n : Ordinal) (hn : n.val=nextNumber ((s₂.rows .events).map (·.eventSequence.val))) :
      Executed r (.ok ⟨.accepted i,false⟩) (settled (published s₂ cmd i n body) cmd (.accepted i))

theorem executeNew_wp (r : CommandRequest) (hl : ∀ t ∈ ledger,t ∈ W)
    (hw : ∀ t ∈ r.writes hash,t ∈ W) (hq : storedCommand s r.commandId=none) :
    Tx.wp (executeNew hash r hl hw) (fun c s' => Executed hash s r (.ok c) s') s := by
  simp only [executeNew,Tx.wp_bind]
  refine Tx.wp_mono (insertCommand_wp hash s r _ _) ?_
  rintro cmd s₁ ⟨hc,ha,rfl⟩
  refine (Tx.wp_savepoint _ _).mpr ⟨?_,?_⟩
  · intro body s₂ hr
    simp only [Tx.wp_bind]
    refine Tx.wp_mono (insertEvent_wp s₂ cmd body _ _) ?_
    rintro i _ ⟨hi,n,hn,rfl⟩
    refine Tx.wp_mono (settleCommand_wp _ cmd _ _) ?_
    rintro c _ ⟨rfl,rfl⟩
    exact .accepted hq cmd hc ha body s₂ hr i hi n hn
  · intro e s₂ hr
    refine Tx.wp_mono (settleCommand_wp _ cmd _ _) ?_
    rintro c _ ⟨rfl,rfl⟩
    exact .rejected hq cmd hc ha e s₂ hr

theorem execute_eq (r : CommandRequest) : execute hash r s=Tx.commit (W := ledger++r.writes hash)
    (match storedCommand s r.commandId with
      | some q =>
        if q.requestFingerprint=requestFingerprint hash r then pure ⟨q.disposition,true⟩
        else Tx.raise .idempotencyConflict
      | none => executeNew hash r (fun _ h => List.mem_append_left _ h)
          (fun _ h => List.mem_append_right _ h)) s := rfl

theorem execute_new {r : CommandRequest} (hq : storedCommand s r.commandId=none) :
    execute hash r s=Tx.commit (executeNew (W := ledger++r.writes hash) hash r
      (fun _ h => List.mem_append_left _ h) (fun _ h => List.mem_append_right _ h)) s := by
  rw [execute_eq,hq]

theorem execute_executed (r : CommandRequest) :
    Executed hash s r (execute hash r s).1 (execute hash r s).2 := by
  cases hq : storedCommand s r.commandId with
  | some q =>
    rw [execute_eq,hq]
    by_cases hf : q.requestFingerprint=requestFingerprint hash r
    · simp only [hf,if_true]
      exact .replayed q hq hf
    · simp only [hf,if_false]
      exact .conflict q hq hf
  | none =>
    rw [execute_new hash s hq]
    unfold Tx.commit
    split
    · next c s' hr => exact executeNew_wp hash s r _ _ hq c s' hr
    · next e s' hr =>
      refine .aborted hq e s' ?_
      have hg := Tx.grows (executeNew (W := ledger++r.writes hash) hash r
        (fun _ h => List.mem_append_left _ h) (fun _ h => List.mem_append_right _ h)) s
      rwa [hr] at hg

end Spec

section Reach
variable (hash : Bytes → Blake3Digest)

/-- The states of the runs whose requests all satisfy `ok` where they are executed. -/
inductive Reaches (ok : Store → CommandRequest → Prop) : Store → Prop
  | initial : Reaches ok Store.initial
  | step {s : Store} (h : Reaches ok s) (r : CommandRequest) (hr : ok s r) :
      Reaches ok (execute hash r s).2

/-- Every state that commands can lead to, with any outcome. -/
abbrev Reachable : Store → Prop := Reaches hash (fun _ _ => True)

/-- `r` is accepted in `s`, as a new command. -/
def accepts (s : Store) (r : CommandRequest) : Prop :=
  ∃ i,(execute hash r s).1=.ok ⟨.accepted i,false⟩

theorem execute_keeps (r : CommandRequest) {s : Store} (hv : s.Valid) :
    s.Le (execute hash r s).2 ∧ (execute hash r s).2.Valid := by
  unfold execute Tx.commit
  split
  · next c s' hr =>
    exact ⟨Tx.wp_le _ _ _ hr,Tx.wp_valid _ hv _ _ hr⟩
  · next e s' hr =>
    have hg := Tx.grows (executeInTransaction (W := ledger++r.writes hash) hash r
      (fun _ h => List.mem_append_left _ h) (fun _ h => List.mem_append_right _ h)) s
    rw [hr] at hg
    exact ⟨Db.rollback_le hg,Db.rollback_valid hv hg⟩

variable {hash} {ok : Store → CommandRequest → Prop} {s : Store}

theorem Reaches.valid (h : Reaches hash ok s) : s.Valid := by
  induction h with
  | initial => exact Store.initial_valid
  | step _ r _ ih => exact (execute_keeps hash r ih).2

theorem recorded_other (s : Store) (cmd : CommandRowId) (r : CommandRequest) {t : Tbl}
    (ht : t ∉ ledger) : recorded hash s cmd r t=s t := by
  have hc : t≠.commands := by rintro rfl; exact ht (by decide)
  have hb : t≠.commandBodies := by rintro rfl; exact ht (by decide)
  simp [recorded,Db.append,hc,hb]

theorem settled_other (s : Store) (cmd : CommandRowId) (d : CommandDisposition) {t : Tbl}
    (ht : t ∉ ledger) : settled s cmd d t=s t := by
  have hc : t≠.commands := by rintro rfl; exact ht (by decide)
  simp [settled,Db.modify,hc]

theorem published_other (s : Store) (cmd : CommandRowId) (i : EventId) (n : Ordinal)
    (body : EventBody) {t : Tbl} (ht : t ∉ ledger) : published s cmd i n body t=s t := by
  have hc : t≠.events := by rintro rfl; exact ht (by decide)
  have hb : t≠.eventBodies := by rintro rfl; exact ht (by decide)
  simp [published,Db.append,hc,hb]

theorem recorded_valid {cmd : CommandRowId} {r : CommandRequest} (hv : s.Valid)
    (hc : cmd.val=(s .commands).next) (ha : recordable hash s cmd r) :
    (recorded hash s cmd r).Valid := by
  have hv₁ : (s.append .commands (r.row hash cmd) (cmd.val+1)).Valid :=
    Db.append_valid hv (by omega) (fun _ => ⟨hc,by omega⟩) ha.1
  exact Db.append_valid hv₁ (by simp [Db.append]) (fun h => by cases h) ha.2

/-- An accepted command of `s`, at the state `s₁` in which its transition starts. -/
structure Step (hash : Bytes → Blake3Digest) (s : Store) (r : CommandRequest) (s₁ : Store) :
    Prop where
  accepted : accepts hash s r
  same : ∀ t,t ∉ ledger → s₁ t=s t
  valid : s₁.Valid
  authorized : ∃ g,authorize s₁ r=.ok g

/-- What a transition establishes outlives the consumption of the grant. -/
theorem applyCommand_wp {P : Store → Prop} {D : List Tbl} {cmd : CommandRowId}
    {r : CommandRequest} (hD : .capabilityGrants ∉ D)
    (hP : ∀ s s' : Store,(∀ t ∈ D,s'.rows t=s.rows t) → P s → P s')
    (hstep : ∀ g,authorize s r=.ok g → Tx.wp ((r.action hash).body cmd) (fun _ s' => P s') s) :
    Tx.wp (applyCommand hash cmd r) (fun _ s' => P s') s := by
  simp only [applyCommand,Tx.wp_bind,Tx.wp_query,Tx.wp_widen,Tx.wp_pure]
  intro g hg
  refine Tx.wp_mono (hstep g hg) ?_
  intro e s₁ h₁ _ s₂ hr
  refine hP s₁ s₂ (fun t ht => ?_) h₁
  have hf := Tx.wp_frame (consumeGrant cmd r g) (s := s₁) (t := t)
    (fun h => hD (List.mem_singleton.mp h ▸ ht)) _ s₂ hr
  rw [Db.rows,hf]

/-- What the transition of an accepted command establishes holds after the command. -/
theorem accepts_wp {P : Store → Prop} {D : List Tbl}
    (hD : ∀ t ∈ D,t ∉ Tbl.capabilityGrants::ledger)
    (hP : ∀ s s' : Store,(∀ t ∈ D,s'.rows t=s.rows t) → P s → P s') (hv : s.Valid)
    {r : CommandRequest} (h : accepts hash s r) (hstep : ∀ s₁ cmd,Step hash s r s₁ →
      Tx.wp ((r.action hash).body cmd) (fun _ s' => P s') s₁) : P (execute hash r s).2 := by
  have hL : ∀ t ∈ D,t ∉ ledger := fun t ht hl => hD t ht (List.mem_cons_of_mem _ hl)
  have hx := execute_executed hash s r
  obtain ⟨i,ho⟩ := h
  generalize hr : (execute hash r s).1=o at hx
  generalize (execute hash r s).2=s' at hx
  rw [hr] at ho
  cases hx with
  | replayed q hq hf => simp at ho
  | conflict q hq hf => simp at ho
  | aborted hq e s₁ hle => simp at ho
  | rejected hq cmd hc ha e s₂ hrun => simp at ho
  | accepted hq cmd hc ha body s₂ hrun j hj n hn =>
    refine hP s₂ _ (fun t ht => ?_) ?_
    · rw [Db.rows,settled_other _ _ _ (hL t ht),published_other _ _ _ _ _ (hL t ht)]
    · refine applyCommand_wp (fun h => hD _ h List.mem_cons_self) hP ?_ body s₂ hrun
      intro g hg
      exact hstep _ cmd ⟨⟨j,hr⟩,fun t ht => recorded_other s cmd r ht,recorded_valid hv hc ha,g,hg⟩

/-- A command that is not accepted writes nothing but the ledger. -/
theorem execute_refused {r : CommandRequest} (h : ¬accepts hash s r) (t : Tbl) (ht : t ∉ ledger) :
    (execute hash r s).2.rows t=s.rows t := by
  have hx := execute_executed hash s r
  generalize ho : (execute hash r s).1=o at hx
  generalize (execute hash r s).2=s' at hx
  cases hx with
  | replayed q hq hf => rfl
  | conflict q hq hf => rfl
  | aborted hq e s₁ hle => rfl
  | rejected hq cmd hc ha e s₂ hr =>
    rw [Db.rows,settled_other _ _ _ ht,← Db.rows,Db.rollback_rows,Db.rows,recorded_other s cmd r ht]
  | accepted hq cmd hc ha body s₂ hrun i hi n hn => exact absurd ⟨i,ho⟩ h

/-- What one command keeps. `I` reads the rows of `D` only, so a transition that does not
write `D` keeps it, and so does everything that a command does to the ledger. -/
theorem execute_invariant {I : Store → Prop} {D : List Tbl}
    (hD : ∀ t ∈ D,t ∉ Tbl.capabilityGrants::ledger)
    (hI : ∀ s s' : Store,(∀ t ∈ D,s'.rows t=s.rows t) → I s → I s') (hv : s.Valid) (hs : I s)
    {r : CommandRequest} (hstep : ∀ s₁ cmd,Step hash s r s₁ → I s₁ →
      (∃ t ∈ D,t ∈ (r.action hash).writes) →
      Tx.wp ((r.action hash).body cmd) (fun _ s' => I s') s₁) : I (execute hash r s).2 := by
  have hL : ∀ t ∈ D,t ∉ ledger := fun t ht hl => hD t ht (List.mem_cons_of_mem _ hl)
  by_cases ha : accepts hash s r
  · refine accepts_wp hD hI hv ha (fun s₁ cmd hst => ?_)
    have hs₁ : I s₁ := hI s s₁ (fun t ht => by rw [Db.rows,hst.same t (hL t ht)]) hs
    by_cases hw : ∃ t ∈ D,t ∈ (r.action hash).writes
    · exact hstep s₁ cmd hst hs₁ hw
    · intro e s' hr
      refine hI s₁ s' (fun t ht => ?_) hs₁
      have hf := Tx.wp_frame ((r.action hash).body cmd) (s := s₁)
        (fun h => hw ⟨t,ht,h⟩) e s' hr
      rw [Db.rows,hf]
  · exact hI s _ (fun t ht => execute_refused ha t (hL t ht)) hs

/-- A study command does what its own transition does. -/
theorem studyTransition_wp {Q : Store → Prop} {p : PrincipalId} {g : ExpectedGeneration}
    {c : StudyCommand} {cmd : CommandRowId}
    (h : Tx.wp ((studyAction hash c).body cmd) (fun _ s' => Q s') s) :
    Tx.wp ((commandAction hash p g (.studyTransition c)).body cmd) (fun _ s' => Q s') s := by
  refine (Tx.wp_bind ..).mpr (Tx.wp_mono h ?_)
  intro e s' hq
  exact (Tx.wp_pure ..).mpr hq

/-- The rule of invariants: what holds at first and is kept by each accepted transition
that writes the tables it reads holds in every state of a run. -/
theorem Reaches.invariant {I : Store → Prop} {D : List Tbl}
    (hD : ∀ t ∈ D,t ∉ Tbl.capabilityGrants::ledger)
    (hI : ∀ s s' : Store,(∀ t ∈ D,s'.rows t=s.rows t) → I s → I s') (h₀ : I Store.initial)
    (hstep : ∀ s r s₁ cmd,Reaches hash ok s → ok s r → Step hash s r s₁ → I s₁ →
      (∃ t ∈ D,t ∈ (r.action hash).writes) →
      Tx.wp ((r.action hash).body cmd) (fun _ s' => I s') s₁)
    (h : Reaches hash ok s) : I s := by
  induction h with
  | initial => exact h₀
  | @step s h r hok ih =>
    exact execute_invariant hD hI h.valid ih (fun s₁ cmd => hstep s r s₁ cmd h hok)

/-- The state after a list of commands. -/
def runCommands (hash : Bytes → Blake3Digest) (rs : List CommandRequest) (s : Store) : Store :=
  rs.foldl (fun s r => (execute hash r s).2) s

theorem Reaches.runCommands (h : Reachable hash s) (rs : List CommandRequest) :
    Reachable hash (runCommands hash rs s) := by
  induction rs generalizing s with
  | nil => exact h
  | cons r rs ih => exact ih (h.step r trivial)

/-- `ok` holds before each command of the list. -/
def Allowed (hash : Bytes → Blake3Digest) (ok : Store → CommandRequest → Prop) :
    List CommandRequest → Store → Prop
  | [],_ => True
  | r::rs,s => ok s r ∧ Allowed hash ok rs (execute hash r s).2

instance [∀ s r,Decidable (ok s r)] : (rs : List CommandRequest) → (s : Store) →
    Decidable (Allowed hash ok rs s)
  | [],_ => isTrue trivial
  | r::rs,s =>
    have := instDecidableAllowed rs (execute hash r s).2
    inferInstanceAs (Decidable (ok s r ∧ Allowed hash ok rs (execute hash r s).2))

theorem Reaches.allowed (h : Reaches hash ok s) (rs : List CommandRequest)
    (hok : Allowed hash ok rs s) : Reaches hash ok (Kernel.runCommands hash rs s) := by
  induction rs generalizing s with
  | nil => exact h
  | cons r rs ih => exact ih (h.step r hok.1) hok.2

theorem allowed_of_forall {rs : List CommandRequest} (h : ∀ r∈rs,∀ s,ok s r) (s : Store) :
    Allowed hash ok rs s := by
  induction rs generalizing s with
  | nil => trivial
  | cons r rs ih =>
    obtain ⟨hr,hrs⟩ := List.forall_mem_cons.mp h
    exact ⟨hr s,ih hrs _⟩

/-- Whether `ok` holds before each command of the list, and `p` at the end. -/
def allowsAll (hash : Bytes → Blake3Digest) (ok : Store → CommandRequest → Bool) (p : Store → Bool) :
    List CommandRequest → Store → Bool → Bool
  | [],s,b => b && p s
  | r::rs,s,b => allowsAll hash ok p rs (execute hash r s).2 (b && ok s r)

theorem allowsAll_allowed {ok : Store → CommandRequest → Bool} {p : Store → Bool}
    (rs : List CommandRequest) {b : Bool} (h : allowsAll hash ok p rs s b=true) :
    b=true ∧ Allowed hash (fun s r => ok s r=true) rs s ∧
      p (Kernel.runCommands hash rs s)=true := by
  induction rs generalizing s b with
  | nil =>
    obtain ⟨hb,hp⟩ := Bool.and_eq_true_iff.mp h
    exact ⟨hb,trivial,hp⟩
  | cons r rs ih =>
    obtain ⟨hboth,hrest,hp⟩ := ih h
    obtain ⟨hb,hok⟩ := Bool.and_eq_true_iff.mp hboth
    exact ⟨hb,⟨hok,hrest⟩,hp⟩

def isAccepted : Except StoreError CommandReceipt → Bool
  | .ok ⟨.accepted _,false⟩ => true
  | _ => false

/-- All commands of the list are accepted, and `p` holds at the end. -/
-- The flag is passed along and `p` looked at in every state, so that a reduction meets the
-- states one after the other.
def acceptsAll (hash : Bytes → Blake3Digest) (p : Store → Bool) :
    List CommandRequest → Store → Bool → Bool
  | [],s,b => b && p s
  | r::rs,s,b =>
    acceptsAll hash p rs (execute hash r s).2 (b && (p s || true) && isAccepted (execute hash r s).1)

theorem acceptsAll_end {p : Store → Bool} (rs : List CommandRequest) {b : Bool}
    (h : acceptsAll hash p rs s b=true) : p (Kernel.runCommands hash rs s)=true := by
  induction rs generalizing s b with
  | nil => exact (Bool.and_eq_true_iff.mp h).2
  | cons r rs ih => exact ih h

end Reach

section Awareness
open Blake3

/-- The chaining values along the blocks of the awareness text. -/
def awarenessStates : List (List Word) :=
  [initialWords,
   [2084096414,4131500957,1856758671,3765341269,827546557,3509917742,3204194899,2951457642],
   [1979013401,694383019,2337437017,262627418,2498466731,1778317704,632404140,1939513570],
   [3015337906,1924796037,883508122,2472326145,1585825602,4250134110,1451805894,3976535408],
   [3245105202,469070969,733063896,2749054344,342782562,1638033037,881836960,841927877],
   [128802395,2140571541,1136635329,1342213642,1502716630,47806432,253517901,2029327509],
   [217786086,2307354713,726664571,327008048,3752505943,3765532274,3801096076,2440182067],
   [2909769656,3908675839,3424941748,1672534453,3135679,2223631665,1740571001,3178729945],
   [4132690882,614962581,2963490231,283623116,2763919031,3741764786,3609956607,3934709971]]

def awarenessDigest : Blake3Digest :=
  ⟨(awarenessStates.getD 8 []).flatMap littleEndian,by decide +kernel⟩

/-- What BLAKE3 gives on the awareness text. -/
theorem blake3_awareness : blake3 (utf8 forumF0Awareness)=awarenessDigest := by
  have hchained : chained 0 8 true initialWords (utf8 forumF0Awareness) awarenessStates.tail=true := by
    unfold forumF0Awareness
    rw [utf8_ofList]
    decide +kernel
  simp only [blake3,awarenessDigest,digest_chained (by decide) hchained]
  rfl

/-- The chaining values along the blocks of the tool contract. -/
def toolContractStates : List (List Word) :=
  [[1523011588,201604566,4233322803,1280957547,1310115663,1902464250,136443889,2893162474],
   [1321857866,2224820467,3941899233,2198897343,3000004332,4129300073,3684817996,753347673],
   [1332121203,3741957734,3840276663,3609277831,224457145,3369098552,3397393572,3194385672]]

def toolContractDigest : Blake3Digest :=
  ⟨(toolContractStates.getD 2 []).flatMap littleEndian,by decide +kernel⟩

theorem blake3_toolContract : blake3 (utf8 forumF0ToolContract)=toolContractDigest := by
  have hchained : chained 0 8 true initialWords (utf8 forumF0ToolContract) toolContractStates=true := by
    unfold forumF0ToolContract
    rw [utf8_ofList]
    decide +kernel
  simp only [blake3,toolContractDigest,digest_chained (by decide) hchained]
  rfl

/-- Decides by the first byte; the two texts of the forum begin unlike a request. -/
def forumHash (b : Bytes) : Blake3Digest :=
  if b.head?=some 89 then awarenessDigest
  else if b.head?=some 115 then toolContractDigest
  else blake3 b

theorem awareness_head : (utf8 forumF0Awareness).head?=some 89 := by
  unfold forumF0Awareness
  rw [utf8_ofList]
  decide +kernel

theorem toolContract_head : (utf8 forumF0ToolContract).head?=some 115 := by
  unfold forumF0ToolContract
  rw [utf8_ofList]
  decide +kernel

theorem forumHash_awareness : forumF0AwarenessDigest blake3=forumF0AwarenessDigest forumHash := by
  rw [forumF0AwarenessDigest,forumF0AwarenessDigest,forumHash,if_pos awareness_head,blake3_awareness]

theorem forumHash_toolContract :
    forumF0ToolContractDigest blake3=forumF0ToolContractDigest forumHash := by
  have hother : (utf8 forumF0ToolContract).head?≠some 89 := by rw [toolContract_head]; decide
  rw [forumF0ToolContractDigest,forumF0ToolContractDigest,forumHash,if_neg hother,
    if_pos toolContract_head,blake3_toolContract]

end Awareness

section Hashes
variable {hash hash' : Bytes → Blake3Digest} {r : CommandRequest}

/-- Two hash functions between which a request cannot tell. -/
structure SameHash (hash hash' : Bytes → Blake3Digest) (r : CommandRequest) : Prop where
  fingerprint : requestFingerprint hash r=requestFingerprint hash' r
  action : r.action hash=r.action hash'

theorem execute_congr (h : SameHash hash hash' r) (s : Store) :
    execute hash r s=execute hash' r s := by
  unfold execute executeInTransaction executeNew insertCommand applyCommand CommandRequest.row
    CommandRequest.writes
  generalize_proofs
  generalize hA : r.action hash=A at *
  generalize hA' : r.action hash'=A' at *
  have hsame : A=A' := by rw [← hA,← hA',h.action]
  subst hsame
  rw [h.fingerprint]

theorem acceptsAll_congr {p : Store → Bool} {rs : List CommandRequest}
    (h : ∀ r∈rs,SameHash hash hash' r) (s : Store) (b : Bool) :
    acceptsAll hash p rs s b=acceptsAll hash' p rs s b := by
  induction rs generalizing s b with
  | nil => rfl
  | cons r rs ih =>
    obtain ⟨hr,hrs⟩ := List.forall_mem_cons.mp h
    rw [acceptsAll,acceptsAll,execute_congr hr]
    exact ih hrs _ _

/-- The command hashes no text but those of the forum. -/
def CommandBody.hashesTexts : CommandBody → Bool
  | .studyTransition (.publishForumMessage ..) | .studyTransition (.releaseMatchedCorrection ..)
  | .studyTransition (.readForum ..) | .studyTransition (.recordDecision ..)
  | .studyTransition (.revealGroundTruth ..) | .studyTransition (.forkEpisode ..) => false
  | _ => true

theorem action_congr (hawareness : forumF0AwarenessDigest hash=forumF0AwarenessDigest hash')
    (htool : forumF0ToolContractDigest hash=forumF0ToolContractDigest hash')
    (hbody : r.body.hashesTexts=true) : r.action hash=r.action hash' := by
  obtain ⟨i,p,k,q,g,b⟩ := r
  cases b
  case studyTransition c =>
    cases c
    case admitProtocolRevision =>
      have hprotocol : admitProtocolRevision hash=admitProtocolRevision hash' := by
        unfold admitProtocolRevision
        rw [hawareness,htool]
      unfold CommandRequest.action commandAction studyAction
      rw [hprotocol]
    case publishForumMessage => cases hbody
    case releaseMatchedCorrection => cases hbody
    case readForum => cases hbody
    case recordDecision => cases hbody
    case revealGroundTruth => cases hbody
    case forkEpisode => cases hbody
    all_goals rfl
  all_goals rfl

theorem sameHash_forum (hput : (put r).head?=some 0) (hbody : r.body.hashesTexts=true) :
    SameHash blake3 forumHash r where
  fingerprint := by
    rw [requestFingerprint,requestFingerprint,forumHash,hput,if_neg (by decide),if_neg (by decide)]
  action := action_congr forumHash_awareness forumHash_toolContract hbody

theorem sameHash_all {rs : List CommandRequest}
    (h : rs.all (fun r => (put r).head?==some 0 && r.body.hashesTexts)=true) :
    ∀ r∈rs,SameHash blake3 forumHash r := by
  intro r hr
  have hboth := List.all_eq_true.mp h r hr
  simp only [Bool.and_eq_true,beq_iff_eq] at hboth
  exact sameHash_forum hboth.1 hboth.2

end Hashes

section Requests

/-- Who holds a capability once the root authority is appointed. -/
def holder (c : Capability) : PrincipalId × CapabilityGrantId :=
  match Capability.rootAuthority.idxOf? c with
  | some n => (nth 3,nth (79+n))
  | none =>
    match ((List.finRange 78).map seededGrant).find? (fun g => g.capabilityKind==c) with
    | some g => (g.principalId,g.capabilityGrantId)
    | none => (bootstrapPrincipal,nth 1)

theorem commandName_valid (n : Nat) : graphicIdentity
    (String.ofList [Char.ofNat (65+n%100/10),Char.ofNat (48+n%10)])=true := by
  have h : ∀ m : Fin 100,graphicIdentity
      (String.ofList [Char.ofNat (65+m.val/10),Char.ofNat (48+m.val%10)])=true := by
    decide +kernel
  have hm := h ⟨n%100,Nat.mod_lt _ (by decide)⟩
  rwa [show n%100%10=n%10 by omega] at hm

def commandName (n : Nat) : CommandId :=
  ⟨String.ofList [Char.ofNat (65+n%100/10),Char.ofNat (48+n%10)],commandName_valid n⟩

def micros (n : Nat) : UsdMicros := (Ranged.new 0 i64Max n).getD UsdMicros.zero

/-- The `n`-th request of a run, issued by the holder of its capability. -/
def request (n : Nat) (b : CommandBody) (g : ExpectedGeneration := .notApplicable) :
    CommandRequest where
  commandId := commandName n
  principalId := (holder b.requiredCapability).1
  capabilityGrantId := (holder b.requiredCapability).2
  capability := b.requiredCapability
  expectedGeneration := g
  body := b

/-- The same request, issued on a compiled grant. -/
def compiledRequest (n : Nat) (b : CommandBody) (g : ExpectedGeneration := .notApplicable) :
    CommandRequest :=
  match ((List.finRange 78).map seededGrant).find? (fun x => x.capabilityKind==b.requiredCapability) with
  | some x => {request n b g with principalId := x.principalId,capabilityGrantId := x.capabilityGrantId}
  | none => request n b g

def societyName : SocietyName := ⟨"society",by decide⟩

def foundingMissionInput : ApplicationMissionInput where
  applicationIdentity := ⟨"society",by decide⟩
  applicationName := ⟨"society",by decide⟩
  revisionOrdinal := ⟨1,Ranged.one_valid⟩
  statement := ⟨"mission",by decide⟩
  principles := ⟨[⟨.purpose,⟨"principle",by decide⟩⟩],by decide⟩
  northStarQuestions := ⟨⟨"change",by decide⟩,⟨"evidence",by decide⟩,⟨"boundary",by decide⟩,
    ⟨"revisit",by decide⟩⟩
  sourceRenderingDigest := plainDigest 0

/-- The commands that found the society and admit its first cycle. -/
def founding (t : OperatingCycleTreatment) : List CommandRequest :=
  [request 0 (.createSocietyIdentity societyName),
   request 1 .installRootAuthorityOffice,
   request 2 (.recordContentSealReceipt (plainDigest 0)),
   request 3 (.registerContentObject (nth 1)),
   request 4 (.installFoundingMission foundingMissionInput),
   request 5 (.appointInitialRootAuthority ⟨"root",by decide⟩),
   request 6 (.setR0HardCeiling (micros 1000)),
   request 7 .bootstrapSociety,
   request 8 (.proposeOperatingCycle t (micros 1000)),
   request 9 (.admitOperatingCycle (nth 1)) (.exact .initial)]

/-- The same, but the first cycle is one that qualifies the native profile. -/
def qualificationFounding : List CommandRequest :=
  (founding .piSdkQualificationV1).take 8++
  [compiledRequest 8 (.proposeOperatingCycle .piSdkQualificationV1 (micros 1000)),
   compiledRequest 9 (.admitOperatingCycle (nth 1)) (.exact .initial)]

/-- The request of the first actor instance, on the grant that came with its admission. -/
def actorRequest (n : Nat) (b : CommandBody) (g : ExpectedGeneration := .notApplicable) :
    CommandRequest :=
  {request n b g with principalId := nth 4,
                      capabilityGrantId := nth (79+Capability.rootAuthority.length)}

def firstGeneration : ExpectedGeneration := .exact .initial

def northStarAlignment : ProjectNorthStarAlignment :=
  ⟨nth 1,⟨"change",by decide⟩,⟨"evidence",by decide⟩,⟨"boundary",by decide⟩,⟨"revisit",by decide⟩⟩

/-- A running cycle with an active project, one ticket and one actor, up to a started attempt. -/
def workOpened : List CommandRequest :=
  founding .deterministicPiHostFixtureV1++
  [request 10 (.startRootAuthorityOfficeSession (nth 1)) firstGeneration,
   request 11 (.createProject (nth 1) ⟨"project",by decide⟩ northStarAlignment) firstGeneration,
   request 12 (.transitionProject (nth 1) (nth 1) .challenged) firstGeneration,
   request 13 (.charterProject (nth 1) (nth 1) ⟨"objective",by decide⟩ ⟨"milestone",by decide⟩
     ⟨"stop",by decide⟩) firstGeneration,
   request 14 (.transitionProject (nth 1) (nth 1) .active) firstGeneration,
   request 15 (.createTicket (nth 1) (nth 1) ⟨"ticket",by decide⟩ ⟨"condition",by decide⟩ none)
     firstGeneration,
   request 16 (.admitTicket (nth 1) (nth 1)) firstGeneration,
   request 17 (.registerActorConfiguration ⟨"actor",by decide⟩ .pinnedDeepseekV4FlashHigh .build),
   request 18 (.registerContextPack (nth 1) .ticketExecution (plainDigest 0)) firstGeneration,
   request 19 (.admitActorInstance (nth 1) (nth 1) (nth 1) ⟨"actor",by decide⟩) firstGeneration,
   request 20 (.registerWorkItem (nth 1) (nth 1) (nth 1) (nth 1) .ticketExecution none
     ⟨"assignment",by decide⟩) firstGeneration,
   actorRequest 21 (.claimWorkItem (nth 1) (nth 1)) firstGeneration,
   request 22 (.startActorAttempt (nth 1) (nth 1) (micros 10)) firstGeneration]

/-- One measurement slot, also the first one. -/
def oneSlot : Ranged 1 64 := ⟨1,by decide⟩

def studyRequest (n : Nat) (c : StudyCommand) : CommandRequest := request n (.studyTransition c)

/-- The admission of a protocol and of one episode under it. -/
def studyOpened : List CommandRequest :=
  [studyRequest 40 (.admitProtocolRevision (nth 1) (plainDigest 0) (plainDigest 0)
     awarenessDigest toolContractDigest (plainDigest 0) (plainDigest 0)
     (plainDigest 0) (plainDigest 0) (micros 10)),
   studyRequest 41 (.admitWorldRevision (nth 1) (plainDigest 0)),
   studyRequest 42 (.admitMeasurementRevision (nth 1) (plainDigest 0) oneSlot),
   studyRequest 43 (.admitInstitutionRevision (nth 1) (plainDigest 0)),
   studyRequest 44 (.admitPopulationSnapshot (nth 1) (plainDigest 0) ⟨1,by decide⟩),
   studyRequest 45 (.admitEpisode (nth 1) (nth 1) (nth 1) (nth 1) (nth 1) (plainDigest 0)),
   studyRequest 46 (.assignTreatment (nth 1) .retained)]

/-- Obligation `n` of an episode, with the tools that the protocol prescribes. -/
def obligationRequest (n : Nat) (i : StudyEpisodeId) (phase : StudyPopulationPhase)
    (role : StudyRoleOrdinal) (budget : StudyBudgetUnits) : CommandRequest :=
  studyRequest n (.admitActorObligation i phase role (plainDigest 0) awarenessDigest
    toolContractDigest budget ⟨1,Ranged.one_valid⟩ ⟨1,Ranged.one_valid⟩)

def epochIdentity : SupervisorEpochIdentity := ⟨"epoch",by decide⟩

def workspaceName : NativeWorkspaceId := ⟨"workspace",by decide⟩

def workspacePath : CanonicalWorkspacePath := ⟨"/workspace",by decide⟩

/-- A native child that runs the first attempt. -/
def childSpawned : List CommandRequest :=
  [request 23 (.openSupervisorEpoch (nth 1) epochIdentity),
   request 24 (.admitPiChildSpawn (nth 1) (.actorAttempt (nth 1)) (nth 1) (nth 1)
     workspaceName workspacePath (nth 1) epochIdentity
     ⟨"session",by decide⟩ ⟨"nonce",by decide⟩) firstGeneration,
   request 25 (.recordInertChildSpawn (nth 1) ⟨"child",by decide⟩ ⟨7,by decide⟩ ⟨7,by decide⟩)
     firstGeneration]

end Requests
end Society.Kernel
