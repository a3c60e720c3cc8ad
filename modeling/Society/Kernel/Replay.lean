import Society.Kernel.Ledger

namespace Society.Kernel
open Society.Relational Society.Coding

/-! Replay: the stored commands, executed again on a fresh schema. -/

section Stored

def Text.parse {p : String → Bool} (x : PgText) : Option (Text p) :=
  if h : p x.val=true then some ⟨x.val,h⟩ else none

theorem Text.parse_stored {p : String → Bool} [Storable p] (x : Text p) :
    Text.parse x.stored=some x := dif_pos x.valid

def ExpectedGeneration.ofSql : Option AdmissionGeneration → ExpectedGeneration
  | some g => .exact g
  | none => .notApplicable

theorem ExpectedGeneration.ofSql_toSql (g : ExpectedGeneration) : ofSql g.toSql=g := by
  cases g <;> rfl

/-- The request that a command row and its body stand for. -/
def storedRequest (s : Store) (q : CommandRow) : Option CommandRequest := do
  let i ← Text.parse q.commandId
  let b ← (s.rows .commandBodies).find? (fun b => b.commandRowId==q.commandRowId)
  some {commandId := i,principalId := q.principalId,capabilityGrantId := q.capabilityGrantId,
        capability := q.capabilityKind,
        expectedGeneration := .ofSql q.expectedGeneration,body := b.body}

/-- Command rows stand in the order of their identities. -/
def replayCommandRequests (s : Store) : Option (List (CommandRequest × CommandDisposition)) :=
  (s.rows .commands).mapM (fun q => (storedRequest s q).map (fun r => (r,q.disposition)))

structure LedgerEvent where
  eventId : EventId
  commandId : CommandId
  body : EventBody
  deriving DecidableEq

/-- An accepted command has its one event, a rejected command none. -/
def receiptAgrees (s : Store) (q : CommandRow) : Bool :=
  match q.disposition with
  | .accepted i => ((s.rows .events).filter (fun e => e.commandRowId==q.commandRowId)).map
      (·.eventId)==[i]
  | .rejected _ => (s.rows .events).all (fun e => e.commandRowId≠q.commandRowId)

def verifyCommandBodies (hash : Bytes → Blake3Digest) (s : Store) : Bool :=
  (s.rows .commands).all (fun q => (storedRequest s q).any (fun r =>
    q.requestFingerprint==requestFingerprint hash r) && receiptAgrees s q)

def verifyApplicationMissionSourceBindings (s : Store) : Bool :=
  (s.rows .applicationRevisions).all (fun a =>
    (s.rows .contentObjects).any (fun o => o.contentObjectId==a.sourceContentObjectId &&
      (s.rows .contentSealReceipts).any (fun r =>
        r.contentSealReceiptId==o.contentSealReceiptId && r.digest==a.sourceRenderingDigest)))

/-- Each revision has one body, in the table of its object's kind. -/
def verifyGraphRevisionBodies (s : Store) : Bool :=
  (s.rows .objectRevisions).all (fun r => (s.rows .objects).all (fun o =>
    o.graphObjectId≠r.graphObjectId ||
      let observations := (s.rows .observationRevisions).countP
        (fun b => b.graphRevisionId==r.graphRevisionId)
      let hypotheses := (s.rows .hypothesisRevisions).countP
        (fun b => b.graphRevisionId==r.graphRevisionId)
      match o.objectKind with
      | .observation => observations==1 && hypotheses==0
      | .hypothesis => observations==0 && hypotheses==1))

def ledgerEvent (s : Store) (e : EventRow) : Option LedgerEvent := do
  let q ← s.find .commands e.commandRowId
  let i ← Text.parse q.commandId
  let b ← (s.rows .eventBodies).find? (fun b => b.eventId==e.eventId)
  some ⟨e.eventId,i,b.body⟩

/-- The events of the ledger, if it is sound. -/
def replayLedger (hash : Bytes → Blake3Digest) (s : Store) : Option (List LedgerEvent) :=
  if verifyCommandBodies hash s && verifyApplicationMissionSourceBindings s &&
      verifyGraphRevisionBodies s &&
      (s.rows .events).map (·.eventSequence.val)==List.range' 1 (s.rows .events).length then
    (s.rows .events).mapM (ledgerEvent s)
  else none

/-- Executes stored commands as long as each receives its stored disposition. -/
def replayAll (hash : Bytes → Blake3Digest) :
    List (CommandRequest × CommandDisposition) → Store → Option Store
  | [],s => some s
  | (r,d)::l,s =>
    match execute hash r s with
    | (.ok c,s') => if c.disposition=d then replayAll hash l s' else none
    | (.error _,_) => none

end Stored

section Sound
variable {hash : Bytes → Blake3Digest} {ok : Store → CommandRequest → Prop} {s s' : Store}
  {r : CommandRequest} {cmd : CommandRowId} {d : CommandDisposition}

/-- Every command row stands for a request with its fingerprint and has its receipt; every
event has its body. -/
structure LedgerSound (hash : Bytes → Blake3Digest) (s : Store) : Prop where
  stored : ∀ q ∈ s.rows .commands,∃ r,storedRequest s q=some r ∧
    q.requestFingerprint=requestFingerprint hash r
  receipts : ∀ q ∈ s.rows .commands,receiptAgrees s q=true
  bodies : (s.rows .eventBodies).map (·.eventId)=(s.rows .events).map (·.eventId)

/-- A new body does not change what older rows stand for. -/
theorem storedRequest_append {q : CommandRow} {b : CommandBodyRow} (hq : b.commandRowId≠q.commandRowId)
    (hb : s'.rows .commandBodies=s.rows .commandBodies++[b]) :
    storedRequest s' q=storedRequest s q := by
  unfold storedRequest
  rw [hb,List.find?_append]
  simp [hq]

theorem storedRequest_new (hn : ∀ b ∈ s.rows .commandBodies,b.commandRowId≠cmd)
    (hb : s'.rows .commandBodies=s.rows .commandBodies++[⟨cmd,r.body⟩]) :
    storedRequest s' {r.row hash cmd with disposition := d}=some r := by
  have hfind : (s'.rows .commandBodies).find? (fun b => b.commandRowId==cmd)=some ⟨cmd,r.body⟩ := by
    have hnone : (s.rows .commandBodies).find? (fun b => b.commandRowId==cmd)=none :=
      List.find?_eq_none.mpr (fun b hm => by simpa using hn b hm)
    rw [hb,List.find?_append,hnone]
    simp
  unfold storedRequest
  simp only [CommandRequest.row,Text.parse_stored,hfind,ExpectedGeneration.ofSql_toSql,
    Option.bind_eq_bind,Option.bind_some]

theorem ledgerSound_silent (h : LedgerSound hash s) (hs : ∀ t,s'.rows t=s.rows t) :
    LedgerSound hash s' := by
  refine ⟨?_,?_,?_⟩
  · intro q hq
    rw [hs] at hq
    simpa [storedRequest,hs] using h.stored q hq
  · intro q hq
    rw [hs] at hq
    simpa only [receiptAgrees,hs] using h.receipts q hq
  · rw [hs,hs]
    exact h.bodies

theorem execute_ledgerSound (hv : s.Valid) (h : LedgerSound hash s) (r : CommandRequest) :
    LedgerSound hash (execute hash r s).2 := by
  by_cases hn : ∃ d,(execute hash r s).1=.ok ⟨d,false⟩
  swap
  · exact ledgerSound_silent h (execute_silent (fun d hd => hn ⟨d,hd⟩))
  obtain ⟨d,hd⟩ := hn
  -- rows and bodies grow in the same way whatever the disposition
  have hstored {cmd : CommandRowId} (hc : cmd.val=(s .commands).next)
      (hq : (execute hash r s).2.rows .commands=
        s.rows .commands++[{r.row hash cmd with disposition := d}])
      (hb : (execute hash r s).2.rows .commandBodies=s.rows .commandBodies++[⟨cmd,r.body⟩]) :
      ∀ q ∈ (execute hash r s).2.rows .commands,∃ r',storedRequest (execute hash r s).2 q=some r' ∧
        q.requestFingerprint=requestFingerprint hash r' := by
    intro q hm
    rw [hq] at hm
    rcases List.mem_append.mp hm with hm | hm
    · obtain ⟨r',hr',hf⟩ := h.stored q hm
      exact ⟨r',(storedRequest_append (Ne.symm (command_fresh hv hc q hm)) hb).trans hr',hf⟩
    · rw [List.mem_singleton.mp hm]
      exact ⟨r,storedRequest_new (bodies_fresh hv hc) hb,rfl⟩
  cases d with
  | rejected e =>
    obtain ⟨cmd,hc,hq,hb,hsame⟩ := execute_rejected hv hd
    have hevents := hsame .events (by decide)
    refine ⟨hstored hc hq hb,?_,?_⟩
    · intro q hm
      rw [hq] at hm
      rcases List.mem_append.mp hm with hm | hm
      · simpa only [receiptAgrees,hevents] using h.receipts q hm
      · rw [List.mem_singleton.mp hm]
        refine List.all_eq_true.mpr (fun e he => decide_eq_true ?_)
        exact events_fresh hv hc e (hevents ▸ he)
    · rw [hevents,hsame .eventBodies (by decide)]
      exact h.bodies
  | accepted i =>
    obtain ⟨cmd,n,body,hc,_,_,hq,hb,hevents,hbodies⟩ := execute_accepted hv hd
    refine ⟨hstored hc hq hb,?_,?_⟩
    · intro q hm
      rw [hq] at hm
      rcases List.mem_append.mp hm with hm | hm
      · have hne : cmd≠q.commandRowId := Ne.symm (command_fresh hv hc q hm)
        simpa [receiptAgrees,hevents,List.filter_append,hne] using h.receipts q hm
      · have hnone : (s.rows .events).filter (fun e => e.commandRowId==cmd)=[] :=
          List.filter_eq_nil_iff.mpr (fun e he => by simpa using events_fresh hv hc e he)
        rw [List.mem_singleton.mp hm]
        simp [receiptAgrees,hevents,List.filter_append,CommandRequest.row,hnone]
    · rw [hevents,hbodies,List.map_append,List.map_append,h.bodies]
      rfl

theorem Reaches.ledgerSound (h : Reaches hash ok s) : LedgerSound hash s := by
  induction h with
  | initial => exact ⟨fun _ hq => (List.not_mem_nil hq).elim,fun _ hq => (List.not_mem_nil hq).elim,rfl⟩
  | step h r _ ih => exact execute_ledgerSound h.valid ih r

theorem Reaches.verifyCommandBodies (h : Reaches hash ok s) :
    verifyCommandBodies hash s=true := by
  refine List.all_eq_true.mpr (fun q hq => ?_)
  obtain ⟨r,hr,hf⟩ := h.ledgerSound.stored q hq
  simp [hr,hf,h.ledgerSound.receipts q hq]

/-- Every event can be read back. -/
theorem Reaches.ledgerEvents (h : Reaches hash ok s) :
    ∃ l,(s.rows .events).mapM (ledgerEvent s)=some l := by
  have hone : ∀ e ∈ s.rows .events,∃ x,ledgerEvent s e=some x := by
    intro e he
    obtain ⟨q,hfind⟩ := h.valid.find_target (t := .events) he (k := e.commandRowId) rfl
      List.mem_cons_self
    obtain ⟨r,hr,_⟩ := h.ledgerSound.stored q (Db.find_mem hfind)
    have hmem : e.eventId ∈ (s.rows .eventBodies).map (·.eventId) := by
      rw [h.ledgerSound.bodies]
      exact List.mem_map_of_mem he
    obtain ⟨b,hb,hid⟩ := List.mem_map.mp hmem
    obtain ⟨b',hb'⟩ : ∃ b',(s.rows .eventBodies).find? (fun b => b.eventId==e.eventId)=some b' := by
      refine Option.isSome_iff_exists.mp (List.find?_isSome.mpr ⟨b,hb,?_⟩)
      simp [hid]
    obtain ⟨i,hi⟩ : ∃ i : CommandId,Text.parse q.commandId=some i := by
      unfold storedRequest at hr
      obtain ⟨i,hi,_⟩ := Option.bind_eq_some_iff.mp hr
      exact ⟨i,hi⟩
    exact ⟨⟨e.eventId,i,b'.body⟩,by simp [ledgerEvent,hfind,hi,hb']⟩
  generalize s.rows .events=l at hone
  induction l with
  | nil => exact ⟨[],rfl⟩
  | cons e l ih =>
    obtain ⟨x,hx⟩ := hone e List.mem_cons_self
    obtain ⟨xs,hxs⟩ := ih (fun a ha => hone a (List.mem_cons_of_mem e ha))
    exact ⟨x::xs,by simp [List.mapM_cons,hx,hxs]⟩

end Sound

section Sources
variable {hash : Bytes → Blake3Digest} {ok : Store → CommandRequest → Prop} {s : Store}

/-- The rendering of every mission is sealed content. -/
def MissionsSealed (s : Store) : Prop :=
  ∀ a ∈ s.rows .applicationRevisions,∃ o ∈ s.rows .contentObjects,
    o.contentObjectId=a.sourceContentObjectId ∧ ∃ r ∈ s.rows .contentSealReceipts,
      r.contentSealReceiptId=o.contentSealReceiptId ∧ r.digest=a.sourceRenderingDigest

theorem installFoundingMission_sealed (cmd : CommandRowId) (m : ApplicationMissionInput)
    (hs : MissionsSealed s) :
    Tx.wp (installFoundingMission cmd m) (fun _ s' => MissionsSealed s') s := by
  simp only [installFoundingMission,onlySocietyId,Tx.wp_bind,Tx.wp_read,Tx.wp_the,Tx.wp_require,
    Tx.wp_pure,Tx.wp_insert,Tx.wp_store]
  intro soc _ _ src hsrc i _ _ j _ _
  refine Tx.wp_mono (Tx.wp_each (I := MissionsSealed) ?_ ?_) ?_
  · intro a _ s₁ h₁
    simp only [Tx.wp_bind,Tx.wp_the,Tx.wp_store]
    intro n _ _
    simpa [MissionsSealed,Db.rows] using h₁
  · obtain ⟨o,ho,rfl⟩ := Option.map_eq_some_iff.mp hsrc
    have hany := List.find?_some ho
    obtain ⟨q,hq,hd⟩ := (Option.any_eq_true _ _).mp hany
    intro a ha
    simp only [Db.rows,ne_eq,reduceCtorEq,not_false_eq_true,Db.append_ne,Db.append_same,
      List.mem_append,List.mem_singleton] at ha
    rcases ha with ha | rfl
    · obtain ⟨o',ho',hid,q',hq',hrest⟩ := hs a ha
      exact ⟨o',by simpa [Db.rows] using ho',hid,q',by simpa [Db.rows] using hq',hrest⟩
    · exact ⟨o,by simpa [Db.rows] using List.mem_of_find?_eq_some ho,rfl,q,
        by simpa [Db.rows] using Db.find_mem hq,Relational.Id.ext (Db.find_key hq),by simpa using hd⟩
  · intro _ s₁ h₁ _ k _ _
    simpa [MissionsSealed,Db.rows] using h₁

theorem Reaches.missionsSealed (h : Reaches hash ok s) : MissionsSealed s := by
  refine h.invariant (D := [.applicationRevisions,.contentObjects,.contentSealReceipts])
    (by decide) ?_ ?_ ?_
  · intro s s' hd hs
    have h₁ := hd .applicationRevisions (by decide)
    have h₂ := hd .contentObjects (by decide)
    have h₃ := hd .contentSealReceipts (by decide)
    unfold MissionsSealed
    rw [h₁,h₂,h₃]
    exact hs
  · exact fun a ha => (List.not_mem_nil ha).elim
  · intro s r s₁ cmd hreach hok hst hs hw
    obtain ⟨i,p,k,q,g,b⟩ := r
    cases b
    case installFoundingMission m => exact installFoundingMission_sealed cmd m hs
    case recordContentSealReceipt d =>
      change Tx.wp (recordContentSealReceipt cmd d) _ s₁
      simp only [recordContentSealReceipt,Tx.wp_bind,Tx.wp_read,Tx.wp_require,Tx.wp_insert,
        Tx.wp_pure]
      intro _ n _ _ a ha
      obtain ⟨o,ho,hid,q,hq,hqid,hdig⟩ := hs a (by simpa [Db.rows] using ha)
      exact ⟨o,by simpa [Db.rows] using ho,hid,q,by simp [Db.rows,hq],hqid,hdig⟩
    case registerContentObject j =>
      change Tx.wp (registerContentObject cmd j) _ s₁
      simp only [registerContentObject,Tx.wp_bind,Tx.wp_read,Tx.wp_require,Tx.wp_insert,Tx.wp_get,
        Tx.wp_pure]
      intro _ _ _ n _ _ a ha
      obtain ⟨o,ho,hid,q,hq,hqid,hdig⟩ := hs a (by simpa [Db.rows] using ha)
      exact ⟨o,by simp [Db.rows,ho],hid,q,by simpa [Db.rows] using hq,hqid,hdig⟩
    case studyTransition c => cases c <;> exact absurd hw (of_decide_eq_true rfl)
    all_goals exact absurd hw (of_decide_eq_true rfl)
end Sources

section Graphs
variable {hash : Bytes → Blake3Digest} {ok : Store → CommandRequest → Prop} {s : Store}

def bodyCounts (s : Store) (i : GraphRevisionId) : Nat × Nat :=
  ((s.rows .observationRevisions).countP (fun b => b.graphRevisionId==i),
   (s.rows .hypothesisRevisions).countP (fun b => b.graphRevisionId==i))

def GraphObjectKind.counts : GraphObjectKind → Nat × Nat
  | .observation => (1,0)
  | .hypothesis => (0,1)

/-- Each revision has its one body. -/
def RevisionsTyped (s : Store) : Prop :=
  ∀ r ∈ s.rows .objectRevisions,∀ o ∈ s.rows .objects,o.graphObjectId=r.graphObjectId →
    bodyCounts s r.graphRevisionId=o.objectKind.counts

theorem bodyCounts_fresh (hv : s.Valid) {j : GraphRevisionId}
    (hj : j.val=(s .objectRevisions).next) : bodyCounts s j=(0,0) := by
  refine Prod.ext (List.countP_eq_zero.mpr ?_) (List.countP_eq_zero.mpr ?_)
  · intro b hb he
    have hlt := hv.target_lt (t := .observationRevisions) hb (u := .objectRevisions) rfl
      List.mem_cons_self
    rw [eq_of_beq he] at hlt
    omega
  · intro b hb he
    have hlt := hv.target_lt (t := .hypothesisRevisions) hb (u := .objectRevisions) rfl
      List.mem_cons_self
    rw [eq_of_beq he] at hlt
    omega

theorem addGraphObjectRevision_typed (cmd : CommandRowId) (g : ExpectedGeneration)
    (c : OperatingCycleId) (p : ProjectId) (e : Option CausalEpisodeId)
    (x : Option GraphObjectId) (b : GraphRevisionBody) (hv : s.Valid) (hs : RevisionsTyped s) :
    Tx.wp (addGraphObjectRevision cmd g c p e x b) (fun _ s' => RevisionsTyped s') s := by
  simp only [addGraphObjectRevision,Tx.wp_bind,wp_coordinationCycle,wp_projectIsActive]
  intro cy _ _ _ pr _ _
  refine Tx.wp_mono (Tx.wp_each (I := fun s' => s=s') ?_ rfl) ?_
  · rintro a _ _ rfl
    simp
  rintro _ _ rfl
  -- the object that the revision belongs to, chosen or new
  refine Tx.wp_mono (Tx.wp_and (Tx.wp_valid _ hv) (R := fun i s' => RevisionsTyped s' ∧
    ∀ o ∈ s'.rows .objects,o.graphObjectId=i → o.objectKind=b.objectKind) ?_) ?_
  · cases x with
    | some i =>
      simp only [Tx.wp_bind,Tx.wp_get,Tx.wp_require,Tx.wp_pure]
      intro q hq hk
      refine ⟨hs,fun o ho hid => ?_⟩
      have ho' := hv.find_eq (t := .objects) (k := i) rfl ho (congrArg Id.val hid)
      rw [hq] at ho'
      cases ho'
      simp at hk
      exact hk.2
    | none =>
      simp only [Tx.wp_insert]
      intro i hi _
      refine ⟨fun r hr o ho hid => ?_,fun o ho hid => ?_⟩
      · simp only [Db.rows,ne_eq,reduceCtorEq,not_false_eq_true,Db.append_ne,Db.append_same,
          List.mem_append,List.mem_singleton] at hr ho
        rcases ho with ho | rfl
        · exact hs r hr o ho hid
        · have hlt := hv.target_lt (t := .objectRevisions) hr (u := .objects) rfl
            List.mem_cons_self
          have hid : i.val=r.graphObjectId.val := congrArg Id.val hid
          omega
      · simp only [Db.rows,Db.append_same,List.mem_append,List.mem_singleton] at ho
        rcases ho with ho | rfl
        · have hlt : o.graphObjectId.val<(s Tbl.objects).next := hv.fresh .objects rfl o ho
          rw [hid] at hlt
          omega
        · rfl
  rintro i s₁ ⟨hv₁,hs₁,hkind⟩
  simp only [Tx.wp_read,Tx.wp_the,Tx.wp_insert]
  intro n _ j hj _
  have hfresh := bodyCounts_fresh hv₁ hj
  have hold : ∀ r ∈ s₁.rows .objectRevisions,j≠r.graphRevisionId := by
    rintro r hr rfl
    have hlt : r.graphRevisionId.val<(s₁ .objectRevisions).next := hv₁.fresh .objectRevisions rfl r hr
    omega
  cases b with
  | observation text =>
    simp only [Tx.wp_bind,Tx.wp_store,recordCoordinationProvenance,Tx.wp_pure]
    intro _ _ r hr o ho hid
    simp [Db.rows] at hr ho
    rcases hr with hr | rfl
    · have hne := hold r hr
      simpa [bodyCounts,Db.rows,hne] using hs₁ r hr o ho hid
    · simp [bodyCounts] at hfresh
      simp [bodyCounts,Db.rows,hkind o ho hid,GraphRevisionBody.objectKind,GraphObjectKind.counts]
      exact hfresh
  | hypothesis text =>
    simp only [Tx.wp_bind,Tx.wp_store,recordCoordinationProvenance,Tx.wp_pure]
    intro _ _ r hr o ho hid
    simp [Db.rows] at hr ho
    rcases hr with hr | rfl
    · have hne := hold r hr
      simpa [bodyCounts,Db.rows,hne] using hs₁ r hr o ho hid
    · simp [bodyCounts] at hfresh
      simp [bodyCounts,Db.rows,hkind o ho hid,GraphRevisionBody.objectKind,GraphObjectKind.counts]
      exact hfresh

theorem commitGraphRevision_typed (cmd : CommandRowId) (g : ExpectedGeneration)
    (c : OperatingCycleId) (i : GraphRevisionId) (hs : RevisionsTyped s) :
    Tx.wp (commitGraphRevision cmd g c i) (fun _ s' => RevisionsTyped s') s := by
  simp only [commitGraphRevision,graphRevisionRow,recordCoordinationProvenance,Tx.wp_bind,
    wp_coordinationCycle,wp_projectIsActive,Tx.wp_get,Tx.wp_the,Tx.wp_require,Tx.wp_update,
    Tx.wp_store,Tx.wp_pure]
  intro _ _ _ _ _ _ _ _ _ _ _ _ _ _ _ _ r hr o ho hid
  simp only [Db.rows,ne_eq,reduceCtorEq,not_false_eq_true,Db.append_ne,Db.modify_ne,
    Db.modify_same,Db.mem_modified] at hr ho
  obtain ⟨a,ha,hr⟩ := hr
  have hsame : r.graphRevisionId=a.graphRevisionId ∧ r.graphObjectId=a.graphObjectId := by
    rw [hr]
    split <;> exact ⟨rfl,rfl⟩
  rw [hsame.2] at hid
  rw [hsame.1]
  simpa [bodyCounts,Db.rows] using hs a ha o ho hid

theorem Reaches.revisionsTyped (h : Reaches hash ok s) : RevisionsTyped s := by
  refine h.invariant (D := [.objects,.objectRevisions,.observationRevisions,.hypothesisRevisions])
    (by decide) ?_ ?_ ?_
  · intro s s' hd hs
    have h₁ := hd .objects (by decide)
    have h₂ := hd .objectRevisions (by decide)
    have h₃ := hd .observationRevisions (by decide)
    have h₄ := hd .hypothesisRevisions (by decide)
    unfold RevisionsTyped bodyCounts
    rw [h₁,h₂,h₃,h₄]
    exact hs
  · exact fun a ha => (List.not_mem_nil ha).elim
  · intro s r s₁ cmd hreach hok hst hs hw
    obtain ⟨i,p,k,q,g,b⟩ := r
    cases b
    case addGraphObjectRevision c p e x b =>
      exact addGraphObjectRevision_typed cmd g c p e x b hst.valid hs
    case commitGraphRevision c j => exact commitGraphRevision_typed cmd g c j hs
    case studyTransition c => cases c <;> exact absurd hw (of_decide_eq_true rfl)
    all_goals exact absurd hw (of_decide_eq_true rfl)

end Graphs

end Society.Kernel
