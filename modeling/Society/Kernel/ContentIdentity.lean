import Society.Kernel.Ledger
import Society.Relational.Lookup

namespace Society.Kernel
open Society.Relational Society.Coding

/-! What the kernel answers about sealed content, and the two commands that register it. -/

section Queries

inductive ContentIdentityState where
  | absent
  | sealReceiptOnly (contentSealReceiptId : ContentSealReceiptId)
  | registered (contentSealReceiptId : ContentSealReceiptId) (contentObjectId : ContentObjectId)
  deriving DecidableEq

def sealReceiptOf (s : Store) (digest : Blake3Digest) : Option ContentSealReceiptRow :=
  (s.rows .contentSealReceipts).find? (fun r => r.digest==digest)

def objectOfReceipt (s : Store) (receipt : ContentSealReceiptId) : Option ContentObjectRow :=
  (s.rows .contentObjects).find? (fun o => o.contentSealReceiptId==receipt)

def contentIdentityState (s : Store) (digest : Blake3Digest) : ContentIdentityState :=
  match sealReceiptOf s digest with
  | none => .absent
  | some receipt => match objectOfReceipt s receipt.contentSealReceiptId with
    | none => .sealReceiptOnly receipt.contentSealReceiptId
    | some object => .registered receipt.contentSealReceiptId object.contentObjectId

def commandReceipt (s : Store) (i : CommandId) : Option CommandReceipt :=
  (storedCommand s i).map (fun q => ⟨q.disposition,true⟩)

def activeCapabilityGrant (s : Store) (p : PrincipalId) (c : Capability) :
    Option CapabilityGrantId :=
  ((s.rows .capabilityGrants).find? (fun g =>
    g.principalId==p && g.capabilityKind==c && g.grantState==.active)).map (·.capabilityGrantId)

end Queries

section Grants
variable {hash : Bytes → Blake3Digest} {s : Store} {k : CapabilityGrantId}
  {g : CapabilityGrantRow}

theorem find_append_some {T : Type} [Schema T] [DecidableEq T] {s : Db T} {t : T} {k : Id t}
    {q r : Row t} {n : Nat} (h : s.find t k=some q) : (s.append t r n).find t k=some q := by
  unfold Db.find at h
  rw [Db.find,Db.rows,Db.append_same,List.find?_append,h]
  rfl

theorem appointInitialRootAuthority_grants (cmd : CommandRowId) (name : PrincipalDisplayName)
    (hk : s.find .capabilityGrants k=some g) :
    Tx.wp (appointInitialRootAuthority cmd name)
      (fun _ s' => s'.find .capabilityGrants k=some g) s := by
  simp only [appointInitialRootAuthority,rootAuthorityOfficeId,Tx.wp_bind,Tx.wp_read,Tx.wp_the,
    Tx.wp_require,Tx.wp_pure,Tx.wp_insert]
  intro _ _ _ i _ _ j _ _
  refine Tx.wp_mono (Tx.wp_each (I := fun s' => s'.find .capabilityGrants k=some g) ?_ ?_) ?_
  · intro c _ s₁ h₁
    simp only [Tx.wp_bind,Tx.wp_insert,Tx.wp_pure]
    intro n _ _
    exact find_append_some h₁
  · simpa using hk
  · exact fun _ _ h => h

theorem admitActorInstance_grants (cmd : CommandRowId) (e : ExpectedGeneration)
    (c : OperatingCycleId) (revision : ActorConfigurationRevisionId) (profile : ExecutionProfileId)
    (name : PrincipalDisplayName) (hk : s.find .capabilityGrants k=some g) :
    Tx.wp (admitActorInstance cmd e c revision profile name)
      (fun _ s' => s'.find .capabilityGrants k=some g) s := by
  simp only [admitActorInstance,recordCoordinationProvenance,Tx.wp_bind,wp_coordinationCycle,
    Tx.wp_read,Tx.wp_require,Tx.wp_insert,Tx.wp_store,Tx.wp_pure]
  intro _ _ _ _ _ i _ _ j _ _ n _ _ _ _
  rw [Db.find_append_ne (by decide)]
  exact find_append_some (by simpa using hk)

/-- No transition touches a grant. -/
theorem action_grants (r : CommandRequest) (cmd : CommandRowId)
    (hk : s.find .capabilityGrants k=some g) :
    Tx.wp ((r.action hash).body cmd) (fun _ s' => s'.find .capabilityGrants k=some g) s := by
  have hframe (hw : Tbl.capabilityGrants∉(r.action hash).writes) :
      Tx.wp ((r.action hash).body cmd) (fun _ s' => s'.find .capabilityGrants k=some g) s := by
    refine Tx.wp_mono (Tx.wp_frame ((r.action hash).body cmd) hw) ?_
    intro _ s' h
    rw [Db.find,Db.rows,h]
    exact hk
  obtain ⟨i,p,q,c,e,b⟩ := r
  cases b
  case appointInitialRootAuthority name => exact appointInitialRootAuthority_grants cmd name hk
  case admitActorInstance a b c d => exact admitActorInstance_grants cmd e a b c d hk
  case studyTransition c => cases c <;> exact hframe (of_decide_eq_true rfl)
  all_goals exact hframe (of_decide_eq_true rfl)

/-- A grant of the kernel service is never consumed. -/
theorem applyCommand_grants (r : CommandRequest) (cmd : CommandRowId)
    (hk : s.find .capabilityGrants k=some g) (hp : g.principalId=kernelPrincipal) :
    Tx.wp (applyCommand hash cmd r) (fun _ s' => s'.find .capabilityGrants k=some g) s := by
  simp only [applyCommand,Tx.wp_bind,Tx.wp_query,Tx.wp_widen,Tx.wp_pure]
  intro used hused
  refine Tx.wp_mono (action_grants r cmd hk) ?_
  intro _ s₁ h₁
  unfold consumeGrant
  split
  · next hboot =>
    simp only [Tx.wp_bind,Tx.wp_update,Tx.wp_pure]
    intro _
    have hgranted : capabilityGrant s r=some used := by
      unfold authorize at hused
      repeat' split at hused
      all_goals cases hused
      assumption
    rw [capabilityGrant,Option.filter_eq_some_iff,Bool.and_eq_true] at hgranted
    obtain ⟨hfind,hprincipal,_⟩ := hgranted
    have hother : used.capabilityGrantId≠k := by
      intro hsame
      have hid : r.capabilityGrantId=k := Relational.Id.ext
        ((Db.find_key hfind).symm.trans (congrArg Id.val hsame))
      rw [hid,hk] at hfind
      cases hfind
      rw [hp,hboot.1] at hprincipal
      exact absurd hprincipal (by decide)
    rw [Db.find_modify (by rintro _ _ ⟨⟩; rfl),h₁]
    have hkey : g.capabilityGrantId=k := Relational.Id.ext (Db.find_key h₁)
    have hnot : g.capabilityGrantId≠used.capabilityGrantId := fun h => hother (h.symm.trans hkey)
    simp [hnot]
  · simpa using h₁

theorem execute_grants (r : CommandRequest) (hk : s.find .capabilityGrants k=some g)
    (hp : g.principalId=kernelPrincipal) :
    (execute hash r s).2.find .capabilityGrants k=some g := by
  have hsame {s' : Store} (h : s'.rows .capabilityGrants=s.rows .capabilityGrants) :
      s'.find .capabilityGrants k=some g := by
    rw [Db.find,h]
    exact hk
  have hrecorded (cmd : CommandRowId) : recorded hash s cmd r .capabilityGrants=
      s .capabilityGrants := recorded_other s cmd r (by decide)
  have hx := execute_executed hash s r
  generalize (execute hash r s).1=o at hx
  generalize (execute hash r s).2=s' at hx
  cases hx with
  | replayed q hq hf => exact hk
  | conflict q hq hf => exact hk
  | aborted hq e s₁ hle => exact hsame rfl
  | rejected hq cmd hc ha e s₂ hr =>
    apply hsame
    rw [Db.rows,settled_other _ _ _ (by decide),← Db.rows,Db.rollback_rows,Db.rows,hrecorded]
  | accepted hq cmd hc ha body s₂ hr i hi n hn =>
    have h₁ : (recorded hash s cmd r).find .capabilityGrants k=some g := by
      rw [Db.find,Db.rows,hrecorded]
      exact hk
    have h₂ := applyCommand_grants r cmd h₁ hp body s₂ hr
    rw [Db.find,Db.rows,settled_other _ _ _ (by decide),published_other _ _ _ _ _ (by decide)]
    exact h₂

/-- The compiled grants of the kernel service stay as they are. -/
theorem Reaches.seededGrants {ok : Store → CommandRequest → Prop} (h : Reaches hash ok s)
    (i : Fin 78) (hi : 8 ≤ i.val) :
    s.find .capabilityGrants (seededGrant i).capabilityGrantId=some (seededGrant i) := by
  induction h with
  | initial =>
    have hmem : seededGrant i∈Store.initial.rows .capabilityGrants :=
      List.mem_map_of_mem (List.mem_finRange i)
    exact Store.initial_valid.find_eq rfl hmem rfl
  | step _ r _ ih =>
    refine execute_grants r ih ?_
    rw [seededGrant,if_neg (by omega)]

/-- The kernel service finds its grant for each of its compiled capabilities. -/
theorem Reaches.kernelGrant {ok : Store → CommandRequest → Prop} (h : Reaches hash ok s)
    (i : Fin 78) (hi : 8 ≤ i.val) :
    ∃ g row,activeCapabilityGrant s kernelPrincipal (seededGrant i).capabilityKind=some g ∧
      s.find .capabilityGrants g=some row ∧ row.principalId=kernelPrincipal ∧
      row.capabilityKind=(seededGrant i).capabilityKind ∧ row.grantState=.active := by
  have hkernel : (seededGrant i).principalId=kernelPrincipal := by
    rw [seededGrant,if_neg (by omega)]
  have hmem := Db.find_mem (h.seededGrants i hi)
  cases hf : (s.rows .capabilityGrants).find? (fun g => g.principalId==kernelPrincipal &&
      g.capabilityKind==(seededGrant i).capabilityKind && g.grantState==.active) with
  | none =>
    have hnone := List.find?_eq_none.mp hf (seededGrant i) hmem
    rw [hkernel] at hnone
    simp [seededGrant] at hnone
  | some row =>
    have hrow := List.find?_some hf
    simp only [Bool.and_eq_true,beq_iff_eq] at hrow
    refine ⟨row.capabilityGrantId,row,?_,?_,hrow.1.1,hrow.1.2,hrow.2⟩
    · rw [activeCapabilityGrant,hf]
      rfl
    · exact h.valid.find_eq rfl (List.mem_of_find?_eq_some hf) rfl

end Grants

section Content
variable {hash : Bytes → Blake3Digest} {s : Store} {digest : Blake3Digest}

/-- The kernel never forgets or changes a receipt or an object. -/
theorem execute_content (r : CommandRequest) (hv : s.Valid) :
    (∃ l,(execute hash r s).2.rows .contentSealReceipts=s.rows .contentSealReceipts++l) ∧
      ∃ l,(execute hash r s).2.rows .contentObjects=s.rows .contentObjects++l := by
  refine execute_invariant (D := [.contentSealReceipts,.contentObjects])
    (I := fun s' => (∃ l,s'.rows .contentSealReceipts=s.rows .contentSealReceipts++l) ∧
      ∃ l,s'.rows .contentObjects=s.rows .contentObjects++l) (by decide) ?_ hv
    ⟨⟨[],(List.append_nil _).symm⟩,[],(List.append_nil _).symm⟩ ?_
  · intro s₁ s₂ hd hs
    have h₁ := hd .contentSealReceipts (by decide)
    have h₂ := hd .contentObjects (by decide)
    rw [h₁,h₂]
    exact hs
  · rintro s₁ cmd - ⟨⟨l,hl⟩,m,hm⟩ hw
    obtain ⟨i,p,k,q,g,b⟩ := r
    cases b
    case recordContentSealReceipt d =>
      change Tx.wp (recordContentSealReceipt cmd d) _ s₁
      simp only [recordContentSealReceipt,Tx.wp_bind,Tx.wp_read,Tx.wp_require,Tx.wp_insert,
        Tx.wp_pure]
      intro _ n _ _
      refine ⟨⟨l++[⟨n,d,cmd⟩],?_⟩,m,?_⟩
      · rw [Db.rows,Db.append_same,hl,List.append_assoc]
      · rw [Db.rows,Db.append_ne _ _ _ (by decide)]
        exact hm
    case registerContentObject j =>
      change Tx.wp (registerContentObject cmd j) _ s₁
      simp only [registerContentObject,Tx.wp_bind,Tx.wp_read,Tx.wp_require,Tx.wp_insert,Tx.wp_get,
        Tx.wp_pure]
      intro _ _ _ n _ _
      refine ⟨⟨l,?_⟩,m++[⟨n,j,cmd⟩],?_⟩
      · rw [Db.rows,Db.append_ne _ _ _ (by decide)]
        exact hl
      · rw [Db.rows,Db.append_same,hm,List.append_assoc]
    case studyTransition c => cases c <;> exact absurd hw (of_decide_eq_true rfl)
    all_goals exact absurd hw (of_decide_eq_true rfl)

/-- A registered digest keeps its object. -/
theorem registered_kept {receipt : ContentSealReceiptId} {object : ContentObjectId}
    (h : contentIdentityState s digest=.registered receipt object) (hv : s.Valid)
    (r : CommandRequest) :
    contentIdentityState (execute hash r s).2 digest=.registered receipt object := by
  have hcontent : (∃ l,(execute hash r s).2.rows .contentSealReceipts=
      s.rows .contentSealReceipts++l) ∧
      ∃ l,(execute hash r s).2.rows .contentObjects=s.rows .contentObjects++l :=
    execute_content r hv
  obtain ⟨⟨l,hl⟩,m,hm⟩ := hcontent
  unfold contentIdentityState at h
  cases hreceipt : sealReceiptOf s digest with
  | none =>
    rw [hreceipt] at h
    cases h
  | some q =>
    rw [hreceipt] at h
    cases hobject : objectOfReceipt s q.contentSealReceiptId with
    | none =>
      simp only [hobject] at h
      cases h
    | some o =>
      simp only [hobject] at h
      have hreceipt' : sealReceiptOf (execute hash r s).2 digest=some q := by
        unfold sealReceiptOf at hreceipt ⊢
        rw [hl,List.find?_append,hreceipt]
        rfl
      have hobject' : objectOfReceipt (execute hash r s).2 q.contentSealReceiptId=some o := by
        unfold objectOfReceipt at hobject ⊢
        rw [hm,List.find?_append,hobject]
        rfl
      rw [contentIdentityState,hreceipt']
      simp only [hobject']
      exact h

/-- What the transition of an accepted command says in its event. -/
theorem accepted_event {P : EventBody → Store → Prop} {D : List Tbl}
    (hD : ∀ t∈D,t∉Tbl.capabilityGrants::ledger)
    (hP : ∀ e (s s' : Store),(∀ t∈D,s'.rows t=s.rows t) → P e s → P e s') (hv : s.Valid)
    {r : CommandRequest} {i : EventId} (h : (execute hash r s).1=.ok ⟨.accepted i,false⟩)
    (hstep : ∀ s₁ cmd,Step hash s r s₁ → Tx.wp ((r.action hash).body cmd) P s₁) :
    ∃ e,⟨i,e⟩∈(execute hash r s).2.rows .eventBodies ∧ P e (execute hash r s).2 := by
  have hL : ∀ t∈D,t∉ledger := fun t ht hl => hD t ht (List.mem_cons_of_mem _ hl)
  have hx := execute_executed hash s r
  generalize hr : (execute hash r s).1=o at hx h
  generalize (execute hash r s).2=s' at hx
  cases hx with
  | replayed q hq hf => simp at h
  | conflict q hq hf => simp at h
  | aborted hq e s₁ hle => simp at h
  | rejected hq cmd hc ha e s₂ hrun => simp at h
  | accepted hq cmd hc ha body s₂ hrun j hj n hn =>
    obtain rfl : j=i := by simpa using h
    have hst (g : CapabilityGrantRow) (hg : authorize (recorded hash s cmd r) r=.ok g) :
        Step hash s r (recorded hash s cmd r) :=
      ⟨⟨j,hr⟩,fun t ht => recorded_other s cmd r ht,recorded_valid hv hc ha,g,hg⟩
    have happly : Tx.wp (applyCommand hash cmd r) P (recorded hash s cmd r) := by
      simp only [applyCommand,Tx.wp_bind,Tx.wp_query,Tx.wp_widen,Tx.wp_pure]
      intro g hg
      refine Tx.wp_mono (hstep _ cmd (hst g hg)) ?_
      intro e s₁ h₁ _ s₃ hconsume
      refine hP e s₁ s₃ (fun t ht => ?_) h₁
      have hf := Tx.wp_frame (consumeGrant cmd r g) (s := s₁) (t := t)
        (fun h' => hD t ht (List.mem_singleton.mp h' ▸ List.mem_cons_self)) _ s₃ hconsume
      rw [Db.rows,hf]
    refine ⟨body,?_,hP body s₂ _ (fun t ht => ?_) (happly body s₂ hrun)⟩
    · rw [settled,Db.rows,Db.modify_ne _ _ _ (by decide),published,Db.append_same]
      exact List.mem_append_right _ List.mem_cons_self
    · rw [Db.rows,settled_other _ _ _ (hL t ht),published_other _ _ _ _ _ (hL t ht)]

/-- No event is forgotten. -/
theorem execute_eventBodies (hv : s.Valid) (r : CommandRequest) {e : EventBodyRow}
    (he : e∈s.rows .eventBodies) : e∈(execute hash r s).2.rows .eventBodies := by
  by_cases hn : ∃ d,(execute hash r s).1=.ok ⟨d,false⟩
  · obtain ⟨d,hd⟩ := hn
    cases d with
    | rejected e' =>
      obtain ⟨_,_,_,_,hsame⟩ := execute_rejected hv hd
      rw [hsame .eventBodies (by decide)]
      exact he
    | accepted i =>
      obtain ⟨_,_,_,_,_,_,_,_,_,hbodies⟩ := execute_accepted hv hd
      rw [hbodies]
      exact List.mem_append_left _ he
  · rw [execute_silent (fun d hd => hn ⟨d,hd⟩)]
    exact he

theorem execute_stored (hv : s.Valid) (r : CommandRequest) {i : CommandId} {q : CommandRow}
    (hq : storedCommand s i=some q) : storedCommand (execute hash r s).2 i=some q := by
  have hcommands : ∃ l,(execute hash r s).2.rows .commands=s.rows .commands++l :=
    execute_commands hv r
  obtain ⟨l,hl⟩ := hcommands
  unfold storedCommand at hq ⊢
  rw [hl,List.find?_append,hq]
  rfl

theorem contentIdentityState_congr {s' : Store}
    (h : ∀ t∈[Tbl.contentSealReceipts,.contentObjects],s'.rows t=s.rows t) :
    contentIdentityState s' digest=contentIdentityState s digest := by
  have h₁ := h .contentSealReceipts (by decide)
  have h₂ := h .contentObjects (by decide)
  unfold contentIdentityState sealReceiptOf objectOfReceipt
  rw [h₁,h₂]

theorem absent_iff : contentIdentityState s digest=.absent ↔ sealReceiptOf s digest=none := by
  unfold contentIdentityState
  cases sealReceiptOf s digest with
  | none => simp
  | some q => cases hobject : objectOfReceipt s q.contentSealReceiptId <;> simp [hobject]

/-- A new digest gets its receipt. -/
theorem record_accepted (h : Reachable hash s) {r : CommandRequest}
    (hbody : r.body=.recordContentSealReceipt digest) (hauth : authorized s r=true)
    (hq : storedCommand s r.commandId=none) (hcommands : (s .commands).next<bigintLimit)
    (hreceipts : (s .contentSealReceipts).next<bigintLimit)
    (habsent : contentIdentityState s digest=.absent) :
    accepts hash s r ∧ ∃ receipt,
      contentIdentityState (execute hash r s).2 digest=.sealReceiptOnly receipt := by
  obtain ⟨i,p,k,c,g,b⟩ := r
  cases hbody
  have hnone := absent_iff.mp habsent
  obtain ⟨s₁,cmd,hsame,hv₁,haccepts⟩ := accepts_body h hq (by rfl) hcommands hauth (by rfl)
  have hrows : s₁ .contentSealReceipts=s .contentSealReceipts := hsame _ (by decide)
  have hfresh (s₁ : Store) (hrows : s₁ .contentSealReceipts=s .contentSealReceipts) :
      ∀ q∈s₁.rows .contentSealReceipts,q.digest≠digest := by
    intro q hmem heq
    rw [Db.rows,hrows] at hmem
    have hq := List.find?_eq_none.mp hnone q hmem
    simp [heq] at hq
  have hdo : accepts hash s ⟨i,p,k,c,g,.recordContentSealReceipt digest⟩ := by
    refine haccepts.mpr ?_
    change Tx.total (recordContentSealReceipt cmd digest) _ s₁
    simp only [recordContentSealReceipt,Tx.total_bind,Tx.total_read,Tx.total_require,
      Tx.total_insert,Tx.total_pure]
    refine ⟨?_,⟨(s .contentSealReceipts).next,h.valid.positive _,hreceipts⟩,by rw [hrows],?_,
      trivial⟩
    · simpa using hfresh s₁ hrows
    · have hall : (s₁.rows .contentSealReceipts).all (fun q => !conflict Tbl.contentSealReceipts q
          (ContentSealReceiptRow.mk ⟨(s .contentSealReceipts).next,h.valid.positive _,hreceipts⟩
            digest cmd))=true := by
        refine List.all_eq_true.mpr (fun q hmem => ?_)
        have hc : conflict Tbl.contentSealReceipts q (ContentSealReceiptRow.mk
          ⟨(s .contentSealReceipts).next,h.valid.positive _,hreceipts⟩ digest cmd)=
            (q.digest==digest) := rfl
        rw [hc]
        simpa using hfresh s₁ hrows q hmem
      rw [Db.admits,hall]
      rfl
  refine ⟨hdo,?_⟩
  refine accepts_wp (D := [.contentSealReceipts,.contentObjects]) (by decide)
    (P := fun s' => ∃ receipt,contentIdentityState s' digest=.sealReceiptOnly receipt) ?_ h.valid
    hdo ?_
  · rintro s₂ s₃ hd ⟨receipt,hreceipt⟩
    exact ⟨receipt,by rw [contentIdentityState_congr hd,hreceipt]⟩
  · intro s₂ cmd₂ hst
    change Tx.wp (recordContentSealReceipt cmd₂ digest) _ s₂
    simp only [recordContentSealReceipt,Tx.wp_bind,Tx.wp_read,Tx.wp_require,Tx.wp_insert,
      Tx.wp_pure]
    intro _ n hn _
    refine ⟨n,?_⟩
    have hreceipt : sealReceiptOf (s₂.append .contentSealReceipts ⟨n,digest,cmd₂⟩ (n.val+1)) digest=
        some ⟨n,digest,cmd₂⟩ := by
      have hold : sealReceiptOf s₂ digest=none := by
        refine List.find?_eq_none.mpr (fun q hmem => ?_)
        simpa using hfresh s₂ (hst.same _ (by decide)) q hmem
      unfold sealReceiptOf at hold ⊢
      rw [Db.rows,Db.append_same,List.find?_append,hold]
      simp
    have hobject : objectOfReceipt (s₂.append .contentSealReceipts ⟨n,digest,cmd₂⟩ (n.val+1)) n=
        none := by
      rw [objectOfReceipt,Db.rows,Db.append_ne _ _ _ (by decide)]
      refine List.find?_eq_none.mpr (fun o hmem => ?_)
      have hlt := hst.valid.target_lt (t := .contentObjects) hmem (u := .contentSealReceipts) rfl
        List.mem_cons_self
      have hne : o.contentSealReceiptId≠n := by
        rintro rfl
        omega
      simpa using hne
    rw [contentIdentityState,hreceipt]
    simp only [hobject]

theorem sealReceiptOnly_iff {receipt : ContentSealReceiptId} :
    contentIdentityState s digest=.sealReceiptOnly receipt ↔
      ∃ q,sealReceiptOf s digest=some q ∧ q.contentSealReceiptId=receipt ∧
        objectOfReceipt s receipt=none := by
  unfold contentIdentityState
  cases sealReceiptOf s digest with
  | none => simp
  | some q =>
    cases hobject : objectOfReceipt s q.contentSealReceiptId with
    | none =>
      simp only [ContentIdentityState.sealReceiptOnly.injEq,Option.some.injEq,hobject]
      constructor
      · rintro rfl
        exact ⟨q,rfl,rfl,hobject⟩
      · rintro ⟨_,rfl,hreceipt,_⟩
        exact hreceipt
    | some o =>
      simp only [reduceCtorEq,Option.some.injEq,hobject,false_iff]
      rintro ⟨_,rfl,rfl,hnone⟩
      cases hobject.symm.trans hnone

/-- A receipt without an object gets its object. -/
theorem register_accepted (h : Reachable hash s) {r : CommandRequest}
    {receipt : ContentSealReceiptId} (hbody : r.body=.registerContentObject receipt)
    (hauth : authorized s r=true) (hq : storedCommand s r.commandId=none)
    (hcommands : (s .commands).next<bigintLimit) (hobjects : (s .contentObjects).next<bigintLimit)
    (hstate : contentIdentityState s digest=.sealReceiptOnly receipt) :
    ∃ i object,(execute hash r s).1=.ok ⟨.accepted i,false⟩ ∧
      contentIdentityState (execute hash r s).2 digest=.registered receipt object ∧
      ⟨i,.contentObjectRegistered object receipt⟩∈(execute hash r s).2.rows .eventBodies := by
  obtain ⟨id,p,k,c,g,b⟩ := r
  cases hbody
  obtain ⟨q,hreceipt,hid,hnone⟩ := sealReceiptOnly_iff.mp hstate
  obtain ⟨s₁,cmd,hsame,hv₁,haccepts⟩ := accepts_body h hq (by rfl) hcommands hauth (by rfl)
  have hunregistered (s₁ : Store) (hrows : s₁ .contentObjects=s .contentObjects) :
      ∀ o∈s₁.rows .contentObjects,o.contentSealReceiptId≠receipt := by
    intro o hmem heq
    rw [Db.rows,hrows] at hmem
    have ho := List.find?_eq_none.mp hnone o hmem
    simp [heq] at ho
  have hfound (s₁ : Store) (hrows : s₁ .contentSealReceipts=s .contentSealReceipts) :
      s₁.find .contentSealReceipts receipt=some q := by
    rw [Db.find,Db.rows,hrows]
    exact h.valid.find_eq rfl (List.mem_of_find?_eq_some hreceipt) (congrArg Id.val hid)
  have hdo : accepts hash s ⟨id,p,k,c,g,.registerContentObject receipt⟩ := by
    refine haccepts.mpr ?_
    change Tx.total (registerContentObject cmd receipt) _ s₁
    simp only [registerContentObject,Tx.total_bind,Tx.total_get,Tx.total_read,Tx.total_require,
      Tx.total_insert,Tx.total_pure]
    have hrows : s₁ .contentObjects=s .contentObjects := hsame _ (by decide)
    refine ⟨q,hfound s₁ (hsame _ (by decide)),?_,
      ⟨(s .contentObjects).next,h.valid.positive _,hobjects⟩,by rw [hrows],?_,trivial⟩
    · simpa using hunregistered s₁ hrows
    · let new : ContentObjectRow :=
        ⟨⟨(s .contentObjects).next,h.valid.positive _,hobjects⟩,receipt,cmd⟩
      have hall : (s₁.rows .contentObjects).all (fun o => !conflict Tbl.contentObjects o new)=
          true := by
        refine List.all_eq_true.mpr (fun o hmem => ?_)
        have hc : conflict Tbl.contentObjects o new=(o.contentSealReceiptId==receipt) := rfl
        rw [hc]
        simpa using hunregistered s₁ hrows o hmem
      have hlink : s₁.linked .contentObjects new=true := by
        have hhas : s₁.has .contentSealReceipts receipt.val=true :=
          Db.has_find.mpr ⟨q,hfound s₁ (hsame _ (by decide))⟩
        have hrefs : refs Tbl.contentObjects new=[ref receipt] := rfl
        rw [Db.linked,hrefs]
        simpa [ref] using hhas
      have hcheck : check Tbl.contentObjects new=true := rfl
      change s₁.admits .contentObjects new=true
      rw [Db.admits,hall,hlink,hcheck]
      rfl
  obtain ⟨i,hi⟩ := hdo
  have hevent := accepted_event (D := [.contentSealReceipts,.contentObjects]) (by decide)
    (P := fun e s' => ∃ object,e=.contentObjectRegistered object receipt ∧
      contentIdentityState s' digest=.registered receipt object) ?_ h.valid hi ?_
  · obtain ⟨_,hmem,object,rfl,hobject⟩ := hevent
    exact ⟨i,object,hi,hobject,hmem⟩
  · rintro e s₂ s₃ hd ⟨object,he,hobject⟩
    exact ⟨object,he,by rw [contentIdentityState_congr hd,hobject]⟩
  · intro s₂ cmd₂ hst
    change Tx.wp (registerContentObject cmd₂ receipt) _ s₂
    simp only [registerContentObject,Tx.wp_bind,Tx.wp_get,Tx.wp_read,Tx.wp_require,Tx.wp_insert,
      Tx.wp_pure]
    intro _ _ _ n _ _
    refine ⟨n,rfl,?_⟩
    have hreceipt' : sealReceiptOf (s₂.append .contentObjects ⟨n,receipt,cmd₂⟩ (n.val+1)) digest=
        some q := by
      unfold sealReceiptOf at hreceipt ⊢
      rw [Db.rows,Db.append_ne _ _ _ (by decide),hst.same _ (by decide)]
      exact hreceipt
    have hobject : objectOfReceipt (s₂.append .contentObjects ⟨n,receipt,cmd₂⟩ (n.val+1)) receipt=
        some ⟨n,receipt,cmd₂⟩ := by
      have hold : objectOfReceipt s₂ receipt=none := by
        refine List.find?_eq_none.mpr (fun o hmem => ?_)
        simpa using hunregistered s₂ (hst.same _ (by decide)) o hmem
      unfold objectOfReceipt at hold ⊢
      rw [Db.rows,Db.append_same,List.find?_append,hold]
      simp
    rw [contentIdentityState,hreceipt']
    simp only [hid,hobject]

/-- The kernel service may issue what it has a compiled grant for, wherever no treatment fences
the request. -/
theorem kernelService_authorized {r : CommandRequest} {g : CapabilityGrantRow}
    (hp : r.principalId=kernelPrincipal) (hcap : r.capability=r.body.requiredCapability)
    (hgen : r.body.requiresGeneration=r.expectedGeneration.isExact)
    (hg : s.find .capabilityGrants r.capabilityGrantId=some g)
    (hgp : g.principalId=kernelPrincipal) (hgc : g.capabilityKind=r.capability)
    (hga : g.grantState=.active)
    (hfence : qualificationTreatmentFencesRequest s r.principalId r.body=false) :
    authorized s r=true := by
  have hgrant : capabilityGrant s r=some g := by
    rw [capabilityGrant,hg,Option.filter_some,if_pos]
    simp [hgp,hp,hgc]
  have hoffice : officeAuthority s r g=.ok () := by
    rw [officeAuthority,if_pos (.inr hp)]
  refine authorized_iff.mpr ⟨g,?_⟩
  rw [authorize,if_neg (not_not.mpr hcap),if_neg (not_not.mpr hgen),hgrant]
  simp only [hga,ne_eq,not_true_eq_false,if_false,hoffice,hfence,Bool.false_eq_true]

/-- Where a command is accepted, a table that it does not write keeps its sequence, and that of
the commands moves by one. -/
theorem accepted_next {r : CommandRequest} (h : accepts hash s r) :
    ((execute hash r s).2 .commands).next=(s .commands).next+1 ∧
      ∀ t,t∉ledger → t∉r.writes hash → (execute hash r s).2 t=s t := by
  have hx := execute_executed hash s r
  obtain ⟨i,hi⟩ := h
  generalize (execute hash r s).1=o at hx hi
  generalize (execute hash r s).2=s' at hx
  cases hx with
  | replayed q hq hf => simp at hi
  | conflict q hq hf => simp at hi
  | aborted hq e s₁ hle => simp at hi
  | rejected hq cmd hc ha e s₂ hr => simp at hi
  | accepted hq cmd hc ha body s₂ hr j hj n hn =>
    constructor
    · have hcommands := applyCommand_ledger hash hr (t := .commands) (by decide)
      rw [settled,Db.modify_same,published,Db.append_ne _ _ _ (by decide),
        Db.append_ne _ _ _ (by decide),hcommands,recorded,Db.append_ne _ _ _ (by decide),
        Db.append_same,← hc]
    · intro t ht hw
      have hf := (applyCommand hash cmd r).frame (recorded hash s cmd r) t hw
      rw [show (applyCommand hash cmd r).run (recorded hash s cmd r)=(.ok body,s₂) from hr] at hf
      have hsame : s₂ t=recorded hash s cmd r t := hf
      rw [settled_other _ _ _ ht,published_other _ _ _ _ _ ht,hsame,recorded_other _ _ _ ht]

end Content
end Society.Kernel
