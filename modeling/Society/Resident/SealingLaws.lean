import Society.Content.StoreRuns
import Society.Resident.ContentSealing

namespace Society.Resident
open Society.Coding Society.Relational Society.Stateful Society.Kernel
open Society.Content (FileReads Kept content_cut received received_content sealReader_wp)

/-! The labels of sealing operations, and what one seal does to the kernel and to the store. -/

section Labels

/-- The characters of a label. -/
def labelCharacter (c : Char) : Bool := isLowercase c || isDigit c || c== '-'

theorem validLabel_iff {value : String} {n : Nat} : validLabel value n=true ↔
    value.toList≠[] ∧ value.utf8ByteSize≤n ∧ value.toList.head?.any isAsciiAlphanumeric=true ∧
      value.toList.getLast?.any isAsciiAlphanumeric=true ∧
      ∀ c∈value.toList,labelCharacter c=true := by
  simp [validLabel,labelCharacter,and_assoc]

theorem labelCharacter_graphic {c : Char} (h : labelCharacter c=true) :
    0x21 ≤ c.toNat ∧ c.toNat≤0x7e := by
  simp only [labelCharacter,isLowercase,isDigit,Bool.or_eq_true,Bool.and_eq_true,decide_eq_true_eq,
    beq_iff_eq] at h
  rcases h with (⟨_,_⟩ | ⟨_,_⟩) | rfl
  · omega
  · omega
  · decide

variable (operation : StudyAdmissionOperationId) (slot : StudyAdmissionContentSlot)

theorem contentLabel_toList : (contentLabel operation slot).toList=
    "study-admission-".toList++operation.value.toList++['-']++slot.value.toList := by
  have hhyphen : "-".toList=['-'] := by decide
  unfold contentLabel
  rw [String.toList_append (t := slot.value),String.toList_append (t := "-"),
    String.toList_append (t := operation.value),hhyphen]

theorem contentLabel_valid : validOperationLabel (contentLabel operation slot)=true := by
  obtain ⟨_,hsize,_,_,hall⟩ := validLabel_iff.mp operation.valid
  obtain ⟨hne,hsize',_,hlast,hall'⟩ := validLabel_iff.mp slot.valid
  have hprefix : "study-admission-".utf8ByteSize=16 := by decide
  have hhyphen : "-".utf8ByteSize=1 := by decide
  refine validLabel_iff.mpr ⟨?_,?_,?_,?_,?_⟩
  · rw [contentLabel_toList]
    exact List.append_ne_nil_of_right_ne_nil _ hne
  · unfold contentLabel
    simp only [maxOperationBytes,maxContentSlotBytes] at hsize hsize'
    rw [String.utf8ByteSize_append (t := slot.value),String.utf8ByteSize_append (t := "-"),
      String.utf8ByteSize_append (t := operation.value),maxOperationLabelBytes]
    omega
  · have hstart : "study-admission-".toList= 's'::"tudy-admission-".toList := by decide
    have hs : isAsciiAlphanumeric 's'=true := by decide
    rw [contentLabel_toList,hstart]
    simpa using hs
  · rw [contentLabel_toList,List.getLast?_append_of_ne_nil _ hne]
    exact hlast
  · rw [contentLabel_toList]
    intro c hc
    simp only [List.mem_append,List.mem_singleton] at hc
    rcases hc with ((hc | hc) | rfl) | hc
    · have hpart : "study-admission-".toList.all labelCharacter=true := by decide
      exact List.all_eq_true.mp hpart c hc
    · exact hall c hc
    · rfl
    · exact hall' c hc

def isGraphic (c : Char) : Bool := 0x21 ≤ c.toNat && c.toNat≤0x7e

theorem isGraphic_iff {c : Char} : isGraphic c=true ↔ 0x21 ≤ c.toNat ∧ c.toNat≤0x7e := by
  simp [isGraphic]

/-- The command identities derived from a valid label are graphic. -/
theorem derived_valid {label : String} (h : validOperationLabel label=true) {suffix : String}
    (hs : suffix.utf8ByteSize≤8 ∧ suffix.toList.all isGraphic=true) :
    graphicIdentity ("content-seal-v1/"++label++suffix)=true := by
  obtain ⟨hne,hsize,_,_,hall⟩ := validLabel_iff.mp h
  have hprefix : "content-seal-v1/".utf8ByteSize=16 := by decide
  simp only [graphicIdentity,Bool.and_eq_true,decide_eq_true_eq,List.all_eq_true]
  rw [String.toList_append (t := suffix),String.toList_append (t := label)]
  refine ⟨⟨?_,?_⟩,?_⟩
  · exact List.append_ne_nil_of_left_ne_nil (List.append_ne_nil_of_right_ne_nil _ hne) _
  · simp only [maxOperationLabelBytes] at hsize
    rw [String.utf8ByteSize_append (t := suffix),String.utf8ByteSize_append (t := label)]
    omega
  · intro c hc
    simp only [List.mem_append] at hc
    rcases hc with (hc | hc) | hc
    · have hpart : "content-seal-v1/".toList.all isGraphic=true := by decide
      exact isGraphic_iff.mp (List.all_eq_true.mp hpart c hc)
    · exact labelCharacter_graphic (hall c hc)
    · exact isGraphic_iff.mp (List.all_eq_true.mp hs.2 c hc)

/-- The two commands of an operation and a slot. -/
def recordCommand : CommandId :=
  ⟨recordCommandText (contentLabel operation slot),
    derived_valid (contentLabel_valid operation slot) (by decide)⟩

def registerCommand : CommandId :=
  ⟨registerCommandText (contentLabel operation slot),
    derived_valid (contentLabel_valid operation slot) (by decide)⟩

def contentOperation (digest : Blake3Digest) : ContentSealOperationId :=
  ⟨digest,recordCommand operation slot,registerCommand operation slot⟩

/-- Every label of an operation and a slot derives its two commands. -/
theorem parse_contentLabel (digest : Blake3Digest) :
    ContentSealOperationId.parse (contentLabel operation slot) digest=
      .ok (contentOperation operation slot digest) := by
  have hreceipt := (recordCommand operation slot).valid
  have hobject := (registerCommand operation slot).valid
  simp only [recordCommand,registerCommand] at hreceipt hobject
  rw [ContentSealOperationId.parse,if_pos (contentLabel_valid operation slot),parseCommandId,
    dif_pos hreceipt,parseCommandId,dif_pos hobject]
  rfl

theorem framed_inj {before a b after : String} (h : before++a++after=before++b++after) : a=b := by
  have hlist := congrArg String.toList h
  simp only [String.toList_append,List.append_assoc] at hlist
  exact String.toList_inj.mp (List.append_cancel_right (List.append_cancel_left hlist))

theorem recordCommandText_inj {a b : String} (h : recordCommandText a=recordCommandText b) :
    a=b := framed_inj h

theorem registerCommandText_inj {a b : String}
    (h : registerCommandText a=registerCommandText b) : a=b := framed_inj h

theorem framed_suffix (before a after : String) :
    after.toList <:+ (before++a++after).toList := by
  rw [String.toList_append]
  exact List.suffix_append _ _

/-- A receipt command is never an object command. -/
theorem recordCommandText_ne (a b : String) : recordCommandText a≠registerCommandText b := by
  intro h
  have hreceipt := framed_suffix "content-seal-v1/" a "/receipt"
  have hobject := framed_suffix "content-seal-v1/" b "/object"
  have htext : "content-seal-v1/"++a++"/receipt"="content-seal-v1/"++b++"/object" := h
  rw [htext] at hreceipt
  rcases List.suffix_or_suffix_of_suffix hreceipt hobject with hends | hends
  · exact absurd hends (by decide)
  · exact absurd hends (by decide)

end Labels

section Growth
variable {hash : Bytes → Blake3Digest} {α β : Type} {d d' d'' : Daemon}

/-- The kernel after further commands. -/
def Later (hash : Bytes → Blake3Digest) (s s' : Store) : Prop :=
  ∃ requests,s'=runCommands hash requests s

theorem Later.refl (s : Store) : Later hash s s := ⟨[],rfl⟩

theorem Later.trans {s s' s'' : Store} (h : Later hash s s') (h' : Later hash s' s'') :
    Later hash s s'' := by
  obtain ⟨requests,rfl⟩ := h
  obtain ⟨requests',rfl⟩ := h'
  exact ⟨requests++requests',by simp [runCommands]⟩

theorem Later.step (s : Store) (r : CommandRequest) : Later hash s (execute hash r s).2 :=
  ⟨[r],rfl⟩

/-- What every call does to the daemon: more commands, a store in order, the same limit. -/
structure Evolves (hash : Bytes → Blake3Digest) (d d' : Daemon) : Prop where
  later : Later hash d.store d'.store
  kept : Kept hash d'.contentSealing.store
  limit : d'.contentSealing.limit=d.contentSealing.limit
  mode : d'.mode=d.mode

theorem Evolves.trans (h : Evolves hash d d') (h' : Evolves hash d' d'') : Evolves hash d d'' :=
  ⟨h.later.trans h'.later,h'.kept,h'.limit.trans h.limit,h'.mode.trans h.mode⟩

/-- The call does nothing else, whatever it answers. -/
def Evolving (hash : Bytes → Blake3Digest) {ε : Type} (m : Handler Daemon ε α) : Prop :=
  ∀ d,Kept hash d.contentSealing.store →
    Handler.wp m (fun _ d' => Evolves hash d d') (fun _ d' => Evolves hash d d') d

namespace Evolving
variable {ε : Type}

theorem pure (a : α) : Evolving hash (pure a : Handler Daemon ε α) :=
  fun _ hk => ⟨.refl _,hk,rfl,rfl⟩

theorem fail (e : ε) : Evolving hash (Handler.fail e : Handler Daemon ε α) :=
  fun _ hk => ⟨.refl _,hk,rfl,rfl⟩

theorem get : Evolving hash (Handler.get : Handler Daemon ε Daemon) :=
  fun _ hk => ⟨.refl _,hk,rfl,rfl⟩

theorem ensure (c : Prop) [Decidable c] (e : ε) :
    Evolving hash (Handler.ensure c e : Handler Daemon ε Unit) := by
  intro d hk
  rw [Handler.wp_ensure]
  exact ⟨fun _ => ⟨.refl _,hk,rfl,rfl⟩,fun _ => ⟨.refl _,hk,rfl,rfl⟩⟩

theorem bind {m : Handler Daemon ε β} {f : β → Handler Daemon ε α} (hm : Evolving hash m)
    (hf : ∀ b,Evolving hash (f b)) : Evolving hash (m>>=f) := by
  intro d hk
  rw [Handler.wp_bind]
  refine Handler.wp_mono ?_ (fun _ _ h => h) (hm d hk)
  intro b d' h
  refine Handler.wp_mono ?_ ?_ (hf b d' h.kept)
  · exact fun _ _ h' => h.trans h'
  · exact fun _ _ h' => h.trans h'

end Evolving

theorem executeKernel_evolving (r : CommandRequest) :
    Evolving hash (Daemon.executeKernel hash r) := by
  intro d hk
  have h : Evolves hash d { d with store := (execute hash r d.store).2 } :=
    ⟨.step _ r,hk,rfl,rfl⟩
  unfold Handler.wp Daemon.executeKernel
  cases (execute hash r d.store).1 <;> exact h

theorem serviceCommand_evolving (i : CommandId) (c : Capability) (b : CommandBody) :
    Evolving hash (Daemon.executeKernelServiceCommand hash i c b) := by
  refine .bind .get fun d => ?_
  split
  · exact .fail _
  · refine .bind (executeKernel_evolving _) fun receipt => ?_
    split
    · exact .pure _
    · exact .fail _

theorem registerAfterReceipt_evolving (o : ContentSealOperationId) (digest : Blake3Digest)
    (disposition : Content.ContentSealDisposition) (receipt : ContentSealReceiptId) :
    Evolving hash (Daemon.registerAfterReceipt hash o digest disposition receipt) := by
  refine .bind (serviceCommand_evolving _ _ _) fun _ => .bind (.bind .get fun _ => .pure _)
    fun state => ?_
  split
  · exact .pure _
  · exact .fail _

/-- The daemon with another content store. -/
def Daemon.withStore (d : Daemon) (t : Content.ContentObjectStore) : Daemon :=
  { d with contentSealing := { d.contentSealing with store := t } }

@[simp] theorem withStore_store (t : Content.ContentObjectStore) : (d.withStore t).store=d.store := rfl

@[simp] theorem physical_wp (m : Content.ContentObjectStore.Call α) (Q : α → Daemon → Prop)
    (E : ContentSealingError → Daemon → Prop) : Handler.wp (Daemon.physical m) Q E d ↔
      Handler.wp m (fun a t => Q a (d.withStore t)) (fun e t => E (.physical e) (d.withStore t))
        d.contentSealing.store := by
  unfold Handler.wp Daemon.physical Daemon.withStore
  rcases m d.contentSealing.store with ⟨_ | _,t⟩ <;> rfl

/-- A seal at the content store, with what it answers. -/
theorem sealBytes_wp (reads : FileReads) (bytes : Bytes) (hk : Kept hash d.contentSealing.store) :
    Handler.wp (Daemon.sealBytes hash reads bytes)
      (fun r d' => r.digest=hash bytes ∧ ∃ t,Kept hash t ∧ d'=d.withStore t)
      (fun _ d' => (d.contentSealing.store.nextTemporaryId=UInt64.ofNat (2^64-1) ∨
          ¬bytes.length≤d.contentSealing.limit.bytes.toNat) ∧
        ∃ t,Kept hash t ∧ d'=d.withStore t) d := by
  have hreceived := received_content d.contentSealing.limit .sealLimitExceeded
    (content_cut reads bytes) (show ([] : Bytes).length≤_ from Nat.zero_le _)
  rw [List.nil_append] at hreceived
  have hcounted : Kept hash d.contentSealing.store.counted := ⟨hk.named,hk.clean⟩
  simp only [Daemon.sealBytes,Handler.wp_bind,Handler.wp_get,physical_wp]
  refine Handler.wp_mono ?_ ?_ (sealReader_wp hk _ _)
  · rintro receipt t ⟨_,b,hb,hdigest,hstore⟩
    rw [hreceived] at hb
    split at hb <;> cases hb
    refine ⟨hdigest,t,?_,rfl⟩
    rcases hstore with ⟨_,_,rfl⟩ | ⟨_,_,rfl⟩
    · exact hcounted.stored bytes
    · exact ⟨hk.named,hk.clean⟩
  · rintro e t ⟨rfl,hcause⟩
    refine ⟨?_,_,hcounted,rfl⟩
    rcases hcause with ⟨hid,_⟩ | ⟨_,he⟩
    · exact .inl hid
    · rw [hreceived] at he
      refine .inr fun hfits => ?_
      rw [if_pos hfits] at he
      cases he

theorem sealBytes_evolving (reads : FileReads) (bytes : Bytes) :
    Evolving hash (Daemon.sealBytes hash reads bytes) := by
  intro d hk
  refine Handler.wp_mono ?_ ?_ (sealBytes_wp reads bytes hk)
  · rintro _ _ ⟨_,t,ht,rfl⟩
    exact ⟨.refl _,ht,rfl,rfl⟩
  · rintro _ _ ⟨_,t,ht,rfl⟩
    exact ⟨.refl _,ht,rfl,rfl⟩

theorem sealAndRegister_evolving (reads : FileReads) (o : ContentSealOperationId) (bytes : Bytes) :
    Evolving hash (Daemon.sealAndRegister hash reads o bytes) := by
  refine .bind (.ensure _ _) fun _ => .bind (sealBytes_evolving _ _) fun sealed =>
    .bind (.ensure _ _) fun _ => .bind (.bind .get fun _ => .pure _) fun state => ?_
  split
  · exact .pure _
  · exact registerAfterReceipt_evolving _ _ _ _
  · refine .bind (serviceCommand_evolving _ _ _) fun _ => .bind (.bind .get fun _ => .pure _)
      fun state' => ?_
    split
    · exact .pure _
    · exact registerAfterReceipt_evolving _ _ _ _
    · exact .fail _

theorem sealContentObject_evolving (reads : FileReads) (o : ContentSealOperationId)
    (bytes : Bytes) : Evolving hash (Daemon.sealContentObject hash reads o bytes) :=
  .bind .get fun _ => .bind (.ensure _ _) fun _ => sealAndRegister_evolving reads o bytes

theorem sealStudyAdmissionContent_evolving (reads : FileReads) (o : ContentSealOperationId)
    (bytes : Bytes) : Evolving hash (Daemon.sealStudyAdmissionContent hash reads o bytes) := by
  refine .bind (sealContentObject_evolving _ _ _) fun _ => .bind .get fun d => ?_
  split
  · exact .pure _
  · exact .fail _

@[simp] theorem mapContentError_wp (m : Daemon.Call α) (Q : α → Daemon → Prop)
    (E : StudyAdmissionError → Daemon → Prop) : Handler.wp (mapContentError m) Q E d ↔
      Handler.wp m Q (fun _ d' => E .contentSealing d') d := by
  unfold Handler.wp mapContentError
  rcases m d with ⟨_ | _,d'⟩ <;> rfl

theorem sealContent_evolving (operation : StudyAdmissionOperationId)
    (slot : StudyAdmissionContentSlot) (reads : FileReads) (bytes : Bytes) :
    Evolving hash (sealContent hash operation slot reads bytes) := by
  refine .bind .get fun d => .bind (.ensure _ _) fun _ => .bind ?_ fun o => .bind ?_ fun _ =>
    .pure _
  · cases (ContentSealOperationId.parse (contentLabel operation slot) (hash bytes)).mapError
      (fun _ => StudyAdmissionError.contentOperationIdentity) with
    | ok o => exact .pure o
    | error e => exact .fail e
  · intro d hk
    rw [mapContentError_wp]
    exact sealStudyAdmissionContent_evolving reads o bytes d hk

end Growth

section Facts
variable {hash : Bytes → Blake3Digest} {s s' : Store}

theorem Later.induct {P : Store → Prop} (h : Later hash s s') (hr : Reachable hash s) (hs : P s)
    (hstep : ∀ t r,Reachable hash t → P t → P (execute hash r t).2) : Reachable hash s' ∧ P s' := by
  obtain ⟨requests,rfl⟩ := h
  induction requests generalizing s with
  | nil => exact ⟨hr,hs⟩
  | cons r requests ih => exact ih (.step hr r trivial) (hstep s r hr hs)

theorem Later.reachable (h : Later hash s s') (hr : Reachable hash s) : Reachable hash s' :=
  (h.induct (P := fun _ => True) hr trivial fun _ _ _ _ => trivial).1

theorem Later.registered (h : Later hash s s') (hr : Reachable hash s) {digest : Blake3Digest}
    {receipt : ContentSealReceiptId} {object : ContentObjectId}
    (hs : contentIdentityState s digest=.registered receipt object) :
    contentIdentityState s' digest=.registered receipt object :=
  (h.induct hr hs fun _ r ht hd => registered_kept hd ht.valid r).2

theorem Later.stored (h : Later hash s s') (hr : Reachable hash s) {i : CommandId}
    {q : CommandRow} (hs : storedCommand s i=some q) : storedCommand s' i=some q :=
  (h.induct hr hs fun _ r ht hq => execute_stored ht.valid r hq).2

theorem Later.eventBodies (h : Later hash s s') (hr : Reachable hash s) {e : EventBodyRow}
    (hs : e∈s.rows .eventBodies) : e∈s'.rows .eventBodies :=
  (h.induct (P := fun t => e∈t.rows .eventBodies) hr hs
    fun _ r ht he => execute_eventBodies ht.valid r he).2

/-- A digest with its object, and the accepted event of the command that registered it. -/
structure Registration (s : Store) (command : CommandId) (c : SealedStudyContent) : Prop where
  registered : ∃ receipt,contentIdentityState s c.digest=.registered receipt c.contentObjectId ∧
    ⟨c.registrationFrontierEventId,.contentObjectRegistered c.contentObjectId receipt⟩∈
      s.rows .eventBodies
  receipt : ∃ q,storedCommand s command=some q ∧
    q.disposition=.accepted c.registrationFrontierEventId

theorem Registration.later {command : CommandId} {c : SealedStudyContent}
    (h : Registration s command c) (hl : Later hash s s') (hr : Reachable hash s) :
    Registration s' command c := by
  obtain ⟨receipt,hstate,hevent⟩ := h.registered
  obtain ⟨q,hq,hd⟩ := h.receipt
  exact ⟨⟨receipt,hl.registered hr hstate,hl.eventBodies hr hevent⟩,q,hl.stored hr hq,hd⟩

end Facts

section Seals
variable {hash : Bytes → Blake3Digest} {d : Daemon}

/-- A command of the kernel service that is accepted under whichever grant it finds. -/
theorem serviceCommand_wp (hr : Reachable hash d.store) {c : CommandId} {b : CommandBody}
    (i : Fin 78) (hi : 8 ≤ i.val) (hc : (seededGrant i).capabilityKind=b.requiredCapability)
    (hgen : b.requiresGeneration=false)
    (hfence : qualificationTreatmentFencesRequest d.store kernelPrincipal b=false)
    {P : EventId → Store → Prop}
    (haccept : ∀ r : CommandRequest,r.commandId=c → r.body=b → authorized d.store r=true →
      ∃ e,(execute hash r d.store).1=.ok ⟨.accepted e,false⟩ ∧ P e (execute hash r d.store).2) :
    Handler.wp (Daemon.executeKernelServiceCommand hash c b.requiredCapability b)
      (fun _ d' => ∃ e s',d'={ d with store := s' } ∧ P e s') (fun _ _ => False) d := by
  obtain ⟨grant,row,hgrant,hrow,hprincipal,hkind,hactive⟩ := hr.kernelGrant i hi
  rw [hc] at hgrant hkind
  obtain ⟨e,he,hP⟩ := haccept
    (Daemon.kernelServiceRequest c b.requiredCapability b grant) rfl rfl
    (kernelService_authorized rfl rfl hgen hrow hprincipal hkind hactive hfence)
  simp only [Daemon.executeKernelServiceCommand,Handler.wp_bind,Handler.wp_get,hgrant]
  unfold Handler.wp Daemon.executeKernel
  rw [he]
  exact ⟨e,_,rfl,hP⟩

/-- An identity that another command has not taken is still free. -/
theorem unstored {s : Store} (hr : Reachable hash s) {r : CommandRequest} {e : EventId}
    (he : (execute hash r s).1=.ok ⟨.accepted e,false⟩) {i : CommandId} (hi : i≠r.commandId)
    (hs : storedCommand s i=none) : storedCommand (execute hash r s).2 i=none := by
  obtain ⟨cmd,_,_,_,_,_,hcommands,_⟩ := execute_accepted hr.valid he
  have hne : r.commandId.stored≠i.stored := fun h => hi (Text.stored_inj.mp h.symm)
  unfold storedCommand at hs ⊢
  rw [hcommands,List.find?_append,hs]
  simp [CommandRequest.row,hne]

/-- Nothing keeps a seal of new bytes under a new operation from its registration. A receipt may be
there already. -/
structure Fresh (hash : Bytes → Blake3Digest) (s : Store) (o : ContentSealOperationId)
    (bytes : Bytes) : Prop where
  unregistered : ∀ receipt object,contentIdentityState s (hash bytes)≠.registered receipt object
  receipt : contentIdentityState s (hash bytes)=.absent →
    storedCommand s o.recordContentSealReceiptCommandId=none ∧
      (s .commands).next+1<bigintLimit ∧ (s .contentSealReceipts).next<bigintLimit
  object : storedCommand s o.registerContentObjectCommandId=none
  commands : (s .commands).next<bigintLimit
  objects : (s .contentObjects).next<bigintLimit

/-- No command but those of the operation is new. -/
def OnlyItsOwn (o : ContentSealOperationId) (s s' : Store) : Prop :=
  ∀ i,i≠o.recordContentSealReceiptCommandId → i≠o.registerContentObjectCommandId →
    storedCommand s i=none → storedCommand s' i=none

theorem register_wp (hr : Reachable hash d.store) (o : ContentSealOperationId)
    {digest : Blake3Digest} {receipt : ContentSealReceiptId}
    (disposition : Content.ContentSealDisposition)
    (hstate : contentIdentityState d.store digest=.sealReceiptOnly receipt)
    (hfree : storedCommand d.store o.registerContentObjectCommandId=none)
    (hcommands : (d.store .commands).next<bigintLimit)
    (hobjects : (d.store .contentObjects).next<bigintLimit) :
    Handler.wp (Daemon.registerAfterReceipt hash o digest disposition receipt)
      (fun r d' => r.digest=digest ∧ OnlyItsOwn o d.store d'.store ∧
        ∃ e,Registration d'.store o.registerContentObjectCommandId ⟨r.contentObjectId,digest,e⟩)
      (fun _ _ => False) d := by
  rw [Daemon.registerAfterReceipt,Handler.wp_bind]
  have hregister := serviceCommand_wp hr (c := o.registerContentObjectCommandId)
    (b := .registerContentObject receipt) 21 (by decide) (by rfl) (by rfl) (by rfl)
    (P := fun e s' => OnlyItsOwn o d.store s' ∧
      ∃ object,contentIdentityState s' digest=.registered receipt object ∧
        Registration s' o.registerContentObjectCommandId ⟨object,digest,e⟩) ?_
  · refine Handler.wp_mono ?_ (fun _ _ h => h) hregister
    rintro _ _ ⟨e,s',rfl,hown,object,hobject,hregistration⟩
    simp only [Daemon.identityState,Handler.wp_bind,Handler.wp_get,Handler.wp_pure,hobject]
    exact ⟨trivial,hown,e,hregistration⟩
  · intro r hcommand hbody hauth
    obtain ⟨e,object,he,hobject,hevent⟩ := register_accepted hr hbody hauth
      (by rw [hcommand]; exact hfree) hcommands hobjects hstate
    obtain ⟨q,hq,_,hd⟩ := execute_known hr.valid he
    rw [hcommand] at hq
    refine ⟨e,he,?_,object,hobject,⟨receipt,hobject,hevent⟩,q,hq,hd⟩
    intro i _ hi hs
    exact unstored hr he (by rw [hcommand]; exact hi) hs

theorem sealAndRegister_fresh (hr : Reachable hash d.store) (hk : Kept hash d.contentSealing.store)
    (reads : FileReads) {o : ContentSealOperationId} {bytes : Bytes}
    (hdigest : o.expectedDigest=hash bytes)
    (hdistinct : o.registerContentObjectCommandId≠o.recordContentSealReceiptCommandId)
    (hid : d.contentSealing.store.nextTemporaryId≠UInt64.ofNat (2^64-1))
    (hfits : bytes.length≤d.contentSealing.limit.bytes.toNat) (hf : Fresh hash d.store o bytes) :
    Handler.wp (Daemon.sealAndRegister hash reads o bytes)
      (fun r d' => r.digest=hash bytes ∧ OnlyItsOwn o d.store d'.store ∧
        ∃ e,Registration d'.store o.registerContentObjectCommandId
          ⟨r.contentObjectId,hash bytes,e⟩) (fun _ _ => False) d := by
  simp only [Daemon.sealAndRegister,Handler.wp_bind,Handler.wp_ensure]
  refine ⟨fun _ => ?_,fun h => h hdigest.symm⟩
  refine Handler.wp_mono ?_ ?_ (sealBytes_wp reads bytes hk)
  · rintro r _ ⟨hsealed,t,_,rfl⟩
    refine ⟨fun _ => ?_,fun h => h (hsealed.trans hdigest.symm)⟩
    rw [hsealed]
    simp only [Daemon.identityState,Handler.wp_bind,Handler.wp_get,Handler.wp_pure,withStore_store]
    cases hstate : contentIdentityState d.store (hash bytes) with
    | registered receipt object => exact (hf.unregistered receipt object hstate).elim
    | sealReceiptOnly receipt =>
      exact register_wp (d := d.withStore t) hr o _ hstate hf.object hf.commands hf.objects
    | absent =>
      obtain ⟨hreceiptFree,hcommands,hreceipts⟩ := hf.receipt hstate
      have hrecord := serviceCommand_wp (d := d.withStore t) hr (c := o.recordContentSealReceiptCommandId)
        (b := .recordContentSealReceipt (hash bytes)) 20 (by decide) (by rfl) (by rfl) (by rfl)
        (P := fun _ s' => Reachable hash s' ∧ OnlyItsOwn o d.store s' ∧
          (∃ receipt,contentIdentityState s' (hash bytes)=.sealReceiptOnly receipt) ∧
          storedCommand s' o.registerContentObjectCommandId=none ∧
          (s' .commands).next<bigintLimit ∧ (s' .contentObjects).next<bigintLimit) ?_
      · simp only [Handler.wp_bind]
        refine Handler.wp_mono ?_ (fun _ _ h => h) hrecord
        rintro _ _ ⟨_,s',rfl,hr',hown,⟨receipt,hreceipt⟩,hfree,hcommands,hobjects⟩
        simp only [Handler.wp_get,hreceipt,Handler.wp_pure]
        refine Handler.wp_mono ?_ (fun _ _ h => h) (register_wp
          (d := { d.withStore t with store := s' }) hr' o _ hreceipt hfree hcommands hobjects)
        rintro _ _ ⟨hr,hown',h⟩
        exact ⟨hr,fun i hi hi' hs => hown' i hi hi' (hown i hi hi' hs),h⟩
      · intro request hcommand hbody hauth
        have hfree : storedCommand d.store request.commandId=none := by
          rw [hcommand]
          exact hreceiptFree
        obtain ⟨hdo,hreceipt⟩ := record_accepted (s := d.store) hr hbody hauth hfree (by omega)
          hreceipts hstate
        obtain ⟨e,he⟩ := hdo
        obtain ⟨hnext,hframe⟩ := accepted_next ⟨e,he⟩
        refine ⟨e,he,.step hr request trivial,?_,hreceipt,?_,?_,?_⟩
        · intro i hi _ hs
          exact unstored hr he (by rw [hcommand]; exact hi) hs
        · exact unstored hr he (by rw [hcommand]; exact hdistinct) hf.object
        · change ((execute hash request d.store).2 .commands).next<bigintLimit
          omega
        · have hwrites : Tbl.contentObjects∉request.writes hash := by
            obtain ⟨_,_,_,_,_,_⟩ := request
            cases hbody
            exact of_decide_eq_true rfl
          change ((execute hash request d.store).2 .contentObjects).next<bigintLimit
          rw [hframe .contentObjects (by decide) hwrites]
          exact hf.objects
  · rintro e _ ⟨hcause,_⟩
    rcases hcause with h | h
    · exact hid h
    · exact h hfits

variable {operation : StudyAdmissionOperationId} {slot : StudyAdmissionContentSlot}

/-- A seal of content is what the daemon makes of the operation of the label. -/
theorem sealContent_wp (hmode : d.mode=.freshServing) (reads : FileReads) (bytes : Bytes)
    (Q : SealedStudyContent → Daemon → Prop) (E : StudyAdmissionError → Daemon → Prop) :
    Handler.wp (sealContent hash operation slot reads bytes) Q E d ↔
      Handler.wp (Daemon.sealAndRegister hash reads (contentOperation operation slot (hash bytes))
        bytes) (fun r d' => match commandReceipt d'.store (registerCommand operation slot) with
          | some ⟨.accepted e,_⟩ => Q ⟨r.contentObjectId,r.digest,e⟩ d'
          | _ => E .contentSealing d') (fun _ d' => E .contentSealing d') d := by
  have hfresh : d.mode≠.recoveryFenced := by
    rw [hmode]
    decide
  simp only [sealContent,Daemon.sealStudyAdmissionContent,Daemon.sealContentObject,
    parse_contentLabel,Except.mapError,Handler.lift,Handler.wp_bind,Handler.wp_get,
    Handler.wp_ensure,Handler.wp_ok,mapContentError_wp,Handler.wp_pure,hfresh,ne_eq,
    not_false_eq_true,not_true_eq_false,forall_const,false_implies,and_true]
  refine iff_of_eq (congrArg (fun Q => Handler.wp _ Q _ d) ?_)
  funext r d'
  change Handler.wp (match commandReceipt d'.store (registerCommand operation slot) with
    | some ⟨.accepted frontier,_⟩ => _ | _ => _) _ _ _=_
  split <;> rfl

/-- A first seal of new bytes registers them. -/
theorem sealContent_fresh (hr : Reachable hash d.store) (hk : Kept hash d.contentSealing.store)
    (hmode : d.mode=.freshServing) (reads : FileReads) {bytes : Bytes}
    (hid : d.contentSealing.store.nextTemporaryId≠UInt64.ofNat (2^64-1))
    (hfits : bytes.length≤d.contentSealing.limit.bytes.toNat)
    (hf : Fresh hash d.store (contentOperation operation slot (hash bytes)) bytes) :
    Handler.wp (sealContent hash operation slot reads bytes)
      (fun c d' => c.digest=hash bytes ∧ Registration d'.store (registerCommand operation slot) c ∧
        OnlyItsOwn (contentOperation operation slot (hash bytes)) d.store d'.store)
      (fun _ _ => False) d := by
  rw [sealContent_wp hmode]
  have hdistinct : registerCommand operation slot≠recordCommand operation slot :=
    fun h => recordCommandText_ne _ _ (congrArg Text.val h).symm
  refine Handler.wp_mono ?_ (fun _ _ h => h)
    (sealAndRegister_fresh hr hk reads rfl hdistinct hid hfits hf)
  rintro r d' ⟨hdigest,hown,e,hregistration⟩
  obtain ⟨q,hq,hd⟩ := hregistration.receipt
  rw [commandReceipt,show storedCommand d'.store (registerCommand operation slot)=some q from hq,
    Option.map_some,hd]
  rw [hdigest]
  exact ⟨rfl,hregistration,hown⟩

/-- Registered bytes are sealed again, with the object they have. -/
theorem sealAndRegister_registered (hk : Kept hash d.contentSealing.store) (reads : FileReads)
    {o : ContentSealOperationId} {bytes : Bytes} (hdigest : o.expectedDigest=hash bytes)
    {receipt : ContentSealReceiptId} {object : ContentObjectId}
    (hstate : contentIdentityState d.store (hash bytes)=.registered receipt object) :
    Handler.wp (Daemon.sealAndRegister hash reads o bytes)
      (fun r d' => r.digest=hash bytes ∧ r.contentObjectId=object ∧ d'.store=d.store)
      (fun _ _ => d.contentSealing.store.nextTemporaryId=UInt64.ofNat (2^64-1) ∨
        ¬bytes.length≤d.contentSealing.limit.bytes.toNat) d := by
  simp only [Daemon.sealAndRegister,Handler.wp_bind,Handler.wp_ensure]
  refine ⟨fun _ => ?_,fun h => (h hdigest.symm).elim⟩
  refine Handler.wp_mono ?_ (fun _ _ h => h.1) (sealBytes_wp reads bytes hk)
  rintro r _ ⟨hsealed,t,_,rfl⟩
  refine ⟨fun _ => ?_,fun h => (h (hsealed.trans hdigest.symm)).elim⟩
  rw [hsealed]
  simp [Daemon.identityState,hstate]

/-- A seal that was registered under its own command is answered as before. -/
theorem sealContent_again (hk : Kept hash d.contentSealing.store) (hmode : d.mode=.freshServing)
    (reads : FileReads) {bytes : Bytes}
    (hid : d.contentSealing.store.nextTemporaryId≠UInt64.ofNat (2^64-1))
    (hfits : bytes.length≤d.contentSealing.limit.bytes.toNat) {c : SealedStudyContent}
    (hc : c.digest=hash bytes) (hregistration : Registration d.store (registerCommand operation slot) c) :
    Handler.wp (sealContent hash operation slot reads bytes) (fun c' _ => c'=c)
      (fun _ _ => False) d := by
  rw [sealContent_wp hmode]
  obtain ⟨receipt,hstate,_⟩ := hregistration.registered
  rw [hc] at hstate
  refine Handler.wp_mono ?_ ?_ (sealAndRegister_registered hk reads rfl hstate)
  · rintro r d' ⟨hdigest,hobject,hsame⟩
    obtain ⟨q,hq,hd⟩ := hregistration.receipt
    rw [hsame,commandReceipt,hq,Option.map_some,hd]
    rw [hdigest,hobject,← hc]
  · rintro e d' (h | h)
    · exact hid h
    · exact h hfits

/-- Bytes that another command registered are not sealed. -/
theorem sealContent_taken (hk : Kept hash d.contentSealing.store) (hmode : d.mode=.freshServing)
    (reads : FileReads) {bytes : Bytes} {receipt : ContentSealReceiptId} {object : ContentObjectId}
    (hstate : contentIdentityState d.store (hash bytes)=.registered receipt object)
    (hfree : storedCommand d.store (registerCommand operation slot)=none) :
    Handler.wp (sealContent hash operation slot reads bytes) (fun _ _ => False)
      (fun e _ => e=.contentSealing) d := by
  rw [sealContent_wp hmode]
  refine Handler.wp_mono ?_ (fun _ _ _ => rfl) (sealAndRegister_registered hk reads rfl hstate)
  rintro r d' ⟨_,_,hsame⟩
  rw [hsame,commandReceipt,hfree]
  rfl

end Seals
end Society.Resident
