import Society.Resident.SealingLaws

namespace Society.Resident
open Society.Coding Society.Relational Society.Stateful Society.Kernel
open Society.Content (ContentLimit FileReads Kept StoreCall emptyStore wholeReads)

/-! Runs of content seals among everything else that reaches the kernel and the content store. -/

section Runs

inductive SealingCall where
  | sealContent (operation : StudyAdmissionOperationId) (slot : StudyAdmissionContentSlot)
      (reads : FileReads) (bytes : Bytes)
  | sealContentObject (operation : ContentSealOperationId) (reads : FileReads) (bytes : Bytes)
  | executeKernel (request : CommandRequest)
  | content (call : StoreCall)
  | enter (mode : StartupMode)

inductive SealingAnswer where
  | sealed (content : SealedStudyContent)
  | done
  deriving DecidableEq

variable (hash : Bytes → Blake3Digest)

def SealingCall.step : SealingCall → Handler Daemon StudyAdmissionError SealingAnswer
  | .sealContent operation slot reads bytes => do
    pure (.sealed (← Resident.sealContent hash operation slot reads bytes))
  | .sealContentObject operation reads bytes => mapContentError do
    let _ ← Daemon.sealContentObject hash reads operation bytes
    pure .done
  | .executeKernel request => mapContentError do
    let _ ← Daemon.executeKernel hash request
    pure .done
  | .content call => mapContentError do
    let _ ← Daemon.physical (call.step hash)
    pure .done
  | .enter mode => do
    Handler.modify fun d => { d with mode }
    pure .done

abbrev SealingEntry := Entry SealingCall StudyAdmissionError SealingAnswer

/-- The slot was sealed under before, with whatever bytes and outcome. -/
def Used (h : List SealingEntry) (operation : StudyAdmissionOperationId)
    (slot : StudyAdmissionContentSlot) : Prop :=
  ∃ reads bytes r,(.sealContent operation slot reads bytes,r)∈h

/-- The commands that an operation submits. -/
def ContentSealOperationId.commands (o : ContentSealOperationId) : List CommandId :=
  [o.recordContentSealReceiptCommandId,o.registerContentObjectCommandId]

def Daemon.Starts (d : Daemon) : Prop :=
  d.store=Store.initial ∧ ∃ processId,d.contentSealing.store=emptyStore processId

abbrev SealingRun (ok : List SealingEntry → Daemon → SealingCall → Prop) :
    List SealingEntry → Daemon → Prop :=
  Reached (SealingCall.step hash) Daemon.Starts ok

/-- The daemon serves and the content store can take the bytes. -/
structure Ready (d : Daemon) (bytes : Bytes) : Prop where
  serving : d.mode=.freshServing
  identity : d.contentSealing.store.nextTemporaryId≠UInt64.ofNat (2^64-1)
  fits : bytes.length≤d.contentSealing.limit.bytes.toNat

/-- A slot is first sealed under with bytes that nothing registered yet, by commands that are
free. -/
def MeetsFresh (h : List SealingEntry) (d : Daemon) : SealingCall → Prop
  | .sealContent operation slot _ bytes => Ready d bytes ∧ (¬Used h operation slot →
    Fresh hash d.store (contentOperation operation slot (hash bytes)) bytes)
  | _ => True

end Runs

section Calls
variable {hash : Bytes → Blake3Digest} {d d' : Daemon}

/-- What stays true of the daemon. -/
structure Grows (hash : Bytes → Blake3Digest) (d d' : Daemon) : Prop where
  later : Later hash d.store d'.store
  kept : Kept hash d'.contentSealing.store

theorem Evolves.grows (h : Evolves hash d d') : Grows hash d d' := ⟨h.later,h.kept⟩

theorem SealingCall.step_grows (c : SealingCall) (hk : Kept hash d.contentSealing.store) :
    Grows hash d (c.step hash d).2 := by
  apply Handler.wp_state
  have hmono {α ε : Type} {m : Handler Daemon ε α} (hm : Evolving hash m) :
      Handler.wp m (fun _ d' => Grows hash d d') (fun _ d' => Grows hash d d') d :=
    Handler.wp_mono (fun _ _ h => h.grows) (fun _ _ h => h.grows) (hm d hk)
  cases c with
  | sealContent operation slot reads bytes =>
    simp only [SealingCall.step,Handler.wp_bind,Handler.wp_pure]
    exact hmono (sealContent_evolving operation slot reads bytes)
  | sealContentObject operation reads bytes =>
    simp only [SealingCall.step,mapContentError_wp,Handler.wp_bind,Handler.wp_pure]
    exact hmono (sealContentObject_evolving reads operation bytes)
  | executeKernel request =>
    simp only [SealingCall.step,mapContentError_wp,Handler.wp_bind,Handler.wp_pure]
    exact hmono (executeKernel_evolving request)
  | content call =>
    simp only [SealingCall.step,mapContentError_wp,Handler.wp_bind,Handler.wp_pure,physical_wp]
    refine Handler.wp_mono ?_ ?_ (call.step_wp hk)
    · exact fun _ _ h => ⟨.refl _,h.1⟩
    · exact fun _ _ h => ⟨.refl _,h.1⟩
  | enter mode => exact ⟨.refl _,hk⟩

/-- The kernel has only run commands, and the content store is in order. -/
structure Sound (hash : Bytes → Blake3Digest) (d : Daemon) : Prop where
  reachable : Reachable hash d.store
  kept : Kept hash d.contentSealing.store

theorem Daemon.Starts.sound (h : d.Starts) : Sound hash d := by
  obtain ⟨hstore,processId,hcontent⟩ := h
  refine ⟨?_,?_⟩
  · rw [hstore]
    exact .initial
  · rw [hcontent]
    exact ⟨(fun _ _ h => by cases h),rfl⟩

theorem Sound.step (h : Sound hash d) (c : SealingCall) : Sound hash (c.step hash d).2 := by
  have hgrows := c.step_grows h.kept
  exact ⟨hgrows.later.reachable h.reachable,hgrows.kept⟩

theorem SealingRun.sound {ok : List SealingEntry → Daemon → SealingCall → Prop}
    {h : List SealingEntry} (hr : SealingRun hash ok h d) : Sound hash d := by
  induction hr with
  | start hs => exact hs.sound
  | call c _ _ ih => exact ih.step c

variable {operation : StudyAdmissionOperationId} {slot : StudyAdmissionContentSlot}
  {bytes : Bytes} {c : SealedStudyContent}

/-- The bytes were sealed under the slot, as `c`. -/
def SealedAs (hash : Bytes → Blake3Digest) (s : Store) (operation : StudyAdmissionOperationId)
    (slot : StudyAdmissionContentSlot) (bytes : Bytes) (c : SealedStudyContent) : Prop :=
  c.digest=hash bytes ∧ Registration s (registerCommand operation slot) c

theorem SealedAs.step (hs : SealedAs hash d.store operation slot bytes c) (h : Sound hash d)
    (call : SealingCall) : SealedAs hash (call.step hash d).2.store operation slot bytes c :=
  ⟨hs.1,hs.2.later (call.step_grows h.kept).later h.reachable⟩

theorem step_fresh (h : Sound hash d) (reads : FileReads) (hready : Ready d bytes)
    (hf : Fresh hash d.store (contentOperation operation slot (hash bytes)) bytes) :
    ∃ c,((SealingCall.sealContent operation slot reads bytes).step hash d).1=.ok (.sealed c) ∧
      SealedAs hash ((SealingCall.sealContent operation slot reads bytes).step hash d).2.store
        operation slot bytes c ∧
      OnlyItsOwn (contentOperation operation slot (hash bytes)) d.store
        ((SealingCall.sealContent operation slot reads bytes).step hash d).2.store := by
  have hseal := sealContent_fresh h.reachable h.kept hready.serving reads hready.identity
    hready.fits hf
  have hstep : Handler.wp ((SealingCall.sealContent operation slot reads bytes).step hash)
      (fun r d' => ∃ c,r=.sealed c ∧ SealedAs hash d'.store operation slot bytes c ∧
        OnlyItsOwn (contentOperation operation slot (hash bytes)) d.store d'.store)
      (fun _ _ => False) d := by
    simp only [SealingCall.step,Handler.wp_bind,Handler.wp_pure]
    refine Handler.wp_mono ?_ (fun _ _ h => h) hseal
    rintro c d' ⟨hc,hregistration,hown⟩
    exact ⟨c,rfl,⟨hc,hregistration⟩,hown⟩
  obtain ⟨hok,herror⟩ := (Handler.wp_iff _).mp hstep
  cases hanswer : ((SealingCall.sealContent operation slot reads bytes).step hash d).1 with
  | ok r =>
    obtain ⟨c,rfl,hsealed⟩ := hok r hanswer
    exact ⟨c,rfl,hsealed⟩
  | error e => exact (herror e hanswer).elim

theorem step_again (h : Sound hash d) (reads : FileReads) (hready : Ready d bytes)
    (hs : SealedAs hash d.store operation slot bytes c) :
    ((SealingCall.sealContent operation slot reads bytes).step hash d).1=.ok (.sealed c) := by
  have hseal := sealContent_again h.kept hready.serving reads hready.identity hready.fits hs.1 hs.2
  have hstep : Handler.wp ((SealingCall.sealContent operation slot reads bytes).step hash)
      (fun r _ => r=.sealed c) (fun _ _ => False) d := by
    simp only [SealingCall.step,Handler.wp_bind,Handler.wp_pure]
    refine Handler.wp_mono ?_ (fun _ _ h => h) hseal
    rintro _ _ rfl
    rfl
  obtain ⟨hok,herror⟩ := (Handler.wp_iff _).mp hstep
  cases hanswer : ((SealingCall.sealContent operation slot reads bytes).step hash d).1 with
  | ok r => rw [hok r hanswer]
  | error e => exact (herror e hanswer).elim

theorem step_taken (h : Sound hash d) (reads : FileReads) (hmode : d.mode=.freshServing)
    {receipt : ContentSealReceiptId} {object : ContentObjectId}
    (hstate : contentIdentityState d.store (hash bytes)=.registered receipt object)
    (hfree : storedCommand d.store (registerCommand operation slot)=none) (r : SealingAnswer) :
    ((SealingCall.sealContent operation slot reads bytes).step hash d).1≠.ok r := by
  have hseal := sealContent_taken h.kept hmode reads hstate hfree
  have hstep : Handler.wp ((SealingCall.sealContent operation slot reads bytes).step hash)
      (fun _ _ => False) (fun e _ => e=.contentSealing) d := by
    simp only [SealingCall.step,Handler.wp_bind,Handler.wp_pure]
    exact hseal
  exact ((Handler.wp_iff _).mp hstep).1 r

end Calls

section Laws
variable {hash : Bytes → Blake3Digest} {h : List SealingEntry} {d : Daemon}

theorem Used.append {operation : StudyAdmissionOperationId} {slot : StudyAdmissionContentSlot}
    (h' : List SealingEntry) (hu : Used h operation slot) : Used (h++h') operation slot := by
  obtain ⟨reads,bytes,r,hmem⟩ := hu
  exact ⟨reads,bytes,r,List.mem_append_left _ hmem⟩

/-- A record with one more entry, split at an entry. -/
theorem append_single {T : Type} {h h₁ h₂ : List T} {e e' : T} (hh : h++[e']=h₁++e::h₂) :
    (h₂=[] ∧ h=h₁ ∧ e'=e) ∨ ∃ h₂',h₂=h₂'++[e'] ∧ h=h₁++e::h₂' := by
  rcases List.eq_nil_or_concat h₂ with rfl | ⟨h₂',e'',rfl⟩
  · obtain ⟨rfl,he⟩ := List.append_inj' hh rfl
    exact .inl ⟨rfl,rfl,List.head_eq_of_cons_eq he⟩
  · have hcons : h₁++e::h₂'.concat e''=(h₁++e::h₂')++[e''] := by simp
    rw [hcons] at hh
    obtain ⟨rfl,he⟩ := List.append_inj' hh rfl
    rw [List.head_eq_of_cons_eq he]
    exact .inr ⟨h₂',by simp,rfl⟩

/-- Every first seal under a slot registered its bytes, and every repetition answered the same. -/
def Settled (hash : Bytes → Blake3Digest) (h : List SealingEntry) (s : Store) : Prop :=
  ∀ h₁ h₂ operation slot reads bytes r,h=h₁++(.sealContent operation slot reads bytes,r)::h₂ →
    ¬Used h₁ operation slot → ∃ c,r=.ok (.sealed c) ∧ SealedAs hash s operation slot bytes c ∧
      ∀ reads' r',(.sealContent operation slot reads' bytes,r')∈h₂ → r'=r

theorem Settled.step (hs : Sound hash d) (hsettled : Settled hash h d.store) {c : SealingCall}
    (hc : MeetsFresh hash h d c) :
    Settled hash (h++[(c,(c.step hash d).1)]) (c.step hash d).2.store := by
  intro h₁ h₂ operation slot reads bytes r hh hunused
  rcases append_single hh with ⟨rfl,rfl,he⟩ | ⟨h₂',rfl,rfl⟩
  · cases he
    obtain ⟨hready,hfresh⟩ := hc
    obtain ⟨c,hanswer,hsealed,_⟩ := step_fresh hs reads hready (hfresh hunused)
    exact ⟨c,hanswer,hsealed,(fun _ _ h => by cases h)⟩
  · obtain ⟨c',rfl,hsealed,hagain⟩ := hsettled h₁ h₂' operation slot reads bytes r rfl hunused
    refine ⟨c',rfl,hsealed.step hs c,fun reads' r' hmem => ?_⟩
    rcases List.mem_append.mp hmem with hmem | hmem
    · exact hagain reads' r' hmem
    · cases List.mem_singleton.mp hmem
      exact step_again hs reads' hc.1 hsealed

/-- Slots that were sealed under hold what their own command registered. -/
def Held (hash : Bytes → Blake3Digest) (h : List SealingEntry) (s : Store) : Prop :=
  ∀ operation slot,Used h operation slot → ∃ bytes c,SealedAs hash s operation slot bytes c

theorem Held.step (hs : Sound hash d) (hheld : Held hash h d.store) {c : SealingCall}
    (hc : MeetsFresh hash h d c) :
    Held hash (h++[(c,(c.step hash d).1)]) (c.step hash d).2.store := by
  rintro operation slot ⟨reads,bytes,r,hmem⟩
  by_cases hused : Used h operation slot
  · obtain ⟨bytes,c',hsealed⟩ := hheld operation slot hused
    exact ⟨bytes,c',hsealed.step hs c⟩
  · rcases List.mem_append.mp hmem with hmem | hmem
    · exact (hused ⟨reads,bytes,r,hmem⟩).elim
    · cases List.mem_singleton.mp hmem
      obtain ⟨hready,hfresh⟩ := hc
      obtain ⟨c,_,hsealed,_⟩ := step_fresh hs reads hready (hfresh hused)
      exact ⟨bytes,c,hsealed⟩

/-- Different slots have different commands. -/
def Apart (h : List SealingEntry) : Prop :=
  ∀ operation slot operation' slot',Used h operation slot → Used h operation' slot' →
    (operation,slot)≠(operation',slot') →
      registerCommand operation slot≠registerCommand operation' slot'

theorem Apart.step (hheld : Held hash h d.store) (hapart : Apart h) {c : SealingCall}
    (hc : MeetsFresh hash h d c) (r : Except StudyAdmissionError SealingAnswer) :
    Apart (h++[(c,r)]) := by
  -- the command of a slot that is new is free, that of a slot in use is not
  have hnew {operation operation' slot slot'} (hused : Used h operation slot)
      (hnot : ¬Used h operation' slot') (hused' : Used (h++[(c,r)]) operation' slot') :
      registerCommand operation slot≠registerCommand operation' slot' := by
    obtain ⟨reads,bytes,r',hmem⟩ := hused'
    rcases List.mem_append.mp hmem with hmem | hmem
    · exact (hnot ⟨reads,bytes,r',hmem⟩).elim
    cases List.mem_singleton.mp hmem
    obtain ⟨_,c,_,hsealed⟩ := hheld operation slot hused
    obtain ⟨q,hq,_⟩ := hsealed.receipt
    intro heq
    have hfree := (hc.2 hnot).object
    rw [heq] at hq
    cases hfree.symm.trans hq
  intro operation slot operation' slot' hu hu' hne
  by_cases hused : Used h operation slot
  · by_cases hused' : Used h operation' slot'
    · exact hapart operation slot operation' slot' hused hused' hne
    · exact hnew hused hused' hu'
  · by_cases hused' : Used h operation' slot'
    · exact (hnew hused' hused hu).symm
    · obtain ⟨reads,bytes,r₁,hmem⟩ := hu
      obtain ⟨reads',bytes',r₂,hmem'⟩ := hu'
      rcases List.mem_append.mp hmem with hmem | hmem
      · exact (hused ⟨reads,bytes,r₁,hmem⟩).elim
      rcases List.mem_append.mp hmem' with hmem' | hmem'
      · exact (hused' ⟨reads',bytes',r₂,hmem'⟩).elim
      cases (List.mem_singleton.mp hmem).trans (List.mem_singleton.mp hmem').symm
      exact (hne rfl).elim

theorem SealingRun.settled (hr : SealingRun hash (MeetsFresh hash) h d) :
    Settled hash h d.store ∧ Held hash h d.store ∧ Apart h := by
  induction hr with
  | start _ =>
    refine ⟨?_,?_,?_⟩
    · intro h₁ h₂ _ _ _ _ _ hh
      simp at hh
    · rintro _ _ ⟨_,_,_,hmem⟩
      simp at hmem
    · rintro _ _ _ _ ⟨_,_,_,hmem⟩
      simp at hmem
  | call c hr hc ih =>
    obtain ⟨hsettled,hheld,hapart⟩ := ih
    have hs := SealingRun.sound hr
    exact ⟨hsettled.step hs hc,hheld.step hs hc,hapart.step hheld hc _⟩

theorem commands_disjoint {operation operation' : StudyAdmissionOperationId}
    {slot slot' : StudyAdmissionContentSlot} {digest digest' : Blake3Digest}
    {o o' : ContentSealOperationId}
    (ho : ContentSealOperationId.parse (contentLabel operation slot) digest=.ok o)
    (ho' : ContentSealOperationId.parse (contentLabel operation' slot') digest'=.ok o')
    (hne : registerCommand operation slot≠registerCommand operation' slot') :
    o.commands.Disjoint o'.commands := by
  rw [parse_contentLabel] at ho ho'
  cases ho
  cases ho'
  have hlabel : contentLabel operation slot≠contentLabel operation' slot' :=
    fun h => hne (Text.ext (congrArg registerCommandText h))
  simp only [ContentSealOperationId.commands,contentOperation,List.disjoint_cons_left,
    List.mem_cons,List.not_mem_nil,or_false,List.disjoint_nil_left,not_or,and_true]
  refine ⟨⟨?_,?_⟩,?_,hne⟩
  · exact fun h => hlabel (recordCommandText_inj (congrArg Text.val h))
  · exact fun h => recordCommandText_ne _ _ (congrArg Text.val h)
  · exact fun h => recordCommandText_ne _ _ (congrArg Text.val h).symm

/-- In every run in which a slot is first sealed under with unregistered bytes and free commands,
and the daemon serves with temporary identities left and bytes within its limit, every first seal
under a slot answers with the object that is registered for its bytes and the event of its own
command that registered it, a repetition answers the same, and no two slots share a command. -/
theorem content_sealing_lawful (hash : Bytes → Blake3Digest) {h : List SealingEntry} {d : Daemon}
    (hr : SealingRun hash (MeetsFresh hash) h d) :
    (∀ h₁ h₂ operation slot reads bytes r,
      h=h₁++(.sealContent operation slot reads bytes,r)::h₂ → ¬Used h₁ operation slot →
        ∃ c,r=.ok (.sealed c) ∧ c.digest=hash bytes ∧
          Registration d.store (registerCommand operation slot) c ∧
          ∀ reads' r',(.sealContent operation slot reads' bytes,r')∈h₂ → r'=r) ∧
    ∀ operation slot operation' slot',Used h operation slot → Used h operation' slot' →
      (operation,slot)≠(operation',slot') → ∀ digest digest' o o',
        ContentSealOperationId.parse (contentLabel operation slot) digest=.ok o →
        ContentSealOperationId.parse (contentLabel operation' slot') digest'=.ok o' →
          o.commands.Disjoint o'.commands := by
  obtain ⟨hsettled,_,hapart⟩ := SealingRun.settled hr
  refine ⟨?_,?_⟩
  · intro h₁ h₂ operation slot reads bytes r hh hunused
    obtain ⟨c,hanswer,⟨hdigest,hregistration⟩,hagain⟩ :=
      hsettled h₁ h₂ operation slot reads bytes r hh hunused
    exact ⟨c,hanswer,hdigest,hregistration,hagain⟩
  · intro operation slot operation' slot' hu hu' hne digest digest' o o' ho ho'
    exact commands_disjoint ho ho' (hapart operation slot operation' slot' hu hu' hne)

end Laws

section Tasks
variable {hash : Bytes → Blake3Digest} {d : Daemon}

theorem Fresh.initial (hash : Bytes → Blake3Digest) (o : ContentSealOperationId) (bytes : Bytes) :
    Fresh hash Store.initial o bytes where
  unregistered _ _ := by
    rw [contentIdentityState,sealReceiptOf]
    exact (fun h => by cases h)
  receipt _ := ⟨rfl,by decide,by decide⟩
  object := rfl
  commands := by decide
  objects := by decide

/-- A first seal with the content store opened again after it. -/
theorem seal_reopened {operation : StudyAdmissionOperationId} {slot : StudyAdmissionContentSlot}
    {bytes : Bytes} (h : Sound hash d) (reads : FileReads) (processId : UInt32)
    (hready : Ready d bytes)
    (hf : Fresh hash d.store (contentOperation operation slot (hash bytes)) bytes) :
    let d' := ((SealingCall.content (.openStore processId)).step hash
      ((SealingCall.sealContent operation slot reads bytes).step hash d).2).2
    Ready d' bytes ∧ (∃ c,SealedAs hash d'.store operation slot bytes c) ∧
      OnlyItsOwn (contentOperation operation slot (hash bytes)) d.store d'.store := by
  obtain ⟨c,_,hsealed,hown⟩ := step_fresh h reads hready hf
  have hevolves : Evolves hash d
      ((SealingCall.sealContent operation slot reads bytes).step hash d).2 := by
    apply Handler.wp_state
    simp only [SealingCall.step,Handler.wp_bind,Handler.wp_pure]
    exact sealContent_evolving operation slot reads bytes d h.kept
  generalize ((SealingCall.sealContent operation slot reads bytes).step hash d).2=d₁
    at hsealed hown hevolves ⊢
  apply Handler.wp_state (P := fun d' => Ready d' bytes ∧
    (∃ c,SealedAs hash d'.store operation slot bytes c) ∧
      OnlyItsOwn (contentOperation operation slot (hash bytes)) d.store d'.store)
  simp only [SealingCall.step,StoreCall.step,mapContentError_wp,Handler.wp_bind,Handler.wp_pure,
    physical_wp]
  refine Handler.wp_mono ?_ (fun _ _ h => h.elim) (hevolves.kept.openStore_wp processId)
  rintro _ _ rfl
  have hidentity : (1 : UInt64)≠UInt64.ofNat (2^64-1) := by decide
  refine ⟨⟨hevolves.mode.trans hready.serving,hidentity,?_⟩,⟨c,hsealed⟩,hown⟩
  change bytes.length≤d₁.contentSealing.limit.bytes.toNat
  rw [hevolves.limit]
  exact hready.fits

def served : Daemon := ⟨.freshServing,Store.initial,⟨emptyStore 1,⟨1,by decide⟩⟩⟩

theorem served_starts : served.Starts := ⟨rfl,1,rfl⟩

theorem served_ready : Ready served [7] := ⟨rfl,by decide,by decide⟩

def pilot : StudyAdmissionOperationId := ⟨"pilot",by decide⟩

def firstTask : StudyAdmissionContentSlot := ⟨"task-01",by decide⟩

def secondTask : StudyAdmissionContentSlot := ⟨"task-02",by decide⟩

/-- The same prompt under the same slot, with a restart of the content store between. -/
theorem content_sealing_lawful_repeated :
    ∃ c r d,SealingRun blake3 (MeetsFresh blake3)
      [(.sealContent pilot firstTask wholeReads [7],.ok (.sealed c)),(.content (.openStore 2),r),
        (.sealContent pilot firstTask wholeReads [7],.ok (.sealed c))] d := by
  have hfresh := Fresh.initial blake3 (contentOperation pilot firstTask (blake3 [7])) [7]
  obtain ⟨hready,_,_⟩ := seal_reopened served_starts.sound wholeReads 2 served_ready hfresh
  have hsealed : SealingRun blake3 (MeetsFresh blake3) _ _ :=
    .call (SealingCall.sealContent pilot firstTask wholeReads [7]) (.start served_starts)
      ⟨served_ready,fun _ => hfresh⟩
  have hopened : SealingRun blake3 (MeetsFresh blake3) _ _ :=
    .call (SealingCall.content (.openStore 2)) hsealed trivial
  have hr' : SealingRun blake3 (MeetsFresh blake3) _ _ :=
    .call (SealingCall.sealContent pilot firstTask wholeReads [7]) hopened
      ⟨hready,fun h => (h ⟨wholeReads,[7],_,List.mem_cons_self⟩).elim⟩
  obtain ⟨c,hc,_,_,hagain⟩ := (content_sealing_lawful blake3 hr').1 [] _ pilot firstTask wholeReads
    [7] _ rfl (by rintro ⟨_,_,_,hmem⟩; cases hmem)
  have hrepeated := hagain wholeReads _ (List.mem_cons_of_mem _ List.mem_cons_self)
  rw [hrepeated,hc] at hr'
  exact ⟨c,_,_,hr'⟩

/-- The same prompt under another slot is refused. -/
theorem same_prompt_refused : ¬∀ h d,SealingRun blake3 (fun _ _ _ => True) h d →
    ∀ operation slot reads bytes,Ready d bytes → ¬Used h operation slot →
      ∃ c,((SealingCall.sealContent operation slot reads bytes).step blake3 d).1=
        .ok (.sealed c) := by
  intro hall
  have hfresh := Fresh.initial blake3 (contentOperation pilot firstTask (blake3 [7])) [7]
  obtain ⟨hready,⟨c,hdigest,hsealed⟩,hown⟩ :=
    seal_reopened served_starts.sound wholeReads 2 served_ready hfresh
  have hr : SealingRun blake3 (fun _ _ _ => True) _ _ :=
    .call (SealingCall.sealContent pilot firstTask wholeReads [7]) (.start served_starts) trivial
  have hr' : SealingRun blake3 (fun _ _ _ => True) _ _ :=
    .call (SealingCall.content (.openStore 2)) hr trivial
  obtain ⟨c',hc'⟩ := hall _ _ hr' pilot secondTask wholeReads [7] hready (by
    rintro ⟨_,_,_,hmem⟩
    simp [firstTask,secondTask] at hmem)
  obtain ⟨receipt,hstate,_⟩ := hsealed.registered
  rw [hdigest] at hstate
  have hreceipt : registerCommand pilot secondTask≠recordCommand pilot firstTask :=
    fun h => recordCommandText_ne _ _ (congrArg Text.val h).symm
  have hobject : registerCommand pilot secondTask≠registerCommand pilot firstTask := by
    intro h
    have hlabel := congrArg String.toList (registerCommandText_inj (congrArg Text.val h))
    rw [contentLabel_toList,contentLabel_toList] at hlabel
    exact absurd (List.append_cancel_left hlabel) (by decide)
  have hfree : storedCommand Store.initial (registerCommand pilot secondTask)=none :=
    (Fresh.initial blake3 (contentOperation pilot secondTask (blake3 [7])) [7]).object
  have hstill := hown (registerCommand pilot secondTask) hreceipt hobject hfree
  exact step_taken (SealingRun.sound hr') wholeReads hready.serving hstate hstill _ hc'

end Tasks
end Society.Resident
