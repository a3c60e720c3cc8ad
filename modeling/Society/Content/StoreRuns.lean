import Society.Content.StoreLaws

namespace Society.Content
open Society.Coding Society.Stateful
open Society.Kernel (Blake3Digest blake3)

/-! Runs of calls on the content store. -/

section Runs

inductive StoreCall where
  | sealReader (reads : FileReads) (source : Source) (limit : ContentLimit)
  | verify (reads : FileReads) (digest : Blake3Digest)
  | copyVerifiedTo (reads : FileReads) (digest : Blake3Digest) (limit : ContentLimit)
      (destination : Destination)
  | openStore (processId : UInt32)

inductive StoreAnswer where
  | sealed (receipt : ContentSealReceipt)
  | verified (receipt : ContentVerificationReceipt)
  | copied (receipt : ContentReadReceipt) (taken : Bytes)
  | opened
  deriving DecidableEq

variable (hash : Bytes → Blake3Digest)

def StoreCall.step : StoreCall → ContentObjectStore.Call StoreAnswer
  | .sealReader reads source limit => do
    pure (.sealed (← ContentObjectStore.sealReader hash reads source limit))
  | .verify reads digest => do pure (.verified (← ContentObjectStore.verify hash reads digest))
  | .copyVerifiedTo reads digest limit destination => do
    let (receipt,taken) ← ContentObjectStore.copyVerifiedTo hash reads digest limit destination
    pure (.copied receipt taken)
  | .openStore processId => do
    ContentObjectStore.openStore processId
    pure .opened

abbrev StoreEntry := Entry StoreCall ContentStoreError StoreAnswer

def emptyStore (processId : UInt32) : ContentObjectStore := ⟨[],[],[],processId,1⟩

/-- The store after calls one after the other, the oldest first. -/
abbrev StoreRun : List StoreEntry → ContentObjectStore → Prop :=
  Reached (StoreCall.step hash) (fun s => ∃ processId,s=emptyStore processId) (fun _ _ _ => True)

/-- The seals the process that owns the store called for. -/
def sealCalls (h : List StoreEntry) : Nat :=
  h.foldl (fun n entry => match entry with
    | (.sealReader ..,_) => n+1
    | (.openStore _,.ok _) => 0
    | _ => n) 0

/-- The store after further calls. -/
def after (h : List StoreEntry) (s : ContentObjectStore) (calls : List StoreCall) :
    ContentObjectStore := (trace (StoreCall.step hash) h s calls).2

end Runs

section Steps
variable {hash : Bytes → Blake3Digest} {s : ContentObjectStore}

/-- Recovery removes the leftovers it was given, or stops. The objects stay. -/
theorem recoverIncoming_wp (files : List (String × Bytes)) :
    Handler.wp (ContentObjectStore.recoverIncoming files)
      (fun _ s' => s'={ s with incoming := s.incoming.filter (fun f => f.1∉files.map Prod.fst) })
      (fun _ s' => ∃ incoming,s'={ s with incoming }) s := by
  induction files generalizing s with
  | nil => simp [ContentObjectStore.recoverIncoming]
  | cons file files ih =>
    rw [ContentObjectStore.recoverIncoming]
    simp only [Handler.wp_bind,Handler.wp_ensure,Handler.wp_modify]
    refine ⟨fun _ => ?_,fun _ => ⟨s.incoming,rfl⟩⟩
    refine Handler.wp_mono ?_ ?_ ih
    · rintro _ _ rfl
      simp only [ContentObjectStore.removeTemporary,List.filter_filter]
      congr 2
      funext f
      by_cases hf : f.1=file.1 <;> simp [hf]
    · rintro _ _ ⟨incoming,rfl⟩
      exact ⟨incoming,rfl⟩

theorem openStore_wp (processId : UInt32) :
    Handler.wp (ContentObjectStore.openStore processId)
      (fun _ s' => s'={ s with incoming := [],processId,nextTemporaryId := 1 })
      (fun _ s' => ∃ incoming,s'={ s with incoming }) s := by
  simp only [ContentObjectStore.openStore,Handler.wp_bind,Handler.wp_get]
  refine Handler.wp_mono ?_ (fun _ _ h => h) (recoverIncoming_wp s.incoming)
  rintro _ _ rfl
  have hnone : s.incoming.filter (fun f => f.1∉s.incoming.map Prod.fst)=[] := by
    apply List.filter_eq_nil_iff.mpr
    intro f hf
    simpa using ⟨f.2,hf⟩
  simp only [Handler.wp_modify,hnone]

/-- Where nothing is left over the store opens. -/
theorem Kept.openStore_wp (hs : Kept hash s) (processId : UInt32) :
    Handler.wp (ContentObjectStore.openStore processId)
      (fun _ s' => s'={ s with processId,nextTemporaryId := 1 }) (fun _ _ => False) s := by
  simp only [ContentObjectStore.openStore,Handler.wp_bind,Handler.wp_get,hs.clean,
    ContentObjectStore.recoverIncoming,Handler.wp_pure,Handler.wp_modify]

/-- An object stays as it is. -/
def Extends (s s' : ContentObjectStore) : Prop :=
  ∀ path b,s.objects.lookup path=some b → s'.objects.lookup path=some b

theorem stored_lookup {b : Bytes}
    (hnew : s.objects.lookup (ContentObjectStore.pathOf (hash b))=none) :
    Extends s (s.stored hash b) := by
  intro path b' hb'
  have hne : path≠ContentObjectStore.pathOf (hash b) := by
    rintro rfl
    cases hnew.symm.trans hb'
  rw [ContentObjectStore.stored,List.lookup_cons,beq_false_of_ne hne]
  exact hb'

theorem Kept.stored (hs : Kept hash s) (b : Bytes) : Kept hash (s.stored hash b) := by
  refine ⟨fun path b' hb' => ?_,hs.clean⟩
  rw [ContentObjectStore.stored,List.lookup_cons] at hb'
  by_cases hpath : path=ContentObjectStore.pathOf (hash b)
  · rw [hpath,beq_self_eq_true] at hb'
    cases hb'
    exact hpath
  · rw [beq_false_of_ne hpath] at hb'
    exact hs.named path b' hb'

/-- What one call keeps, and what a failing one leaves alone. -/
theorem StoreCall.step_wp (hs : Kept hash s) (c : StoreCall) :
    Handler.wp (c.step hash) (fun _ s' => Kept hash s' ∧ Extends s s')
      (fun _ s' => Kept hash s' ∧ s'.objects=s.objects) s := by
  cases c with
  | sealReader reads source limit =>
    simp only [StoreCall.step,Handler.wp_bind,Handler.wp_pure]
    refine Handler.wp_mono ?_ ?_ (sealReader_wp hs source limit)
    · rintro r s' ⟨_,b,_,_,⟨hnew,_,rfl⟩ | ⟨_,_,rfl⟩⟩
      · have hcounted : Kept hash s.counted := ⟨hs.named,hs.clean⟩
        exact ⟨hcounted.stored b,stored_lookup (s := s.counted) hnew⟩
      · exact ⟨⟨hs.named,hs.clean⟩,fun _ _ h => h⟩
    · rintro e s' ⟨rfl,_⟩
      exact ⟨⟨hs.named,hs.clean⟩,rfl⟩
  | verify reads digest =>
    simp only [StoreCall.step,Handler.wp_bind,Handler.wp_pure]
    refine Handler.wp_mono ?_ ?_ (verify_wp hs.named digest)
    · rintro r s' ⟨_,_,rfl⟩
      exact ⟨⟨hs.named,hs.clean⟩,fun _ _ h => h⟩
    · rintro e s' ⟨_,_,rfl⟩
      exact ⟨⟨hs.named,hs.clean⟩,rfl⟩
  | copyVerifiedTo reads digest limit destination =>
    simp only [StoreCall.step,Handler.wp_bind,Handler.wp_pure]
    refine Handler.wp_mono ?_ ?_ (copyVerifiedTo_wp digest limit destination)
    · rintro r s' ⟨_,rfl⟩
      exact ⟨⟨hs.named,hs.clean⟩,fun _ _ h => h⟩
    · rintro e s' rfl
      exact ⟨⟨hs.named,hs.clean⟩,rfl⟩
  | openStore processId =>
    simp only [StoreCall.step,Handler.wp_bind,Handler.wp_pure]
    refine Handler.wp_mono ?_ ?_ (hs.openStore_wp processId)
    · rintro _ _ rfl
      exact ⟨⟨hs.named,hs.clean⟩,fun _ _ h => h⟩
    · exact fun _ _ h => h.elim

/-- The counter is one ahead of the seals. -/
theorem StoreCall.counter_wp (hs : Kept hash s) {h : List StoreEntry}
    (hn : s.nextTemporaryId=UInt64.ofNat (1+sealCalls h)) (c : StoreCall) :
    Handler.wp (c.step hash)
      (fun r s' => s'.nextTemporaryId=UInt64.ofNat (1+sealCalls (h++[(c,.ok r)])))
      (fun e s' => s'.nextTemporaryId=UInt64.ofNat (1+sealCalls (h++[(c,.error e)]))) s := by
  have hseal (r : Except ContentStoreError StoreAnswer) (reads : FileReads) (source : Source)
      (limit : ContentLimit) : s.counted.nextTemporaryId=
        UInt64.ofNat (1+sealCalls (h++[(.sealReader reads source limit,r)])) := by
    rw [ContentObjectStore.counted,hn,sealCalls,sealCalls,List.foldl_append,List.foldl_cons,
      List.foldl_nil,← Nat.add_assoc,UInt64.ofNat_add _ 1]
    rfl
  cases c with
  | sealReader reads source limit =>
    simp only [StoreCall.step,Handler.wp_bind,Handler.wp_pure]
    refine Handler.wp_mono ?_ ?_ (sealReader_wp hs source limit)
    · rintro r s' ⟨_,b,_,_,⟨_,_,rfl⟩ | ⟨_,_,rfl⟩⟩
      · exact hseal (.ok (.sealed r)) reads source limit
      · exact hseal (.ok (.sealed r)) reads source limit
    · rintro e s' ⟨rfl,_⟩
      exact hseal (.error e) reads source limit
  | verify reads digest =>
    simp only [StoreCall.step,Handler.wp_bind,Handler.wp_pure,sealCalls,List.foldl_append,
      List.foldl_cons,List.foldl_nil]
    refine Handler.wp_mono ?_ ?_ (verify_wp hs.named digest)
    · rintro r s' ⟨_,_,rfl⟩
      exact hn
    · rintro e s' ⟨_,_,rfl⟩
      exact hn
  | copyVerifiedTo reads digest limit destination =>
    simp only [StoreCall.step,Handler.wp_bind,Handler.wp_pure,sealCalls,List.foldl_append,
      List.foldl_cons,List.foldl_nil]
    refine Handler.wp_mono ?_ ?_ (copyVerifiedTo_wp digest limit destination)
    · rintro r s' ⟨_,rfl⟩
      exact hn
    · rintro e s' rfl
      exact hn
  | openStore processId =>
    simp only [StoreCall.step,Handler.wp_bind,Handler.wp_pure,sealCalls,List.foldl_append,
      List.foldl_cons,List.foldl_nil]
    refine Handler.wp_mono ?_ ?_ (hs.openStore_wp processId)
    · rintro _ _ rfl
      rfl
    · exact fun _ _ h => h.elim

end Steps

section Laws
variable {hash : Bytes → Blake3Digest} {h : List StoreEntry} {s : ContentObjectStore}

theorem StoreRun.kept (hr : StoreRun hash h s) :
    Kept hash s ∧ s.nextTemporaryId=UInt64.ofNat (1+sealCalls h) := by
  refine Reached.invariant
    (fun h s => Kept hash s ∧ s.nextTemporaryId=UInt64.ofNat (1+sealCalls h)) ?_ ?_ hr
  · rintro s ⟨processId,rfl⟩
    exact ⟨⟨(fun _ _ h => by cases h),rfl⟩,rfl⟩
  · rintro h s c _ _ ⟨hs,hn⟩
    refine Handler.wp_mono ?_ ?_ (Handler.wp_and (c.step_wp hs) (c.counter_wp hs hn))
    · exact fun _ _ h' => ⟨h'.1.1,h'.2⟩
    · exact fun _ _ h' => ⟨h'.1.1,h'.2⟩

/-- Objects outlive any further calls. -/
theorem StoreRun.extends (hr : StoreRun hash h s) (calls : List StoreCall) :
    Extends s (after hash h s calls) := by
  induction calls generalizing h s with
  | nil => exact fun _ _ h' => h'
  | cons c calls ih =>
    have hstep : Extends s (c.step hash s).2 := by
      apply Handler.wp_state
      refine Handler.wp_mono ?_ ?_ (c.step_wp (StoreRun.kept hr).1)
      · exact fun _ _ h' => h'.2
      · intro _ s' h' path b hb
        rw [h'.2]
        exact hb
    intro path b hb
    exact ih (.call c hr trivial) path b (hstep path b hb)

/-- What a seal answers to a source that does not fail. -/
def sealAnswer (hash : Bytes → Blake3Digest) (s : ContentObjectStore) (limit : ContentLimit)
    (b : Bytes) : Except ContentStoreError StoreAnswer :=
  if s.nextTemporaryId=UInt64.ofNat (2^64-1) then .error .temporaryIdentityExhausted
  else if b.length≤limit.bytes.toNat then
    .ok (.sealed ⟨hash b,if (s.objects.lookup (ContentObjectStore.pathOf (hash b))).isSome then
      .alreadyPresentVerified else .created⟩)
  else .error .sealLimitExceeded

theorem seal_wp (hs : Kept hash s) (reads : FileReads) {source : Source} {b : Bytes}
    (hc : content source=some b) (limit : ContentLimit) :
    Handler.wp ((StoreCall.sealReader reads source limit).step hash)
      (fun r s' => sealAnswer hash s limit b=.ok r ∧
        ∃ b',s'.objects.lookup (ContentObjectStore.pathOf (hash b))=some b' ∧ hash b'=hash b)
      (fun e _ => sealAnswer hash s limit b=.error e) s := by
  simp only [StoreCall.step,Handler.wp_bind,Handler.wp_pure]
  have hempty : ([] : Bytes).length≤limit.bytes.toNat := Nat.zero_le _
  have hreceived := received_content limit .sealLimitExceeded hc hempty
  rw [List.nil_append] at hreceived
  refine Handler.wp_mono ?_ ?_ (sealReader_wp hs source limit)
  · rintro ⟨digest,disposition⟩ s' ⟨hid,b',hb',rfl,hcases⟩
    rw [hreceived] at hb'
    split at hb' <;> cases hb'
    next hl =>
    rw [sealAnswer,if_neg hid,if_pos hl]
    rcases hcases with ⟨hnew,rfl,rfl⟩ | ⟨⟨b'',hold,hb''⟩,rfl,rfl⟩
    · refine ⟨by simp [hnew],b,?_,rfl⟩
      simp [ContentObjectStore.stored]
    · exact ⟨by simp [hold],b'',hold,hb''⟩
  · rintro e s' ⟨rfl,⟨hid,rfl⟩ | ⟨hid,he⟩⟩
    · rw [sealAnswer,if_pos hid]
    · rw [hreceived] at he
      split at he <;> cases he
      next hl => rw [sealAnswer,if_neg hid,if_neg hl]

theorem seal_failing (hs : Kept hash s) (reads : FileReads) {source : Source}
    (hc : content source=none) (limit : ContentLimit) :
    Handler.wp ((StoreCall.sealReader reads source limit).step hash) (fun _ _ => False)
      (fun _ _ => True) s := by
  simp only [StoreCall.step,Handler.wp_bind,Handler.wp_pure]
  refine Handler.wp_mono ?_ (fun _ _ _ => trivial) (sealReader_wp hs source limit)
  rintro r s' ⟨_,b,hb,_⟩
  exact received_failing limit .sealLimitExceeded hc [] b hb

theorem exhausted_iff (hn : s.nextTemporaryId=UInt64.ofNat (1+sealCalls h)) :
    s.nextTemporaryId=UInt64.ofNat (2^64-1) ↔ (1+sealCalls h)%2^64=2^64-1 := by
  rw [hn,← UInt64.toNat_inj,UInt64.toNat_ofNat',UInt64.toNat_ofNat']
  rfl

/-- In every run each object path names the digest of what it holds, an object stays for good, a
seal succeeds exactly for a source that delivers all its bytes within the limit while the process
has a temporary identity left, a failing call leaves the objects alone and no artifact, and a copy
delivers the stored bytes. -/
theorem content_store_lawful (hash : Bytes → Blake3Digest) {h : List StoreEntry}
    {s : ContentObjectStore} (hr : StoreRun hash h s) :
    (∀ path b,s.objects.lookup path=some b → path=ContentObjectStore.pathOf (hash b)) ∧
    (∀ calls path b,s.objects.lookup path=some b →
      (after hash h s calls).objects.lookup path=some b) ∧
    (∀ reads source limit b,content source=some b →
      ((StoreCall.sealReader reads source limit).step hash s).1=
        if (1+sealCalls h)%2^64=2^64-1 then .error .temporaryIdentityExhausted
        else if b.length≤limit.bytes.toNat then
          .ok (.sealed ⟨hash b,if (s.objects.lookup (ContentObjectStore.pathOf (hash b))).isSome
            then .alreadyPresentVerified else .created⟩)
        else .error .sealLimitExceeded) ∧
    (∀ reads source limit,content source=none →
      ∀ r,((StoreCall.sealReader reads source limit).step hash s).1≠.ok r) ∧
    (∀ reads source limit r,((StoreCall.sealReader reads source limit).step hash s).1=.ok r →
      ∃ b b',content source=some b ∧ hash b'=hash b ∧
        ((StoreCall.sealReader reads source limit).step hash s).2.objects.lookup
          (ContentObjectStore.pathOf (hash b))=some b') ∧
    (∀ c e,(StoreCall.step hash c s).1=.error e →
      (StoreCall.step hash c s).2.objects=s.objects) ∧
    (∀ c,(StoreCall.step hash c s).2.incoming=[]) ∧
    ∀ reads digest limit destination receipt taken,
      ((StoreCall.copyVerifiedTo reads digest limit destination).step hash s).1=
          .ok (.copied receipt taken) →
        ∃ b,s.objects.lookup (ContentObjectStore.pathOf digest)=some b ∧ hash b=digest ∧
          taken=destination.taken++b ∧ receipt.digest=digest ∧
          receipt.byteCount.toNat=b.length := by
  obtain ⟨hs,hn⟩ := StoreRun.kept hr
  have hstep (c : StoreCall) := (Handler.wp_iff _).mp (c.step_wp hs)
  refine ⟨hs.named,StoreRun.extends hr,?_,?_,?_,?_,?_,?_⟩
  · intro reads source limit b hc
    have hseal := (Handler.wp_iff _).mp (seal_wp hs reads hc limit)
    refine Eq.trans ?_ (if_congr (exhausted_iff hn) rfl rfl)
    change _=sealAnswer hash s limit b
    cases hanswer : ((StoreCall.sealReader reads source limit).step hash s).1 with
    | ok r => exact (hseal.1 r hanswer).1.symm
    | error e => exact (hseal.2 e hanswer).symm
  · intro reads source limit hc r hanswer
    exact ((Handler.wp_iff _).mp (seal_failing hs reads hc limit)).1 r hanswer
  · intro reads source limit r hanswer
    cases hc : content source with
    | none => exact (((Handler.wp_iff _).mp (seal_failing hs reads hc limit)).1 r hanswer).elim
    | some b =>
      obtain ⟨_,b',hb',hhash⟩ := ((Handler.wp_iff _).mp (seal_wp hs reads hc limit)).1 r hanswer
      exact ⟨b,b',rfl,hhash,hb'⟩
  · intro c e hanswer
    exact ((hstep c).2 e hanswer).2
  · intro c
    apply Handler.wp_state (P := fun s' : ContentObjectStore => s'.incoming=[])
    exact Handler.wp_mono (fun _ _ h' => h'.1.clean) (fun _ _ h' => h'.1.clean) (c.step_wp hs)
  · intro reads digest limit destination receipt taken hanswer
    have hcopy : Handler.wp ((StoreCall.copyVerifiedTo reads digest limit destination).step hash)
        (fun r _ => ∀ receipt taken,r=.copied receipt taken →
          ∃ b,s.objects.lookup (ContentObjectStore.pathOf digest)=some b ∧ hash b=digest ∧
            taken=destination.taken++b ∧ receipt.digest=digest ∧
            receipt.byteCount.toNat=b.length) (fun _ _ => True) s := by
      simp only [StoreCall.step,Handler.wp_bind,Handler.wp_pure]
      refine Handler.wp_mono ?_ (fun _ _ _ => trivial) (copyVerifiedTo_wp digest limit destination)
      rintro _ s' ⟨⟨b,hb,hdigest,rfl,hfits⟩,_⟩ receipt taken hcopied
      cases hcopied
      have hword := limit.bytes.toNat_lt
      refine ⟨b,hb,hdigest,rfl,rfl,?_⟩
      rw [UInt64.toNat_ofNat',Nat.mod_eq_of_lt (by omega)]
    exact ((Handler.wp_iff _).mp hcopy).1 _ hanswer receipt taken rfl

/-- Reads of a file at one go. -/
def wholeReads : FileReads where
  cut b := if b=[] then [] else [b]
  whole b := by by_cases hb : b=[] <;> simp [hb]
  progress b := by
    intro chunk hchunk
    by_cases hb : b=[]
    · simp [hb] at hchunk
    · simp only [hb,if_false,List.mem_singleton] at hchunk
      rwa [hchunk]

/-- The same bytes in other chunks are found where the first seal left them. -/
theorem content_store_lawful_again : ((StoreCall.sealReader wholeReads [.ok [1],.ok [2,3]]
      ⟨3,by decide⟩).step blake3 (after blake3 [] (emptyStore 7) [.sealReader wholeReads
        [.ok [1,2],.ok [3]] ⟨3,by decide⟩])).1=
    .ok (.sealed ⟨blake3 [1,2,3],.alreadyPresentVerified⟩) := by
  have hr₀ : StoreRun blake3 [] (emptyStore 7) := .start ⟨7,rfl⟩
  have hr := Reached.call (.sealReader wholeReads [.ok [1,2],.ok [3]] ⟨3,by decide⟩) hr₀ trivial
  obtain ⟨_,_,hanswer,_,hholds,_⟩ := content_store_lawful blake3 hr₀
  have hfirst := hanswer wholeReads [.ok [1,2],.ok [3]] ⟨3,by decide⟩ [1,2,3] rfl
  rw [if_neg (by decide),if_pos (by decide)] at hfirst
  obtain ⟨b,b',hb,_,hb'⟩ := hholds wholeReads _ _ _ hfirst
  cases hb
  obtain ⟨_,_,hanswer',_⟩ := content_store_lawful blake3 hr
  have hsecond := hanswer' wholeReads [.ok [1],.ok [2,3]] ⟨3,by decide⟩ [1,2,3] rfl
  rw [if_neg (by rw [hfirst]; decide),if_pos (by decide)] at hsecond
  refine hsecond.trans ?_
  rw [if_pos]
  rw [Option.isSome_iff_exists]
  exact ⟨b',hb'⟩

/-- Runs of any number of seals. -/
theorem sealCalls_reached (hash : Bytes → Blake3Digest) (n : Nat) :
    ∃ h s,StoreRun hash h s ∧ sealCalls h=n := by
  induction n with
  | zero => exact ⟨[],emptyStore 1,.start ⟨1,rfl⟩,rfl⟩
  | succ n ih =>
    obtain ⟨h,s,hr,hn⟩ := ih
    refine ⟨_,_,.call (.sealReader wholeReads [] ⟨1,by decide⟩) hr trivial,?_⟩
    rw [sealCalls,List.foldl_append] at *
    simp [hn]

/-- The seal that draws the last temporary identity fails, however short its source. -/
theorem seal_exhausted : ¬∀ h s,StoreRun blake3 h s → ∀ reads source limit b,
    content source=some b → b.length≤limit.bytes.toNat →
      ∃ r,((StoreCall.sealReader reads source limit).step blake3 s).1=.ok r := by
  intro hall
  obtain ⟨h,s,hr,hn⟩ := sealCalls_reached blake3 (2^64-2)
  obtain ⟨hs,hid⟩ := StoreRun.kept hr
  obtain ⟨r,hanswer⟩ := hall h s hr wholeReads [] ⟨1,by decide⟩ [] rfl (Nat.zero_le _)
  have hseal := ((Handler.wp_iff _).mp (seal_wp hs wholeReads rfl ⟨1,by decide⟩)).1 r hanswer
  have hexhausted : s.nextTemporaryId=UInt64.ofNat (2^64-1) :=
    (exhausted_iff hid).mpr (by omega)
  rw [sealAnswer,if_pos hexhausted] at hseal
  cases hseal.1

end Laws
end Society.Content
