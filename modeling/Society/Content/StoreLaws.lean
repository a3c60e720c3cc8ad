import Society.Content.Store
import Society.Kernel.Fingerprint

namespace Society.Content
open Society.Coding Society.Stateful
open Society.Kernel (Blake3Digest hexText hexDigit blake3)

/-! What every run of calls on the content store keeps. -/

section Paths

theorem hexDigit_inj {m n : Nat} (hm : m<16) (hn : n<16) (h : hexDigit m=hexDigit n) : m=n := by
  have hall : ∀ i<16,∀ j<16,hexDigit i=hexDigit j → i=j := by decide
  exact hall m hm n hn h

theorem hexDigits_inj {a b : Bytes} {f : UInt8 → List Char}
    (hf : f=fun b => [hexDigit (b.toNat/16),hexDigit (b.toNat%16)])
    (h : a.flatMap f=b.flatMap f) : a=b := by
  subst hf
  induction a generalizing b with
  | nil =>
    cases b with
    | nil => rfl
    | cons y b => cases h
  | cons x a ih =>
    cases b with
    | nil => cases h
    | cons y b =>
      simp only [List.flatMap_cons,List.cons_append,List.nil_append,List.cons.injEq] at h
      obtain ⟨hhigh,hlow,hrest⟩ := h
      have hx := x.toNat_lt
      have hy := y.toNat_lt
      have h1 := hexDigit_inj (by omega) (by omega) hhigh
      have h2 := hexDigit_inj (by omega) (by omega) hlow
      have hxy : x=y := by
        apply UInt8.toNat_inj.mp
        omega
      rw [hxy,ih hrest]

/-- The path names its digest. -/
theorem pathOf_inj {d e : Blake3Digest}
    (h : ContentObjectStore.pathOf d=ContentObjectStore.pathOf e) : d=e := by
  obtain ⟨hshard,hrest⟩ := Prod.mk.inj h
  have htext : (hexText d).toList=(hexText e).toList := by
    rw [← List.take_append_drop 2 (hexText d).toList,← List.take_append_drop 2 (hexText e).toList,
      String.ofList_inj.mp hshard,String.ofList_inj.mp hrest]
  unfold hexText at htext
  rw [String.toList_ofList,String.toList_ofList] at htext
  exact Blake3Digest.ext (hexDigits_inj rfl htext)

end Paths

section Streams

/-- What a source delivers under a limit. -/
def received (limit : ContentLimit) (exceeded : ContentStoreError) (before : Bytes) :
    Source → Except ContentStoreError Bytes
  | [] => .ok before
  | .error e::_ => .error (.io e)
  | .ok chunk::rest =>
    if chunk=[] then .ok before
    else if (before++chunk).length≤limit.bytes.toNat then
      received limit exceeded (before++chunk) rest
    else .error exceeded

/-- The bytes of a source that does not fail: all before the first empty read. -/
def content : Source → Option Bytes
  | [] => some []
  | .error _::_ => none
  | .ok chunk::rest => if chunk=[] then some [] else (content rest).map (chunk++·)

/-- Within the limit the whole content is received, above it nothing. -/
theorem received_content (limit : ContentLimit) (exceeded : ContentStoreError) {source : Source}
    {b : Bytes} (hc : content source=some b) {before : Bytes}
    (hb : before.length≤limit.bytes.toNat) : received limit exceeded before source=
      if (before++b).length≤limit.bytes.toNat then .ok (before++b) else .error exceeded := by
  induction source generalizing before b with
  | nil =>
    cases hc
    simp [received,hb]
  | cons x source ih =>
    cases x with
    | error e => cases hc
    | ok chunk =>
      rw [content] at hc
      by_cases hchunk : chunk=[]
      · rw [if_pos hchunk] at hc
        cases hc
        simp [received,hchunk,hb]
      · rw [if_neg hchunk,Option.map_eq_some_iff] at hc
        obtain ⟨rest,hrest,rfl⟩ := hc
        rw [received,if_neg hchunk,← List.append_assoc]
        by_cases hl : (before++chunk).length≤limit.bytes.toNat
        · rw [if_pos hl,ih hrest hl]
        · have hlong : ¬(before++chunk++rest).length≤limit.bytes.toNat := by
            rw [List.length_append]
            omega
          rw [if_neg hl,if_neg hlong]

/-- A source that fails is not received. -/
theorem received_failing (limit : ContentLimit) (exceeded : ContentStoreError) {source : Source}
    (hc : content source=none) (before b : Bytes) :
    received limit exceeded before source≠.ok b := by
  induction source generalizing before with
  | nil => cases hc
  | cons x source ih =>
    cases x with
    | error e => simp [received]
    | ok chunk =>
      rw [content] at hc
      by_cases hchunk : chunk=[]
      · rw [if_pos hchunk] at hc
        cases hc
      · rw [if_neg hchunk,Option.map_eq_none_iff] at hc
        rw [received,if_neg hchunk]
        split
        · exact ih hc (before++chunk)
        · simp

variable {σ : Type} {write : Bytes → Handler σ ContentStoreError Unit}

/-- The stream answers what was received, where the state tells of what was written. -/
theorem stream_wp (limit : ContentLimit) (exceeded : ContentStoreError) {T : Bytes → σ → Prop}
    {F : IoError → σ → Prop}
    (hwrite : ∀ before chunk s,T before s →
      Handler.wp (write chunk) (fun _ s' => T (before++chunk) s')
        (fun e s' => ∃ e',e=.io e' ∧ F e' s') s)
    {before : Bytes} {s : σ} (hs : T before s) (source : Source) :
    Handler.wp (stream limit exceeded write before.length before source)
      (fun r s' => ∃ b,received limit exceeded before source=.ok b ∧ r=(b.length,b) ∧ T b s')
      (fun e s' => (received limit exceeded before source=.error e ∧ ∃ b,T b s') ∨
        ∃ e',e=.io e' ∧ F e' s') s := by
  induction source generalizing before s with
  | nil => exact ⟨before,rfl,rfl,hs⟩
  | cons x source ih =>
    cases x with
    | error e => exact .inl ⟨rfl,before,hs⟩
    | ok chunk =>
      by_cases hc : chunk=[]
      · rw [stream,if_pos hc,received,if_pos hc]
        exact ⟨before,rfl,rfl,hs⟩
      · have hlen : before.length+chunk.length=(before++chunk).length := by simp
        have hword := limit.bytes.toNat_lt
        rw [stream,if_neg hc,received,if_neg hc,hlen]
        simp only [Handler.wp_bind,Handler.wp_ensure]
        by_cases hl : (before++chunk).length≤limit.bytes.toNat
        · rw [if_pos hl]
          refine ⟨fun _ => ⟨fun _ => ?_,fun h => absurd hl h⟩,fun h => absurd (by omega) h⟩
          refine Handler.wp_mono ?_ ?_ (hwrite before chunk s hs)
          · intro _ s' hs'
            exact ih hs'
          · intro e s' hf
            exact .inr hf
        · rw [if_neg hl]
          exact ⟨fun _ => ⟨fun h => absurd h hl,fun _ => .inl ⟨rfl,before,hs⟩⟩,
            fun _ => .inl ⟨rfl,before,hs⟩⟩

end Streams

section Calls
variable {hash : Bytes → Blake3Digest} {s : ContentObjectStore} {reads : FileReads}

/-- Every object path names what it holds, and no artifact is left over. -/
structure Kept (hash : Bytes → Blake3Digest) (s : ContentObjectStore) : Prop where
  named : ∀ path b,s.objects.lookup path=some b → path=ContentObjectStore.pathOf (hash b)
  clean : s.incoming=[]

theorem foldl_cut (reads : FileReads) (b : Bytes) : (reads.cut b).foldl (·++·) []=b := by
  have hfold (l : List Bytes) : ∀ before : Bytes,l.foldl (·++·) before=before++l.flatten := by
    induction l with
    | nil => simp
    | cons x l ih => intro before; rw [List.foldl_cons,ih,List.flatten_cons,List.append_assoc]
  rw [hfold,reads.whole,List.nil_append]

/-- The store with the directory of the digest's path. -/
def ContentObjectStore.sharded (digest : Blake3Digest) (s : ContentObjectStore) :
    ContentObjectStore := { s with shards := s.shards.insert (pathOf digest).1 }

/-- The store with the bytes as a new object. -/
def ContentObjectStore.stored (hash : Bytes → Blake3Digest) (b : Bytes) (s : ContentObjectStore) :
    ContentObjectStore :=
  { s.sharded (hash b) with objects := (pathOf (hash b),b)::s.objects }

def ContentObjectStore.counted (s : ContentObjectStore) : ContentObjectStore :=
  { s with nextTemporaryId := s.nextTemporaryId+1 }

/-- Verification compares what the path holds with the digest. -/
theorem verify_wp (hnamed : ∀ path b,s.objects.lookup path=some b →
      path=ContentObjectStore.pathOf (hash b)) (digest : Blake3Digest) :
    Handler.wp (ContentObjectStore.verify hash reads digest)
      (fun r s' => (∃ b,s.objects.lookup (ContentObjectStore.pathOf digest)=some b ∧ hash b=digest) ∧
        r=⟨digest⟩ ∧ s'=s.sharded digest)
      (fun e s' => s.objects.lookup (ContentObjectStore.pathOf digest)=none ∧ e=.io .notFound ∧
        s'=s.sharded digest) s := by
  simp only [ContentObjectStore.verify,ContentObjectStore.objectPath,ContentObjectStore.openObject,
    Handler.wp_bind,Handler.wp_modify,Handler.wp_pure,Handler.wp_get]
  cases hl : s.objects.lookup (ContentObjectStore.pathOf digest) with
  | none => simp [ContentObjectStore.sharded]
  | some b =>
    have hdigest := pathOf_inj (hnamed _ _ hl)
    simp only [Handler.wp_pure,Handler.wp_ensure,foldl_cut]
    exact ⟨fun _ => ⟨⟨b,rfl,hdigest.symm⟩,trivial,rfl⟩,fun h => absurd hdigest.symm h⟩

/-- The artifact of a seal under way holds what was received. -/
structure Underway (s : ContentObjectStore) (name : String) (b : Bytes) (s' : ContentObjectStore) :
    Prop where
  same : s'={ s with incoming := [(name,b)] }

theorem writeTemporary_wp (name : String) (before chunk : Bytes) {s' : ContentObjectStore}
    (h : Underway s name before s') {E : ContentStoreError → ContentObjectStore → Prop} :
    Handler.wp (ContentObjectStore.writeTemporary name chunk)
      (fun _ t => Underway s name (before++chunk) t) E s' := by
  obtain ⟨rfl⟩ := h
  simp only [ContentObjectStore.writeTemporary,Handler.wp_modify]
  exact ⟨by simp⟩

theorem removeTemporary_underway {name : String} {b : Bytes} {s' : ContentObjectStore}
    (hclean : s.incoming=[]) (h : Underway s name b s') : s'.removeTemporary name=s := by
  obtain ⟨rfl⟩ := h
  cases s
  simp_all [ContentObjectStore.removeTemporary]

/-- What a seal does once its artifact is made: its answer, and the store without the artifact. -/
theorem sealTemporary_wp (hs : Kept hash s) (source : Source) (limit : ContentLimit)
    (name : String) :
    Handler.wp (ContentObjectStore.sealTemporary hash reads source limit name)
      (fun r s' => ∃ b,received limit .sealLimitExceeded [] source=.ok b ∧ r.digest=hash b ∧
        (s.objects.lookup (ContentObjectStore.pathOf (hash b))=none ∧ r.disposition=.created ∧
            s'.removeTemporary name=s.stored hash b ∨
          (∃ b',s.objects.lookup (ContentObjectStore.pathOf (hash b))=some b' ∧ hash b'=hash b) ∧
            r.disposition=.alreadyPresentVerified ∧ s'.removeTemporary name=s.sharded (hash b)))
      (fun e s' => received limit .sealLimitExceeded [] source=.error e ∧ s'.removeTemporary name=s)
      { s with incoming := [(name,[])] } := by
  rw [ContentObjectStore.sealTemporary,Handler.wp_bind]
  have hstream := stream_wp limit .sealLimitExceeded (T := Underway s name) (F := fun _ _ => False)
    (fun before chunk t ht => writeTemporary_wp name before chunk ht)
    (s := { s with incoming := [(name,[])] }) ⟨rfl⟩ source
  refine Handler.wp_mono ?_ ?_ hstream
  · rintro _ _ ⟨b,hreceived,rfl,⟨rfl⟩⟩
    simp only [ContentObjectStore.objectPath,ContentObjectStore.hardLink,Handler.wp_bind,
      Handler.wp_modify,Handler.wp_pure,Handler.wp_get,List.lookup_cons,beq_self_eq_true]
    cases hl : s.objects.lookup (ContentObjectStore.pathOf (hash b)) with
    | none =>
      simp only [Handler.wp_bind,Handler.wp_modify,Handler.wp_pure,if_true]
      refine ⟨b,hreceived,rfl,.inl ⟨hl,trivial,?_⟩⟩
      simp [ContentObjectStore.removeTemporary,ContentObjectStore.stored,ContentObjectStore.sharded,
        hs.clean]
    | some b' =>
      simp only [Handler.wp_pure,Bool.false_eq_true,if_false,Handler.wp_bind]
      refine Handler.wp_mono ?_ ?_ (verify_wp (s := { s.sharded (hash b) with
        incoming := [(name,b)] }) hs.named (hash b))
      · rintro _ _ ⟨⟨b'',hl',hb⟩,rfl,rfl⟩
        have hsame : b''=b' := Option.some.inj (hl'.symm.trans hl)
        rw [hsame] at hb
        refine ⟨b,hreceived,rfl,.inr ⟨⟨b',hl,hb⟩,trivial,?_⟩⟩
        simp [ContentObjectStore.removeTemporary,ContentObjectStore.sharded,hs.clean]
      · rintro _ _ ⟨hnone,_⟩
        cases hnone.symm.trans hl
  · rintro e t (⟨he,b,ht⟩ | ⟨_,_,h⟩)
    · exact ⟨he,removeTemporary_underway hs.clean ht⟩
    · exact h.elim

/-- What a seal answers and leaves behind. -/
theorem sealReader_wp (hs : Kept hash s) (source : Source) (limit : ContentLimit) :
    Handler.wp (ContentObjectStore.sealReader hash reads source limit)
      (fun r s' => s.nextTemporaryId≠UInt64.ofNat (2^64-1) ∧
        ∃ b,received limit .sealLimitExceeded [] source=.ok b ∧ r.digest=hash b ∧
          (s.objects.lookup (ContentObjectStore.pathOf (hash b))=none ∧ r.disposition=.created ∧
              s'=s.counted.stored hash b ∨
            (∃ b',s.objects.lookup (ContentObjectStore.pathOf (hash b))=some b' ∧ hash b'=hash b) ∧
              r.disposition=.alreadyPresentVerified ∧ s'=s.counted.sharded (hash b)))
      (fun e s' => s'=s.counted ∧
        (s.nextTemporaryId=UInt64.ofNat (2^64-1) ∧ e=.temporaryIdentityExhausted ∨
          s.nextTemporaryId≠UInt64.ofNat (2^64-1) ∧
            received limit .sealLimitExceeded [] source=.error e)) s := by
  simp only [ContentObjectStore.sealReader,ContentObjectStore.fetchAddTemporaryId,
    ContentObjectStore.createNew,Handler.wp_bind,Handler.wp_get,Handler.wp_modify,Handler.wp_pure,
    Handler.wp_ensure,Handler.wp_onError,hs.clean,List.lookup_nil,forall_const,not_true_eq_false,
    false_implies,and_true]
  have hleft : { s with incoming := [],nextTemporaryId := s.nextTemporaryId+1 }=s.counted := by
    rw [ContentObjectStore.counted,← hs.clean]
  refine ⟨fun hid => ?_,fun hid => ⟨hleft,.inl (not_not.mp hid)⟩⟩
  have hcounted : Kept hash s.counted := ⟨hs.named,hs.clean⟩
  refine Handler.wp_mono ?_ ?_ (sealTemporary_wp hcounted source limit _)
  · rintro r s' ⟨b,hb,hr,h⟩
    exact ⟨hid,b,hb,hr,h⟩
  · rintro e s' ⟨hb,hs'⟩
    exact ⟨hs',.inr ⟨hid,hb⟩⟩

/-- A destination takes a chunk or fails. -/
theorem writeAll_wp (before₀ before chunk : Bytes) {d : Destination} (h : d.taken=before₀++before) :
    Handler.wp (Destination.writeAll chunk) (fun _ d' => d'.taken=before₀++(before++chunk))
      (fun e _ => ∃ e',e=.io e' ∧ True) d := by
  rcases d with ⟨taken,_ | ⟨_ | _,answers⟩⟩
  all_goals simp_all [Handler.wp,Destination.writeAll]

theorem content_cut (reads : FileReads) (b : Bytes) : content ((reads.cut b).map .ok)=some b := by
  have hall (l : List Bytes) (hl : ∀ chunk∈l,chunk≠[]) : content (l.map .ok)=some l.flatten := by
    induction l with
    | nil => rfl
    | cons x l ih =>
      rw [List.map_cons,content,if_neg (hl x List.mem_cons_self),
        ih fun y hy => hl y (List.mem_cons_of_mem x hy)]
      rfl
  rw [hall _ (reads.progress b),reads.whole]

/-- A copy delivers what the path holds, or fails. -/
theorem copyVerifiedTo_wp (digest : Blake3Digest) (limit : ContentLimit) (d : Destination) :
    Handler.wp (ContentObjectStore.copyVerifiedTo hash reads digest limit d)
      (fun r s' => (∃ b,s.objects.lookup (ContentObjectStore.pathOf digest)=some b ∧
        hash b=digest ∧ r=(⟨digest,UInt64.ofNat b.length⟩,d.taken++b) ∧
          b.length≤limit.bytes.toNat) ∧ s'=s.sharded digest)
      (fun _ s' => s'=s.sharded digest) s := by
  simp only [ContentObjectStore.copyVerifiedTo,ContentObjectStore.objectPath,
    ContentObjectStore.openObject,Handler.wp_bind,Handler.wp_modify,Handler.wp_pure,Handler.wp_get]
  cases hl : s.objects.lookup (ContentObjectStore.pathOf digest) with
  | none => simp [ContentObjectStore.sharded]
  | some b =>
    simp only [Handler.wp_pure]
    have hstream := stream_wp limit .readLimitExceeded (s := d)
      (T := fun before d' => d'.taken=d.taken++before) (F := fun _ _ => True)
      (fun before chunk d' h => writeAll_wp d.taken before chunk h) (show d.taken=d.taken++[] by simp)
      ((reads.cut b).map .ok)
    rw [received_content limit .readLimitExceeded (content_cut reads b) (Nat.zero_le _)] at hstream
    unfold Handler.wp at hstream
    simp only [List.length_nil] at hstream
    generalize stream limit .readLimitExceeded Destination.writeAll 0 []
      ((reads.cut b).map .ok) d=answer at hstream ⊢
    rcases answer with ⟨_ | ⟨observed,hasher⟩,d'⟩
    · simp [ContentObjectStore.sharded]
    · obtain ⟨b',hb',hr,htaken⟩ := hstream
      have hfits : b.length≤limit.bytes.toNat ∧ b=b' := by
        by_cases hfits : b.length≤limit.bytes.toNat
        · simpa [hfits] using hb'
        · simp [hfits] at hb'
      obtain ⟨hfits,rfl⟩ := hfits
      cases hr
      simp only [Handler.wp_lift,Handler.wp_ensure]
      refine ⟨fun a ha => ?_,(fun _ h => by cases h)⟩
      cases ha
      exact ⟨fun hd => ⟨⟨b,rfl,hd,by rw [htaken],hfits⟩,rfl⟩,fun _ => rfl⟩

end Calls
end Society.Content
