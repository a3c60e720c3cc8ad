import Society.Kernel.Ledger
import Society.Relational.Sums

namespace Society.Kernel
open Society.Relational Society.Coding

/-! Conservation of money: what envelopes, charges and reservations say about each other. -/

section Charges
variable {W : List Tbl} {s s₁ s₂ : Store} {i j : BudgetReservationId} {e : BudgetEnvelopeId}

def microsOf (a : Option UsdMicros) : Nat := a.elim 0 (·.val)

/-- The charge row of a reservation on an envelope. -/
def chargeRow (s : Store) (i : BudgetReservationId) (e : BudgetEnvelopeId) :
    Option BudgetReservationChargeRow :=
  (s.rows .budgetReservationCharges).find? (fun r =>
    r.budgetReservationId==i && r.budgetEnvelopeId==e)

def chargeOn (s : Store) (i : BudgetReservationId) (e : BudgetEnvelopeId) : Option UsdMicros :=
  (chargeRow s i e).map (·.amountMicros)

/-- What a reservation with this charge holds back on the envelope. -/
def BudgetReservationRow.held (r : BudgetReservationRow) (charge : Option UsdMicros) : Nat :=
  if r.reservationState=.reconciled then 0 else microsOf charge

/-- What a reservation with this charge has spent from the envelope. -/
def BudgetReservationRow.spent (r : BudgetReservationRow) (charge : Option UsdMicros) : Nat :=
  if charge.isSome then r.chargedMicros.val else 0

def heldOn (s : Store) (e : BudgetEnvelopeId) : Nat :=
  s.sum .budgetReservations (fun r => r.held (chargeOn s r.budgetReservationId e))

def spentOn (s : Store) (e : BudgetEnvelopeId) : Nat :=
  s.sum .budgetReservations (fun r => r.spent (chargeOn s r.budgetReservationId e))

theorem charge_unique (hv : s.Valid) {a b : BudgetReservationChargeRow}
    (ha : a ∈ s.rows .budgetReservationCharges) (hb : b ∈ s.rows .budgetReservationCharges)
    (hi : a.budgetReservationId=b.budgetReservationId) (he : a.budgetEnvelopeId=b.budgetEnvelopeId) :
    a=b := by
  have hc (a b : BudgetReservationChargeRow) : conflict Tbl.budgetReservationCharges a b=
      (a.budgetReservationId==b.budgetReservationId && a.budgetEnvelopeId==b.budgetEnvelopeId) := rfl
  refine hv.exclusive (t := .budgetReservationCharges) ?_ ha hb ?_
  · intro a b
    rw [hc,hc,Bool.beq_comm,Bool.beq_comm (a := a.budgetEnvelopeId)]
  · rw [hc,hi,he]
    simp

theorem chargeRow_iff (hv : s.Valid) {r : BudgetReservationChargeRow} :
    chargeRow s i e=some r ↔ r ∈ s.rows .budgetReservationCharges ∧ r.budgetReservationId=i ∧
      r.budgetEnvelopeId=e := by
  constructor
  · intro h
    have hp := List.find?_some h
    simp only [Bool.and_eq_true,beq_iff_eq] at hp
    exact ⟨List.mem_of_find?_eq_some h,hp⟩
  · rintro ⟨hr,rfl,rfl⟩
    cases hf : chargeRow s r.budgetReservationId r.budgetEnvelopeId with
    | none =>
      have hn := List.find?_eq_none.mp hf r hr
      simp at hn
    | some q =>
      have hp := List.find?_some hf
      simp only [Bool.and_eq_true,beq_iff_eq] at hp
      rw [charge_unique hv (List.mem_of_find?_eq_some hf) hr hp.1 hp.2]

theorem mem_chargesOf {r : BudgetReservationChargeRow} :
    r ∈ chargesOf s i ↔ r ∈ s.rows .budgetReservationCharges ∧ r.budgetReservationId=i := by
  simp [chargesOf,List.mem_insertionSort]

theorem chargesOf_pairwise (hv : s.Valid) :
    (chargesOf s i).Pairwise (fun a b => a.budgetEnvelopeId≠b.budgetEnvelopeId) := by
  have hp : (chargesOf s i).Perm ((s.rows .budgetReservationCharges).filter
      (fun r => r.budgetReservationId==i)) := List.perm_insertionSort ..
  refine (hp.pairwise_iff (fun h => Ne.symm h)).mpr ?_
  refine List.pairwise_filter.mpr ((hv.unique .budgetReservationCharges).imp ?_)
  intro a b hc ha hb he
  have hconflict : conflict Tbl.budgetReservationCharges a b=
      (a.budgetReservationId==b.budgetReservationId && a.budgetEnvelopeId==b.budgetEnvelopeId) := rfl
  rw [hconflict,beq_iff_eq.mp ha,beq_iff_eq.mp hb,he] at hc
  simp at hc

/-- The charge of a list on an envelope. -/
def chargeIn (l : List BudgetReservationChargeRow) (e : BudgetEnvelopeId) :
    Option BudgetReservationChargeRow := l.find? (fun r => r.budgetEnvelopeId==e)

theorem chargeIn_chargesOf (hv : s.Valid) : chargeIn (chargesOf s i) e=chargeRow s i e := by
  cases hf : chargeRow s i e with
  | none =>
    refine List.find?_eq_none.mpr (fun r hr he => ?_)
    obtain ⟨hr,hi⟩ := mem_chargesOf.mp hr
    rw [(chargeRow_iff hv).mpr ⟨hr,hi,beq_iff_eq.mp he⟩] at hf
    cases hf
  | some r =>
    obtain ⟨hr,hi,he⟩ := (chargeRow_iff hv).mp hf
    cases hg : chargeIn (chargesOf s i) e with
    | none =>
      have hn := List.find?_eq_none.mp hg r (mem_chargesOf.mpr ⟨hr,hi⟩)
      simp [he] at hn
    | some q =>
      have hq := mem_chargesOf.mp (List.mem_of_find?_eq_some hg)
      have hp := List.find?_some hg
      rw [charge_unique hv hq.1 hr (hq.2.trans hi.symm) ((beq_iff_eq.mp hp).trans he.symm)]

/-- From `s` to `s'` the charges of the reservation `i` become `new`, and each envelope
releases `out` of its reserve and spends `into`. -/
structure ChargesMoved (i : BudgetReservationId) (out into : BudgetEnvelopeId → Nat)
    (new : BudgetEnvelopeId → Option UsdMicros) (s s' : Store) : Prop where
  same : ∀ t,t≠.budgetEnvelopes → t≠.budgetReservationCharges → s' t=s t
  valid : s'.Valid
  envelope : ∀ e q',s'.find .budgetEnvelopes e=some q' → ∃ q,s.find .budgetEnvelopes e=some q ∧
    q'.ceilingMicros=q.ceilingMicros ∧ q'.reservedMicros.val+out e=q.reservedMicros.val ∧
    q'.spentMicros.val=q.spentMicros.val+into e
  charge : ∀ j e,chargeOn s' j e=if j=i then new e else chargeOn s j e

theorem ChargesMoved.refl (hv : s.Valid) (i : BudgetReservationId) :
    ChargesMoved i (fun _ => 0) (fun _ => 0) (chargeOn s i) s s where
  same _ _ _ := rfl
  valid := hv
  envelope e q h := ⟨q,h,rfl,rfl,rfl⟩
  charge j e := by
    split
    · next h => rw [h]
    · rfl

theorem ChargesMoved.trans {out into out' into' : BudgetEnvelopeId → Nat}
    {new new' : BudgetEnvelopeId → Option UsdMicros} (h : ChargesMoved i out into new s s₁)
    (h' : ChargesMoved i out' into' new' s₁ s₂) :
    ChargesMoved i (fun e => out e+out' e) (fun e => into e+into' e) new' s s₂ where
  same t he hc := (h'.same t he hc).trans (h.same t he hc)
  valid := h'.valid
  envelope e q₂ hq₂ := by
    obtain ⟨q₁,hq₁,hceil',hres',hspent'⟩ := h'.envelope e q₂ hq₂
    obtain ⟨q,hq,hceil,hres,hspent⟩ := h.envelope e q₁ hq₁
    refine ⟨q,hq,hceil'.trans hceil,?_,?_⟩ <;> omega
  charge j e := by
    rw [h'.charge]
    split
    · rfl
    · next hj => rw [h.charge,if_neg hj]

theorem ChargesMoved.congr {out into out' into' : BudgetEnvelopeId → Nat}
    {new new' : BudgetEnvelopeId → Option UsdMicros} (h : ChargesMoved i out into new s s₁)
    (ho : ∀ e,out e=out' e) (hi : ∀ e,into e=into' e) (hn : ∀ e,new e=new' e) :
    ChargesMoved i out' into' new' s s₁ := by
  rw [← funext ho,← funext hi,← funext hn]
  exact h

/-- What happens on one envelope. -/
def onEnvelope (e : BudgetEnvelopeId) (n : Nat) (e' : BudgetEnvelopeId) : Nat := if e'=e then n else 0

/-- The loop over the charges of a reservation. -/
theorem wp_eachCharge {f : BudgetReservationChargeRow → Transition W Unit}
    (out : BudgetReservationChargeRow → Nat) (into : Nat)
    (new : BudgetReservationChargeRow → UsdMicros) (hv : s.Valid)
    (hf : ∀ r ∈ chargesOf s i,∀ s₁ : Store,s₁.Valid → chargeOn s₁ i r.budgetEnvelopeId=some r.amountMicros →
      Tx.wp (f r) (fun _ s' => ChargesMoved i (onEnvelope r.budgetEnvelopeId (out r))
        (onEnvelope r.budgetEnvelopeId into)
        (fun e => if e=r.budgetEnvelopeId then some (new r) else chargeOn s₁ i e) s₁ s') s₁) :
    Tx.wp (Tx.each f (chargesOf s i)) (fun _ s' =>
      ChargesMoved i (fun e => (chargeRow s i e).elim 0 out)
        (fun e => (chargeRow s i e).elim 0 (fun _ => into))
        (fun e => (chargeRow s i e).map new) s s') s := by
  refine Tx.wp_mono (Tx.wp_each_from (I := fun done s' =>
    ChargesMoved i (fun e => (chargeIn done e).elim 0 out)
      (fun e => (chargeIn done e).elim 0 (fun _ => into))
      (fun e => ((chargeIn done e).map new).or (chargeOn s i e)) s s') ?_ ?_) ?_
  · exact (ChargesMoved.refl hv i).congr (fun _ => rfl) (fun _ => rfl) (fun _ => rfl)
  · intro done r rest hl s₁ h₁
    have hfresh : chargeIn done r.budgetEnvelopeId=none := by
      have hp := chargesOf_pairwise (i := i) hv
      rw [hl,List.pairwise_append] at hp
      refine List.find?_eq_none.mpr (fun q hq he => ?_)
      exact hp.2.2 q hq r List.mem_cons_self (beq_iff_eq.mp he)
    have hr : r ∈ chargesOf s i := by rw [hl]; simp
    have hrow : chargeRow s i r.budgetEnvelopeId=some r := by
      obtain ⟨hm,hi⟩ := mem_chargesOf.mp hr
      exact (chargeRow_iff hv).mpr ⟨hm,hi,rfl⟩
    have hcharge : chargeOn s₁ i r.budgetEnvelopeId=some r.amountMicros := by
      rw [h₁.charge,if_pos rfl,hfresh,chargeOn,hrow]
      rfl
    have hin (e : BudgetEnvelopeId) : chargeIn (done++[r]) e=
        (chargeIn done e).or (if e=r.budgetEnvelopeId then some r else none) := by
      rw [chargeIn,List.find?_append,chargeIn]
      congr 1
      rw [List.find?_cons]
      by_cases he : e=r.budgetEnvelopeId
      · simp [he]
      · have hne : (r.budgetEnvelopeId==e)=false := beq_eq_false_iff_ne.mpr (Ne.symm he)
        simp [he,hne]
    refine Tx.wp_mono (hf r hr s₁ h₁.valid hcharge) ?_
    intro _ s₂ h₂
    refine (h₁.trans h₂).congr ?_ ?_ ?_
    · intro e
      rw [hin,onEnvelope]
      by_cases he : e=r.budgetEnvelopeId
      · subst he; simp [hfresh]
      · simp [he]
    · intro e
      rw [hin,onEnvelope]
      by_cases he : e=r.budgetEnvelopeId
      · subst he; simp [hfresh]
      · simp [he]
    · intro e
      rw [hin]
      by_cases he : e=r.budgetEnvelopeId
      · subst he; simp [hfresh]
      · rw [if_neg he,if_neg he,h₁.charge,if_pos rfl]
        simp
  · intro _ s' h
    refine h.congr ?_ ?_ ?_
    · intro e; rw [chargeIn_chargesOf hv]
    · intro e; rw [chargeIn_chargesOf hv]
    · intro e
      rw [chargeIn_chargesOf hv,chargeOn]
      cases chargeRow s i e <;> rfl

/-- A partial update by identity leads from each row to its new version. -/
theorem found_modify {t : Tbl} {p : Row t → Bool} {f : Row t → Option (Row t)} {k : Relational.Id t}
    (hk : ∀ r r',f r=some r' → key t r'=key t r) (ha : s.admitsModified t p f=true) {q' : Row t}
    (h : (s.modify t p f).find t k=some q') :
    ∃ q,s.find t k=some q ∧ (p q=true → f q=some q') ∧ (p q=false → q'=q) := by
  rw [Db.find_modify hk,Option.map_eq_some_iff] at h
  obtain ⟨q,hq,rfl⟩ := h
  refine ⟨q,hq,fun hp => ?_,fun hp => by simp [hp]⟩
  obtain ⟨q',hq',_⟩ := (Db.admitsModified_iff.mp ha).1 q (Db.find_mem hq) hp
  simp [hp,hq']

/-- One envelope releases an amount and spends another. -/
theorem settleEnvelope_wp (hv : s.Valid) (released charged : UsdMicros) (hw : .budgetEnvelopes ∈ W) :
    Tx.wp (settleEnvelope e released charged hw) (fun _ s' => (∀ t,t≠.budgetEnvelopes → s' t=s t) ∧
      ChargesMoved i (onEnvelope e released.val) (onEnvelope e charged.val) (chargeOn s i) s s') s := by
  have hmoves : Tx.wp (settleEnvelope e released charged hw) (fun _ s' =>
      (∀ t,t≠.budgetEnvelopes → s' t=s t) ∧ (s'.Valid →
        ChargesMoved i (onEnvelope e released.val) (onEnvelope e charged.val) (chargeOn s i) s s')) s := by
    simp only [settleEnvelope,Tx.wp_bind,Tx.wp_updateM,Tx.wp_pure]
    intro ha
    refine ⟨fun t ht => Db.modify_ne _ _ _ ht,fun hv' => ⟨?_,hv',?_,?_⟩⟩
    · exact fun t ht _ => Db.modify_ne _ _ _ ht
    · intro e' q' hq'
      obtain ⟨q,hq,hyes,hno⟩ := found_modify
        (fun _ _ h => congrArg Relational.Id.val (BudgetEnvelopeRow.settled_key h)) ha hq'
      refine ⟨q,hq,?_⟩
      have hkey : q.budgetEnvelopeId=e' := Relational.Id.ext (Db.find_key hq)
      by_cases he : e'=e
      · obtain ⟨x,y,hx,hy,rfl⟩ := BudgetEnvelopeRow.settled_eq_some.mp
          (hyes (beq_iff_eq.mpr (hkey.trans he)))
        rw [Ranged.checkedSub_eq_some] at hx
        rw [Ranged.checkedAdd_eq_some] at hy
        simp only [onEnvelope,he,if_true,true_and]
        omega
      · rw [hno (beq_eq_false_iff_ne.mpr (fun h => he (hkey.symm.trans h)))]
        simp [onEnvelope,he]
    · intro j e'
      have hrows : (s.modify .budgetEnvelopes (fun r => r.budgetEnvelopeId==e)
          (fun r => r.settled released charged)).rows .budgetReservationCharges=
          s.rows .budgetReservationCharges := by simp [Db.rows]
      rw [chargeOn,chargeRow,hrows]
      split
      · next hj => rw [hj]; rfl
      · rfl
  exact Tx.wp_mono (Tx.wp_and (Tx.wp_valid _ hv) hmoves) (fun _ s' h => ⟨h.2.1,h.2.2 h.1⟩)

/-- What the charges of a reservation release and what they spend. -/
abbrev released (s : Store) (i : BudgetReservationId) (e : BudgetEnvelopeId) : Nat :=
  microsOf (chargeOn s i e)

abbrev each (s : Store) (i : BudgetReservationId) (n : Nat) (e : BudgetEnvelopeId) : Nat :=
  if (chargeOn s i e).isSome then n else 0

theorem chargeRow_elim {out : BudgetReservationChargeRow → Nat} {f : Option UsdMicros → Nat}
    (hn : f none=0) (hs : ∀ r,out r=f (some r.amountMicros)) :
    (chargeRow s i e).elim 0 out=f (chargeOn s i e) := by
  rw [chargeOn]
  cases chargeRow s i e with
  | none => exact hn.symm
  | some r => exact hs r

theorem settleCharges_wp (hv : s.Valid) (charged : UsdMicros) (hw : .budgetEnvelopes ∈ W) :
    Tx.wp (settleCharges i charged hw) (fun _ s' =>
      ChargesMoved i (released s i) (each s i charged.val) (chargeOn s i) s s') s := by
  simp only [settleCharges,Tx.wp_bind,Tx.wp_read]
  refine Tx.wp_mono (wp_eachCharge (fun r => r.amountMicros.val) charged.val
    (fun r => r.amountMicros) hv ?_) ?_
  · intro r _ s₁ hv₁ hcharge
    refine Tx.wp_mono (settleEnvelope_wp (i := i) hv₁ _ _ hw) ?_
    rintro _ s' ⟨_,h⟩
    refine h.congr (fun _ => rfl) (fun _ => rfl) (fun e => ?_)
    split
    · next he => rw [he,hcharge]
    · rfl
  · intro _ s' h
    refine h.congr ?_ ?_ (fun _ => rfl)
    · exact fun e => chargeRow_elim rfl (fun _ => rfl)
    · exact fun e => chargeRow_elim (f := fun a => if a.isSome then charged.val else 0) rfl (fun _ => rfl)

theorem chargeRow_modify {p : BudgetReservationChargeRow → Bool}
    {f : BudgetReservationChargeRow → Option BudgetReservationChargeRow}
    (hf : ∀ r r',f r=some r' → r'.budgetReservationId=r.budgetReservationId ∧
      r'.budgetEnvelopeId=r.budgetEnvelopeId) :
    chargeRow (s.modify .budgetReservationCharges p f) j e=
      (chargeRow s j e).map (fun r => if p r then (f r).getD r else r) := by
  have hkey (r : BudgetReservationChargeRow) :
      (if p r then (f r).getD r else r).budgetReservationId=r.budgetReservationId ∧
        (if p r then (f r).getD r else r).budgetEnvelopeId=r.budgetEnvelopeId := by
    split
    · cases hr : f r with
      | none => exact ⟨rfl,rfl⟩
      | some r' => exact hf r r' hr
    · exact ⟨rfl,rfl⟩
  rw [chargeRow,Db.rows,Db.modify_same,Db.modified,List.find?_map,chargeRow]
  simp only [Function.comp_def,hkey]
  rfl

/-- One charge of a reservation is rewritten, its envelopes stay. -/
theorem rewriteCharge_moves (hv' : (s.modify .budgetReservationCharges
      (fun r => r.budgetReservationId==i && r.budgetEnvelopeId==e) f).Valid)
    (hf : ∀ r r',f r=some r' → r'.budgetReservationId=r.budgetReservationId ∧
      r'.budgetEnvelopeId=r.budgetEnvelopeId)
    {a new : UsdMicros} (ha : chargeOn s i e=some a)
    (hnew : ∀ r,r.amountMicros=a → ((f r).getD r).amountMicros=new) :
    ChargesMoved i (fun _ => 0) (fun _ => 0) (fun e' => if e'=e then some new else chargeOn s i e')
      s (s.modify .budgetReservationCharges
        (fun r => r.budgetReservationId==i && r.budgetEnvelopeId==e) f) where
  same t _ ht := Db.modify_ne _ _ _ ht
  valid := hv'
  envelope e' q h := by
    rw [Db.find_modify_ne (by decide)] at h
    exact ⟨q,h,rfl,rfl,rfl⟩
  charge j e' := by
    rw [chargeOn,chargeRow_modify hf,Option.map_map]
    cases hrow : chargeRow s j e' with
    | none =>
      simp only [Option.map_none]
      split
      · next hj =>
        subst hj
        split
        · next he =>
          subst he
          rw [chargeOn,hrow] at ha
          cases ha
        · rw [chargeOn,hrow]; rfl
      · rw [chargeOn,hrow]; rfl
    | some r =>
      have hp := List.find?_some hrow
      simp only [Bool.and_eq_true,beq_iff_eq] at hp
      simp only [Option.map_some,Function.comp_apply]
      by_cases hj : j=i
      · subst hj
        by_cases he : e'=e
        · subst he
          rw [chargeOn,hrow] at ha
          rw [if_pos rfl,if_pos rfl,if_pos (by simp [hp]),hnew r (Option.some.inj ha)]
        · have hne : (r.budgetEnvelopeId==e)=false :=
            beq_eq_false_iff_ne.mpr (fun h => he (hp.2.symm.trans h))
          rw [if_pos rfl,if_neg he,chargeOn,hrow]
          simp [hne]
      · have hne : (r.budgetReservationId==i)=false :=
          beq_eq_false_iff_ne.mpr (fun h => hj (hp.1.symm.trans h))
        rw [if_neg hj,chargeOn,hrow]
        simp [hne]

theorem rewriteCharge_wp (hv : s.Valid) {f : BudgetReservationChargeRow → Option BudgetReservationChargeRow}
    {x : Rejection} (hw : .budgetReservationCharges ∈ W)
    (hk : ∀ r r',f r=some r' → key Tbl.budgetReservationCharges r'=key Tbl.budgetReservationCharges r)
    (hf : ∀ r r',f r=some r' → r'.budgetReservationId=r.budgetReservationId ∧
      r'.budgetEnvelopeId=r.budgetEnvelopeId)
    {a new : UsdMicros} (ha : chargeOn s i e=some a)
    (hnew : ∀ r,r.amountMicros=a → ((f r).getD r).amountMicros=new) :
    Tx.wp (Tx.updateM Tbl.budgetReservationCharges (fun r : BudgetReservationChargeRow =>
        r.budgetReservationId==i && r.budgetEnvelopeId==e) f x hw hk) (fun _ s' =>
      ChargesMoved i (fun _ => 0) (fun _ => 0) (fun e' => if e'=e then some new else chargeOn s i e')
        s s') s :=
  (Tx.wp_updateM ..).mpr (fun hadm => rewriteCharge_moves (Db.modify_valid hk hv hadm) hf ha hnew)

theorem BudgetReservationChargeRow.less_same {r r' : BudgetReservationChargeRow} {a : UsdMicros}
    (h : r.less a=some r') : r'.budgetReservationId=r.budgetReservationId ∧
      r'.budgetEnvelopeId=r.budgetEnvelopeId := by
  obtain ⟨x,_,rfl⟩ := less_eq_some.mp h
  exact ⟨rfl,rfl⟩

theorem BudgetReservationChargeRow.less_amount (r : BudgetReservationChargeRow) (a : UsdMicros) :
    ((r.less a).getD r).amountMicros=(r.amountMicros.checkedSub a).getD r.amountMicros := by
  unfold less
  cases r.amountMicros.checkedSub a <;> rfl

/-- The charges of a reservation move `charged` from reserved to spent. -/
theorem drawCharges_wp (hv : s.Valid) (charged : UsdMicros) :
    Tx.wp (drawCharges i charged) (fun _ s' =>
      ChargesMoved i (each s i charged.val) (each s i charged.val)
        (fun e => (chargeOn s i e).map (fun a => (a.checkedSub charged).getD a)) s s') s := by
  simp only [drawCharges,Tx.wp_bind,Tx.wp_read]
  refine Tx.wp_mono (wp_eachCharge (fun _ => charged.val) charged.val
    (fun r => (r.amountMicros.checkedSub charged).getD r.amountMicros) hv ?_) ?_
  · intro r _ s₁ hv₁ hcharge
    simp only [Tx.wp_bind,Tx.wp_require,Tx.wp_pure]
    intro _
    refine Tx.wp_mono (settleEnvelope_wp (i := i) hv₁ _ _ _) ?_
    rintro _ s₂ ⟨_,h₂⟩
    have hcharge₂ : chargeOn s₂ i r.budgetEnvelopeId=some r.amountMicros := by
      rw [h₂.charge,if_pos rfl,hcharge]
    refine Tx.wp_mono (rewriteCharge_wp h₂.valid _ _ (fun _ _ => BudgetReservationChargeRow.less_same)
      hcharge₂ (fun q hq => by rw [q.less_amount,hq])) ?_
    intro _ s₃ h₃
    refine (h₂.trans h₃).congr (fun _ => rfl) (fun _ => rfl) (fun e => ?_)
    rw [h₂.charge,if_pos rfl]
  · intro _ s' h
    refine h.congr ?_ ?_ ?_
    · exact fun e => chargeRow_elim (f := fun a => if a.isSome then charged.val else 0) rfl (fun _ => rfl)
    · exact fun e => chargeRow_elim (f := fun a => if a.isSome then charged.val else 0) rfl (fun _ => rfl)
    · intro e
      rw [chargeOn,Option.map_map]
      rfl

/-- The charges of a disposed session are released whole, and then zero. -/
theorem disposeCharges_wp (hv : s.Valid) (charged : UsdMicros) :
    Tx.wp (disposeCharges i charged) (fun _ s' =>
      ChargesMoved i (released s i) (each s i charged.val)
        (fun e => (chargeOn s i e).map (fun _ => .zero)) s s') s := by
  simp only [disposeCharges,Tx.wp_bind,Tx.wp_read]
  refine Tx.wp_mono (wp_eachCharge (fun r => r.amountMicros.val) charged.val (fun _ => .zero) hv ?_) ?_
  · intro r _ s₁ hv₁ hcharge
    simp only [Tx.wp_bind,Tx.wp_require,Tx.wp_pure]
    intro _
    refine Tx.wp_mono (settleEnvelope_wp (i := i) hv₁ _ _ _) ?_
    rintro _ s₂ ⟨_,h₂⟩
    have hcharge₂ : chargeOn s₂ i r.budgetEnvelopeId=some r.amountMicros := by
      rw [h₂.charge,if_pos rfl,hcharge]
    refine Tx.wp_mono (rewriteCharge_wp h₂.valid _ _ ?_ hcharge₂ (fun _ _ => rfl)) ?_
    · rintro q _ ⟨⟩
      exact ⟨rfl,rfl⟩
    intro _ s₃ h₃
    refine (h₂.trans h₃).congr (fun _ => rfl) (fun _ => rfl) (fun e => ?_)
    rw [h₂.charge,if_pos rfl]
    rfl
  · intro _ s' h
    refine h.congr ?_ ?_ ?_
    · exact fun e => chargeRow_elim rfl (fun _ => rfl)
    · exact fun e => chargeRow_elim (f := fun a => if a.isSome then charged.val else 0) rfl (fun _ => rfl)
    · intro e
      rw [chargeOn,Option.map_map]
      rfl

end Charges

section Balance
variable {W : List Tbl} {s s₁ s₂ : Store} {i : BudgetReservationId} {r : BudgetReservationRow}

def envelopeOf (s : Store) (scope : BudgetScope) : Option BudgetEnvelopeId :=
  ((s.rows .budgetEnvelopeConstraints).find? (fun c => c.scope==scope)).map (·.budgetEnvelopeId)

/-- A known overrun has been charged to the envelope. -/
def Overrun (s : Store) (e : BudgetEnvelopeId) : Prop :=
  ∃ p ∈ s.rows .costPostmortems,p.causeKind=.knownOverrun ∧ p.lifecycleState=.closed ∧
    (chargeOn s p.budgetReservationId e).isSome=true

/-- The books of the society. -/
structure Balanced (s : Store) : Prop where
  reserved : ∀ e q,s.find .budgetEnvelopes e=some q → q.reservedMicros.val=heldOn s e
  spent : ∀ e q,s.find .budgetEnvelopes e=some q → q.spentMicros.val=spentOn s e
  rest : ∀ i r e a,s.find .budgetReservations i=some r → r.reservationState≠.reconciled →
    chargeOn s i e=some a → a.val+r.chargedMicros.val=r.amountMicros.val
  booked : ∀ i r,s.find .budgetReservations i=some r → ∃ society a b,
    envelopeOf s (.society society)=some a ∧ envelopeOf s (.cycle r.operatingCycleId)=some b ∧ a≠b ∧
      ∀ e,(chargeOn s i e).isSome=true ↔ e=a ∨ e=b
  capped : ∀ e q,s.find .budgetEnvelopes e=some q →
    Overrun s e ∨ q.reservedMicros.val+q.spentMicros.val≤q.ceilingMicros.val
  society : ∀ a ∈ s.rows .societies,∀ b ∈ s.rows .societies,a.societyId=b.societyId

/-- The tables of the books. -/
abbrev bookTables : List Tbl :=
  [.budgetEnvelopes,.budgetReservations,.budgetReservationCharges,.costPostmortems,
    .costPostmortemResolutions,.budgetEnvelopeConstraints,.societies]

theorem chargeOn_rows (h : s₂.rows .budgetReservationCharges=s.rows .budgetReservationCharges) :
    chargeOn s₂=chargeOn s := by
  funext i e
  rw [chargeOn,chargeRow,h,chargeOn,chargeRow]

theorem envelopeOf_rows (h : s₂.rows .budgetEnvelopeConstraints=s.rows .budgetEnvelopeConstraints) :
    envelopeOf s₂=envelopeOf s := by
  funext c
  rw [envelopeOf,h,envelopeOf]

theorem find_rows {t : Tbl} (h : s₂.rows t=s.rows t) (k : Relational.Id t) : s₂.find t k=s.find t k := by
  rw [Db.find,h,Db.find]

theorem Balanced.resociated (h : ∀ t ∈ bookTables,t≠.societies → s₂.rows t=s.rows t)
    (hs : ∀ a ∈ s₂.rows .societies,∀ b ∈ s₂.rows .societies,a.societyId=b.societyId)
    (hb : Balanced s) : Balanced s₂ := by
  have hc := chargeOn_rows (h .budgetReservationCharges (by decide) (by decide))
  have he := envelopeOf_rows (h .budgetEnvelopeConstraints (by decide) (by decide))
  have hfind := find_rows (h .budgetEnvelopes (by decide) (by decide))
  have hres := find_rows (h .budgetReservations (by decide) (by decide))
  have hover (e : BudgetEnvelopeId) : Overrun s₂ e=Overrun s e := by
    rw [Overrun,Overrun,h .costPostmortems (by decide) (by decide),hc]
  refine ⟨?_,?_,?_,?_,?_,hs⟩
  · intro e q hq
    rw [hfind] at hq
    rw [hb.reserved e q hq,heldOn,heldOn,Db.sum_rows (h .budgetReservations (by decide) (by decide)),hc]
  · intro e q hq
    rw [hfind] at hq
    rw [hb.spent e q hq,spentOn,spentOn,Db.sum_rows (h .budgetReservations (by decide) (by decide)),hc]
  · intro i r e a hr
    rw [hres] at hr
    rw [hc]
    exact hb.rest i r e a hr
  · intro i r hr
    rw [hres] at hr
    rw [hc,he]
    exact hb.booked i r hr
  · intro e q hq
    rw [hfind] at hq
    rw [hover]
    exact hb.capped e q hq

theorem Balanced.congr (h : ∀ t ∈ bookTables,s₂.rows t=s.rows t) (hb : Balanced s) : Balanced s₂ := by
  refine hb.resociated (fun t ht _ => h t ht) ?_
  rw [h .societies (by decide)]
  exact hb.society

/-- One reservation moves, together with its charges and their envelopes. -/
theorem Balanced.moved {out into : BudgetEnvelopeId → Nat} {new : BudgetEnvelopeId → Option UsdMicros}
    (f : BudgetReservationRow → Option BudgetReservationRow) (r' : BudgetReservationRow)
    (hb : Balanced s) (hv : s.Valid) (hm : ChargesMoved i out into new s s₁)
    (hr : s.find .budgetReservations i=some r) (hr' : (f r).getD r=r')
    (hkey : ∀ q q',f q=some q' → q'.budgetReservationId=q.budgetReservationId)
    (henvelopes : s₂.rows .budgetEnvelopes=s₁.rows .budgetEnvelopes)
    (hcharges : s₂.rows .budgetReservationCharges=s₁.rows .budgetReservationCharges)
    (hreservations : s₂.rows .budgetReservations=
      s.modified .budgetReservations (fun q => q.budgetReservationId==i) f)
    (hconstraints : s₂.rows .budgetEnvelopeConstraints=s.rows .budgetEnvelopeConstraints)
    (hsocieties : s₂.rows .societies=s.rows .societies)
    (hcycle : r'.operatingCycleId=r.operatingCycleId)
    (hnew : ∀ e,(new e).isSome=(chargeOn s i e).isSome)
    (hheld : ∀ e,r'.held (new e)+out e=r.held (chargeOn s i e))
    (hspent : ∀ e,r'.spent (new e)=r.spent (chargeOn s i e)+into e)
    (hrest : r'.reservationState≠.reconciled → ∀ e a,new e=some a →
      a.val+r'.chargedMicros.val=r'.amountMicros.val)
    (hover : ∀ e,Overrun s e → Overrun s₂ e) (hcap : ∀ e,Overrun s₂ e ∨ into e≤out e) :
    Balanced s₂ := by
  have hc (j : BudgetReservationId) (e : BudgetEnvelopeId) :
      chargeOn s₂ j e=if j=i then new e else chargeOn s j e := by
    rw [chargeOn_rows hcharges,hm.charge]
  have hid : r.budgetReservationId=i := Relational.Id.ext (Db.find_key hr)
  have hid' : r'.budgetReservationId=i := by
    rw [← hr',← hid]
    cases hf : f r with
    | none => rfl
    | some q => exact hkey r q hf
  have hfind (j : BudgetReservationId) : s₂.find .budgetReservations j=
      if j=i then some r' else s.find .budgetReservations j := by
    have hmod := Db.find_modify (s := s) (t := .budgetReservations) (k := j)
      (p := fun q => q.budgetReservationId==i) (f := f)
      (fun q q' h => congrArg Relational.Id.val (hkey q q' h))
    rw [Db.find,Db.rows,Db.modify_same,← hreservations,← Db.find] at hmod
    rw [hmod]
    split
    · next hj =>
      rw [hj,hr,Option.map_some,if_pos (by simp [hid]),hr']
    · next hj =>
      cases hq : s.find .budgetReservations j with
      | none => rfl
      | some q =>
        have hqid : q.budgetReservationId=j := Relational.Id.ext (Db.find_key hq)
        have hne : ¬q.budgetReservationId=i := by rwa [hqid]
        rw [Option.map_some,if_neg (by simpa using hne)]
  -- a total over the reservations changes by the share of the one that moves
  have hsum (g g' : BudgetReservationRow → Nat)
      (hg : ∀ q ∈ s.rows .budgetReservations,q.budgetReservationId≠i → g q=g' q) :
      s₂.sum .budgetReservations g'+g r=s.sum .budgetReservations g+g' r' := by
    let step (q : BudgetReservationRow) := g' (if q.budgetReservationId==i then (f q).getD q else q)
    have hmap : s₂.sum .budgetReservations g'=s.sum .budgetReservations step := by
      rw [Db.sum,hreservations,Db.modified,List.map_map]
      rfl
    have hstep : step r=g' r' := by
      change g' (if r.budgetReservationId==i then (f r).getD r else r)=g' r'
      rw [if_pos (by simpa using hid),hr']
    have hchange := hv.sum_change (t := .budgetReservations) rfl hr (f := g) (g := step) ?_
    · rw [hmap]
      omega
    · intro q hq hne
      have hqi : q.budgetReservationId≠i := fun h => hne (congrArg Relational.Id.val h)
      change g q=g' (if q.budgetReservationId==i then (f q).getD q else q)
      rw [hg q hq hqi,if_neg (by simpa using hqi)]
  have hheldOn (e : BudgetEnvelopeId) : heldOn s₂ e+out e=heldOn s e := by
    have h : heldOn s₂ e+r.held (chargeOn s r.budgetReservationId e)=
        heldOn s e+r'.held (chargeOn s₂ r'.budgetReservationId e) :=
      hsum (fun q => q.held (chargeOn s q.budgetReservationId e))
        (fun q => q.held (chargeOn s₂ q.budgetReservationId e)) (fun q _ hq => by rw [hc,if_neg hq])
    rw [hid,hid',hc,if_pos rfl] at h
    have := hheld e
    omega
  have hspentOn (e : BudgetEnvelopeId) : spentOn s₂ e=spentOn s e+into e := by
    have h : spentOn s₂ e+r.spent (chargeOn s r.budgetReservationId e)=
        spentOn s e+r'.spent (chargeOn s₂ r'.budgetReservationId e) :=
      hsum (fun q => q.spent (chargeOn s q.budgetReservationId e))
        (fun q => q.spent (chargeOn s₂ q.budgetReservationId e)) (fun q _ hq => by rw [hc,if_neg hq])
    rw [hid,hid',hc,if_pos rfl] at h
    have := hspent e
    omega
  have henv (e : BudgetEnvelopeId) (q₂ : BudgetEnvelopeRow) (hq₂ : s₂.find .budgetEnvelopes e=some q₂) :=
    hm.envelope e q₂ ((find_rows henvelopes e).symm.trans hq₂)
  refine ⟨?_,?_,?_,?_,?_,?_⟩
  · intro e q₂ hq₂
    obtain ⟨q,hq,_,hout,_⟩ := henv e q₂ hq₂
    have := hb.reserved e q hq
    have := hheldOn e
    omega
  · intro e q₂ hq₂
    obtain ⟨q,hq,_,_,hinto⟩ := henv e q₂ hq₂
    rw [hinto,hb.spent e q hq,hspentOn]
  · intro j q e a hq hstate ha
    rw [hfind] at hq
    rw [hc] at ha
    split at hq
    · next hj =>
      cases hq
      rw [if_pos hj] at ha
      exact hrest hstate e a ha
    · next hj =>
      rw [if_neg hj] at ha
      exact hb.rest j q e a hq hstate ha
  · intro j q hq
    rw [hfind] at hq
    rw [envelopeOf_rows hconstraints]
    simp only [hc]
    split at hq
    · next hj =>
      cases hq
      subst hj
      simp only [if_true,hnew,hcycle]
      exact hb.booked j r hr
    · next hj =>
      simp only [hj,if_false]
      exact hb.booked j q hq
  · intro e q₂ hq₂
    obtain ⟨q,hq,hceil,hout,hinto⟩ := henv e q₂ hq₂
    rcases hb.capped e q hq with ho | hle
    · exact .inl (hover e ho)
    · refine (hcap e).imp id (fun hcap => ?_)
      rw [hceil]
      omega
  · rw [hsocieties]
    exact hb.society

def BudgetReservationRow.reconciledAt (cmd : CommandRowId) (total : UsdMicros)
    (r : BudgetReservationRow) : BudgetReservationRow :=
  {r with reservationState := .reconciled,chargedMicros := total,reconciledByCommandId := some cmd}

def BudgetReservationRow.freeze (r : BudgetReservationRow) : BudgetReservationRow :=
  {r with reservationState := .frozen}

def CostPostmortemRow.closedBy (cmd : CommandRowId) (p : CostPostmortemRow) : CostPostmortemRow :=
  {p with lifecycleState := .closed,closedByCommandId := some cmd}

/-- What a command can do to the books. -/
inductive BookStep (s s' : Store) : Prop
  /-- A new envelope with its scope; a society keeps its identity. -/
  | enveloped (q : BudgetEnvelopeRow) (c : BudgetEnvelopeConstraintRow)
      (henvelopes : s'.rows .budgetEnvelopes=s.rows .budgetEnvelopes++[q])
      (hfresh : s.find .budgetEnvelopes q.budgetEnvelopeId=none)
      (hamounts : q.reservedMicros=.zero ∧ q.spentMicros=.zero)
      (hconstraints : s'.rows .budgetEnvelopeConstraints=s.rows .budgetEnvelopeConstraints++[c])
      (hsocieties : (s'.rows .societies).map (·.societyId)=(s.rows .societies).map (·.societyId))
      (hsame : ∀ t ∈ [Tbl.budgetReservations,.budgetReservationCharges,.costPostmortems,
        .costPostmortemResolutions],s'.rows t=s.rows t)
  /-- The first society. -/
  | founded (q : SocietyRow) (hnone : s.rows .societies=[]) (hsocieties : s'.rows .societies=[q])
      (hsame : ∀ t ∈ bookTables,t≠.societies → s'.rows t=s.rows t)
  /-- A new reservation, booked on the envelopes of the society and of its cycle. -/
  | reserved (r : BudgetReservationRow) (society : SocietyId) (a b : BudgetEnvelopeId)
      (x y : BudgetReservationChargeRow)
      (hscopes : envelopeOf s (.society society)=some a ∧
        envelopeOf s (.cycle r.operatingCycleId)=some b)
      (hfresh : s.find .budgetReservations r.budgetReservationId=none)
      (hreservations : s'.rows .budgetReservations=s.rows .budgetReservations++[r])
      (hstate : r.reservationState=.reserved ∧ r.chargedMicros=.zero)
      (hcharges : s'.rows .budgetReservationCharges=s.rows .budgetReservationCharges++[x,y])
      (hx : x.budgetReservationId=r.budgetReservationId ∧ x.budgetEnvelopeId=a ∧
        x.amountMicros=r.amountMicros)
      (hy : y.budgetReservationId=r.budgetReservationId ∧ y.budgetEnvelopeId=b ∧
        y.amountMicros=r.amountMicros)
      (henvelopes : ∀ e q',s'.find .budgetEnvelopes e=some q' → ∃ q,s.find .budgetEnvelopes e=some q ∧
        q'.ceilingMicros=q.ceilingMicros ∧ q'.spentMicros=q.spentMicros ∧ q'.reservedMicros.val=
          q.reservedMicros.val+(if e=a ∨ e=b then r.amountMicros.val else 0))
      (hroom : ∀ e q,e=a ∨ e=b → s.find .budgetEnvelopes e=some q →
        q.reservedMicros.val+r.amountMicros.val+q.spentMicros.val≤q.ceilingMicros.val)
      (hsame : ∀ t ∈ [Tbl.costPostmortems,.costPostmortemResolutions,.budgetEnvelopeConstraints,
        .societies],s'.rows t=s.rows t)
  /-- An office turn is charged to the reservation of its session. -/
  | drawn (i : BudgetReservationId) (r : BudgetReservationRow) (delta : UsdMicros) (s₁ : Store)
      (hr : s.find .budgetReservations i=some r) (hstate : r.reservationState=.reserved)
      (hle : r.chargedMicros.val+delta.val ≤ r.amountMicros.val)
      (hm : ChargesMoved i (each s i delta.val) (each s i delta.val)
        (fun e => (chargeOn s i e).map (fun a => (a.checkedSub delta).getD a)) s s₁)
      (henvelopes : s'.rows .budgetEnvelopes=s₁.rows .budgetEnvelopes)
      (hcharges : s'.rows .budgetReservationCharges=s₁.rows .budgetReservationCharges)
      (hreservations : s'.rows .budgetReservations=s.modified .budgetReservations
        (fun q => q.budgetReservationId==i) (fun q => q.charging delta))
      (hsame : ∀ t ∈ [Tbl.costPostmortems,.costPostmortemResolutions,.budgetEnvelopeConstraints,
        .societies],s'.rows t=s.rows t)
  /-- A reservation is reconciled within its amount. -/
  | settled (i : BudgetReservationId) (r : BudgetReservationRow) (delta total : UsdMicros)
      (cmd : CommandRowId) (new : BudgetEnvelopeId → Option UsdMicros) (s₁ : Store)
      (hr : s.find .budgetReservations i=some r) (hstate : r.reservationState=.reserved)
      (htotal : total.val=r.chargedMicros.val+delta.val) (hle : total.val ≤ r.amountMicros.val)
      (hm : ChargesMoved i (released s i) (each s i delta.val) new s s₁)
      (hnew : ∀ e,(new e).isSome=(chargeOn s i e).isSome)
      (henvelopes : s'.rows .budgetEnvelopes=s₁.rows .budgetEnvelopes)
      (hcharges : s'.rows .budgetReservationCharges=s₁.rows .budgetReservationCharges)
      (hreservations : s'.rows .budgetReservations=s.modified .budgetReservations
        (fun q => q.budgetReservationId==i) (fun q => some (q.reconciledAt cmd total)))
      (hsame : ∀ t ∈ [Tbl.costPostmortems,.costPostmortemResolutions,.budgetEnvelopeConstraints,
        .societies],s'.rows t=s.rows t)
  /-- A reservation freezes, and a postmortem of its cost opens. -/
  | frozen (i : BudgetReservationId) (r : BudgetReservationRow) (p : CostPostmortemRow)
      (left : UsdMicros) (reason : BudgetFreezeReason)
      (hr : s.find .budgetReservations i=some r) (hstate : r.reservationState=.reserved)
      (hleft : left.val+r.chargedMicros.val=r.amountMicros.val)
      (hreason : ∀ observed rest,reason=.knownOverrun observed rest → r.amountMicros.val<observed.val)
      (hp : p.budgetReservationId=i ∧ p.reservedMicros=some left ∧ p.lifecycleState=.opened ∧
        p.causeKind=(postmortemColumns reason).1 ∧ p.observedMicros=(postmortemColumns reason).2.1)
      (hfresh : s.find .costPostmortems p.postmortemId=none)
      (hreservations : s'.rows .budgetReservations=s.modified .budgetReservations
        (fun q => q.budgetReservationId==i) (fun q => some q.freeze))
      (hpostmortems : s'.rows .costPostmortems=s.rows .costPostmortems++[p])
      (hsame : ∀ t ∈ [Tbl.budgetEnvelopes,.budgetReservationCharges,.costPostmortemResolutions,
        .budgetEnvelopeConstraints,.societies],s'.rows t=s.rows t)
  /-- A postmortem closes and its reservation is reconciled. -/
  | closed (p : CostPostmortemRow) (r : BudgetReservationRow) (remaining delta total : UsdMicros)
      (resolution : CostPostmortemResolution) (cmd : CommandRowId) (q : CostPostmortemResolutionRow)
      (s₁ : Store) (hp : s.find .costPostmortems p.postmortemId=some p)
      (hopened : p.lifecycleState=.opened) (hremaining : p.reservedMicros=some remaining)
      (hr : s.find .budgetReservations p.budgetReservationId=some r)
      (hstate : r.reservationState=.frozen)
      (hleft : remaining.val+r.chargedMicros.val=r.amountMicros.val)
      (hdelta : postmortemCharge p.causeKind resolution p.observedMicros r.chargedMicros remaining=
        some delta) (htotal : total.val=r.chargedMicros.val+delta.val)
      (hm : ChargesMoved p.budgetReservationId (released s p.budgetReservationId)
        (each s p.budgetReservationId delta.val) (chargeOn s p.budgetReservationId) s s₁)
      (henvelopes : s'.rows .budgetEnvelopes=s₁.rows .budgetEnvelopes)
      (hcharges : s'.rows .budgetReservationCharges=s₁.rows .budgetReservationCharges)
      (hreservations : s'.rows .budgetReservations=s.modified .budgetReservations
        (fun q => q.budgetReservationId==p.budgetReservationId) (fun q => some (q.reconciledAt cmd total)))
      (hpostmortems : s'.rows .costPostmortems=s.modified .costPostmortems
        (fun x => x.postmortemId==p.postmortemId) (fun x => some (x.closedBy cmd)))
      (hresolutions : s'.rows .costPostmortemResolutions=s.rows .costPostmortemResolutions++[q])
      (hq : q.postmortemId=p.postmortemId)
      (hsame : ∀ t ∈ [Tbl.budgetEnvelopeConstraints,.societies],s'.rows t=s.rows t)

theorem Overrun.mono {e : BudgetEnvelopeId} (hc : ∀ j e,(chargeOn s j e).isSome=true → (chargeOn s₂ j e).isSome=true)
    (hp : ∀ p ∈ s.rows .costPostmortems,p.causeKind=.knownOverrun → p.lifecycleState=.closed →
      ∃ p' ∈ s₂.rows .costPostmortems,p'.causeKind=.knownOverrun ∧ p'.lifecycleState=.closed ∧
        p'.budgetReservationId=p.budgetReservationId) (h : Overrun s e) : Overrun s₂ e := by
  obtain ⟨p,hm,hk,hl,hs⟩ := h
  obtain ⟨p',hm',hk',hl',hi⟩ := hp p hm hk hl
  exact ⟨p',hm',hk',hl',hc _ _ (hi ▸ hs)⟩

/-- A charge row of a reservation that moves stays where it is. -/
theorem charged_kept {out into : BudgetEnvelopeId → Nat} {new : BudgetEnvelopeId → Option UsdMicros}
    (hm : ChargesMoved i out into new s s₁) (hnew : ∀ e,(new e).isSome=(chargeOn s i e).isSome)
    (hcharges : s₂.rows .budgetReservationCharges=s₁.rows .budgetReservationCharges)
    (j : BudgetReservationId) (e : BudgetEnvelopeId) :
    (chargeOn s₂ j e).isSome=(chargeOn s j e).isSome := by
  rw [chargeOn_rows hcharges,hm.charge]
  split
  · next hj => rw [hnew,hj]
  · rfl

theorem postmortems_kept (h : s₂.rows .costPostmortems=s.rows .costPostmortems) :
    ∀ p ∈ s.rows .costPostmortems,p.causeKind=.knownOverrun → p.lifecycleState=.closed →
      ∃ p' ∈ s₂.rows .costPostmortems,p'.causeKind=.knownOverrun ∧ p'.lifecycleState=.closed ∧
        p'.budgetReservationId=p.budgetReservationId :=
  fun p hp hk hl => ⟨p,h ▸ hp,hk,hl,rfl⟩

theorem Balanced.drawn {delta : UsdMicros} (hb : Balanced s) (hv : s.Valid)
    (hr : s.find .budgetReservations i=some r) (hstate : r.reservationState=.reserved)
    (hle : r.chargedMicros.val+delta.val ≤ r.amountMicros.val)
    (hm : ChargesMoved i (each s i delta.val) (each s i delta.val)
      (fun e => (chargeOn s i e).map (fun a => (a.checkedSub delta).getD a)) s s₁)
    (henvelopes : s₂.rows .budgetEnvelopes=s₁.rows .budgetEnvelopes)
    (hcharges : s₂.rows .budgetReservationCharges=s₁.rows .budgetReservationCharges)
    (hreservations : s₂.rows .budgetReservations=s.modified .budgetReservations
      (fun q => q.budgetReservationId==i) (fun q => q.charging delta))
    (hsame : ∀ t ∈ [Tbl.costPostmortems,.costPostmortemResolutions,.budgetEnvelopeConstraints,
      .societies],s₂.rows t=s.rows t) : Balanced s₂ := by
  obtain ⟨total,htotal⟩ : ∃ total,r.chargedMicros.checkedAdd delta=some total := by
    have := r.amountMicros.valid
    exact ⟨⟨r.chargedMicros.val+delta.val,by omega⟩,Ranged.checkedAdd_eq_some.mpr rfl⟩
  have hcharging : r.charging delta=some {r with chargedMicros := total} :=
    BudgetReservationRow.charging_eq_some.mpr ⟨total,htotal,rfl⟩
  rw [Ranged.checkedAdd_eq_some] at htotal
  have hactive : r.reservationState≠.reconciled := by rw [hstate]; decide
  have hsub (e : BudgetEnvelopeId) (a : UsdMicros) (ha : chargeOn s i e=some a) :
      ((a.checkedSub delta).getD a).val+delta.val=a.val := by
    have hrest := hb.rest i r e a hr hactive ha
    have hx : a.checkedSub delta=some ⟨a.val-delta.val,by have := a.valid; omega⟩ :=
      Ranged.checkedSub_eq_some.mpr ⟨by omega,rfl⟩
    rw [hx,Option.getD_some]
    change a.val-delta.val+delta.val=a.val
    omega
  have hnew (e : BudgetEnvelopeId) : ((chargeOn s i e).map (fun a =>
      (a.checkedSub delta).getD a)).isSome=(chargeOn s i e).isSome := Option.isSome_map
  refine hb.moved (fun q => q.charging delta) {r with chargedMicros := total} hv hm hr
    (by rw [hcharging]; rfl) ?_ henvelopes hcharges hreservations (hsame _ (by decide))
    (hsame _ (by decide)) rfl hnew ?_ ?_ ?_ ?_ (fun e => .inr (Nat.le_refl _))
  · intro q q' hq
    obtain ⟨_,_,rfl⟩ := BudgetReservationRow.charging_eq_some.mp hq
    rfl
  · intro e
    simp only [BudgetReservationRow.held,hstate,if_neg (by decide : ¬(BudgetReservationState.reserved=.reconciled))]
    cases ha : chargeOn s i e with
    | none => simp [each,ha,microsOf]
    | some a => simpa [each,ha,microsOf] using hsub e a ha
  · intro e
    simp only [BudgetReservationRow.spent,each,Option.isSome_map]
    split <;> omega
  · intro _ e a ha
    obtain ⟨b,hc,rfl⟩ := Option.map_eq_some_iff.mp ha
    have hrest := hb.rest i r e b hr hactive hc
    have := hsub e b hc
    change _+total.val=r.amountMicros.val
    omega
  · intro e
    exact Overrun.mono (fun j e h => (charged_kept hm hnew hcharges j e).trans h)
      (postmortems_kept (hsame _ (by decide)))

/-- A reservation that holds charges back lets go of all of them. -/
theorem Balanced.reconciled {delta total : UsdMicros} {cmd : CommandRowId}
    {new : BudgetEnvelopeId → Option UsdMicros} (hb : Balanced s) (hv : s.Valid)
    (hr : s.find .budgetReservations i=some r) (hstate : r.reservationState≠.reconciled)
    (htotal : total.val=r.chargedMicros.val+delta.val)
    (hm : ChargesMoved i (released s i) (each s i delta.val) new s s₁)
    (hnew : ∀ e,(new e).isSome=(chargeOn s i e).isSome)
    (henvelopes : s₂.rows .budgetEnvelopes=s₁.rows .budgetEnvelopes)
    (hcharges : s₂.rows .budgetReservationCharges=s₁.rows .budgetReservationCharges)
    (hreservations : s₂.rows .budgetReservations=s.modified .budgetReservations
      (fun q => q.budgetReservationId==i) (fun q => some (q.reconciledAt cmd total)))
    (hsame : ∀ t ∈ [Tbl.budgetEnvelopeConstraints,.societies],s₂.rows t=s.rows t)
    (hover : ∀ e,Overrun s e → Overrun s₂ e)
    (hcap : ∀ e,(chargeOn s i e).isSome=true → Overrun s₂ e ∨ total.val ≤ r.amountMicros.val) :
    Balanced s₂ := by
  refine hb.moved (fun q => some (q.reconciledAt cmd total)) (r.reconciledAt cmd total)
    hv hm hr rfl ?_ henvelopes hcharges hreservations (hsame _ (by decide)) (hsame _ (by decide)) rfl
    hnew ?_ ?_ (fun h => absurd rfl h) hover ?_
  · rintro q _ ⟨⟩
    rfl
  · intro e
    simp only [BudgetReservationRow.held,BudgetReservationRow.reconciledAt,if_true,if_neg hstate,
      released]
    omega
  · intro e
    simp only [BudgetReservationRow.spent,BudgetReservationRow.reconciledAt,each,hnew]
    split <;> omega
  · intro e
    cases ha : chargeOn s i e with
    | none => exact .inr (by simp [each,ha])
    | some a =>
      refine (hcap e (by rw [ha]; rfl)).imp id (fun hle => ?_)
      have hrest := hb.rest i r e a hr hstate ha
      simp only [each,ha,microsOf,Option.isSome_some,if_true,Option.elim_some]
      omega

theorem Balanced.frozen {p : CostPostmortemRow} (hb : Balanced s) (hv : s.Valid)
    (hr : s.find .budgetReservations i=some r) (hstate : r.reservationState=.reserved)
    (hreservations : s₂.rows .budgetReservations=s.modified .budgetReservations
      (fun q => q.budgetReservationId==i) (fun q => some q.freeze))
    (hpostmortems : s₂.rows .costPostmortems=s.rows .costPostmortems++[p])
    (hsame : ∀ t ∈ [Tbl.budgetEnvelopes,.budgetReservationCharges,.costPostmortemResolutions,
      .budgetEnvelopeConstraints,.societies],s₂.rows t=s.rows t) : Balanced s₂ := by
  refine hb.moved (fun q => some q.freeze) r.freeze hv (.refl hv i) hr rfl ?_
    (hsame _ (by decide)) (hsame _ (by decide)) hreservations (hsame _ (by decide))
    (hsame _ (by decide)) rfl (fun _ => rfl) ?_ (fun _ => rfl) ?_ ?_ (fun e => .inr (Nat.le_refl _))
  · rintro q _ ⟨⟩
    rfl
  · intro e
    simp [BudgetReservationRow.held,BudgetReservationRow.freeze,hstate]
  · intro _ e a ha
    exact hb.rest i r e a hr (by rw [hstate]; decide) ha
  · intro e
    refine Overrun.mono (fun j e h => by rwa [chargeOn_rows (hsame _ (by decide))]) ?_
    intro q hq hk hl
    exact ⟨q,by rw [hpostmortems]; exact List.mem_append_left _ hq,hk,hl,rfl⟩

/-- No charge stands on an envelope, or for a reservation, that does not exist. -/
theorem charge_none (hv : s.Valid) {e : BudgetEnvelopeId} (h : s.find .budgetEnvelopes e=none ∨
    s.find .budgetReservations i=none) : chargeOn s i e=none := by
  cases hc : chargeRow s i e with
  | none => rw [chargeOn,hc,Option.map_none]
  | some x =>
    obtain ⟨hm,hi,he⟩ := (chargeRow_iff hv).mp hc
    have hrefs : refs Tbl.budgetReservationCharges x=
      [ref x.budgetReservationId,ref x.budgetEnvelopeId] := rfl
    rcases h with h | h
    · obtain ⟨q,hq⟩ := hv.find_target hm (u := .budgetEnvelopes) (k := e) rfl (by rw [hrefs,he]; simp [ref])
      rw [h] at hq
      cases hq
    · obtain ⟨q,hq⟩ := hv.find_target hm (u := .budgetReservations) (k := i) rfl (by rw [hrefs,hi]; simp [ref])
      rw [h] at hq
      cases hq

theorem Balanced.enveloped {q : BudgetEnvelopeRow} {c : BudgetEnvelopeConstraintRow}
    (hb : Balanced s) (hv : s.Valid)
    (henvelopes : s₂.rows .budgetEnvelopes=s.rows .budgetEnvelopes++[q])
    (hfresh : s.find .budgetEnvelopes q.budgetEnvelopeId=none)
    (hamounts : q.reservedMicros=.zero ∧ q.spentMicros=.zero)
    (hconstraints : s₂.rows .budgetEnvelopeConstraints=s.rows .budgetEnvelopeConstraints++[c])
    (hsocieties : (s₂.rows .societies).map (·.societyId)=(s.rows .societies).map (·.societyId))
    (hsame : ∀ t ∈ [Tbl.budgetReservations,.budgetReservationCharges,.costPostmortems,
      .costPostmortemResolutions],s₂.rows t=s.rows t) : Balanced s₂ := by
  have hc := chargeOn_rows (hsame .budgetReservationCharges (by decide))
  have hfind (e : BudgetEnvelopeId) (q' : BudgetEnvelopeRow) (h : s₂.find .budgetEnvelopes e=some q') :
      s.find .budgetEnvelopes e=some q' ∨ (q'=q ∧ ∀ i,chargeOn s i e=none) := by
    rw [Db.find,henvelopes,List.find?_append,Option.or_eq_some_iff] at h
    refine h.imp id (fun h => ?_)
    have hm := List.mem_of_find?_eq_some h.2
    have hk := List.find?_some h.2
    rw [List.mem_singleton] at hm
    subst hm
    have he : q'.budgetEnvelopeId=e := Relational.Id.ext (beq_iff_eq.mp hk)
    exact ⟨rfl,fun i => charge_none hv (.inl (he ▸ hfresh))⟩
  have hfind' (j : BudgetReservationId) : s₂.find .budgetReservations j=s.find .budgetReservations j :=
    find_rows (hsame _ (by decide)) j
  have hsum (f : BudgetReservationRow → Nat) : s₂.sum .budgetReservations f=s.sum .budgetReservations f :=
    Db.sum_rows (hsame _ (by decide))
  have hzero : UsdMicros.zero.val=0 := rfl
  refine ⟨?_,?_,?_,?_,?_,?_⟩
  · intro e q' hq'
    rw [heldOn,hc,hsum]
    rcases hfind e q' hq' with h | ⟨rfl,hn⟩
    · exact hb.reserved e q' h
    · rw [hamounts.1,hzero]
      exact (Db.sum_zero (fun r _ => by simp [hn,BudgetReservationRow.held,microsOf])).symm
  · intro e q' hq'
    rw [spentOn,hc,hsum]
    rcases hfind e q' hq' with h | ⟨rfl,hn⟩
    · exact hb.spent e q' h
    · rw [hamounts.2,hzero]
      exact (Db.sum_zero (fun r _ => by simp [hn,BudgetReservationRow.spent])).symm
  · intro j r e a hr
    rw [hfind'] at hr
    rw [hc]
    exact hb.rest j r e a hr
  · intro j r hr
    rw [hfind'] at hr
    obtain ⟨society,a,b,ha,hbb,hne,hall⟩ := hb.booked j r hr
    have hscope (scope : BudgetScope) (a : BudgetEnvelopeId) (h : envelopeOf s scope=some a) :
        envelopeOf s₂ scope=some a := by
      obtain ⟨x,hx,rfl⟩ := Option.map_eq_some_iff.mp h
      rw [envelopeOf,hconstraints,List.find?_append,hx]
      rfl
    rw [hc]
    exact ⟨society,a,b,hscope _ _ ha,hscope _ _ hbb,hne,hall⟩
  · intro e q' hq'
    rcases hfind e q' hq' with h | ⟨rfl,_⟩
    · refine (hb.capped e q' h).imp (Overrun.mono (fun j e h => by rwa [hc]) ?_) id
      exact postmortems_kept (hsame _ (by decide))
    · right
      rw [hamounts.1,hamounts.2,hzero]
      exact Nat.zero_le _
  · intro a ha b hbm
    have hold (x : SocietyRow) (hx : x ∈ s₂.rows .societies) :
        ∃ y ∈ s.rows .societies,y.societyId=x.societyId := by
      have hmem : x.societyId ∈ (s₂.rows .societies).map (·.societyId) := List.mem_map_of_mem hx
      rw [hsocieties] at hmem
      exact List.mem_map.mp hmem
    obtain ⟨a',ha',hae⟩ := hold a ha
    obtain ⟨b',hb',hbe⟩ := hold b hbm
    rw [← hae,← hbe]
    exact hb.society a' ha' b' hb'

/-- The envelopes of two scopes differ. -/
theorem envelopeOf_inj (hv : s.Valid) {c c' : BudgetScope} {e : BudgetEnvelopeId}
    (h : envelopeOf s c=some e) (h' : envelopeOf s c'=some e) : c=c' := by
  obtain ⟨x,hx,hxe⟩ := Option.map_eq_some_iff.mp h
  obtain ⟨y,hy,hye⟩ := Option.map_eq_some_iff.mp h'
  have hconflict (a b : BudgetEnvelopeConstraintRow) : conflict Tbl.budgetEnvelopeConstraints a b=
      (a.budgetEnvelopeId==b.budgetEnvelopeId || a.scope==b.scope) := rfl
  have hxy : x=y := by
    refine hv.exclusive (t := .budgetEnvelopeConstraints) ?_ (List.mem_of_find?_eq_some hx)
      (List.mem_of_find?_eq_some hy) ?_
    · intro a b
      rw [hconflict,hconflict,Bool.beq_comm,Bool.beq_comm (a := a.scope)]
    · rw [hconflict,hxe,hye]
      simp
  have hs := List.find?_some hx
  have hs' := List.find?_some hy
  rw [← hxy] at hs'
  exact (beq_iff_eq.mp hs).symm.trans (beq_iff_eq.mp hs')

theorem Balanced.reserving {society : SocietyId} {a b : BudgetEnvelopeId}
    {x y : BudgetReservationChargeRow} (hb : Balanced s) (hv : s.Valid)
    (hscopes : envelopeOf s (.society society)=some a ∧
      envelopeOf s (.cycle r.operatingCycleId)=some b)
    (hfresh : s.find .budgetReservations r.budgetReservationId=none)
    (hreservations : s₂.rows .budgetReservations=s.rows .budgetReservations++[r])
    (hstate : r.reservationState=.reserved ∧ r.chargedMicros=.zero)
    (hcharges : s₂.rows .budgetReservationCharges=s.rows .budgetReservationCharges++[x,y])
    (hx : x.budgetReservationId=r.budgetReservationId ∧ x.budgetEnvelopeId=a ∧
      x.amountMicros=r.amountMicros)
    (hy : y.budgetReservationId=r.budgetReservationId ∧ y.budgetEnvelopeId=b ∧
      y.amountMicros=r.amountMicros)
    (henvelopes : ∀ e q',s₂.find .budgetEnvelopes e=some q' → ∃ q,s.find .budgetEnvelopes e=some q ∧
      q'.ceilingMicros=q.ceilingMicros ∧ q'.spentMicros=q.spentMicros ∧ q'.reservedMicros.val=
        q.reservedMicros.val+(if e=a ∨ e=b then r.amountMicros.val else 0))
    (hroom : ∀ e q,e=a ∨ e=b → s.find .budgetEnvelopes e=some q →
      q.reservedMicros.val+r.amountMicros.val+q.spentMicros.val≤q.ceilingMicros.val)
    (hsame : ∀ t ∈ [Tbl.costPostmortems,.costPostmortemResolutions,.budgetEnvelopeConstraints,
      .societies],s₂.rows t=s.rows t) : Balanced s₂ := by
  have hne : a≠b := by
    rintro rfl
    cases envelopeOf_inj hv hscopes.1 hscopes.2
  have hold (j : BudgetReservationId) (hj : j≠r.budgetReservationId) (e : BudgetEnvelopeId) :
      chargeOn s₂ j e=chargeOn s j e := by
    have hxj : (x.budgetReservationId==j)=false := by simp [hx.1,Ne.symm hj]
    have hyj : (y.budgetReservationId==j)=false := by simp [hy.1,Ne.symm hj]
    rw [chargeOn,chargeRow,hcharges,List.find?_append]
    simp [hxj,hyj,chargeOn,chargeRow]
  have hnone (e : BudgetEnvelopeId) : chargeOn s r.budgetReservationId e=none :=
    charge_none hv (.inr hfresh)
  have hnew (e : BudgetEnvelopeId) : chargeOn s₂ r.budgetReservationId e=
      if e=a ∨ e=b then some r.amountMicros else none := by
    have hrow : chargeRow s r.budgetReservationId e=none := Option.map_eq_none_iff.mp (hnone e)
    rw [chargeRow] at hrow
    rw [chargeOn,chargeRow,hcharges,List.find?_append,hrow]
    by_cases ha : e=a
    · subst ha
      simp [hx]
    · by_cases hbe : e=b
      · subst hbe
        simp [hx,hy,Ne.symm ha]
      · simp [hx,hy,Ne.symm ha,Ne.symm hbe,ha,hbe]
  have hfind (j : BudgetReservationId) (q : BudgetReservationRow)
      (h : s₂.find .budgetReservations j=some q) :
      (s.find .budgetReservations j=some q ∧ j≠r.budgetReservationId) ∨
        (q=r ∧ j=r.budgetReservationId) := by
    rw [Db.find,hreservations,List.find?_append,Option.or_eq_some_iff] at h
    rcases h with h | h
    · refine .inl ⟨h,?_⟩
      rintro rfl
      rw [show s.find .budgetReservations r.budgetReservationId=some q from h] at hfresh
      cases hfresh
    · have hm := List.mem_of_find?_eq_some h.2
      have hk := List.find?_some h.2
      rw [List.mem_singleton] at hm
      subst hm
      exact .inr ⟨rfl,(Relational.Id.ext (beq_iff_eq.mp hk)).symm⟩
  have hfresh' (q : BudgetReservationRow) (hq : q ∈ s.rows .budgetReservations) :
      q.budgetReservationId≠r.budgetReservationId := by
    intro h
    exact Db.find_none.mp hfresh q hq (congrArg Relational.Id.val h)
  have hsum (g g' : BudgetReservationRow → Nat) (hg : ∀ q,q.budgetReservationId≠r.budgetReservationId →
      g' q=g q) : s₂.sum .budgetReservations g'=s.sum .budgetReservations g+g' r := by
    rw [Db.sum,hreservations,List.map_append,List.sum_append]
    have h : ((s.rows .budgetReservations).map g').sum=s.sum .budgetReservations g :=
      congrArg List.sum (List.map_congr_left (fun q hq => hg q (hfresh' q hq)))
    rw [h]
    simp
  have hactive : r.reservationState≠.reconciled := by rw [hstate.1]; decide
  have hheld (e : BudgetEnvelopeId) :
      heldOn s₂ e=heldOn s e+(if e=a ∨ e=b then r.amountMicros.val else 0) := by
    rw [heldOn,hsum (fun q => q.held (chargeOn s q.budgetReservationId e)) _
      (fun q hq => by rw [hold _ hq]),hnew,BudgetReservationRow.held,if_neg hactive]
    congr 1
    split <;> rfl
  have hspent (e : BudgetEnvelopeId) : spentOn s₂ e=spentOn s e := by
    rw [spentOn,hsum (fun q => q.spent (chargeOn s q.budgetReservationId e)) _
      (fun q hq => by rw [hold _ hq]),BudgetReservationRow.spent,hstate.2,UsdMicros.zero,ite_self]
    rfl
  have hscope : envelopeOf s₂=envelopeOf s := envelopeOf_rows (hsame _ (by decide))
  refine ⟨?_,?_,?_,?_,?_,?_⟩
  · intro e q' hq'
    obtain ⟨q,hq,_,_,hres⟩ := henvelopes e q' hq'
    rw [hres,hb.reserved e q hq,hheld]
  · intro e q' hq'
    obtain ⟨q,hq,_,hsp,_⟩ := henvelopes e q' hq'
    rw [hsp,hb.spent e q hq,hspent]
  · intro j q e c hq hstate' hc
    rcases hfind j q hq with ⟨hq,hj⟩ | ⟨rfl,rfl⟩
    · rw [hold j hj] at hc
      exact hb.rest j q e c hq hstate' hc
    · rw [hnew] at hc
      split at hc
      · cases hc
        rw [hstate.2]
        rfl
      · cases hc
  · intro j q hq
    rcases hfind j q hq with ⟨hq,hj⟩ | ⟨rfl,rfl⟩
    · simp only [hold j hj,hscope]
      exact hb.booked j q hq
    · refine ⟨society,a,b,by rw [hscope]; exact hscopes.1,by rw [hscope]; exact hscopes.2,hne,fun e => ?_⟩
      rw [hnew]
      split <;> simp_all
  · intro e q' hq'
    obtain ⟨q,hq,hceil,hsp,hres⟩ := henvelopes e q' hq'
    by_cases he : e=a ∨ e=b
    · right
      have := hroom e q he hq
      rw [if_pos he] at hres
      rw [hceil,hsp]
      omega
    · rw [if_neg he] at hres
      rw [hceil,hsp,hres]
      refine (hb.capped e q hq).imp (fun ho => ?_) id
      obtain ⟨p,hm,hk,hl,hs⟩ := ho
      refine ⟨p,by rwa [hsame .costPostmortems (by decide)],hk,hl,?_⟩
      rwa [hold]
      rintro hp
      rw [hp,hnone] at hs
      cases hs
  · rw [hsame .societies (by decide)]
    exact hb.society

theorem postmortemCharge_cases {cause : CostPostmortemCause} {resolution : CostPostmortemResolution}
    {observed : Option UsdMicros} {charged remaining delta : UsdMicros}
    (h : postmortemCharge cause resolution observed charged remaining=some delta) :
    cause=.knownOverrun ∨ delta=remaining := by
  unfold postmortemCharge at h
  split at h
  · exact .inl rfl
  · exact .inr (Option.some.inj h).symm
  · exact .inr (Option.some.inj h).symm
  · cases h

/-- What a command does to the books keeps them balanced. -/
theorem BookStep.balanced {s' : Store} (h : BookStep s s') (hv : s.Valid) (hb : Balanced s) :
    Balanced s' := by
  cases h with
  | enveloped q c henvelopes hfresh hamounts hconstraints hsocieties hsame =>
    exact hb.enveloped hv henvelopes hfresh hamounts hconstraints hsocieties hsame
  | founded q hnone hsocieties hsame =>
    refine hb.resociated hsame ?_
    rw [hsocieties]
    intro a ha b hb
    rw [List.mem_singleton.mp ha,List.mem_singleton.mp hb]
  | reserved r society a b x y hscopes hfresh hreservations hstate hcharges hx hy henvelopes hroom hsame =>
    exact hb.reserving hv hscopes hfresh hreservations hstate hcharges hx hy henvelopes hroom hsame
  | drawn i r delta s₁ hr hstate hle hm henvelopes hcharges hreservations hsame =>
    exact hb.drawn hv hr hstate hle hm henvelopes hcharges hreservations hsame
  | settled i r delta total cmd new s₁ hr hstate htotal hle hm hnew henvelopes hcharges hreservations hsame =>
    refine hb.reconciled hv hr (by rw [hstate]; decide) htotal hm hnew henvelopes hcharges hreservations
      ?_ ?_ (fun e _ => .inr hle)
    · exact fun t ht => hsame t (List.mem_of_mem_drop (i := 2) ht)
    · exact fun e => Overrun.mono (fun j e h => (charged_kept hm hnew hcharges j e).trans h)
        (postmortems_kept (hsame _ (by decide)))
  | frozen i r p left reason hr hstate hleft hreason hp hfresh hreservations hpostmortems hsame =>
    exact hb.frozen hv hr hstate hreservations hpostmortems hsame
  | closed p r remaining delta total resolution cmd q s₁ hp hopened hremaining hr hstate hleft hdelta
      htotal hm henvelopes hcharges hreservations hpostmortems hresolutions hq hsame =>
    have hkept (j : BudgetReservationId) (e : BudgetEnvelopeId) :
        (chargeOn s' j e).isSome=(chargeOn s j e).isSome :=
      charged_kept hm (fun _ => rfl) hcharges j e
    have hmem (x : CostPostmortemRow) (hx : x ∈ s.rows .costPostmortems) :
        (if x.postmortemId==p.postmortemId then x.closedBy cmd else x) ∈ s'.rows .costPostmortems := by
      rw [hpostmortems,Db.modified]
      exact List.mem_map_of_mem hx
    refine hb.reconciled hv hr (by rw [hstate]; decide) htotal hm (fun _ => rfl) henvelopes hcharges
      hreservations hsame ?_ ?_
    · refine fun e => Overrun.mono (fun j e h => (hkept j e).trans h) (fun x hx hk hl => ?_)
      refine ⟨_,hmem x hx,?_,?_,?_⟩ <;> split <;> first | rfl | assumption
    · intro e he
      rcases postmortemCharge_cases hdelta with hk | rfl
      · refine .inl ⟨_,hmem p (Db.find_mem hp),?_⟩
        rw [if_pos (beq_self_eq_true _)]
        exact ⟨hk,rfl,(hkept _ e).trans he⟩
      · right
        omega

end Balance
end Society.Kernel
