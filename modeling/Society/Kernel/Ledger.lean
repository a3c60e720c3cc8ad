import Society.Kernel.Runs
import Society.Relational.Rows
import Society.Relational.Total

namespace Society.Kernel
open Society.Relational Society.Coding

/-! What a command leaves in the ledger, and what a later command finds there. -/

section Writes
variable (hash : Bytes → Blake3Digest)

theorem studyAction_writes (c : StudyCommand) : ∀ t ∈ (studyAction hash c).writes,t ∉ ledger := by
  cases c <;> exact of_decide_eq_true rfl

theorem commandAction_writes (p : PrincipalId) (g : ExpectedGeneration) (b : CommandBody) :
    ∀ t ∈ (commandAction hash p g b).writes,t ∉ ledger := by
  cases b
  case studyTransition c => exact studyAction_writes hash c
  all_goals exact of_decide_eq_true rfl

/-- No transition writes the ledger. -/
theorem applyCommand_ledger {r : CommandRequest} {cmd : CommandRowId} {s s' : Store}
    {o : Except Rejection EventBody} (h : (applyCommand hash cmd r).run s=(o,s')) {t : Tbl}
    (ht : t ∈ ledger) : s' t=s t := by
  have hw : t ∉ r.writes hash := by
    intro hm
    rcases List.mem_cons.mp hm with rfl | hm
    · exact absurd ht (by decide)
    · exact commandAction_writes hash r.principalId r.expectedGeneration r.body t hm ht
  have hf := (applyCommand hash cmd r).frame s t hw
  rw [h] at hf
  exact hf

end Writes

section Rows
variable {hash : Bytes → Blake3Digest} {s : Store} {cmd : CommandRowId} {r : CommandRequest}

theorem recorded_commands : (recorded hash s cmd r).rows .commands=
    s.rows .commands++[r.row hash cmd] := by
  simp [recorded,Db.rows]

theorem recorded_bodies : (recorded hash s cmd r).rows .commandBodies=
    s.rows .commandBodies++[⟨cmd,r.body⟩] := by
  simp [recorded,Db.rows]

theorem recorded_events : recorded hash s cmd r .events=s .events := by
  simp [recorded]

theorem recorded_eventBodies : recorded hash s cmd r .eventBodies=s .eventBodies := by
  simp [recorded]

/-- Settling finds the command at the end of its table. -/
theorem settled_commands {l : List CommandRow} {q : CommandRow} {d : CommandDisposition}
    (hs : s.rows .commands=l++[q]) (hq : q.commandRowId=cmd)
    (hl : ∀ a ∈ l,a.commandRowId≠cmd) :
    (settled s cmd d).rows .commands=l++[{q with disposition := d}] := by
  have hm := Db.modified_split (s := s) (t := .commands)
    (p := fun a => a.commandRowId==cmd) (f := fun a => some {a with disposition := d}) hs
    (by simp [hq]) (fun a ha => by simp [hl a ha]) (by simp)
  simpa [settled,Db.rows] using hm

theorem command_fresh (hv : s.Valid) (hc : cmd.val=(s .commands).next) :
    ∀ a ∈ s.rows .commands,a.commandRowId≠cmd := by
  rintro a ha rfl
  have hlt : a.commandRowId.val<(s .commands).next := hv.fresh .commands rfl a ha
  omega

theorem command_lt (hv : s.Valid) {k : Nat} (h : s.has .commands k=true) :
    k<(s .commands).next := by
  obtain ⟨q,hq,he⟩ := Db.has_iff.mp h
  rw [← he]
  exact hv.fresh .commands rfl q hq

theorem bodies_fresh (hv : s.Valid) (hc : cmd.val=(s .commands).next) :
    ∀ b ∈ s.rows .commandBodies,b.commandRowId≠cmd := by
  rintro b hm rfl
  have hlt := command_lt hv (List.all_eq_true.mp (hv.linked .commandBodies b hm)
    (ref b.commandRowId) List.mem_cons_self)
  simp only [ref] at hlt
  omega

theorem events_fresh (hv : s.Valid) (hc : cmd.val=(s .commands).next) :
    ∀ e ∈ s.rows .events,e.commandRowId≠cmd := by
  rintro e hm rfl
  have hlt := command_lt hv (List.all_eq_true.mp (hv.linked .events e hm)
    (ref e.commandRowId) List.mem_cons_self)
  simp only [ref] at hlt
  omega

/-- A rejected command leaves its row and its body, and nothing else. -/
theorem execute_rejected (hv : s.Valid) {e : Rejection}
    (h : (execute hash r s).1=.ok ⟨.rejected e,false⟩) :
    ∃ cmd,cmd.val=(s .commands).next ∧ (execute hash r s).2.rows .commands=
        s.rows .commands++[{r.row hash cmd with disposition := .rejected e}] ∧
      (execute hash r s).2.rows .commandBodies=s.rows .commandBodies++[⟨cmd,r.body⟩] ∧
      ∀ t,t ∉ [Tbl.commands,.commandBodies] → (execute hash r s).2.rows t=s.rows t := by
  have hx := execute_executed hash s r
  generalize (execute hash r s).1=o at hx h
  generalize (execute hash r s).2=s' at hx
  cases hx with
  | replayed q hq hf => simp at h
  | conflict q hq hf => simp at h
  | aborted hq e s₁ hle => simp at h
  | accepted hq cmd hc ha body s₂ hr i hi n hn => simp at h
  | rejected hq cmd hc ha e' s₂ hr =>
    obtain rfl : e'=e := by simpa using h
    refine ⟨cmd,hc,?_,?_,?_⟩
    · exact settled_commands (s := (recorded hash s cmd r).rollback s₂) recorded_commands rfl
        (command_fresh hv hc)
    · simp only [settled,Db.rows,Db.modify_ne _ _ _ (show Tbl.commandBodies≠.commands by decide)]
      exact recorded_bodies
    · intro t ht
      simp only [List.mem_cons,List.not_mem_nil,or_false,not_or] at ht
      simp [settled,recorded,Db.rows,Db.rollback,ht.1,ht.2]

/-- An accepted command leaves its row, its body and one event. -/
theorem execute_accepted (hv : s.Valid) {i : EventId}
    (h : (execute hash r s).1=.ok ⟨.accepted i,false⟩) :
    ∃ cmd n body,cmd.val=(s .commands).next ∧ i.val=nextNumber ((s.rows .events).map (·.eventId.val)) ∧
      n.val=nextNumber ((s.rows .events).map (·.eventSequence.val)) ∧
      (execute hash r s).2.rows .commands=
        s.rows .commands++[{r.row hash cmd with disposition := .accepted i}] ∧
      (execute hash r s).2.rows .commandBodies=s.rows .commandBodies++[⟨cmd,r.body⟩] ∧
      (execute hash r s).2.rows .events=s.rows .events++[⟨i,cmd,n⟩] ∧
      (execute hash r s).2.rows .eventBodies=s.rows .eventBodies++[⟨i,body⟩] := by
  have hx := execute_executed hash s r
  generalize (execute hash r s).1=o at hx h
  generalize (execute hash r s).2=s' at hx
  cases hx with
  | replayed q hq hf => simp at h
  | conflict q hq hf => simp at h
  | aborted hq e s₁ hle => simp at h
  | rejected hq cmd hc ha e s₂ hr => simp at h
  | accepted hq cmd hc ha body s₂ hr i' hi n hn =>
    obtain rfl : i'=i := by simpa using h
    have hcommands : s₂.rows .commands=s.rows .commands++[r.row hash cmd] := by
      rw [Db.rows,applyCommand_ledger hash hr (t := .commands) (by decide)]
      exact recorded_commands
    have hbodies : s₂.rows .commandBodies=s.rows .commandBodies++[⟨cmd,r.body⟩] := by
      rw [Db.rows,applyCommand_ledger hash hr (t := .commandBodies) (by decide)]
      exact recorded_bodies
    have hevents : s₂ .events=s .events :=
      (applyCommand_ledger hash hr (by decide)).trans recorded_events
    have heventBodies : s₂ .eventBodies=s .eventBodies :=
      (applyCommand_ledger hash hr (by decide)).trans recorded_eventBodies
    rw [Db.rows,hevents] at hi hn
    refine ⟨cmd,n,body,hc,hi,hn,?_,?_,?_,?_⟩
    · refine settled_commands ?_ rfl (command_fresh hv hc)
      simpa [published,Db.rows] using hcommands
    · simpa [settled,published,Db.rows] using hbodies
    · simp [settled,published,Db.rows,hevents]
    · simp [settled,published,Db.rows,heventBodies]

/-- A call that returns no new receipt changes no row. -/
theorem execute_silent (h : ∀ d,(execute hash r s).1≠.ok ⟨d,false⟩) (t : Tbl) :
    (execute hash r s).2.rows t=s.rows t := by
  have hx := execute_executed hash s r
  generalize (execute hash r s).1=o at hx h
  generalize (execute hash r s).2=s' at hx
  cases hx with
  | replayed q hq hf => rfl
  | conflict q hq hf => rfl
  | aborted hq e s₁ hle => rfl
  | rejected hq cmd hc ha e s₂ hr => exact absurd rfl (h _)
  | accepted hq cmd hc ha body s₂ hr i hi n hn => exact absurd rfl (h _)

end Rows

section Numbers
variable {hash : Bytes → Blake3Digest} {ok : Store → CommandRequest → Prop} {s : Store}

theorem nextNumber_range (k : Nat) : nextNumber (List.range' 1 k)=k+1 := by
  have hfold : (List.range' 1 k).foldl max 0=k := by
    induction k with
    | zero => rfl
    | succ k ih => rw [List.range'_1_concat,List.foldl_append,ih]; simp; omega
  rw [nextNumber,hfold]

/-- Events are numbered without a gap, by identity and by sequence. -/
structure Numbered (s : Store) : Prop where
  ids : (s.rows .events).map (·.eventId.val)=List.range' 1 (s.rows .events).length
  sequences : (s.rows .events).map (·.eventSequence.val)=List.range' 1 (s.rows .events).length

theorem execute_numbered (r : CommandRequest) (hv : s.Valid) (h : Numbered s) :
    Numbered (execute hash r s).2 := by
  by_cases hn : ∃ d,(execute hash r s).1=.ok ⟨d,false⟩
  · obtain ⟨d,hd⟩ := hn
    cases d with
    | rejected e =>
      obtain ⟨cmd,_,_,_,hsame⟩ := execute_rejected hv hd
      have hevents := hsame .events (by decide)
      exact ⟨by rw [hevents]; exact h.ids,by rw [hevents]; exact h.sequences⟩
    | accepted i =>
      obtain ⟨cmd,n,body,_,hi,hn,_,_,hevents,_⟩ := execute_accepted hv hd
      rw [h.ids,nextNumber_range] at hi
      rw [h.sequences,nextNumber_range] at hn
      constructor
      · rw [hevents,List.map_append,h.ids,List.length_append,List.length_singleton,
          List.range'_1_concat]
        simp [hi,Nat.add_comm]
      · rw [hevents,List.map_append,h.sequences,List.length_append,List.length_singleton,
          List.range'_1_concat]
        simp [hn,Nat.add_comm]
  · have hsame := execute_silent (t := .events) (fun d hd => hn ⟨d,hd⟩)
    exact ⟨by rw [hsame]; exact h.ids,by rw [hsame]; exact h.sequences⟩

theorem Reaches.numbered (h : Reaches hash ok s) : Numbered s := by
  induction h with
  | initial => exact ⟨rfl,rfl⟩
  | step h r _ ih => exact execute_numbered r h.valid ih

end Numbers

section Progress
variable {hash : Bytes → Blake3Digest} {W : List Tbl} {s : Store} {cmd : CommandRowId}
  {r : CommandRequest}

/-- The body table takes the body: the rows it names exist, and it reserves something. -/
def CommandBody.fits (s : Store) (b : CommandBody) : Bool :=
  b.reservesSomething && b.refs.all (fun p => s.has p.1 p.2)

theorem CommandBody.refs_other (b : CommandBody) : ∀ p ∈ b.refs,p.1≠.commands := by
  have hoffice (t : PiOfficeSessionTranscriptReceipt) :
      ∀ p ∈ officeTranscriptRefs t,p.1≠.commands := by
    cases t <;> simp [officeTranscriptRefs,ref]
  have htask (t : PiTaskAttemptSessionTranscriptReceipt) :
      ∀ p ∈ taskTranscriptRefs t,p.1≠.commands := by
    cases t <;> simp [taskTranscriptRefs,ref]
  intro p hp
  unfold CommandBody.refs at hp
  split at hp
  case h_6 =>
    rcases List.mem_cons.mp hp with rfl | hp
    · exact nofun
    · exact hoffice _ p hp
  case h_18 =>
    rcases List.mem_cons.mp hp with rfl | hp
    · exact nofun
    · exact htask _ p hp
  all_goals
    intro he
    simp [ref,Prod.ext_iff,he] at hp

theorem recordable_iff (hv : s.Valid) (hq : storedCommand s r.commandId=none)
    (hc : cmd.val=(s .commands).next) : recordable hash s cmd r ↔ r.body.fits s=true := by
  have hfresh := command_fresh hv hc
  have hcommand : s.admits .commands (r.row hash cmd)=true := by
    have hnew : ∀ a ∈ s.rows .commands,a.commandId≠r.commandId.stored := by
      intro a ha he
      have hn := List.find?_eq_none.mp hq a ha
      simp [he] at hn
    have hall : (s.rows .commands).all (fun a => !conflict Tbl.commands a (r.row hash cmd))=true := by
      refine List.all_eq_true.mpr (fun a ha => ?_)
      have hc : conflict Tbl.commands a (r.row hash cmd)=(a.commandId==r.commandId.stored) := rfl
      rw [hc]
      simpa using hnew a ha
    have hcheck : check Tbl.commands (r.row hash cmd)=true := rfl
    have hlink : s.linked .commands (r.row hash cmd)=true := rfl
    rw [Db.admits,hcheck,hlink,hall]
    rfl
  have hrefs : ∀ p ∈ r.body.refs,
      (s.append .commands (r.row hash cmd) (cmd.val+1)).has p.1 p.2=s.has p.1 p.2 := by
    intro p hp
    rw [Db.has,Db.rows,Db.append_ne _ _ _ (r.body.refs_other p hp)]
    rfl
  have hself : (s.append .commands (r.row hash cmd) (cmd.val+1)).has .commands cmd.val=true :=
    Db.has_iff.mpr ⟨r.row hash cmd,by simp [Db.rows],rfl⟩
  have hnone : (s.rows .commandBodies).all
      (fun a => !conflict Tbl.commandBodies a ⟨cmd,r.body⟩)=true := by
    refine List.all_eq_true.mpr (fun a ha => ?_)
    have hsame : conflict Tbl.commandBodies a ⟨cmd,r.body⟩=(a.commandRowId==cmd) := rfl
    rw [hsame]
    simpa using bodies_fresh hv hc a ha
  have hbodies : (s.append .commands (r.row hash cmd) (cmd.val+1)).rows .commandBodies=
      s.rows .commandBodies := by
    rw [Db.rows,Db.append_ne _ _ _ (by decide)]
  have hlinked : (s.append .commands (r.row hash cmd) (cmd.val+1)).linked .commandBodies
      ⟨cmd,r.body⟩=r.body.refs.all (fun p => s.has p.1 p.2) := by
    have hl : refs Tbl.commandBodies (CommandBodyRow.mk cmd r.body)=ref cmd::r.body.refs := rfl
    rw [Db.linked,hl,List.all_cons]
    have hfirst : (s.append .commands (r.row hash cmd) (cmd.val+1)).has (ref cmd).1 (ref cmd).2=
      true := hself
    rw [hfirst,Bool.true_and,Bool.eq_iff_iff,List.all_eq_true,List.all_eq_true]
    exact forall₂_congr (fun p hp => by rw [hrefs p hp])
  have hcheck : check Tbl.commandBodies (CommandBodyRow.mk cmd r.body)=r.body.reservesSomething := rfl
  rw [recordable,hcommand,Db.admits,hbodies,hnone,hlinked,hcheck,CommandBody.fits]
  simp

theorem events_lt_commands {ok : Store → CommandRequest → Prop} (h : Reaches hash ok s) :
    (s.rows .events).length<(s .commands).next := by
  induction h with
  | initial => decide
  | @step s h r _ ih =>
    have hk := execute_keeps hash r h.valid
    have hnext := hk.1.next .commands
    by_cases hn : ∃ d,(execute hash r s).1=.ok ⟨d,false⟩
    · obtain ⟨d,hd⟩ := hn
      cases d with
      | rejected e =>
        obtain ⟨cmd,_,_,_,hsame⟩ := execute_rejected h.valid hd
        rw [hsame .events (by decide)]
        omega
      | accepted i =>
        obtain ⟨cmd,n,body,hc,_,_,hcommands,_,hevents,_⟩ := execute_accepted h.valid hd
        have hlast : {r.row hash cmd with disposition := .accepted i} ∈
            (execute hash r s).2.rows .commands := by
          rw [hcommands]
          exact List.mem_append_right _ List.mem_cons_self
        have hlt : cmd.val<((execute hash r s).2 .commands).next := hk.2.fresh .commands rfl _ hlast
        rw [hevents,List.length_append,List.length_singleton]
        omega
    · rw [execute_silent (fun d hd => hn ⟨d,hd⟩)]
      omega

theorem settleCommand_total (hv : s.Valid) (d : CommandDisposition) (hw : .commands ∈ W) :
    Tx.total (settleCommand cmd d hw) (fun _ _ => True) s := by
  have hadm : s.admitsModified .commands (fun q => q.commandRowId==cmd)
      (fun q => some {q with disposition := d})=true := by
    refine hv.admits_update (t := Tbl.commands) (g := fun q => {q with disposition := d})
      ?_ (fun a b => rfl) (fun q _ _ => rfl) (fun q _ _ => rfl)
    intro a b
    have hc (x y : CommandRow) : conflict Tbl.commands x y=(x.commandId==y.commandId) := rfl
    rw [hc,hc]
    exact Bool.beq_comm
  simp only [settleCommand,Tx.total_bind,Tx.total_update,Tx.total_pure]
  exact ⟨hadm,trivial⟩

/-- An event takes the numbers after the last one. -/
theorem insertEvent_total (hv : s.Valid) (hn : Numbered s)
    (hroom : (s.rows .events).length+1<bigintLimit) (hcmd : s.has .commands cmd.val=true)
    (hnew : ∀ e ∈ s.rows .events,e.commandRowId≠cmd) (body : EventBody) (he : .events ∈ W)
    (hb : .eventBodies ∈ W) : Tx.total (insertEvent cmd body he hb) (fun _ _ => True) s := by
  have hle : ∀ e ∈ s.rows .events,e.eventId.val≤(s.rows .events).length ∧
      e.eventSequence.val≤(s.rows .events).length := by
    intro e hm
    have hid : e.eventId.val ∈ List.range' 1 (s.rows .events).length :=
      hn.ids ▸ List.mem_map_of_mem hm
    have hseq : e.eventSequence.val ∈ List.range' 1 (s.rows .events).length :=
      hn.sequences ▸ List.mem_map_of_mem hm
    rw [List.mem_range'_1] at hid hseq
    omega
  have hbodies : ∀ b ∈ s.rows .eventBodies,b.eventId.val≤(s.rows .events).length := by
    intro b hm
    have hl := List.all_eq_true.mp (hv.linked .eventBodies b hm) (ref b.eventId)
      List.mem_cons_self
    obtain ⟨e,hm,hk⟩ := Db.has_iff.mp hl
    have hk : e.eventId.val=b.eventId.val := hk
    have := (hle e hm).1
    omega
  let n : Ordinal := ⟨(s.rows .events).length+1,by unfold i64Max; unfold bigintLimit at *; omega⟩
  let i : EventId := ⟨(s.rows .events).length+1,by omega⟩
  have hevent : s.admits .events ⟨i,cmd,n⟩=true := by
    have hc (x y : EventRow) : conflict Tbl.events x y=
      (x.eventId==y.eventId || x.commandRowId==y.commandRowId ||
        x.eventSequence==y.eventSequence) := rfl
    have hlink : s.linked .events (EventRow.mk i cmd n)=s.has .commands cmd.val := Bool.and_true _
    have hcheck : check Tbl.events (EventRow.mk i cmd n)=true := rfl
    have hall : (s.rows .events).all (fun a => !conflict Tbl.events a (EventRow.mk i cmd n))=true := by
      refine List.all_eq_true.mpr (fun e hm => ?_)
      have hid : e.eventId≠i := fun he => by
        have := (hle e hm).1
        rw [he] at this
        simp only [i] at this
        omega
      have hseq : e.eventSequence≠n := fun he => by
        have := (hle e hm).2
        rw [he] at this
        simp only [n] at this
        omega
      rw [hc]
      simp [hid,hseq,hnew e hm]
    rw [Db.admits,hcheck,hlink,hcmd,hall]
    rfl
  have hbody : (s.append .events ⟨i,cmd,n⟩ (s .events).next).admits .eventBodies ⟨i,body⟩=true := by
    have hlink : (s.append .events ⟨i,cmd,n⟩ (s .events).next).linked .eventBodies
        (EventBodyRow.mk i body)=true := by
      refine List.all_eq_true.mpr (fun p hp => ?_)
      rw [List.mem_singleton.mp hp]
      change (s.append .events ⟨i,cmd,n⟩ (s .events).next).has .events i.val=true
      exact Db.has_iff.mpr ⟨⟨i,cmd,n⟩,by simp [Db.rows],rfl⟩
    have hcheck : check Tbl.eventBodies (EventBodyRow.mk i body)=true := rfl
    have hall : ((s.append .events ⟨i,cmd,n⟩ (s .events).next).rows .eventBodies).all
        (fun a => !conflict Tbl.eventBodies a (EventBodyRow.mk i body))=true := by
      rw [Db.rows,Db.append_ne _ _ _ (by decide)]
      refine List.all_eq_true.mpr (fun b hm => ?_)
      have hc : conflict Tbl.eventBodies b (EventBodyRow.mk i body)=(b.eventId==i) := rfl
      have hid : b.eventId≠i := fun he => by
        have := hbodies b hm
        rw [he] at this
        simp only [i] at this
        omega
      rw [hc]
      simp [hid]
    rw [Db.admits,hcheck,hlink,hall]
    rfl
  simp only [insertEvent,Tx.total_bind,Tx.total_read,Tx.total_the,Tx.total_store,Tx.total_pure]
  rw [hn.sequences,hn.ids,nextNumber_range]
  refine ⟨n,Ranged.new_eq_some.mpr rfl,i,dif_pos i.valid,hevent,hbody,trivial⟩

theorem executeNew_total {ok : Store → CommandRequest → Prop} (h : Reaches hash ok s)
    (hq : storedCommand s r.commandId=none) (hf : r.body.fits s=true)
    (hroom : (s .commands).next<bigintLimit) (hl : ∀ t ∈ ledger,t ∈ W)
    (hw : ∀ t ∈ r.writes hash,t ∈ W) :
    Tx.total (executeNew hash r hl hw) (fun _ _ => True) s := by
  have hv := h.valid
  let cmd : CommandRowId := ⟨(s .commands).next,hv.positive .commands,hroom⟩
  have hrec : recordable hash s cmd r := (recordable_iff hv hq rfl).mpr hf
  have hv₁ : (recorded hash s cmd r).Valid := recorded_valid hv rfl hrec
  have hevents := events_lt_commands h
  simp only [executeNew,Tx.total_bind,insertCommand,Tx.total_insert,Tx.total_store,Tx.total_pure]
  refine ⟨cmd,rfl,hrec.1,hrec.2,(Tx.total_savepoint _ _).mpr ⟨?_,?_⟩⟩
  · intro body s₂ hr
    have hledger {t : Tbl} (ht : t ∈ ledger) : s₂ t=recorded hash s cmd r t :=
      applyCommand_ledger hash hr ht
    have hv₂ : s₂.Valid := Tx.wp_valid (applyCommand hash cmd r) hv₁ body s₂ hr
    have hevents₂ : s₂.rows .events=s.rows .events := by
      rw [Db.rows,hledger (by decide),recorded_events]
    simp only [Tx.total_bind]
    refine Tx.total_mono (Tx.total_and (insertEvent_total hv₂ ?_ ?_ ?_ ?_ body _ _)
      (Tx.wp_valid _ hv₂)) (fun i s₃ hs => settleCommand_total hs.2 _ _)
    · exact ⟨by rw [hevents₂]; exact h.numbered.ids,by rw [hevents₂]; exact h.numbered.sequences⟩
    · rw [hevents₂]
      omega
    · refine Db.has_iff.mpr ⟨r.row hash cmd,?_,rfl⟩
      rw [Db.rows,hledger (by decide),← Db.rows,recorded_commands]
      exact List.mem_append_right _ List.mem_cons_self
    · rw [hevents₂]
      exact events_fresh hv rfl
  · intro e s₂ hr
    have hg := (applyCommand hash cmd r).grows (recorded hash s cmd r)
    rw [show (applyCommand hash cmd r).run (recorded hash s cmd r)=(.error e,s₂) from hr] at hg
    exact settleCommand_total (Db.rollback_valid hv₁ hg) _ _

/-- A command is refused a record only where its body does not fit, or no identity is left. -/
theorem execute_records {ok : Store → CommandRequest → Prop} (h : Reaches hash ok s)
    (hq : storedCommand s r.commandId=none) :
    (∃ c,(execute hash r s).1=.ok c) ↔
      r.body.fits s=true ∧ (s .commands).next<bigintLimit := by
  constructor
  · rintro ⟨c,hc⟩
    have hx := execute_executed hash s r
    generalize (execute hash r s).1=o at hx hc
    generalize (execute hash r s).2=s' at hx
    cases hx with
    | replayed q hq' hf => simp [hq] at hq'
    | conflict q hq' hf => simp at hc
    | aborted hq' e s₁ hle => simp at hc
    | rejected hq' cmd hn ha e s₂ hr =>
      exact ⟨(recordable_iff h.valid hq hn).mp ha,hn ▸ cmd.valid.2⟩
    | accepted hq' cmd hn ha body s₂ hr i hi n hs =>
      exact ⟨(recordable_iff h.valid hq hn).mp ha,hn ▸ cmd.valid.2⟩
  · rintro ⟨hf,hroom⟩
    obtain ⟨c,s',hr,_⟩ := executeNew_total h hq hf hroom
      (W := ledger++r.writes hash) (fun _ h => List.mem_append_left _ h)
      (fun _ h => List.mem_append_right _ h)
    exact ⟨c,by rw [execute_new hash s hq,Tx.commit,hr]⟩

/-- The tables outside the ledger. -/
def Store.material (s : Store) : Store
  | .commands => ⟨[],1⟩
  | .commandBodies => ⟨[],1⟩
  | .events => ⟨[],1⟩
  | .eventBodies => ⟨[],1⟩
  | t => s t

theorem authorize_material (s : Store) (r : CommandRequest) :
    authorize s.material r=authorize s r := rfl

/-- Authority does not look at the ledger. -/
theorem authorize_congr {s₁ : Store} (h : ∀ t,t ∉ ledger → s₁ t=s t) (r : CommandRequest) :
    authorize s₁ r=authorize s r := by
  have hm : s₁.material=s.material := by
    funext t
    cases t <;> first | rfl | exact h _ (by decide)
  rw [← authorize_material s₁,hm,authorize_material]

/-- A recorded command is accepted exactly where its transition succeeds. -/
theorem accepts_iff {ok : Store → CommandRequest → Prop} (h : Reaches hash ok s)
    (hq : storedCommand s r.commandId=none) (hf : r.body.fits s=true) {cmd : CommandRowId}
    (hc : cmd.val=(s .commands).next) :
    accepts hash s r ↔ Tx.total (applyCommand hash cmd r) (fun _ _ => True) (recorded hash s cmd r) := by
  have hroom : (s .commands).next<bigintLimit := hc ▸ cmd.valid.2
  obtain ⟨c,hrec⟩ := (execute_records h hq).mpr ⟨hf,hroom⟩
  have hsame {d : CommandRowId} (hd : d.val=(s .commands).next) : d=cmd :=
    Relational.Id.ext (hd.trans hc.symm)
  have hx := execute_executed hash s r
  unfold accepts
  generalize (execute hash r s).1=o at hx hrec
  generalize (execute hash r s).2=s' at hx
  cases hx with
  | replayed q hq' hf => simp [hq] at hq'
  | conflict q hq' hf => simp at hrec
  | aborted hq' e s₁ hle => simp at hrec
  | rejected hq' d hn ha e s₂ hr =>
    cases hsame hn
    refine iff_of_false (fun ⟨i,hi⟩ => by simp at hi) ?_
    rintro ⟨a,s₃,ha,_⟩
    rw [hr] at ha
    cases ha
  | accepted hq' d hn ha body s₂ hr i hi n hs =>
    cases hsame hn
    exact iff_of_true ⟨i,rfl⟩ ⟨body,s₂,hr,trivial⟩

def authorized (s : Store) (r : CommandRequest) : Bool := (authorize s r).toOption.isSome

theorem authorized_iff : authorized s r=true ↔ ∃ g,authorize s r=.ok g := by
  unfold authorized
  cases authorize s r <;> simp [Except.toOption]

/-- Where the command is authorized and consumes no grant, its own transition decides. -/
theorem accepts_body {ok : Store → CommandRequest → Prop} (h : Reaches hash ok s)
    (hq : storedCommand s r.commandId=none) (hf : r.body.fits s=true)
    (hroom : (s .commands).next<bigintLimit) (ha : authorized s r=true)
    (hg : r.body.requiredCapability.requiresConsumption=false) :
    ∃ s₁ cmd,(∀ t,t ∉ ledger → s₁ t=s t) ∧ s₁.Valid ∧
      (accepts hash s r ↔ Tx.total ((r.action hash).body cmd) (fun _ _ => True) s₁) := by
  obtain ⟨g,ha⟩ := authorized_iff.mp ha
  let cmd : CommandRowId := ⟨(s .commands).next,h.valid.positive .commands,hroom⟩
  have hsame (t : Tbl) (ht : t ∉ ledger) : recorded hash s cmd r t=s t := recorded_other s cmd r ht
  refine ⟨recorded hash s cmd r,cmd,hsame,
    recorded_valid h.valid rfl ((recordable_iff h.valid hq rfl).mpr hf),?_⟩
  have hcap : r.capability=r.body.requiredCapability := by
    by_contra hne
    rw [authorize,if_pos hne] at ha
    cases ha
  have hconsume (g : CapabilityGrantRow) : consumeGrant cmd r g=pure () := by
    rw [consumeGrant,if_neg]
    rw [hcap,hg]
    simp
  rw [accepts_iff h hq hf (show cmd.val=(s .commands).next from rfl)]
  simp only [applyCommand,Tx.total_bind,Tx.total_query,hconsume,(authorize_congr hsame r).trans ha]
  constructor
  · rintro ⟨_,_,a,s₂,hr,_⟩
    exact ⟨a,s₂,hr,trivial⟩
  · rintro ⟨a,s₂,hr,_⟩
    exact ⟨g,rfl,a,s₂,hr,(Tx.total_pure ..).mpr ((Tx.total_pure ..).mpr trivial)⟩

end Progress

section Once
variable {hash : Bytes → Blake3Digest} {s : Store} {r : CommandRequest} {i : CommandId}
  {f : Blake3Digest} {d : CommandDisposition}

/-- The ledger knows the command `i` by its fingerprint and disposition. -/
def Known (s : Store) (i : CommandId) (f : Blake3Digest) (d : CommandDisposition) : Prop :=
  ∃ q,storedCommand s i=some q ∧ q.requestFingerprint=f ∧ q.disposition=d

/-- The command table only grows. -/
theorem execute_commands (hv : s.Valid) (r : CommandRequest) :
    ∃ l,(execute hash r s).2.rows .commands=s.rows .commands++l := by
  by_cases hn : ∃ d,(execute hash r s).1=.ok ⟨d,false⟩
  · obtain ⟨d,hd⟩ := hn
    cases d with
    | rejected e =>
      obtain ⟨cmd,_,hc,_⟩ := execute_rejected hv hd
      exact ⟨_,hc⟩
    | accepted i =>
      obtain ⟨cmd,n,body,_,_,_,hc,_⟩ := execute_accepted hv hd
      exact ⟨_,hc⟩
  · refine ⟨[],?_⟩
    rw [execute_silent (fun d hd => hn ⟨d,hd⟩),List.append_nil]

theorem Known.after (h : Known s i f d) (hv : s.Valid) (r : CommandRequest) :
    Known (execute hash r s).2 i f d := by
  obtain ⟨q,hq,hf,hd⟩ := h
  obtain ⟨l,hl⟩ : ∃ l,(execute hash r s).2.rows .commands=s.rows .commands++l :=
    execute_commands hv r
  refine ⟨q,?_,hf,hd⟩
  unfold storedCommand at hq ⊢
  rw [hl,List.find?_append,hq]
  rfl

theorem Known.afterAll (h : Known s i f d) (hv : s.Valid) (rs : List CommandRequest) :
    Known (runCommands hash rs s) i f d := by
  induction rs generalizing s with
  | nil => exact h
  | cons r rs ih => exact ih (h.after hv r) (execute_keeps hash r hv).2

/-- Whoever gets a receipt is known under it. -/
theorem execute_known (hv : s.Valid) {c : CommandReceipt} (h : (execute hash r s).1=.ok c) :
    Known (execute hash r s).2 r.commandId (requestFingerprint hash r) c.disposition := by
  have hlast {q : CommandRow} {s' : Store} (hn : storedCommand s r.commandId=none)
      (hc : s'.rows .commands=s.rows .commands++[q]) (hi : q.commandId=r.commandId.stored) :
      storedCommand s' r.commandId=some q := by
    unfold storedCommand at hn ⊢
    rw [hc,List.find?_append,hn]
    simp [hi]
  have hx := execute_executed hash s r
  cases hq : storedCommand s r.commandId with
  | some q =>
    generalize (execute hash r s).1=o at hx h
    generalize (execute hash r s).2=s' at hx
    cases hx with
    | replayed q' hq' hf => cases h; exact ⟨q',hq',hf,rfl⟩
    | conflict q' hq' hf => simp at h
    | aborted hq' e s₁ hle => simp at h
    | rejected hq' cmd hc ha e s₂ hr => simp [hq] at hq'
    | accepted hq' cmd hc ha body s₂ hr i hi n hn => simp [hq] at hq'
  | none =>
    obtain ⟨d,b⟩ := c
    have hb : b=false := by
      generalize (execute hash r s).1=o at hx h
      generalize (execute hash r s).2=s' at hx
      cases hx with
      | replayed q' hq' hf => simp [hq] at hq'
      | conflict q' hq' hf => simp at h
      | aborted hq' e s₁ hle => simp at h
      | rejected hq' cmd hc ha e s₂ hr => cases h; rfl
      | accepted hq' cmd hc ha body s₂ hr i hi n hn => cases h; rfl
    subst hb
    cases d with
    | rejected e =>
      obtain ⟨cmd,_,hc,_⟩ := execute_rejected hv h
      exact ⟨_,hlast hq hc rfl,rfl,rfl⟩
    | accepted i =>
      obtain ⟨cmd,n,body,_,_,_,hc,_⟩ := execute_accepted hv h
      exact ⟨_,hlast hq hc rfl,rfl,rfl⟩

theorem Known.replays (h : Known s r.commandId (requestFingerprint hash r) d) :
    execute hash r s=(.ok ⟨d,true⟩,s) := by
  obtain ⟨q,hq,hf,rfl⟩ := h
  rw [execute_eq,hq]
  simp only [hf,if_true]
  rfl

theorem Known.conflicts (h : Known s r.commandId f d) (hf : f≠requestFingerprint hash r) :
    execute hash r s=(.error .idempotencyConflict,s) := by
  obtain ⟨q,hq,rfl,_⟩ := h
  rw [execute_eq,hq]
  simp only [hf,if_false]
  rfl

/-- Exactly once and all or nothing: what one call of `execute` leaves, and what every later
call under its identity meets. -/
structure ExactlyOnce (hash : Bytes → Blake3Digest) (s : Store) (r : CommandRequest) : Prop where
  repeats : ∀ c,(execute hash r s).1=.ok c → ∀ rs,
    execute hash r (runCommands hash rs (execute hash r s).2)=
      (.ok ⟨c.disposition,true⟩,runCommands hash rs (execute hash r s).2)
  conflicts : ∀ c,(execute hash r s).1=.ok c → ∀ rs r',r'.commandId=r.commandId → r'≠r →
    (hash (put r)=hash (put r') → put r=put r') →
    execute hash r' (runCommands hash rs (execute hash r s).2)=
      (.error .idempotencyConflict,runCommands hash rs (execute hash r s).2)
  preimage : ∀ r',put r'=put r → r'=r
  rejected : ∀ e,(execute hash r s).1=.ok ⟨.rejected e,false⟩ →
    ∃ cmd,(execute hash r s).2.rows .commands=
        s.rows .commands++[{r.row hash cmd with disposition := .rejected e}] ∧
      (execute hash r s).2.rows .commandBodies=s.rows .commandBodies++[⟨cmd,r.body⟩] ∧
      ∀ t,t ∉ [Tbl.commands,.commandBodies] → (execute hash r s).2.rows t=s.rows t
  accepted : ∀ i,(execute hash r s).1=.ok ⟨.accepted i,false⟩ →
    ∃ cmd n,n.val=(s.rows .events).length+1 ∧
      (execute hash r s).2.rows .events=s.rows .events++[⟨i,cmd,n⟩]
  durable : storedCommand s r.commandId=none → ∃ c,(execute hash r s).1=.ok c

theorem exactlyOnce_iff (h : Reachable hash s) (r : CommandRequest) :
    ExactlyOnce hash s r ↔ (storedCommand s r.commandId=none →
      r.body.fits s=true ∧ (s .commands).next<bigintLimit) := by
  constructor
  · intro ho hq
    exact (execute_records h hq).mp (ho.durable hq)
  · intro hfit
    have hv := (execute_keeps hash r h.valid).2
    refine ⟨?_,?_,?_,?_,?_,?_⟩
    · intro c hc rs
      exact ((execute_known h.valid hc).afterAll hv rs).replays
    · intro c hc rs r' hi hne hcol
      have hk : Known (runCommands hash rs (execute hash r s).2) r.commandId
        (requestFingerprint hash r) c.disposition := (execute_known h.valid hc).afterAll hv rs
      rw [← hi] at hk
      exact hk.conflicts (requestFingerprint_ne hcol (Ne.symm hne))
    · intro r' he
      exact put_injective he
    · intro e he
      obtain ⟨cmd,_,hrows⟩ := execute_rejected h.valid he
      exact ⟨cmd,hrows⟩
    · intro i hi
      obtain ⟨cmd,n,body,_,_,hn,_,_,he,_⟩ := execute_accepted h.valid hi
      rw [h.numbered.sequences,nextNumber_range] at hn
      exact ⟨cmd,n,hn,he⟩
    · intro hq
      exact (execute_records h hq).mpr (hfit hq)

theorem exactlyOnce_founding : Reachable blake3 Store.initial ∧
    (ExactlyOnce blake3 Store.initial (request 1 .installRootAuthorityOffice)) :=
  ⟨.initial,(exactlyOnce_iff .initial _).mpr (fun _ => ⟨rfl,by decide⟩)⟩

/-- A delivery report for an attempt that does not exist leaves no record at all. -/
def orphanDelivery : CommandRequest :=
  request 0 (.recordPiTaskAttemptPromptDelivery (nth 1) ⟨"c",by decide⟩ (plainDigest 0))

theorem orphanDelivery_unrecorded : ¬∀ s r,Reachable blake3 s → ExactlyOnce blake3 s r := by
  intro h
  obtain ⟨c,hc⟩ := (h Store.initial orphanDelivery .initial).durable (by decide +kernel)
  have he : (execute blake3 orphanDelivery Store.initial).1.isOk=false := by decide +kernel
  rw [hc] at he
  cases he

end Once
end Society.Kernel
