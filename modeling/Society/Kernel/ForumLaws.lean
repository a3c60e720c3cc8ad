import Society.Kernel.Forum
import Society.Kernel.Runs
import Society.Relational.Members

namespace Society.Kernel
open Society.Relational Society.Coding

/-! What holds of the forums of the episodes in every state of a run. -/

section Threads
variable {s : Store}

/-- Threads, their messages and who is shown how much of them. -/
structure Threaded (s : Store) : Prop where
  oneThread : ∀ t ∈ s.rows .studyForumThreads,∀ u ∈ s.rows .studyForumThreads,
    t.episodeForumId=u.episodeForumId → t=u
  numbered : ∀ t ∈ s.rows .studyForumThreads,∀ n,
    (∃ m ∈ s.rows .studyForumMessages,m.forumThreadId=t.forumThreadId ∧
      m.threadMessageOrdinal.val=n) ↔ 1≤n ∧ n≤t.headMessageOrdinal.val
  shown : ∀ e ∈ s.rows .studyForumExposures,∀ t ∈ s.rows .studyForumThreads,
    t.episodeForumId=e.episodeForumId → e.visibleFromMessageOrdinal.val≤t.headMessageOrdinal.val →
      e.visibleThroughMessageOrdinal.val=t.headMessageOrdinal.val
  refers : ∀ m ∈ s.rows .studyForumMessages,∀ k,m.inReplyToMessageId=some k ∨
    m.supersedesMessageId=some k → ∃ q ∈ s.rows .studyForumMessages,q.forumMessageId=k ∧
      q.forumThreadId=m.forumThreadId ∧ q.threadMessageOrdinal.val < m.threadMessageOrdinal.val

abbrev threadTables : List Tbl := [.studyForumThreads,.studyForumMessages,.studyForumExposures]

theorem threaded_reads : Db.ReadsOnly threadTables Threaded := by
  intro s s₂ h ht
  have h₁ := h .studyForumThreads (by decide)
  have h₂ := h .studyForumMessages (by decide)
  have h₃ := h .studyForumExposures (by decide)
  obtain ⟨h₄,h₅,h₆,h₇⟩ := ht
  constructor <;> simp only [h₁,h₂,h₃] <;> assumption

theorem thread_key (hv : s.Valid) {t u : StudyForumThreadRow} (ht : t ∈ s.rows .studyForumThreads)
    (hu : u ∈ s.rows .studyForumThreads) (h : t.forumThreadId=u.forumThreadId) : t=u :=
  hv.key_injective (t := .studyForumThreads) rfl ht hu (congrArg Relational.Id.val h)

theorem openForumThread_threaded (hv : s.Valid) (ht : Threaded s) (cmd : CommandRowId)
    (i : EpisodeForumId) (title : ForumThreadTitle) :
    Tx.wp (openForumThread cmd i title) (fun _ s' => Threaded s') s := by
  simp only [openForumThread,Tx.wp_bind,Tx.wp_read,Tx.wp_get,Tx.wp_require,Tx.wp_insert,Tx.wp_pure]
  intro forum _ _ hnone j hj _
  have hnone : ∀ t : StudyForumThreadRow,t ∈ s.rows .studyForumThreads → t.episodeForumId≠i := by
    simpa [threadOfForum] using hnone
  -- no message stands in a thread that is new
  have hfresh (m : StudyForumMessageRow) (hm : m ∈ s.rows .studyForumMessages) : m.forumThreadId≠j := by
    have hlt := hv.target_lt hm (u := .studyForumThreads) (k := m.forumThreadId.val) rfl
      (List.mem_cons_self ..)
    intro he
    rw [he,hj] at hlt
    omega
  have hnew (t : StudyForumThreadRow) (hm : t ∈ s.rows .studyForumThreads) : t.forumThreadId≠j := by
    have hlt := hv.fresh .studyForumThreads rfl t hm
    intro he
    change t.forumThreadId.val<_ at hlt
    rw [he,hj] at hlt
    omega
  constructor
  case oneThread =>
    intro t hm u hm' he
    rcases Db.mem_append.mp hm with hm | rfl <;> rcases Db.mem_append.mp hm' with hm' | rfl
    · exact ht.oneThread t hm u hm' he
    · exact absurd he (hnone t hm)
    · exact absurd he.symm (hnone u hm')
    · rfl
  case numbered =>
    intro t hm n
    rw [Db.rows_append_ne (by decide)]
    rcases Db.mem_append.mp hm with hm | rfl
    · exact ht.numbered t hm n
    · constructor
      · rintro ⟨m,hm,he,_⟩
        exact absurd he (hfresh m hm)
      · intro hn
        change 1≤n ∧ n≤0 at hn
        omega
  case shown =>
    intro e he t hm hf hle
    rw [Db.rows_append_ne (by decide)] at he
    rcases Db.mem_append.mp hm with hm | rfl
    · exact ht.shown e he t hm hf hle
    · have hpos := e.visibleFromMessageOrdinal.valid.1
      change _≤0 at hle
      omega
  case refers =>
    rw [Db.rows_append_ne (by decide)]
    exact ht.refers

theorem admitForumExposure_threaded (ht : Threaded s) (cmd : CommandRowId)
    (i : StudyActorObligationId) (forum : EpisodeForumId) (start : I64) :
    Tx.wp (admitForumExposure cmd i forum start) (fun _ s' => Threaded s') s := by
  simp only [admitForumExposure,Tx.wp_bind,wp_obligationRow,Tx.wp_read,Tx.wp_the,Tx.wp_get,
    Tx.wp_require,Tx.wp_insert,Tx.wp_pure]
  intro obligation _ _ first _ f _ thread hthread _ _ j _ _
  have hmem := List.mem_of_find?_eq_some hthread
  have hp := List.find?_some hthread
  have hforum : thread.episodeForumId=forum := beq_iff_eq.mp hp
  constructor
  case oneThread =>
    rw [Db.rows_append_ne (by decide)]
    exact ht.oneThread
  case numbered =>
    rw [Db.rows_append_ne (by decide),Db.rows_append_ne (by decide)]
    exact ht.numbered
  case shown =>
    intro e he t hm hf hle
    rw [Db.rows_append_ne (by decide)] at hm
    rcases Db.mem_append.mp he with he | rfl
    · exact ht.shown e he t hm hf hle
    · rw [ht.oneThread t hm thread hmem (hf.trans hforum.symm)]
  case refers =>
    rw [Db.rows_append_ne (by decide)]
    exact ht.refers

/-- A thread after a message at its head. -/
def StudyForumThreadRow.headed (head : Count) (t : StudyForumThreadRow) : StudyForumThreadRow :=
  {t with headMessageOrdinal := head}

/-- An exposure that reaches the head. -/
def StudyForumExposureRow.reaching (head : Count) (e : StudyForumExposureRow) :
    StudyForumExposureRow := {e with visibleThroughMessageOrdinal := head}

/-- A message at the head of `thread`, shown to everyone who may see it. -/
theorem Threaded.appended {s' : Store} {thread : StudyForumThreadRow} (new : StudyForumMessageRow)
    (head : Count) (hv : s.Valid) (ht : Threaded s) (hmem : thread ∈ s.rows .studyForumThreads)
    (hnew : new.forumThreadId=thread.forumThreadId ∧ new.threadMessageOrdinal.val=head.val)
    (hhead : head.val=thread.headMessageOrdinal.val+1)
    (hrefers : ∀ k,new.inReplyToMessageId=some k ∨ new.supersedesMessageId=some k →
      ∃ q ∈ s.rows .studyForumMessages,q.forumMessageId=k ∧ q.forumThreadId=thread.forumThreadId ∧
        q.threadMessageOrdinal.val<head.val)
    (hthreads : ∀ t : StudyForumThreadRow,t ∈ s'.rows .studyForumThreads →
      ∃ t₀ : StudyForumThreadRow,t₀ ∈ s.rows .studyForumThreads ∧
        (if t₀.forumThreadId==thread.forumThreadId then t₀.headed head else t₀)=t)
    (hmessages : ∀ m : StudyForumMessageRow,m ∈ s'.rows .studyForumMessages ↔
      m ∈ s.rows .studyForumMessages ∨ m=new)
    (hexposures : ∀ e : StudyForumExposureRow,e ∈ s'.rows .studyForumExposures →
      ∃ e₀ : StudyForumExposureRow,e₀ ∈ s.rows .studyForumExposures ∧
        (if e₀.episodeForumId==thread.episodeForumId &&
          decide (e₀.visibleFromMessageOrdinal.val≤head.val) then e₀.reaching head else e₀)=e) :
    Threaded s' := by
  -- a thread of the new state is another thread as before, or `thread` with its new head
  have hcases (t : StudyForumThreadRow) (h : t ∈ s'.rows .studyForumThreads) :
      (t ∈ s.rows .studyForumThreads ∧ t.forumThreadId≠thread.forumThreadId ∧
        t.episodeForumId≠thread.episodeForumId) ∨ t=thread.headed head := by
    obtain ⟨t₀,ht₀,rfl⟩ := hthreads t h
    by_cases he : t₀.forumThreadId=thread.forumThreadId
    · cases thread_key hv ht₀ hmem he
      simp
    · rw [if_neg (by simpa using he)]
      refine .inl ⟨ht₀,he,fun hf => he ?_⟩
      rw [ht.oneThread _ ht₀ _ hmem hf]
  constructor
  case oneThread =>
    intro t h u h' he
    rcases hcases t h with ⟨hm,_,hf⟩ | rfl <;> rcases hcases u h' with ⟨hm',_,hf'⟩ | rfl
    · exact ht.oneThread t hm u hm' he
    · exact absurd he hf
    · exact absurd he.symm hf'
    · rfl
  case numbered =>
    intro t h n
    rcases hcases t h with ⟨hm,hne,_⟩ | rfl
    · rw [← ht.numbered t hm n]
      constructor
      · rintro ⟨m,hmm,hmt,hn⟩
        rcases (hmessages m).mp hmm with hmm | rfl
        · exact ⟨m,hmm,hmt,hn⟩
        · exact absurd (hmt.symm.trans hnew.1) hne
      · rintro ⟨m,hmm,hrest⟩
        exact ⟨m,(hmessages m).mpr (.inl hmm),hrest⟩
    · have hold := ht.numbered thread hmem n
      change _ ↔ 1≤n ∧ n≤head.val
      constructor
      · rintro ⟨m,hmm,hmt,hn⟩
        rcases (hmessages m).mp hmm with hmm | rfl
        · have := hold.mp ⟨m,hmm,hmt,hn⟩
          omega
        · omega
      · rintro ⟨hpos,hle⟩
        by_cases hlast : n=head.val
        · exact ⟨new,(hmessages new).mpr (.inr rfl),hnew.1,hnew.2.trans hlast.symm⟩
        · obtain ⟨m,hmm,hrest⟩ := hold.mpr ⟨hpos,by omega⟩
          exact ⟨m,(hmessages m).mpr (.inl hmm),hrest⟩
  case shown =>
    intro e he t h hf hle
    obtain ⟨e₀,he₀,rfl⟩ := hexposures e he
    rcases hcases t h with ⟨hm,_,hne⟩ | rfl
    · by_cases hc : (e₀.episodeForumId==thread.episodeForumId &&
          decide (e₀.visibleFromMessageOrdinal.val≤head.val))=true
      · rw [if_pos hc] at hf
        have hforum : e₀.episodeForumId=thread.episodeForumId := by
          simp only [Bool.and_eq_true,beq_iff_eq] at hc
          exact hc.1
        exact absurd (hf.trans hforum) hne
      · rw [if_neg hc] at hf hle ⊢
        exact ht.shown e₀ he₀ t hm hf hle
    · have hforum : e₀.episodeForumId=thread.episodeForumId := by
        revert hf
        split <;> exact fun hf => hf.symm
      have hfrom : e₀.visibleFromMessageOrdinal.val≤head.val := by
        revert hle
        split <;> exact fun hle => hle
      rw [if_pos (by simp [hforum,hfrom])]
      rfl
  case refers =>
    intro m hm k hk
    rcases (hmessages m).mp hm with hm | rfl
    · obtain ⟨q,hq,hrest⟩ := ht.refers m hm k hk
      exact ⟨q,(hmessages q).mpr (.inl hq),hrest⟩
    · obtain ⟨q,hq,hid,hqt,hlt⟩ := hrefers k hk
      exact ⟨q,(hmessages q).mpr (.inl hq),hid,hqt.trans hnew.1.symm,by omega⟩

theorem appendMessage_threaded {W : List Tbl} (hash : Bytes → Blake3Digest) (hv : s.Valid)
    (ht : Threaded s) (cmd : CommandRowId) {thread : StudyForumThreadRow}
    (hmem : thread ∈ s.rows .studyForumThreads) (author : Option ActorOccurrenceId)
    (kind : ForumMessageKind) {reply supersedes : Option ForumMessageId} (body : ForumMessageBody)
    {ordinal : Ordinal} (hordinal : ordinal.val=thread.headMessageOrdinal.val+1)
    (hrefers : ∀ k,reply=some k ∨ supersedes=some k → ∃ q ∈ s.rows .studyForumMessages,
      q.forumMessageId=k ∧ q.forumThreadId=thread.forumThreadId ∧
        q.threadMessageOrdinal.val<ordinal.val)
    (hm : .studyForumMessages ∈ W) (hh : .studyForumThreads ∈ W) (he : .studyForumExposures ∈ W) :
    Tx.wp (appendMessage hash cmd thread author kind reply supersedes body ordinal hm hh he)
      (fun _ s' => Threaded s') s := by
  simp only [appendMessage,Tx.wp_bind,Tx.wp_insert,Tx.wp_update,Tx.wp_pure]
  intro j hj _ _ _
  refine ht.appended ⟨j,thread.forumThreadId,ordinal,author,kind,reply,supersedes,body.stored,
      .ofText hash body,.published,cmd⟩ ⟨ordinal.val,Nat.zero_le _,ordinal.valid.2⟩ hv hmem ⟨rfl,rfl⟩
    hordinal hrefers ?_ ?_ ?_
  · intro t h
    rw [Db.rows_modify_ne (by decide)] at h
    obtain ⟨t₀,ht₀,rfl⟩ := Db.mem_update.mp h
    rw [Db.rows_append_ne (by decide)] at ht₀
    exact ⟨t₀,ht₀,rfl⟩
  · intro m
    rw [Db.rows_modify_ne (by decide),Db.rows_modify_ne (by decide)]
    exact Db.mem_append
  · intro e h
    obtain ⟨e₀,he₀,rfl⟩ := Db.mem_update.mp h
    rw [Db.rows_modify_ne (by decide),Db.rows_append_ne (by decide)] at he₀
    exact ⟨e₀,he₀,rfl⟩

/-- Messages concern the tables of the forum only. -/
theorem appendMessage_outside {W : List Tbl} (hash : Bytes → Blake3Digest) (cmd : CommandRowId)
    (thread : StudyForumThreadRow) (author : Option ActorOccurrenceId) (kind : ForumMessageKind)
    (reply supersedes : Option ForumMessageId) (body : ForumMessageBody) (ordinal : Ordinal)
    (hm : .studyForumMessages ∈ W) (hh : .studyForumThreads ∈ W) (he : .studyForumExposures ∈ W) :
    Tx.wp (appendMessage hash cmd thread author kind reply supersedes body ordinal hm hh he)
      (fun _ s' => ∀ t,t ∉ threadTables → s'.rows t=s.rows t) s := by
  simp only [appendMessage,Tx.wp_bind,Tx.wp_insert,Tx.wp_update,Tx.wp_pure]
  intro _ _ _ _ _ t ht
  have h₁ : t≠.studyForumExposures := fun h => ht (by simp [h])
  have h₂ : t≠.studyForumThreads := fun h => ht (by simp [h])
  have h₃ : t≠.studyForumMessages := fun h => ht (by simp [h])
  rw [Db.rows_modify_ne h₁,Db.rows_modify_ne h₂,Db.rows_append_ne h₃]

theorem mayRefer_earlier {i : StudyActorObligationId} {thread : StudyForumThreadRow}
    {ordinal : Ordinal} {k : ForumMessageId} (h : mayRefer s i thread ordinal k=true) :
    ∃ q ∈ s.rows .studyForumMessages,q.forumMessageId=k ∧ q.forumThreadId=thread.forumThreadId ∧
      q.threadMessageOrdinal.val<ordinal.val := by
  obtain ⟨q,hq,hp⟩ := (Option.any_eq_true ..).mp h
  simp only [Bool.and_eq_true,beq_iff_eq,decide_eq_true_eq] at hp
  exact ⟨q,Db.find_mem hq,Relational.Id.ext (Db.find_key hq),hp.1.1,hp.1.2⟩

theorem threadOfForum_mem {i : EpisodeForumId} {t : StudyForumThreadRow}
    (h : threadOfForum s i=some t) : t ∈ s.rows .studyForumThreads ∧ t.episodeForumId=i := by
  have hp := List.find?_some h
  exact ⟨List.mem_of_find?_eq_some h,beq_iff_eq.mp hp⟩

@[simp] theorem wp_threadForObligation {W : List Tbl} {i : StudyActorObligationId}
    {Q : StudyForumThreadRow → Store → Prop} : Tx.wp (threadForObligation i : Transition W _) Q s ↔
      ∀ t,(exposureOf s i).bind (fun e => threadOfForum s e.episodeForumId)=some t → Q t s := by
  simp only [threadForObligation,Tx.wp_bind,Tx.wp_read,Tx.wp_the]

variable (hash : Bytes → Blake3Digest)

theorem publishForumMessage_threaded (hv : s.Valid) (ht : Threaded s) (cmd : CommandRowId)
    (i : StudyActorObligationId) (kind : ForumMessageKind) (body : ForumMessageBody)
    (reply supersedes : Option ForumMessageId) :
    Tx.wp (publishForumMessage hash cmd i kind body reply supersedes) (fun _ s' => Threaded s') s := by
  simp only [publishForumMessage,setEpisodeState,Tx.wp_bind,wp_obligationRow,wp_studyEpisodeRow,
    wp_threadForObligation,Tx.wp_read,Tx.wp_the,Tx.wp_require,Tx.wp_update,Tx.wp_ite,Tx.wp_pure]
  intro obligation _ _ _ episode _ _ _ thread hthread ordinal hordinal hrefers author _
  obtain ⟨e,_,hthread⟩ := Option.bind_eq_some_iff.mp hthread
  refine Tx.wp_mono (appendMessage_threaded hash hv ht cmd (threadOfForum_mem hthread).1 _ _ _
    (Ranged.new_eq_some.mp hordinal) ?_ _ _ _) ?_
  · intro k hk
    refine mayRefer_earlier (List.all_eq_true.mp hrefers k ?_)
    rcases hk with rfl | rfl <;> simp
  · intro _ s₁ h₁ used _ _
    refine ⟨fun _ _ => threaded_reads.modify (by decide) ?_,fun _ => ?_⟩ <;>
      exact threaded_reads.modify (by decide) h₁

theorem retractForumMessage_threaded (ht : Threaded s) (i : StudyActorObligationId)
    (message : ForumMessageId) :
    Tx.wp (retractForumMessage i message) (fun _ s' => Threaded s') s := by
  simp only [retractForumMessage,Tx.wp_bind,wp_obligationRow,wp_studyEpisodeRow,Tx.wp_read,
    Tx.wp_the,Tx.wp_get,Tx.wp_require,Tx.wp_update,Tx.wp_pure]
  intro obligation _ _ occurrence _ m _ author _ _ episode _ _ _
  -- a message keeps everything but its publication state
  have hold {m : StudyForumMessageRow} (h : m ∈ (s.modify .studyForumMessages
      (fun r => r.forumMessageId==message)
      (fun r => some {r with publicationState := .retracted})).rows .studyForumMessages) :
      ∃ m₀ : StudyForumMessageRow,m₀ ∈ s.rows .studyForumMessages ∧
        {m with publicationState := m₀.publicationState}=m₀ := by
    obtain ⟨m₀,hm₀,rfl⟩ := Db.mem_update.mp h
    refine ⟨m₀,hm₀,?_⟩
    split <;> rfl
  have hnew {m₀ : StudyForumMessageRow} (h : m₀ ∈ s.rows .studyForumMessages) :
      ∃ m : StudyForumMessageRow,m ∈ (s.modify .studyForumMessages
        (fun r => r.forumMessageId==message)
        (fun r => some {r with publicationState := .retracted})).rows .studyForumMessages ∧
          {m with publicationState := m₀.publicationState}=m₀ := by
    refine ⟨_,Db.mem_update.mpr ⟨m₀,h,rfl⟩,?_⟩
    split <;> rfl
  constructor
  case oneThread =>
    rw [Db.rows_modify_ne (by decide)]
    exact ht.oneThread
  case numbered =>
    intro t h n
    rw [Db.rows_modify_ne (by decide)] at h
    rw [← ht.numbered t h n]
    constructor
    · rintro ⟨m,hm,hrest⟩
      obtain ⟨m₀,hm₀,he⟩ := hold hm
      exact ⟨m₀,hm₀,he ▸ hrest⟩
    · rintro ⟨m₀,hm₀,hrest⟩
      obtain ⟨m,hm,he⟩ := hnew hm₀
      rw [← he] at hrest
      exact ⟨m,hm,hrest⟩
  case shown =>
    rw [Db.rows_modify_ne (by decide),Db.rows_modify_ne (by decide)]
    exact ht.shown
  case refers =>
    intro m hm k hk
    obtain ⟨m₀,hm₀,he⟩ := hold hm
    obtain ⟨q₀,hq₀,hrest⟩ := ht.refers m₀ hm₀ k (by rw [← he]; exact hk)
    obtain ⟨q,hq,he'⟩ := hnew hq₀
    rw [← he,← he'] at hrest
    exact ⟨q,hq,hrest⟩

theorem releaseCorrectionForEpisode_threaded {W : List Tbl} (hv : s.Valid) (ht : Threaded s)
    (cmd : CommandRowId) (i : StudyEpisodeId) (thread : ForumThreadId)
    (correction : ForumMessageBody) (hm : .studyForumMessages ∈ W) (hh : .studyForumThreads ∈ W)
    (he : .studyForumExposures ∈ W) (hs : .studyEpisodes ∈ W) :
    Tx.wp (releaseCorrectionForEpisode hash cmd i thread correction hm hh he hs)
      (fun _ s' => Threaded s') s := by
  simp only [releaseCorrectionForEpisode,setEpisodeState,Tx.wp_bind,wp_studyEpisodeRow,Tx.wp_read,
    Tx.wp_the,Tx.wp_require,Tx.wp_update,Tx.wp_pure]
  intro episode _ _ r hr expected _ _ ordinal hordinal
  have hmem := Db.find_mem (Option.filter_eq_some_iff.mp hr).1
  refine Tx.wp_mono (appendMessage_threaded hash hv ht cmd hmem _ _ _
    (Ranged.new_eq_some.mp hordinal) (by rintro k (h | h) <;> cases h) _ _ _) ?_
  intro _ s₁ h₁ _
  exact threaded_reads.modify (by decide) h₁

end Threads

section Meters
variable {s s' : Store}

/-- The author is an occurrence of the obligation. -/
def postedBy (s : Store) (author : Option ActorOccurrenceId) (i : StudyActorObligationId) : Bool :=
  author.any (fun a => (s.find .studyActorOccurrences a).any (·.studyActorObligationId==i))

def messagesOf (s : Store) (i : StudyActorObligationId) : Nat :=
  s.count .studyForumMessages (fun m => postedBy s m.author i)

def receiptsOf (s : Store) (i : StudyActorObligationId) : Nat :=
  s.count .studyForumReadReceipts (fun r => r.studyActorObligationId==i)

/-- What an obligation has used of its budgets is what it has done. -/
structure Metered (s : Store) : Prop where
  posted : ∀ o ∈ s.rows .studyActorObligations,
    o.postsUsed.val=messagesOf s o.studyActorObligationId
  read : ∀ o ∈ s.rows .studyActorObligations,
    o.readsUsed.val=receiptsOf s o.studyActorObligationId ∧ o.readsUsed.val≤o.readBudget.val

abbrev meterTables : List Tbl :=
  [.studyActorObligations,.studyActorOccurrences,.studyForumMessages,.studyForumReadReceipts]

theorem messagesOf_rows (ho : s'.rows .studyActorOccurrences=s.rows .studyActorOccurrences)
    (hm : s'.rows .studyForumMessages=s.rows .studyForumMessages) (i : StudyActorObligationId) :
    messagesOf s' i=messagesOf s i := by
  rw [messagesOf,Db.count_rows hm]
  refine Db.count_congr (fun m _ => ?_)
  simp only [postedBy,Db.find,ho]

theorem receiptsOf_rows (h : s'.rows .studyForumReadReceipts=s.rows .studyForumReadReceipts)
    (i : StudyActorObligationId) : receiptsOf s' i=receiptsOf s i := Db.count_rows h

theorem messagesOf_append {m : StudyForumMessageRow} {n : Nat} (i : StudyActorObligationId) :
    messagesOf (s.append .studyForumMessages m n) i=
      messagesOf s i+(if postedBy s m.author i then 1 else 0) := by
  have hposted (a : Option ActorOccurrenceId) (k : StudyActorObligationId) :
      postedBy (s.append .studyForumMessages m n) a k=postedBy s a k := by
    simp only [postedBy,Db.find_append_ne (s := s) (show Tbl.studyActorOccurrences≠.studyForumMessages by decide)]
  simp only [messagesOf,hposted]
  exact Db.count_append

theorem receiptsOf_append {r : StudyForumReadReceiptRow} {n : Nat} (i : StudyActorObligationId) :
    receiptsOf (s.append .studyForumReadReceipts r n) i=
      receiptsOf s i+(if r.studyActorObligationId==i then 1 else 0) := Db.count_append

theorem metered_reads : Db.ReadsOnly meterTables Metered := by
  intro s s' h hs
  have hmessages := messagesOf_rows (h .studyActorOccurrences (by decide))
    (h .studyForumMessages (by decide))
  constructor
  · intro o ho
    rw [h .studyActorObligations (by decide)] at ho
    rw [hmessages]
    exact hs.posted o ho
  · intro o ho
    rw [h .studyActorObligations (by decide)] at ho
    rw [receiptsOf_rows (h .studyForumReadReceipts (by decide))]
    exact hs.read o ho

/-- A step that counts what it adds. -/
theorem Metered.step (h : Metered s) (hstep : ∀ q ∈ s'.rows .studyActorObligations,
    ∃ o ∈ s.rows .studyActorObligations,q.studyActorObligationId=o.studyActorObligationId ∧
      q.postsUsed.val+messagesOf s o.studyActorObligationId=
        o.postsUsed.val+messagesOf s' o.studyActorObligationId ∧
      q.readsUsed.val+receiptsOf s o.studyActorObligationId=
        o.readsUsed.val+receiptsOf s' o.studyActorObligationId ∧
      (o.readsUsed.val≤o.readBudget.val → q.readsUsed.val≤q.readBudget.val)) : Metered s' := by
  constructor
  · intro q hq
    obtain ⟨o,ho,hid,hposts,_,_⟩ := hstep q hq
    have := h.posted o ho
    rw [hid]
    omega
  · intro q hq
    obtain ⟨o,ho,hid,_,hreads,hle⟩ := hstep q hq
    obtain ⟨hcount,hbudget⟩ := h.read o ho
    rw [hid]
    exact ⟨by omega,hle hbudget⟩

/-- An update of the obligations that leaves budgets and counters alone. -/
theorem Metered.obligations {p : StudyActorObligationRow → Bool}
    {g : StudyActorObligationRow → StudyActorObligationRow} (h : Metered s)
    (hg : ∀ o,(g o).studyActorObligationId=o.studyActorObligationId ∧
      (g o).postsUsed=o.postsUsed ∧ (g o).readsUsed=o.readsUsed ∧ (g o).readBudget=o.readBudget) :
    Metered (s.modify .studyActorObligations p (fun o => some (g o))) := by
  refine h.step (fun q hq => ?_)
  obtain ⟨o,ho,rfl⟩ := Db.mem_update.mp hq
  refine ⟨o,ho,?_⟩
  rw [messagesOf_rows (Db.rows_modify_ne (by decide)) (Db.rows_modify_ne (by decide)),
    receiptsOf_rows (Db.rows_modify_ne (by decide))]
  split
  · rw [(hg o).1,(hg o).2.1,(hg o).2.2.1,(hg o).2.2.2]
    exact ⟨rfl,rfl,rfl,id⟩
  · exact ⟨rfl,rfl,rfl,id⟩

theorem completeActorObligation_metered (h : Metered s) (cmd : CommandRowId)
    (i : StudyActorObligationId) (charged : StudyBudgetUnits) :
    Tx.wp (completeActorObligation cmd i charged) (fun _ s' => Metered s') s := by
  simp only [completeActorObligation,Tx.wp_bind,wp_obligationRow,Tx.wp_read,Tx.wp_require,
    Tx.wp_update,Tx.wp_pure]
  intro _ _ _ _ _
  exact h.obligations (fun _ => ⟨rfl,rfl,rfl,rfl⟩)

theorem failActorObligation_metered (h : Metered s) (cmd : CommandRowId)
    (i : StudyActorObligationId) (reason : Blake3Digest) :
    Tx.wp (failActorObligation cmd i reason) (fun _ s' => Metered s') s := by
  simp only [failActorObligation,Tx.wp_bind,Tx.wp_read,Tx.wp_require,Tx.wp_update,Tx.wp_pure]
  intro _ _ _
  exact h.obligations (fun _ => ⟨rfl,rfl,rfl,rfl⟩)

theorem obligation_eq (hv : s.Valid) {i : StudyActorObligationId} {o q : StudyActorObligationRow}
    (ho : s.find .studyActorObligations i=some o) (hq : q ∈ s.rows .studyActorObligations)
    (h : q.studyActorObligationId=i) : q=o := by
  subst h
  have hf := hv.find_eq (t := .studyActorObligations) rfl hq (k := q.studyActorObligationId) rfl
  rw [ho] at hf
  exact (Option.some.inj hf).symm

theorem readForum_metered (hash : Bytes → Blake3Digest) (hv : s.Valid) (h : Metered s)
    (i : StudyActorObligationId) (cmd : CommandRowId) (first through : I64)
    (rendered : ContentObjectId) :
    Tx.wp (readForum hash i cmd first through rendered) (fun _ s' => Metered s') s := by
  simp only [readForum,forumReadThread,Tx.wp_bind,wp_obligationRow,wp_studyEpisodeRow,
    wp_threadForObligation,Tx.wp_read,Tx.wp_the,Tx.wp_get,Tx.wp_require,Tx.wp_insert,Tx.wp_update,
    Tx.wp_pure]
  intro obligation hobligation hready a _ b _ episode _ _ e _ forum _ thread _ _ count _ _ j _ _
    again hagain used hused _
  rw [Db.find_append_ne (by decide),hobligation] at hagain
  cases hagain
  simp only [Bool.and_eq_true,decide_eq_true_eq] at hready
  have hused := Ranged.new_eq_some.mp hused
  refine h.step (fun q hq => ?_)
  obtain ⟨o,ho,rfl⟩ := Db.mem_update.mp hq
  rw [Db.rows_append_ne (by decide)] at ho
  refine ⟨o,ho,?_⟩
  rw [messagesOf_rows (Db.rows_modify_ne (by decide)) (Db.rows_modify_ne (by decide)),
    messagesOf_rows (Db.rows_append_ne (by decide)) (Db.rows_append_ne (by decide)),
    receiptsOf_rows (Db.rows_modify_ne (by decide)),receiptsOf_append]
  by_cases hi : o.studyActorObligationId=i
  · cases obligation_eq hv hobligation ho hi
    simp only [hi,beq_self_eq_true,if_true]
    exact ⟨trivial,trivial,by omega,fun _ => by omega⟩
  · simp [hi,Ne.symm hi]

/-- What a message at the head of a thread adds to the counts. -/
theorem appendMessage_counted {W : List Tbl} (hash : Bytes → Blake3Digest) (cmd : CommandRowId)
    (thread : StudyForumThreadRow) (author : Option ActorOccurrenceId) (kind : ForumMessageKind)
    (reply supersedes : Option ForumMessageId) (body : ForumMessageBody) (ordinal : Ordinal)
    (hm : .studyForumMessages ∈ W) (hh : .studyForumThreads ∈ W) (he : .studyForumExposures ∈ W) :
    Tx.wp (appendMessage hash cmd thread author kind reply supersedes body ordinal hm hh he)
      (fun _ s' => (∀ i,messagesOf s' i=messagesOf s i+(if postedBy s author i then 1 else 0)) ∧
        (∀ i,receiptsOf s' i=receiptsOf s i) ∧
        s'.rows .studyActorObligations=s.rows .studyActorObligations) s := by
  simp only [appendMessage,Tx.wp_bind,Tx.wp_insert,Tx.wp_update,Tx.wp_pure]
  intro j _ _ _ _
  refine ⟨fun i => ?_,fun i => receiptsOf_rows (by simp) i,by simp⟩
  rw [messagesOf_rows (Db.rows_modify_ne (by decide)) (Db.rows_modify_ne (by decide)),
    messagesOf_rows (Db.rows_modify_ne (by decide)) (Db.rows_modify_ne (by decide)),
    messagesOf_append]

theorem occurrenceOf_obligation (hv : s.Valid) {i k : StudyActorObligationId} {a : ActorOccurrenceId}
    (h : occurrenceOf s i=some a) : postedBy s (some a) k=(i==k) := by
  obtain ⟨o,ho,rfl⟩ := Option.map_eq_some_iff.mp h
  have hp := List.find?_some ho
  have hf := hv.find_eq (t := .studyActorOccurrences) rfl (List.mem_of_find?_eq_some ho)
    (k := o.actorOccurrenceId) rfl
  have hi : o.studyActorObligationId=i := beq_iff_eq.mp hp
  simp [postedBy,hf,hi]

variable (hash : Bytes → Blake3Digest)

theorem publishForumMessage_metered (hv : s.Valid) (h : Metered s) (cmd : CommandRowId)
    (i : StudyActorObligationId) (kind : ForumMessageKind) (body : ForumMessageBody)
    (reply supersedes : Option ForumMessageId) :
    Tx.wp (publishForumMessage hash cmd i kind body reply supersedes) (fun _ s' => Metered s') s := by
  simp only [publishForumMessage,setEpisodeState,Tx.wp_bind,wp_obligationRow,wp_studyEpisodeRow,
    wp_threadForObligation,Tx.wp_read,Tx.wp_the,Tx.wp_require,Tx.wp_update,Tx.wp_ite,Tx.wp_pure]
  intro obligation hobligation _ _ episode _ _ _ thread _ ordinal _ _ author hauthor
  refine Tx.wp_mono (appendMessage_counted hash cmd thread _ _ _ _ _ _ _ _ _) ?_
  rintro _ s₁ ⟨hmessages,hreceipts,hobligations⟩ used hused _
  have hused := Ranged.new_eq_some.mp hused
  have h₂ : Metered (s₁.modify .studyActorObligations (fun r => r.studyActorObligationId==i)
      (fun r => some {r with postsUsed := used})) := by
    refine h.step (fun q hq => ?_)
    obtain ⟨o,ho,rfl⟩ := Db.mem_update.mp hq
    rw [hobligations] at ho
    refine ⟨o,ho,?_⟩
    rw [messagesOf_rows (Db.rows_modify_ne (by decide)) (Db.rows_modify_ne (by decide)),
      receiptsOf_rows (Db.rows_modify_ne (by decide)),hmessages,hreceipts,
      occurrenceOf_obligation hv hauthor]
    by_cases hi : o.studyActorObligationId=i
    · cases obligation_eq hv hobligation ho hi
      simp only [hi,beq_self_eq_true,if_true]
      exact ⟨trivial,by omega,trivial,id⟩
    · simp [hi,Ne.symm hi]
  exact ⟨fun _ _ => metered_reads.modify (by decide) h₂,fun _ => h₂⟩

theorem retractForumMessage_metered (h : Metered s) (i : StudyActorObligationId)
    (message : ForumMessageId) :
    Tx.wp (retractForumMessage i message) (fun _ s' => Metered s') s := by
  simp only [retractForumMessage,Tx.wp_bind,wp_obligationRow,wp_studyEpisodeRow,Tx.wp_read,
    Tx.wp_the,Tx.wp_get,Tx.wp_require,Tx.wp_update,Tx.wp_pure]
  intro obligation _ _ occurrence _ m _ author _ _ episode _ _ _
  refine h.step (fun q hq => ?_)
  rw [Db.rows_modify_ne (by decide)] at hq
  refine ⟨q,hq,rfl,?_,?_,id⟩
  · have hposted (a : Option ActorOccurrenceId) (k : StudyActorObligationId) :
        postedBy (s.modify .studyForumMessages (fun r => r.forumMessageId==message)
          (fun r => some {r with publicationState := .retracted})) a k=postedBy s a k := by
      simp only [postedBy,Db.find_modify_ne (s := s) (show Tbl.studyActorOccurrences≠.studyForumMessages by decide)]
    simp only [messagesOf,hposted]
    have hkeep := Db.count_update (s := s) (t := .studyForumMessages)
      (p := fun r => r.forumMessageId==message)
      (q := fun m => postedBy s m.author q.studyActorObligationId)
      (fun r => {r with publicationState := .retracted}) (fun _ => rfl)
    exact congrArg (q.postsUsed.val+·) hkeep.symm
  · rw [receiptsOf_rows (Db.rows_modify_ne (by decide))]

theorem releaseCorrectionForEpisode_metered {W : List Tbl} (h : Metered s)
    (cmd : CommandRowId) (i : StudyEpisodeId) (thread : ForumThreadId)
    (correction : ForumMessageBody) (hm : .studyForumMessages ∈ W) (hh : .studyForumThreads ∈ W)
    (he : .studyForumExposures ∈ W) (hs : .studyEpisodes ∈ W) :
    Tx.wp (releaseCorrectionForEpisode hash cmd i thread correction hm hh he hs)
      (fun _ s' => Metered s') s := by
  simp only [releaseCorrectionForEpisode,setEpisodeState,Tx.wp_bind,wp_studyEpisodeRow,Tx.wp_read,
    Tx.wp_the,Tx.wp_require,Tx.wp_update,Tx.wp_pure]
  intro episode _ _ r _ expected _ _ ordinal _
  refine Tx.wp_mono (appendMessage_counted hash cmd r _ _ _ _ _ _ _ _ _) ?_
  rintro _ s₁ ⟨hmessages,hreceipts,hobligations⟩ _
  refine metered_reads.modify (by decide) (h.step (fun q hq => ?_))
  rw [hobligations] at hq
  refine ⟨q,hq,rfl,?_,?_,id⟩
  · rw [hmessages]
    simp [postedBy]
  · rw [hreceipts]

theorem admitActorObligation_metered (hv : s.Valid) (h : Metered s) (cmd : CommandRowId)
    (i : StudyEpisodeId) (phase : StudyPopulationPhase) (role : StudyRoleOrdinal)
    (view prompt tool : Blake3Digest) (budget : StudyBudgetUnits) (reads : ForumReadBudget)
    (posts : ForumPostBudget) :
    Tx.wp (admitActorObligation cmd i phase role view prompt tool budget reads posts)
      (fun _ s' => Metered s') s := by
  simp only [admitActorObligation,setEpisodeState,Tx.wp_bind,wp_studyEpisodeRow,wp_protocolRow,
    Tx.wp_read,Tx.wp_the,Tx.wp_require,Tx.wp_insert,Tx.wp_update,Tx.wp_pure]
  intro episode _ _ _ _ population _ protocol _ _ j hj _ k hk _ _
  refine metered_reads.modify (by decide) ?_
  rw [Db.append_ne _ _ _ (by decide)] at hk
  -- the author of a message is an older occurrence, of an older obligation
  have hauthor {m : StudyForumMessageRow} (hm : m ∈ s.rows .studyForumMessages)
      {a : ActorOccurrenceId} (ha : m.author=some a) : ∃ o : StudyActorOccurrenceRow,
        s.find .studyActorOccurrences a=some o ∧ a≠k ∧ o.studyActorObligationId≠j := by
    obtain ⟨o,ho⟩ := hv.find_target hm (u := .studyActorOccurrences) (k := a) rfl (by
      change _ ∈ [ref m.forumThreadId]++optRef m.author++optRef m.inReplyToMessageId++
        optRef m.supersedesMessageId
      simp [ha,optRef,ref])
    refine ⟨o,ho,?_,?_⟩
    · rintro rfl
      rw [hv.find_fresh rfl hk] at ho
      cases ho
    · intro he
      have hlt := hv.target_lt (Db.find_mem ho) (u := .studyActorObligations)
        (k := o.studyActorObligationId.val) rfl (List.mem_cons_self ..)
      rw [he,hj] at hlt
      omega
  have hposted {m : StudyForumMessageRow} (hm : m ∈ s.rows .studyForumMessages)
      (q : StudyActorOccurrenceRow) (r : StudyActorObligationRow) (hq : q.actorOccurrenceId=k)
      (x : StudyActorObligationId) : postedBy ((s.append .studyActorObligations r (j.val+1)).append
        .studyActorOccurrences q (k.val+1)) m.author x=postedBy s m.author x := by
    cases ha : m.author with
    | none => rfl
    | some a =>
      obtain ⟨o,ho,hne,_⟩ := hauthor hm ha
      have hnone : (s.append .studyActorObligations r (j.val+1)).find .studyActorOccurrences k=none := by
        rw [Db.find_append_ne (by decide)]
        exact hv.find_fresh rfl hk
      have hkey : key Tbl.studyActorOccurrences q=k.val := congrArg Relational.Id.val hq
      simp only [postedBy,Option.any_some]
      rw [Db.find_append hnone hkey,if_neg hne,Db.find_append_ne (by decide)]
  have hnew : messagesOf s j=0 := by
    refine Db.count_zero (fun m hm => ?_)
    cases ha : m.author with
    | none => rfl
    | some a =>
      obtain ⟨o,ho,_,hne⟩ := hauthor hm ha
      simp [postedBy,ho,hne]
  have hunread : receiptsOf s j=0 := by
    refine Db.count_zero (fun r hr => ?_)
    have hlt := hv.target_lt hr (u := .studyActorObligations)
      (k := r.studyActorObligationId.val) rfl (List.mem_cons_self ..)
    refine beq_eq_false_iff_ne.mpr (fun he => ?_)
    rw [he,hj] at hlt
    omega
  have hmessages (q : StudyActorOccurrenceRow) (r : StudyActorObligationRow)
      (hq : q.actorOccurrenceId=k) (x : StudyActorObligationId) :
      messagesOf ((s.append .studyActorObligations r (j.val+1)).append .studyActorOccurrences q
        (k.val+1)) x=messagesOf s x := by
    rw [messagesOf,Db.count_rows (s := s) (by simp)]
    exact Db.count_congr (fun m hm => hposted hm q r hq x)
  constructor
  · intro o ho
    rw [Db.rows_append_ne (by decide)] at ho
    rw [hmessages _ _ rfl]
    rcases Db.mem_append.mp ho with ho | rfl
    · exact h.posted o ho
    · exact hnew.symm
  · intro o ho
    rw [Db.rows_append_ne (by decide)] at ho
    rw [receiptsOf_rows (s := s) (by simp)]
    rcases Db.mem_append.mp ho with ho | rfl
    · exact h.read o ho
    · exact ⟨hunread.symm,Nat.zero_le _⟩

end Meters

section Runs
variable {hash : Bytes → Blake3Digest} {ok : Store → CommandRequest → Prop} {s : Store}
  {r : CommandRequest}

abbrev forumTables : List Tbl :=
  [.studyForumThreads,.studyForumMessages,.studyForumExposures,.studyActorObligations,
    .studyActorOccurrences,.studyForumReadReceipts]

theorem releaseMatchedCorrection_forum (hv : s.Valid) (ht : Threaded s) (hm : Metered s)
    (cmd : CommandRowId) (i : StudyPairId) (a b : ForumThreadId) (correction : ForumMessageBody) :
    Tx.wp (releaseMatchedCorrection hash cmd i a b correction)
      (fun _ s' => Threaded s' ∧ Metered s') s := by
  simp only [releaseMatchedCorrection,Tx.wp_bind,Tx.wp_get,wp_studyEpisodeRow,wp_protocolRow,
    Tx.wp_require,Tx.wp_pure]
  intro pair _ episode _ protocol _ _
  have hone {s : Store} (hv : s.Valid) (ht : Threaded s) (hm : Metered s) (i : StudyEpisodeId)
      (thread : ForumThreadId) := Tx.wp_and (Tx.wp_valid (releaseCorrectionForEpisode
        (W := [.studyForumMessages,.studyForumThreads,.studyForumExposures,.studyEpisodes])
        hash cmd i thread correction) hv)
    (Tx.wp_and (releaseCorrectionForEpisode_threaded hash hv ht cmd i thread correction (by decide)
      (by decide) (by decide) (by decide))
      (releaseCorrectionForEpisode_metered hash hm cmd i thread correction (by decide) (by decide)
        (by decide) (by decide)))
  refine Tx.wp_mono (hone hv ht hm pair.retainedEpisodeId a) ?_
  rintro _ s₁ ⟨hv₁,ht₁,hm₁⟩
  exact Tx.wp_mono (hone hv₁ ht₁ hm₁ pair.resetEpisodeId b) (fun _ _ h => h.2)

theorem action_forum (hv : s.Valid) (ht : Threaded s) (hm : Metered s) (cmd : CommandRowId)
    (hw : ∃ t ∈ forumTables,t ∈ (r.action hash).writes) :
    Tx.wp ((r.action hash).body cmd) (fun _ s' => Threaded s' ∧ Metered s') s := by
  obtain ⟨i,p,k,q,g,b⟩ := r
  cases b
  case studyTransition c =>
    cases c
    case openForumThread i title =>
      exact studyTransition_wp (Tx.wp_and (openForumThread_threaded hv ht cmd i title)
        (metered_reads.outside _ (of_decide_eq_true rfl) hm))
    case admitForumExposure i forum start =>
      exact studyTransition_wp (Tx.wp_and (admitForumExposure_threaded ht cmd i forum start)
        (metered_reads.outside _ (of_decide_eq_true rfl) hm))
    case publishForumMessage i kind body reply supersedes =>
      exact studyTransition_wp (Tx.wp_and
        (publishForumMessage_threaded hash hv ht cmd i kind body reply supersedes)
        (publishForumMessage_metered hash hv hm cmd i kind body reply supersedes))
    case retractForumMessage =>
      exact studyTransition_wp (Tx.wp_and (retractForumMessage_threaded ht _ _)
        (retractForumMessage_metered hm _ _))
    case releaseMatchedCorrection =>
      exact studyTransition_wp (releaseMatchedCorrection_forum hv ht hm cmd _ _ _ _)
    case admitActorObligation =>
      exact studyTransition_wp (Tx.wp_and (threaded_reads.outside _ (of_decide_eq_true rfl) ht)
        (admitActorObligation_metered hv hm cmd _ _ _ _ _ _ _ _ _))
    case completeActorObligation =>
      exact studyTransition_wp (Tx.wp_and (threaded_reads.outside _ (of_decide_eq_true rfl) ht)
        (completeActorObligation_metered hm cmd _ _))
    case failActorObligation =>
      exact studyTransition_wp (Tx.wp_and (threaded_reads.outside _ (of_decide_eq_true rfl) ht)
        (failActorObligation_metered hm cmd _ _))
    case readForum =>
      exact studyTransition_wp (Tx.wp_and (threaded_reads.outside _ (of_decide_eq_true rfl) ht)
        (readForum_metered hash hv hm _ cmd _ _ _))
    all_goals exact absurd hw (of_decide_eq_true rfl)
  all_goals exact absurd hw (of_decide_eq_true rfl)

theorem Reaches.forum (h : Reaches hash ok s) : Threaded s ∧ Metered s := by
  refine h.invariant (D := forumTables) (I := fun s => Threaded s ∧ Metered s) (by decide)
    ((threaded_reads.mono (by decide)).and (metered_reads.mono (by decide))) ?_ ?_
  · constructor <;> constructor <;> simp [Store.initial,Db.rows]
  · intro s r s₁ cmd _ _ hst hs₁ hw
    exact action_forum hst.valid hs₁.1 hs₁.2 cmd hw

end Runs
end Society.Kernel
