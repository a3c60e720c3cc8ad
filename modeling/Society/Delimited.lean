import Mathlib.Data.List.Induction

namespace Society.Coding
variable {α : Type} [DecidableEq α] {sep : α} {as bs : List α}

/-! Lists cut at a separator. -/

def cutStep (sep : α) (r : List (List α) × List α) (a : α) : List (List α) × List α :=
  if a=sep then (r.1++[r.2],[]) else (r.1,r.2++[a])

/-- The pieces that a separator ends, and what follows the last separator. -/
def cut (sep : α) (as : List α) : List (List α) × List α := as.foldl (cutStep sep) ([],[])

/-- All the pieces that separators divide a list into. -/
def pieces (sep : α) (as : List α) : List (List α) := (cut sep as).1++[(cut sep as).2]

theorem foldl_cutStep {r : List (List α) × List α} (h : sep∉as) :
    as.foldl (cutStep sep) r=(r.1,r.2++as) := by
  induction as generalizing r with
  | nil => simp
  | cons a as ih =>
    obtain ⟨ha,has⟩ := not_or.mp (mt List.mem_cons.mpr h)
    rw [List.foldl_cons,cutStep,if_neg (Ne.symm ha),ih has,List.append_assoc]
    rfl

/-- Without a separator only the open piece grows. -/
theorem cut_append (h : sep∉bs) : cut sep (as++bs)=((cut sep as).1,(cut sep as).2++bs) := by
  rw [cut,List.foldl_append]
  exact foldl_cutStep h

/-- A separator ends the open piece. -/
theorem cut_append_sep (h : sep∉bs) :
    cut sep (as++(bs++[sep]))=((cut sep as).1++[(cut sep as).2++bs],[]) := by
  rw [← List.append_assoc,cut,List.foldl_append]
  change cutStep sep (cut sep (as++bs)) sep=_
  rw [cut_append h,cutStep,if_pos rfl]

/-- Pieces that each end in the separator. -/
def closed (sep : α) (fields : List (List α)) : List α := fields.flatMap (·++[sep])

theorem cut_closed {fields : List (List α)} (h : ∀ l∈fields,sep∉l) :
    cut sep (closed sep fields)=(fields,[]) := by
  induction fields using List.reverseRecOn with
  | nil => rfl
  | append_singleton fields l ih =>
    have hfields := ih (fun x hx => h x (List.mem_append_left _ hx))
    have hl : sep∉l := h l (by simp)
    have hlast : closed sep (fields++[l])=closed sep fields++(l++[sep]) := by simp [closed]
    rw [hlast,cut_append_sep hl,hfields,List.nil_append]

theorem closed_injective {fields fields' : List (List α)} (h : ∀ l∈fields,sep∉l)
    (h' : ∀ l∈fields',sep∉l) (heq : closed sep fields=closed sep fields') : fields=fields' := by
  have hcut := congrArg (fun x => (cut sep x).1) heq
  simpa only [cut_closed h,cut_closed h'] using hcut

/-- What is cut once stays cut. -/
theorem cut_prefix (h : as<+:bs) : (cut sep as).1<+:(cut sep bs).1 := by
  obtain ⟨cs,rfl⟩ := h
  rw [cut,cut,List.foldl_append]
  generalize as.foldl (cutStep sep) ([],[])=r
  induction cs generalizing r with
  | nil => exact List.prefix_rfl
  | cons c cs ih =>
    refine List.IsPrefix.trans ?_ (ih (cutStep sep r c))
    unfold cutStep
    split
    · exact List.prefix_append _ _
    · exact List.prefix_rfl

/-- The pieces with their separators are the list again, and have no other separator. -/
theorem cut_spec (sep : α) (as : List α) :
    ((cut sep as).1.map (·++[sep])).flatten++(cut sep as).2=as ∧
      (∀ l∈(cut sep as).1,sep∉l) ∧ sep∉(cut sep as).2 := by
  induction as using List.reverseRecOn with
  | nil => simp [cut]
  | append_singleton as a ih =>
    obtain ⟨hall,hpieces,hopen⟩ := ih
    have hstep : cut sep (as++[a])=cutStep sep (cut sep as) a := by
      rw [cut,List.foldl_append]
      rfl
    rw [hstep,cutStep]
    by_cases ha : a=sep
    · rw [if_pos ha]
      refine ⟨?_,fun l hl => ?_,List.not_mem_nil⟩
      · simp only [List.map_append,List.flatten_append,List.map_cons,List.map_nil,
          List.flatten_cons,List.flatten_nil,List.append_nil]
        rw [← List.append_assoc,hall,ha]
      · rcases List.mem_append.mp hl with hl | hl
        · exact hpieces l hl
        · rw [List.mem_singleton.mp hl]
          exact hopen
    · rw [if_neg ha]
      refine ⟨?_,hpieces,?_⟩
      · rw [← List.append_assoc,hall]
      · simp [hopen,Ne.symm ha]

end Society.Coding
