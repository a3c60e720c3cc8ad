import Mathlib.Data.List.Basic
import Mathlib.Data.List.Chain

namespace Society.Coding

/-! Records of two kinds, written one after the other. One kind has a list that nothing counts
and nothing closes, so that its end is told by what follows. -/

/-- The words of the records. -/
structure Vocabulary (τ : Type) where
  check : τ
  program : τ
  digest : τ → Prop
  path : τ → Prop
  argument : τ → Prop
  distinct : check≠program
  check_open : ¬digest check
  program_open : ¬digest program
  path_open : ∀ p,path p → ¬digest p
  check_argument : argument check
  program_argument : argument program
  digest_argument : ∀ d,digest d → argument d

inductive OpenRecord (τ : Type) where
  | check (out err : τ)
  | program (path : τ) (args : List τ) (out err : τ)

namespace OpenRecord
variable {τ : Type}

def args : OpenRecord τ → List τ
  | check .. => []
  | program _ args .. => args

end OpenRecord

namespace Vocabulary
variable {τ : Type} (v : Vocabulary τ)

def fields : OpenRecord τ → List τ
  | .check out err => [v.check,out,err]
  | .program path args out err => v.program::path::(args++[out,err])

def text (xs : List (OpenRecord τ)) : List τ := xs.flatMap v.fields

/-- Each word of the record is of its kind. -/
def Sound : OpenRecord τ → Prop
  | .check out err => v.digest out ∧ v.digest err
  | .program path args out err =>
    v.path path ∧ (∀ a∈args,v.argument a) ∧ v.digest out ∧ v.digest err

/-- The list has a place where one record can end and another begin. -/
def Splits (args : List τ) : Prop :=
  ∃ a d e,v.digest d ∧ v.digest e ∧
    (args=a++[d,e,v.check] ∨ ∃ p b,v.path p ∧ args=a++d::e::v.program::p::b)

/-- The next record can be read as the end of the list. -/
def Joins : OpenRecord τ → OpenRecord τ → Prop
  | .program ..,.check .. => True
  | .program ..,.program path .. => v.argument path
  | .check ..,_ => False

def Unjoined (xs : List (OpenRecord τ)) : Prop := xs.IsChain (fun s t => ¬v.Joins s t)

def Unsplit (xs : List (OpenRecord τ)) : Prop := ∀ s∈xs,¬v.Splits s.args

section Reading
variable {v} {xs ys : List (OpenRecord τ)} {s : OpenRecord τ} {d h h' o e : τ} {b c r : List τ}

theorem text_check : v.text (.check o e::xs)=v.check::o::e::v.text xs := rfl

theorem text_program : v.text (.program d b o e::xs)=v.program::d::(b++o::e::v.text xs) := by
  simp [text,fields]

/-- No digest begins a record. -/
theorem text_starts (hd : v.digest d) : v.text ys≠d::r := by
  cases ys with
  | nil => simp [text]
  | cons t ys =>
    intro he
    cases t with
    | check out err =>
      have ht : v.check=d := (List.cons.inj he).1
      exact v.check_open (ht ▸ hd)
    | program path args out err =>
      have ht : v.program=d := (List.cons.inj he).1
      exact v.program_open (ht ▸ hd)

/-- A list that nothing joins does not run into the next record. -/
theorem ends (hx : v.Unjoined (.program d b o e::xs)) (hs : ∀ t∈xs,v.Sound t)
    (hc : ∀ a∈c,v.argument a) (hne : c≠[]) (hh : v.digest h) (hh' : v.digest h') :
    o::e::v.text xs≠c++h::h'::r := by
  intro heq
  match c with
  | [] => exact hne rfl
  | [_] => exact text_starts hh' (List.cons.inj (List.cons.inj heq).2).2
  | [_,_] => exact text_starts hh (List.cons.inj (List.cons.inj heq).2).2
  | _::_::c₃::c =>
    have htext : v.text xs=c₃::(c++h::h'::r) := (List.cons.inj (List.cons.inj heq).2).2
    cases xs with
    | nil => simp [text] at htext
    | cons t xs =>
      have hjoin := (List.isChain_cons_cons.mp hx).1
      cases t with
      | check out err => exact hjoin trivial
      | program path args out err =>
        rw [text_program] at htext
        have htail := (List.cons.inj htext).2
        have hpath : v.path path := (hs _ List.mem_cons_self).1
        cases c with
        | nil =>
          have hp : path=h := (List.cons.inj htail).1
          exact v.path_open path hpath (hp ▸ hh)
        | cons c₄ c =>
          have hp : path=c₄ := (List.cons.inj htail).1
          refine hjoin ?_
          rw [Joins,hp]
          exact hc c₄ (by simp)

/-- Two readings of a list end at the same place, or the first one ends earlier and begins a
new record there. -/
theorem ends_or_begins (hx : v.Unjoined (.program d r o e::xs)) (hs : ∀ t∈xs,v.Sound t)
    (hb : ∀ a∈b,v.argument a) (hh : v.digest h) (hh' : v.digest h') (ho : v.digest o)
    (he : v.digest e) (heq : b++h::h'::v.text ys=c++o::e::v.text xs) :
    (b=c ∧ h=o ∧ h'=e ∧ v.text ys=v.text xs) ∨
      ∃ r,r≠[] ∧ c=b++h::h'::r ∧ v.text ys=r++o::e::v.text xs := by
  rcases List.append_eq_append_iff.mp heq with ⟨x,rfl,hrest⟩ | ⟨x,rfl,hrest⟩
  · match x with
    | [] =>
      obtain ⟨h₁,hrest⟩ := List.cons.inj hrest
      obtain ⟨h₂,hrest⟩ := List.cons.inj hrest
      exact .inl ⟨by simp,h₁,h₂,hrest⟩
    | [_] => exact absurd (List.cons.inj (List.cons.inj hrest).2).2 (text_starts he)
    | [_,_] => exact absurd (List.cons.inj (List.cons.inj hrest).2).2 (text_starts ho)
    | x₁::x₂::x₃::x =>
      obtain ⟨h₁,hrest⟩ := List.cons.inj hrest
      obtain ⟨h₂,hrest⟩ := List.cons.inj hrest
      exact .inr ⟨x₃::x,by simp,by rw [h₁,h₂],hrest⟩
  · by_cases hne : x=[]
    · subst hne
      obtain ⟨h₁,hrest⟩ := List.cons.inj hrest
      obtain ⟨h₂,hrest⟩ := List.cons.inj hrest
      exact .inl ⟨by simp,h₁.symm,h₂.symm,hrest.symm⟩
    · exact absurd hrest (ends hx hs (fun a ha => hb a (List.mem_append_right _ ha)) hne hh hh')

/-- Records that end within a list end where the list does, and show where it splits. -/
theorem split_within (hx : v.Unjoined (.program d b o e::xs)) (hs : ∀ t∈xs,v.Sound t)
    (ho : v.digest o) (he : v.digest e) (hys : ∀ t∈ys,v.Sound t) (hr : r≠[])
    (heq : v.text ys=r++o::e::v.text xs) :
    (∃ zs,(∀ t∈zs,v.Sound t) ∧ v.text zs=v.text xs ∧ zs.length<ys.length) ∧
      ∀ a h h',v.digest h → v.digest h' → v.Splits (a++h::h'::r) := by
  induction ys generalizing r with
  | nil => simp [text] at heq
  | cons t ys ih =>
    obtain ⟨r₁,r,rfl⟩ := List.exists_cons_of_ne_nil hr
    have ht := hys t List.mem_cons_self
    have htail : ∀ u∈ys,v.Sound u := fun u hu => hys u (List.mem_cons_of_mem _ hu)
    cases t with
    | check k k' =>
      rw [text_check,List.cons_append] at heq
      obtain ⟨rfl,hrest⟩ := List.cons.inj heq
      rcases ends_or_begins (b := []) hx hs (by simp) ht.1 ht.2 ho he hrest with
        ⟨rfl,-,-,hsame⟩ | ⟨c,hc,rfl,hsame⟩
      · exact ⟨⟨ys,htail,hsame,by simp⟩,fun a h h' hh hh' => ⟨a,h,h',hh,hh',.inl rfl⟩⟩
      · obtain ⟨⟨zs,hz,hzt,hlt⟩,hsplit⟩ := ih htail hc hsame
        refine ⟨⟨zs,hz,hzt,Nat.lt_succ_of_lt hlt⟩,fun a h h' hh hh' => ?_⟩
        have := hsplit (a++[h,h',v.check]) k k' ht.1 ht.2
        simpa using this
    | program path args k k' =>
      rw [text_program,List.cons_append] at heq
      obtain ⟨rfl,hrest⟩ := List.cons.inj heq
      cases r with
      | nil =>
        have hp : path=o := (List.cons.inj hrest).1
        exact absurd (hp ▸ ho) (v.path_open path ht.1)
      | cons r₂ r =>
        rw [List.cons_append] at hrest
        obtain ⟨rfl,hafter⟩ := List.cons.inj hrest
        have hsplit : ∀ a h h',v.digest h → v.digest h' →
            v.Splits (a++h::h'::v.program::path::r) :=
          fun a h h' hh hh' => ⟨a,h,h',hh,hh',.inr ⟨path,r,ht.1,rfl⟩⟩
        rcases ends_or_begins hx hs ht.2.1 ht.2.2.1 ht.2.2.2 ho he hafter with
          ⟨-,-,-,hsame⟩ | ⟨c,hc,-,hsame⟩
        · exact ⟨⟨ys,htail,hsame,by simp⟩,hsplit⟩
        · obtain ⟨⟨zs,hz,hzt,hlt⟩,-⟩ := ih htail hc hsame
          exact ⟨⟨zs,hz,hzt,Nat.lt_succ_of_lt hlt⟩,hsplit⟩

/-- Where no record runs into the next, every other reading has more records. -/
theorem reading_unique (hx : v.Unjoined xs) (hs : ∀ t∈xs,v.Sound t) (hys : ∀ t∈ys,v.Sound t)
    (heq : v.text ys=v.text xs) : ys=xs ∨ xs.length<ys.length ∧ ¬v.Unsplit xs := by
  induction xs generalizing ys with
  | nil =>
    cases ys with
    | nil => exact .inl rfl
    | cons t ys => cases t <;> simp [text,fields] at heq
  | cons s xs ih =>
    have hxs : v.Unjoined xs := hx.tail
    have hsx : ∀ t∈xs,v.Sound t := fun t ht => hs t (List.mem_cons_of_mem _ ht)
    cases ys with
    | nil => cases s <;> simp [text,fields] at heq
    | cons t ys =>
      have hty : ∀ u∈ys,v.Sound u := fun u hu => hys u (List.mem_cons_of_mem _ hu)
      have hrest {zs : List (OpenRecord τ)} (hz : ∀ u∈zs,v.Sound u)
          (hzt : v.text zs=v.text xs) : zs=xs ∨ xs.length<zs.length ∧ ¬v.Unsplit (s::xs) := by
        rcases ih hxs hsx hz hzt with hsame | ⟨hlt,hns⟩
        · exact .inl hsame
        · exact .inr ⟨hlt,fun hall => hns (fun u hu => hall u (List.mem_cons_of_mem _ hu))⟩
      have hsound := hs s List.mem_cons_self
      have hsound' := hys t List.mem_cons_self
      cases s with
      | check o e =>
        cases t with
        | check h h' =>
          obtain ⟨h₁,hh⟩ := List.cons.inj (List.cons.inj heq).2
          obtain ⟨h₂,htext⟩ := List.cons.inj hh
          rcases hrest hty htext with rfl | ⟨hlt,hns⟩
          · exact .inl (by rw [h₁,h₂])
          · exact .inr ⟨Nat.succ_lt_succ hlt,hns⟩
        | program path args h h' => exact absurd (List.cons.inj heq).1.symm v.distinct
      | program path args o e =>
        cases t with
        | check h h' => exact absurd (List.cons.inj heq).1 v.distinct
        | program path' args' h h' =>
          rw [text_program,text_program] at heq
          obtain ⟨hpath,hfields⟩ := List.cons.inj (List.cons.inj heq).2
          rcases ends_or_begins hx hsx hsound'.2.1 hsound'.2.2.1 hsound'.2.2.2 hsound.2.2.1
              hsound.2.2.2 hfields with ⟨h₁,h₂,h₃,htext⟩ | ⟨c,hc,rfl,htext⟩
          · rcases hrest hty htext with rfl | ⟨hlt,hns⟩
            · exact .inl (by rw [hpath,h₁,h₂,h₃])
            · exact .inr ⟨Nat.succ_lt_succ hlt,hns⟩
          · obtain ⟨⟨zs,hz,hzt,hlt⟩,hsplit⟩ :=
              split_within hx hsx hsound.2.2.1 hsound.2.2.2 hty hc htext
            have hle : xs.length≤zs.length := by
              rcases hrest hz hzt with rfl | ⟨hlt,-⟩
              · exact Nat.le_refl _
              · exact Nat.le_of_lt hlt
            refine .inr ⟨by simp only [List.length_cons]; omega,fun hall => ?_⟩
            exact hall _ List.mem_cons_self (hsplit args' h h' hsound'.2.2.1 hsound'.2.2.2)

end Reading

section Ambiguity
variable {v} {xs : List (OpenRecord τ)}

theorem text_append (xs ys : List (OpenRecord τ)) : v.text (xs++ys)=v.text xs++v.text ys := by
  simp [text]

/-- Where a record runs into the next one, the two read as one. -/
theorem joined_reading (hx : ¬v.Unjoined xs) (hs : ∀ t∈xs,v.Sound t) :
    ∃ ys,(∀ t∈ys,v.Sound t) ∧ v.text ys=v.text xs ∧ ys.length<xs.length := by
  induction xs with
  | nil => exact absurd List.isChain_nil hx
  | cons s xs ih =>
    cases xs with
    | nil => exact absurd (List.isChain_singleton s) hx
    | cons t xs =>
      have htail : ∀ u∈t::xs,v.Sound u := fun u hu => hs u (List.mem_cons_of_mem _ hu)
      have hrest : ∀ u∈xs,v.Sound u := fun u hu => htail u (List.mem_cons_of_mem _ hu)
      by_cases hj : v.Joins s t
      · have hsound := hs s List.mem_cons_self
        have hnext := htail t List.mem_cons_self
        cases s with
        | check o e => exact hj.elim
        | program path args o e =>
          have ho := v.digest_argument o hsound.2.2.1
          have he := v.digest_argument e hsound.2.2.2
          cases t with
          | check k k' =>
            refine ⟨.program path (args++[o,e,v.check]) k k'::xs,?_,?_,by simp⟩
            · refine List.forall_mem_cons.mpr ⟨⟨hsound.1,?_,hnext⟩,hrest⟩
              intro a ha
              rcases List.mem_append.mp ha with ha | ha
              · exact hsound.2.1 a ha
              · simp only [List.mem_cons,List.not_mem_nil,or_false] at ha
                rcases ha with rfl | rfl | rfl
                · exact ho
                · exact he
                · exact v.check_argument
            · simp [text_program,text_check]
          | program path' args' k k' =>
            refine ⟨.program path (args++o::e::v.program::path'::args') k k'::xs,?_,?_,by simp⟩
            · refine List.forall_mem_cons.mpr ⟨⟨hsound.1,?_,hnext.2.2⟩,hrest⟩
              intro a ha
              rcases List.mem_append.mp ha with ha | ha
              · exact hsound.2.1 a ha
              · simp only [List.mem_cons] at ha
                rcases ha with rfl | rfl | rfl | rfl | ha
                · exact ho
                · exact he
                · exact v.program_argument
                · exact hj
                · exact hnext.2.1 a ha
            · simp [text_program]
      · have htailed : ¬v.Unjoined (t::xs) := fun h => hx (List.isChain_cons_cons.mpr ⟨hj,h⟩)
        obtain ⟨ys,hys,htext,hlt⟩ := ih htailed htail
        refine ⟨s::ys,List.forall_mem_cons.mpr ⟨hs s List.mem_cons_self,hys⟩,?_,?_⟩
        · exact congrArg (v.fields s++·) htext
        · simpa using hlt

/-- A record whose list splits reads as two. -/
theorem split_reading (hx : ¬v.Unsplit xs) (hs : ∀ t∈xs,v.Sound t) :
    ∃ ys,(∀ t∈ys,v.Sound t) ∧ v.text ys=v.text xs ∧ ys.length=xs.length+1 := by
  obtain ⟨s,hmem,hsplits⟩ : ∃ s∈xs,v.Splits s.args := by simpa [Unsplit] using hx
  obtain ⟨a,d,e,hd,he,hcase⟩ := hsplits
  obtain ⟨pre,post,rfl⟩ := List.append_of_mem hmem
  have hpre : ∀ t∈pre,v.Sound t := fun t ht => hs t (List.mem_append_left _ ht)
  have hpost : ∀ t∈post,v.Sound t :=
    fun t ht => hs t (List.mem_append_right _ (List.mem_cons_of_mem _ ht))
  have hsound := hs s (by simp)
  cases s with
  | check o k => simp [OpenRecord.args] at hcase
  | program path args o k =>
    rcases hcase with hargs | ⟨p,b,hp,hargs⟩
    · have hargs : args=a++[d,e,v.check] := hargs
      subst hargs
      refine ⟨pre++.program path a d e::.check o k::post,?_,?_,
        by simp only [List.length_append,List.length_cons]; omega⟩
      · refine List.forall_mem_append.mpr ⟨hpre,List.forall_mem_cons.mpr ⟨?_,?_⟩⟩
        · exact ⟨hsound.1,fun x hx => hsound.2.1 x (List.mem_append_left _ hx),hd,he⟩
        · exact List.forall_mem_cons.mpr ⟨hsound.2.2,hpost⟩
      · simp [text_append,text_program,text_check]
    · have hargs : args=a++d::e::v.program::p::b := hargs
      subst hargs
      refine ⟨pre++.program path a d e::.program p b o k::post,?_,?_,
        by simp only [List.length_append,List.length_cons]; omega⟩
      · refine List.forall_mem_append.mpr ⟨hpre,List.forall_mem_cons.mpr ⟨?_,?_⟩⟩
        · exact ⟨hsound.1,fun x hx => hsound.2.1 x (List.mem_append_left _ hx),hd,he⟩
        · refine List.forall_mem_cons.mpr ⟨⟨hp,fun x hx => ?_,hsound.2.2⟩,hpost⟩
          exact hsound.2.1 x (by simp [hx])
      · simp [text_append,text_program]

/-- Records can be read in one way only just when none runs into the next and no list splits. -/
theorem reading_unique_iff (hs : ∀ t∈xs,v.Sound t) :
    (∀ ys,(∀ t∈ys,v.Sound t) → v.text ys=v.text xs → ys=xs) ↔ v.Unjoined xs ∧ v.Unsplit xs := by
  constructor
  · intro h
    refine ⟨?_,?_⟩
    · by_contra hx
      obtain ⟨ys,hys,htext,hlt⟩ := joined_reading hx hs
      rw [h ys hys htext] at hlt
      exact Nat.lt_irrefl _ hlt
    · by_contra hx
      obtain ⟨ys,hys,htext,hlen⟩ := split_reading hx hs
      rw [h ys hys htext] at hlen
      omega
  · rintro ⟨hj,hu⟩ ys hys htext
    rcases reading_unique hj hs hys htext with hsame | ⟨-,hsplit⟩
    · exact hsame
    · exact absurd hu hsplit

/-- The same among at most `limit` records. -/
theorem bounded_reading_unique_iff {limit : Nat} (hs : ∀ t∈xs,v.Sound t) (hl : xs.length≤limit) :
    (∀ ys,(∀ t∈ys,v.Sound t) → ys.length≤limit → v.text ys=v.text xs → ys=xs) ↔
      v.Unjoined xs ∧ (xs.length=limit ∨ v.Unsplit xs) := by
  constructor
  · intro h
    refine ⟨?_,?_⟩
    · by_contra hx
      obtain ⟨ys,hys,htext,hlt⟩ := joined_reading hx hs
      rw [h ys hys (by omega) htext] at hlt
      exact Nat.lt_irrefl _ hlt
    · by_contra hx
      obtain ⟨hne,hx⟩ := not_or.mp hx
      obtain ⟨ys,hys,htext,hlen⟩ := split_reading hx hs
      rw [h ys hys (by omega) htext] at hlen
      omega
  · rintro ⟨hj,hu⟩ ys hys hle htext
    rcases reading_unique hj hs hys htext with hsame | ⟨hlt,hsplit⟩
    · exact hsame
    · rcases hu with hfull | hu
      · omega
      · exact absurd hu hsplit

end Ambiguity
end Vocabulary
end Society.Coding
