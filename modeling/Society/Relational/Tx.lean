import Society.Relational.Db

namespace Society.Relational
variable {T : Type} [Schema T]

/-- A transaction body over the schema `T` that writes only the tables of `W`. The state
at a failure is kept, because identity sequences survive the rollback. -/
structure Tx (W : List T) (ε α : Type) where
  run : Db T → Except ε α × Db T
  frame : ∀ (s : Db T) t,t ∉ W → (run s).2 t=s t
  grows : ∀ s : Db T,s.Le (run s).2
  keeps : ∀ s : Db T,s.Valid → (run s).2.Valid

namespace Tx
variable {W W' : List T} {ε α β : Type}

def ret (a : α) : Tx W ε α where
  run s := (.ok a,s)
  frame _ _ _ := rfl
  grows s := Db.Le.refl s
  keeps _ h := h

def raise (e : ε) : Tx W ε α where
  run s := (.error e,s)
  frame _ _ _ := rfl
  grows s := Db.Le.refl s
  keeps _ h := h

def andThen (m : Tx W ε α) (f : α → Tx W ε β) : Tx W ε β where
  run s := match m.run s with
    | (.ok a,s') => (f a).run s'
    | (.error e,s') => (.error e,s')
  frame s t h := by
    have hm := m.frame s t h
    split
    · next a s' he => rw [he] at hm; exact ((f a).frame s' t h).trans hm
    · next e s' he => rw [he] at hm; exact hm
  grows s := by
    have hm := m.grows s
    split
    · next a s' he => rw [he] at hm; exact hm.trans ((f a).grows s')
    · next e s' he => rw [he] at hm; exact hm
  keeps s hv := by
    have hm := m.keeps s hv
    split
    · next a s' he => rw [he] at hm; exact (f a).keeps s' hm
    · next e s' he => rw [he] at hm; exact hm

instance : Monad (Tx (T := T) W ε) where
  pure := ret
  bind := andThen

/-- A `SELECT`: the value of a query in the current state. -/
def read (q : Db T → α) : Tx W ε α where
  run s := (.ok (q s),s)
  frame _ _ _ := rfl
  grows s := Db.Le.refl s
  keeps _ h := h

/-- A query that may refuse. -/
def query (q : Db T → Except ε α) : Tx W ε α where
  run s := (q s,s)
  frame _ _ _ := rfl
  grows s := Db.Le.refl s
  keeps _ h := h

def require (c : Bool) (e : ε) : Tx W ε Unit := if c then ret () else raise e

def the (o : Option α) (e : ε) : Tx W ε α :=
  match o with
  | some a => ret a
  | none => raise e

/-- The row of `t` with primary key `k`. -/
def get (t : T) (k : Id t) (e : ε) : Tx W ε (Row t) :=
  andThen (read (fun s => s.find t k)) (fun o => the o e)

def each (f : α → Tx W ε Unit) : List α → Tx W ε Unit
  | [] => ret ()
  | a::as => andThen (f a) (fun _ => each f as)

def widen (m : Tx W ε α) (h : ∀ t ∈ W,t ∈ W') : Tx W' ε α where
  run := m.run
  frame s t ht := m.frame s t (fun hw => ht (h t hw))
  grows := m.grows
  keeps := m.keeps

/-- `SAVEPOINT .. ROLLBACK TO`: a refusal inside becomes a value and undoes the rows. -/
def savepoint {ε' : Type} (m : Tx W ε α) : Tx W ε' (Except ε α) where
  run s := match m.run s with
    | (.ok a,s') => (.ok (.ok a),s')
    | (.error e,s') => (.ok (.error e),s.rollback s')
  frame s t h := by
    have hm := m.frame s t h
    split
    · next a s' he => rw [he] at hm; exact hm
    · next e s' he => rw [he] at hm; exact Db.rollback_same hm
  grows s := by
    have hm := m.grows s
    split
    · next a s' he => rw [he] at hm; exact hm
    · next e s' he => rw [he] at hm; exact Db.rollback_le hm
  keeps s hv := by
    have hm := m.keeps s hv
    have hg := m.grows s
    split
    · next a s' he => rw [he] at hm; exact hm
    · next e s' he => rw [he] at hg; exact Db.rollback_valid hv hg

/-- The outermost transaction: a failure undoes every row. -/
def commit (m : Tx W ε α) (s : Db T) : Except ε α × Db T :=
  match m.run s with
  | (.ok a,s') => (.ok a,s')
  | (.error e,s') => (.error e,s.rollback s')

end Tx

namespace Db

def admits (s : Db T) (t : T) (r : Row t) : Bool :=
  check t r && s.linked t r && (s.rows t).all (fun a => !conflict t a r)

def modified (s : Db T) (t : T) (p : Row t → Bool) (f : Row t → Option (Row t)) : List (Row t) :=
  (s.rows t).map (fun r => if p r then (f r).getD r else r)

/-- Pairwise absence of unique-constraint conflicts. -/
def apart (t : T) : List (Row t) → Bool
  | [] => true
  | r::rs => rs.all (fun a => !conflict t r a) && apart t rs

/-- The constraints of an `UPDATE` are checked on the rows that it changes. -/
def admitsModified (s : Db T) (t : T) (p : Row t → Bool) (f : Row t → Option (Row t)) : Bool :=
  ((s.rows t).filter p).all (fun r => (f r).any (fun r' => check t r' && s.linked t r' &&
    (s.rows t).all (fun a => p a || (!conflict t a r' && !conflict t r' a)))) &&
  apart t (((s.rows t).filter p).filterMap f)

theorem apart_iff (t : T) (rs : List (Row t)) :
    apart t rs=true ↔ rs.Pairwise (fun a b => conflict t a b=false) := by
  induction rs with
  | nil => simp [apart]
  | cons r rs ih => simp [apart,ih]

/-- The constraints of one table, as a check on its rows. -/
def sound (s : Db T) (t : T) : Bool :=
  decide (0<(s t).next) &&
  (!serial t || decide ((s.rows t).Pairwise (fun a b => key t a<key t b)) &&
    (s.rows t).all (fun r => key t r<(s t).next)) &&
  apart t (s.rows t) && (s.rows t).all (fun r => check t r && s.linked t r)

theorem valid_of_sound {s : Db T} (h : ∀ t,s.sound t=true) : s.Valid := by
  have hs t : 0<(s t).next ∧ (serial t=true → (s.rows t).Pairwise (fun a b => key t a<key t b) ∧
      ∀ r ∈ s.rows t,key t r<(s t).next) ∧ (s.rows t).Pairwise (fun a b => conflict t a b=false) ∧
      ∀ r ∈ s.rows t,check t r=true ∧ s.linked t r=true := by
    have ht := h t
    simp only [sound,Bool.and_eq_true,decide_eq_true_eq,apart_iff,List.all_eq_true] at ht
    obtain ⟨⟨⟨hn,ho⟩,hu⟩,hc⟩ := ht
    refine ⟨hn,fun hser => ?_,hu,hc⟩
    simpa [hser] using ho
  exact ⟨fun t => (hs t).1,fun t ht => ((hs t).2.1 ht).1,fun t ht => ((hs t).2.1 ht).2,
    fun t => (hs t).2.2.1,fun t r hr => ((hs t).2.2.2 r hr).1,fun t r hr => ((hs t).2.2.2 r hr).2⟩

/-- An update keeps the unique constraints if the changed rows agree with each other and
with the rest. -/
theorem pairwise_modified {α : Type} {R : α → α → Prop} {p : α → Bool} {f : α → Option α}
    {rs : List α} (hr : rs.Pairwise R) (hf : ((rs.filter p).filterMap f).Pairwise R)
    (hp : ∀ r ∈ rs,p r=true → ∃ r',f r=some r' ∧ ∀ a ∈ rs,p a=false → R a r' ∧ R r' a) :
    (rs.map (fun r => if p r then (f r).getD r else r)).Pairwise R := by
  induction rs with
  | nil => exact List.Pairwise.nil
  | cons r rs ih =>
    have hrest := List.pairwise_cons.mp hr
    have hp' : ∀ x ∈ rs,p x=true → ∃ x',f x=some x' ∧ ∀ a ∈ rs,p a=false → R a x' ∧ R x' a := by
      intro x hx hpx
      obtain ⟨x',hx',ha⟩ := hp x (List.mem_cons_of_mem r hx) hpx
      exact ⟨x',hx',fun a hm => ha a (List.mem_cons_of_mem r hm)⟩
    have hf' : ((rs.filter p).filterMap f).Pairwise R := by
      cases hpr : p r with
      | false => rwa [List.filter_cons_of_neg (by simp [hpr])] at hf
      | true =>
        obtain ⟨r',hr',_⟩ := hp r List.mem_cons_self hpr
        rw [List.filter_cons_of_pos hpr,List.filterMap_cons_some hr'] at hf
        exact hf.of_cons
    rw [List.map_cons,List.pairwise_cons]
    refine ⟨?_,ih hrest.2 hf' hp'⟩
    intro b hb
    obtain ⟨a,ha,rfl⟩ := List.mem_map.mp hb
    cases hpr : p r with
    | false =>
      cases hpa : p a with
      | false => simpa using hrest.1 a ha
      | true =>
        obtain ⟨a',ha',hn⟩ := hp' a ha hpa
        obtain ⟨a'',ha'',hn⟩ := hp a (List.mem_cons_of_mem r ha) hpa
        rw [ha'] at ha''
        cases ha''
        simpa [ha'] using (hn r List.mem_cons_self hpr).1
    | true =>
      obtain ⟨r',hr',hn⟩ := hp r List.mem_cons_self hpr
      rw [List.filter_cons_of_pos hpr,List.filterMap_cons_some hr',List.pairwise_cons] at hf
      cases hpa : p a with
      | false => simpa [hr'] using (hn a (List.mem_cons_of_mem r ha) hpa).2
      | true =>
        obtain ⟨a',ha',_⟩ := hp' a ha hpa
        have hm := List.mem_filterMap.mpr ⟨a,List.mem_filter.mpr ⟨ha,hpa⟩,ha'⟩
        simpa [hr',ha'] using hf.1 a' hm

private theorem modified_key {t : T} {p : Row t → Bool} {f : Row t → Option (Row t)}
    (hk : ∀ r r',f r=some r' → key t r'=key t r) (r : Row t) :
    key t (if p r then (f r).getD r else r)=key t r := by
  split
  · cases hf : f r with
    | none => rfl
    | some r' => exact hk r r' hf
  · rfl

variable [DecidableEq T]

/-- Advances the identity sequence of `t`. -/
def draw (s : Db T) (t : T) : Db T := s.put t ⟨s.rows t,(s t).next+1⟩

def append (s : Db T) (t : T) (r : Row t) (n : Nat) : Db T := s.put t ⟨s.rows t++[r],n⟩

def modify (s : Db T) (t : T) (p : Row t → Bool) (f : Row t → Option (Row t)) : Db T :=
  s.put t ⟨s.modified t p f,(s t).next⟩

@[simp] theorem draw_rows (s : Db T) (t u : T) : (s.draw t).rows u=s.rows u := by
  by_cases h : u=t
  · subst h; simp [rows,draw]
  · simp [rows,draw,h]

@[simp] theorem append_same (s : Db T) (t : T) (r : Row t) (n : Nat) :
    s.append t r n t=⟨s.rows t++[r],n⟩ := put_same s t _

@[simp] theorem append_ne (s : Db T) {t u : T} (r : Row t) (n : Nat) (h : u≠t) :
    s.append t r n u=s u := put_ne s _ h

@[simp] theorem modify_same (s : Db T) (t : T) (p : Row t → Bool) (f : Row t → Option (Row t)) :
    s.modify t p f t=⟨s.modified t p f,(s t).next⟩ := put_same s t _

@[simp] theorem modify_ne (s : Db T) {t u : T} (p : Row t → Bool) (f : Row t → Option (Row t))
    (h : u≠t) : s.modify t p f u=s u := put_ne s _ h

omit [DecidableEq T] in
theorem mem_modified {s : Db T} {t : T} {p : Row t → Bool} {f : Row t → Option (Row t)}
    {r : Row t} : r ∈ s.modified t p f ↔
      ∃ a ∈ s.rows t,r=if p a then (f a).getD a else a := by
  simp only [modified,List.mem_map,eq_comm]

theorem put_le {s : Db T} {t : T} {x : Table (Row t)} (hn : (s t).next≤x.next)
    (hh : ∀ r ∈ s.rows t,∃ r' ∈ x.rows,key t r'=key t r) : s.Le (s.put t x) where
  next u := by
    by_cases hu : u=t
    · subst hu; simpa using hn
    · simp [hu]
  has u k hk := by
    by_cases hu : u=t
    · subst hu
      obtain ⟨r,hr,he⟩ := has_iff.mp hk
      obtain ⟨r',hr',he'⟩ := hh r hr
      exact has_iff.mpr ⟨r',by simpa [rows] using hr',he'.trans he⟩
    · simpa [has,rows,hu] using hk

theorem put_valid {s : Db T} {t : T} {x : Table (Row t)} (hv : s.Valid)
    (hn : (s t).next≤x.next) (hh : ∀ r ∈ s.rows t,∃ r' ∈ x.rows,key t r'=key t r)
    (ho : serial t=true → x.rows.Pairwise (fun a b => key t a<key t b))
    (hf : serial t=true → ∀ r ∈ x.rows,key t r<x.next)
    (hu : x.rows.Pairwise (fun a b => conflict t a b=false))
    (hc : ∀ r ∈ x.rows,check t r=true) (hl : ∀ r ∈ x.rows,s.linked t r=true) :
    (s.put t x).Valid := by
  have hle := put_le hn hh
  have split {P : ∀ u,Table (Row u) → Prop} (h₁ : P t x) (h₂ : ∀ u,P u (s u)) :
      ∀ u,P u (s.put t x u) := by
    intro u
    by_cases he : u=t
    · subst he; simpa using h₁
    · simpa [he] using h₂ u
  refine ⟨?_,?_,?_,?_,?_,?_⟩
  · exact fun u => Nat.lt_of_lt_of_le (hv.positive u) (hle.next u)
  · exact split (P := fun u y => serial u=true → y.rows.Pairwise _) ho hv.ordered
  · exact split (P := fun u y => serial u=true → ∀ r ∈ y.rows,key u r<y.next) hf hv.fresh
  · exact split (P := fun u y => y.rows.Pairwise _) hu hv.unique
  · exact split (P := fun u y => ∀ r ∈ y.rows,check u r=true) hc hv.checked
  · exact split (P := fun u y => ∀ r ∈ y.rows,(s.put t x).linked u r=true)
      (fun r hr => hle.linked (hl r hr)) (fun u r hr => hle.linked (hv.linked u r hr))

theorem draw_le (s : Db T) (t : T) : s.Le (s.draw t) :=
  put_le (Nat.le_succ _) (fun r hr => ⟨r,hr,rfl⟩)

theorem draw_valid {s : Db T} (hv : s.Valid) (t : T) : (s.draw t).Valid :=
  put_valid hv (Nat.le_succ _) (fun r hr => ⟨r,hr,rfl⟩) (hv.ordered t)
    (fun ht r hr => Nat.lt_succ_of_lt (hv.fresh t ht r hr)) (hv.unique t) (hv.checked t)
    (hv.linked t)

theorem append_le {s : Db T} {t : T} {r : Row t} {n : Nat} (hn : (s t).next≤n) :
    s.Le (s.append t r n) :=
  put_le hn (fun a ha => ⟨a,List.mem_append_left _ ha,rfl⟩)

theorem append_valid {s : Db T} {t : T} {r : Row t} {n : Nat} (hv : s.Valid)
    (hn : (s t).next≤n) (ho : serial t=true → key t r=(s t).next ∧ (s t).next<n)
    (ha : s.admits t r=true) : (s.append t r n).Valid := by
  simp only [admits,Bool.and_eq_true,List.all_eq_true,Bool.not_eq_eq_eq_not,Bool.not_true] at ha
  refine put_valid hv hn (fun a ha => ⟨a,List.mem_append_left _ ha,rfl⟩) ?_ ?_ ?_ ?_ ?_
  · intro ht
    refine List.pairwise_append.mpr ⟨hv.ordered t ht,List.pairwise_singleton _ _,?_⟩
    intro a ha' b hb
    rw [List.mem_singleton.mp hb,(ho ht).1]
    exact hv.fresh t ht a ha'
  · intro ht a hm
    rcases List.mem_append.mp hm with h | h
    · exact Nat.lt_of_lt_of_le (hv.fresh t ht a h) hn
    · rw [List.mem_singleton.mp h,(ho ht).1]; exact (ho ht).2
  · refine List.pairwise_append.mpr ⟨hv.unique t,List.pairwise_singleton _ _,?_⟩
    intro a hm b hb
    rw [List.mem_singleton.mp hb]
    exact ha.2 a hm
  · intro a hm
    rcases List.mem_append.mp hm with h | h
    · exact hv.checked t a h
    · rw [List.mem_singleton.mp h]; exact ha.1.1
  · intro a hm
    rcases List.mem_append.mp hm with h | h
    · exact hv.linked t a h
    · rw [List.mem_singleton.mp h]; exact ha.1.2

variable {s : Db T} {t : T} {p : Row t → Bool} {f : Row t → Option (Row t)}

theorem modify_le (hk : ∀ r r',f r=some r' → key t r'=key t r) : s.Le (s.modify t p f) :=
  put_le (Nat.le_refl _) (fun r hr => ⟨_,List.mem_map.mpr ⟨r,hr,rfl⟩,modified_key hk r⟩)

omit [DecidableEq T] in
theorem admitsModified_iff :
    s.admitsModified t p f=true ↔
      (∀ r ∈ s.rows t,p r=true → ∃ r',f r=some r' ∧ check t r'=true ∧ s.linked t r'=true ∧
        ∀ a ∈ s.rows t,p a=false → conflict t a r'=false ∧ conflict t r' a=false) ∧
      (((s.rows t).filter p).filterMap f).Pairwise (fun a b => conflict t a b=false) := by
  simp only [admitsModified,Bool.and_eq_true,List.all_eq_true,List.mem_filter,apart_iff,
    Option.any_eq_true,Bool.or_eq_true,Bool.not_eq_eq_eq_not,Bool.not_true,and_imp]
  refine and_congr_left (fun _ => forall_congr' fun r => forall_congr' fun hr =>
    forall_congr' fun hp => exists_congr fun r' => and_congr_right fun _ => ?_)
  constructor
  · rintro ⟨⟨hc,hl⟩,ha⟩
    exact ⟨hc,hl,fun a hm hpa => (ha a hm).resolve_left (by simp [hpa])⟩
  · rintro ⟨hc,hl,ha⟩
    refine ⟨⟨hc,hl⟩,fun a hm => ?_⟩
    cases hpa : p a with
    | true => exact .inl rfl
    | false => exact .inr (ha a hm hpa)

theorem modify_valid (hk : ∀ r r',f r=some r' → key t r'=key t r) (hv : s.Valid)
    (ha : s.admitsModified t p f=true) : (s.modify t p f).Valid := by
  obtain ⟨hm,hf⟩ := admitsModified_iff.mp ha
  -- an untouched row satisfies what it satisfied before
  have hrow {P : Row t → Prop} (h₁ : ∀ r ∈ s.rows t,P r)
      (h₂ : ∀ r ∈ s.rows t,p r=true → ∀ r',f r=some r' → P r') : ∀ r ∈ s.modified t p f,P r := by
    intro r hr
    obtain ⟨a,hra,rfl⟩ := List.mem_map.mp hr
    cases hpa : p a with
    | false => simpa using h₁ a hra
    | true =>
      obtain ⟨a',ha',_⟩ := hm a hra hpa
      simpa [ha'] using h₂ a hra hpa a' ha'
  have hgood : ∀ r ∈ s.rows t,p r=true → ∀ r',f r=some r' → check t r'=true ∧ s.linked t r'=true := by
    intro r hr hpr r' hr'
    obtain ⟨r'',hr'',hc,hl,_⟩ := hm r hr hpr
    rw [hr'] at hr''
    cases hr''
    exact ⟨hc,hl⟩
  refine put_valid hv (Nat.le_refl _)
    (fun r hr => ⟨_,List.mem_map.mpr ⟨r,hr,rfl⟩,modified_key hk r⟩) ?_ ?_ ?_ ?_ ?_
  · intro ht
    refine List.pairwise_map.mpr ((hv.ordered t ht).imp ?_)
    intro a b hab
    rw [modified_key hk,modified_key hk]
    exact hab
  · intro ht r hr
    obtain ⟨a,hm,rfl⟩ := List.mem_map.mp hr
    rw [modified_key hk]
    exact hv.fresh t ht a hm
  · refine pairwise_modified (hv.unique t) hf ?_
    intro r hr hpr
    obtain ⟨r',hr',_,_,hc⟩ := hm r hr hpr
    exact ⟨r',hr',hc⟩
  · exact hrow (hv.checked t) (fun r hr hpr r' hr' => (hgood r hr hpr r' hr').1)
  · exact hrow (hv.linked t) (fun r hr hpr r' hr' => (hgood r hr hpr r' hr').2)

end Db

namespace Tx
variable [DecidableEq T] {W : List T} {ε α β : Type}

private theorem put_frame {s : Db T} {t u : T} {x : Table (Row t)} (ht : t ∈ W) (hu : u ∉ W) :
    s.put t x u=s u := Db.put_ne _ _ (fun h => hu (h ▸ ht))

/-- `INSERT` of a row whose key is drawn from the identity sequence. A refused row has
already consumed its identity. -/
def insert (t : T) (mk : Id t → Row t) (e : ε) (ht : t ∈ W := by decide)
    (hs : ∀ i,key t (mk i)=i.val := by exact id fun _ => rfl) : Tx W ε (Id t) where
  run s :=
    if h : 0<(s t).next ∧ (s t).next<bigintLimit then
      if s.admits t (mk ⟨(s t).next,h⟩) then
        (.ok ⟨(s t).next,h⟩,s.append t (mk ⟨(s t).next,h⟩) ((s t).next+1))
      else (.error e,s.draw t)
    else (.error e,s)
  frame s u hu := by
    split
    · split <;> exact put_frame ht hu
    · rfl
  grows s := by
    split
    · split
      · exact Db.append_le (Nat.le_succ _)
      · exact Db.draw_le s t
    · exact Db.Le.refl s
  keeps s hv := by
    split
    · split
      · next h ha => exact Db.append_valid hv (Nat.le_succ _) (fun _ => ⟨hs _,Nat.lt_succ_self _⟩) ha
      · exact Db.draw_valid hv t
    · exact hv

/-- `INSERT .. ON CONFLICT DO NOTHING`: the sequence advances also when a row that the
conflict target matches is already there. -/
def insertUnless (t : T) (mk : Id t → Row t) (same : Row t → Row t → Bool) (e : ε)
    (ht : t ∈ W := by decide) (hs : ∀ i,key t (mk i)=i.val := by exact id fun _ => rfl) :
    Tx W ε Unit where
  run s :=
    if h : 0<(s t).next ∧ (s t).next<bigintLimit then
      if (s.rows t).any (same (mk ⟨(s t).next,h⟩)) then (.ok (),s.draw t)
      else if s.admits t (mk ⟨(s t).next,h⟩) then
        (.ok (),s.append t (mk ⟨(s t).next,h⟩) ((s t).next+1))
      else (.error e,s.draw t)
    else (.error e,s)
  frame s u hu := by
    split
    · split
      · exact put_frame ht hu
      · split <;> exact put_frame ht hu
    · rfl
  grows s := by
    split
    · split
      · exact Db.draw_le s t
      · split
        · exact Db.append_le (Nat.le_succ _)
        · exact Db.draw_le s t
    · exact Db.Le.refl s
  keeps s hv := by
    split
    · split
      · exact Db.draw_valid hv t
      · split
        · next h ha =>
          exact Db.append_valid hv (Nat.le_succ _) (fun _ => ⟨hs _,Nat.lt_succ_self _⟩) ha
        · exact Db.draw_valid hv t
    · exact hv

/-- `INSERT` of a row that names its own key. -/
def store (t : T) (r : Row t) (e : ε) (ht : t ∈ W := by decide)
    (hs : serial t=false := by exact id rfl) : Tx W ε Unit where
  run s := if s.admits t r then (.ok (),s.append t r (s t).next) else (.error e,s)
  frame s u hu := by
    split
    · exact put_frame ht hu
    · rfl
  grows s := by
    split
    · exact Db.append_le (Nat.le_refl _)
    · exact Db.Le.refl s
  keeps s hv := by
    split
    · next ha => exact Db.append_valid hv (Nat.le_refl _) (fun h => by simp [hs] at h) ha
    · exact hv

/-- `UPDATE .. WHERE p`; `f` is partial where the new columns are computed. Returns the
number of matched rows. -/
def updateM (t : T) (p : Row t → Bool) (f : Row t → Option (Row t)) (e : ε)
    (ht : t ∈ W := by decide) (hk : ∀ r r',f r=some r' → key t r'=key t r) : Tx W ε Nat where
  run s :=
    if s.admitsModified t p f then (.ok ((s.rows t).countP p),s.modify t p f) else (.error e,s)
  frame s u hu := by
    split
    · exact put_frame ht hu
    · rfl
  grows s := by
    split
    · exact Db.modify_le hk
    · exact Db.Le.refl s
  keeps s hv := by
    split
    · next ha => exact Db.modify_valid hk hv ha
    · exact hv

def update (t : T) (p : Row t → Bool) (f : Row t → Row t) (e : ε) (ht : t ∈ W := by decide)
    (hk : ∀ r,key t (f r)=key t r := by exact id fun _ => rfl) : Tx W ε Nat :=
  updateM t p (fun r => some (f r)) e ht (fun r r' h => by rw [← Option.some.inj h,hk])

end Tx
end Society.Relational
