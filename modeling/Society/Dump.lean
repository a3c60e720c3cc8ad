import Society.Codec

namespace Society.Coding

/-! A dump of tables: named, with tagged cells, terminated rows and terminated tables. -/

/-- A value of a column. -/
inductive Cell
  | null
  | integer (n : Int) (valid : -wordLimit≤n ∧ n<wordLimit)
  | real (bits : Nat) (valid : bits<2^64)
  | text (b : Bytes) (valid : (b.length : Int)<wordLimit)
  | blob (b : Bytes) (valid : (b.length : Int)<wordLimit)
  deriving DecidableEq

def Cell.number (n : Nat) : Cell :=
  if h : (n : Int)<wordLimit then .integer n ⟨by unfold wordLimit; omega,h⟩ else .null

def Cell.nullable : Option Nat → Cell
  | some n => .number n
  | none => .null

def Cell.string (b : Bytes) : Cell :=
  if h : (b.length : Int)<wordLimit then .text b h else .null

def Cell.put : Cell → Bytes
  | .null => be64 0
  | .integer n _ => be64 1++be64 n
  | .real n _ => be64 2++beBytes 8 n
  | .text b _ => be64 3++putBytes b
  | .blob b _ => be64 4++putBytes b

def putRow (r : List Cell) : Bytes := be64 1++r.flatMap Cell.put

def putRows (l : List (List Cell)) : Bytes := l.flatMap putRow++be64 0

def putTable (name : Bytes) (width : Nat) (l : List (List Cell)) : Bytes :=
  putBytes name++be64 width++putRows l

section Inj
variable {x y : Bytes}

theorem Reads.inj {α : Type} {m : Reader α} {p q : Bytes} {a b : α} (ha : Reads m p a)
    (hb : Reads m q b) (h : p++x=q++y) : a=b ∧ x=y := by
  have hx := ha x
  rw [h,hb y] at hx
  obtain ⟨rfl,rfl⟩ := Prod.mk.inj (Option.some.inj hx)
  exact ⟨rfl,rfl⟩

theorem beBytes_inj {m n : Nat} (hm : m<2^64) (hn : n<2^64)
    (h : beBytes 8 m++x=beBytes 8 n++y) : m=n ∧ x=y := by
  have hl : (beBytes 8 m).length=(beBytes 8 n).length := by simp
  obtain ⟨hb,hx⟩ := List.append_inj h hl
  have ho := congrArg ofBytes hb
  rw [ofBytes_beBytes,ofBytes_beBytes,Nat.mod_eq_of_lt (by simpa using hm),
    Nat.mod_eq_of_lt (by simpa using hn)] at ho
  exact ⟨ho,hx⟩

theorem Cell.put_inj {a b : Cell} (h : a.put++x=b.put++y) : a=b ∧ x=y := by
  have htag {m n : Int} (hm : -wordLimit ≤ m ∧ m<wordLimit) (hn : -wordLimit≤n ∧ n<wordLimit)
      {x y : Bytes} (h : be64 m++x=be64 n++y) : m=n ∧ x=y := (reads_be64 hm).inj (reads_be64 hn) h
  cases a <;> cases b <;> simp only [Cell.put,List.append_assoc] at h
  case null.null => exact ⟨rfl,(htag (by decide) (by decide) h).2⟩
  case integer.integer n hn m hm =>
    obtain ⟨rfl,rfl⟩ := htag hn hm (htag (by decide) (by decide) h).2
    exact ⟨rfl,rfl⟩
  case real.real n hn m hm =>
    obtain ⟨rfl,rfl⟩ := beBytes_inj hn hm (htag (by decide) (by decide) h).2
    exact ⟨rfl,rfl⟩
  case text.text b hb c hc =>
    obtain ⟨rfl,rfl⟩ := (reads_putBytes hb).inj (reads_putBytes hc)
      (htag (by decide) (by decide) h).2
    exact ⟨rfl,rfl⟩
  case blob.blob b hb c hc =>
    obtain ⟨rfl,rfl⟩ := (reads_putBytes hb).inj (reads_putBytes hc)
      (htag (by decide) (by decide) h).2
    exact ⟨rfl,rfl⟩
  all_goals exact absurd (htag (by decide) (by decide) h).1 (by decide)

/-- Rows of one width are read off without a count. -/
theorem putCells_inj {a b : List Cell} (hl : a.length=b.length)
    (h : a.flatMap Cell.put++x=b.flatMap Cell.put++y) : a=b ∧ x=y := by
  induction a generalizing b with
  | nil =>
    cases b with
    | nil => exact ⟨rfl,h⟩
    | cons c b => simp at hl
  | cons c a ih =>
    cases b with
    | nil => simp at hl
    | cons d b =>
      simp only [List.flatMap_cons,List.append_assoc] at h
      obtain ⟨rfl,hrest⟩ := Cell.put_inj h
      obtain ⟨rfl,rfl⟩ := ih (by simpa using hl) hrest
      exact ⟨rfl,rfl⟩

theorem putRows_inj {w : Nat} {l l' : List (List Cell)} (hl : ∀ r ∈ l,r.length=w)
    (hl' : ∀ r ∈ l',r.length=w) (h : putRows l++x=putRows l'++y) : l=l' ∧ x=y := by
  have htag {m n : Int} (hm : -wordLimit ≤ m ∧ m<wordLimit) (hn : -wordLimit≤n ∧ n<wordLimit)
      {x y : Bytes} (h : be64 m++x=be64 n++y) : m=n ∧ x=y := (reads_be64 hm).inj (reads_be64 hn) h
  induction l generalizing l' with
  | nil =>
    cases l' with
    | nil => exact ⟨rfl,by simpa [putRows] using h⟩
    | cons r l' =>
      simp only [putRows,List.flatMap_nil,List.nil_append,List.flatMap_cons,putRow,
        List.append_assoc] at h
      exact absurd (htag (by decide) (by decide) h).1 (by decide)
  | cons r l ih =>
    cases l' with
    | nil =>
      simp only [putRows,List.flatMap_nil,List.nil_append,List.flatMap_cons,putRow,
        List.append_assoc] at h
      exact absurd (htag (by decide) (by decide) h).1 (by decide)
    | cons r' l' =>
      simp only [putRows,List.flatMap_cons,putRow,List.append_assoc] at h
      have hw : r.length=r'.length :=
        (hl r List.mem_cons_self).trans (hl' r' List.mem_cons_self).symm
      obtain ⟨rfl,hrest⟩ := putCells_inj hw (htag (by decide) (by decide) h).2
      obtain ⟨rfl,rfl⟩ := ih (fun a ha => hl a (List.mem_cons_of_mem r ha))
        (fun a ha => hl' a (List.mem_cons_of_mem r ha)) (by simpa [putRows] using hrest)
      exact ⟨rfl,rfl⟩

/-- Two dumps of the same tables agree table by table. -/
theorem dump_inj {ι : Type} {ts : List ι} {name : ι → Bytes} {width : ι → Nat}
    {f f' : ι → List (List Cell)} (hf : ∀ t ∈ ts,∀ r ∈ f t,r.length=width t)
    (hf' : ∀ t ∈ ts,∀ r ∈ f' t,r.length=width t)
    (h : ts.flatMap (fun t => putTable (name t) (width t) (f t))=
      ts.flatMap (fun t => putTable (name t) (width t) (f' t))) : ∀ t ∈ ts,f t=f' t := by
  induction ts with
  | nil => exact fun _ ht => (List.not_mem_nil ht).elim
  | cons t ts ih =>
    simp only [List.flatMap_cons,putTable,List.append_assoc,List.append_cancel_left_eq] at h
    obtain ⟨ht,hrest⟩ := putRows_inj (hf t List.mem_cons_self) (hf' t List.mem_cons_self) h
    intro u hu
    rcases List.mem_cons.mp hu with rfl | hu
    · exact ht
    · exact ih (fun v hv => hf v (List.mem_cons_of_mem t hv))
        (fun v hv => hf' v (List.mem_cons_of_mem t hv)) (by simpa [putTable] using hrest) u hu

end Inj
end Society.Coding
