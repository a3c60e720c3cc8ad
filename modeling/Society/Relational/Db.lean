import Mathlib.Data.List.Basic
import Mathlib.Data.List.Nodup
import Mathlib.Logic.Function.Basic
import Mathlib.Tactic.Ring

namespace Society.Relational

/-- Signed 64-bit columns and identity sequences stop below this value. -/
def bigintLimit : Nat := 2^63

/-- A row identity of the table `t`; an identity column never stores anything else. -/
@[ext] structure Id {T : Type} (t : T) where
  val : Nat
  valid : 0<val ∧ val<bigintLimit
  deriving DecidableEq

theorem Id.one_valid : 0<1 ∧ 1<bigintLimit := by decide

theorem Id.two_valid : 0<2 ∧ 2<bigintLimit := by decide

/-- Stored rows in insertion order, and the next value of the identity sequence. -/
structure Table (α : Type) where
  rows : List α
  next : Nat

/-- What a fresh schema declares for each of its tables. Rows of a `serial` table take
their key from the identity sequence; `conflict` is the union of the unique constraints. -/
class Schema (T : Type) where
  Row : T → Type
  key : (t : T) → Row t → Nat
  serial : T → Bool
  check : (t : T) → Row t → Bool
  conflict : (t : T) → Row t → Row t → Bool
  refs : (t : T) → Row t → List (T × Nat)

export Schema (Row key serial check conflict refs)

abbrev Db (T : Type) [Schema T] := (t : T) → Table (Row t)

namespace Db
variable {T : Type} [Schema T]

abbrev rows (s : Db T) (t : T) : List (Row t) := (s t).rows

def find (s : Db T) (t : T) (k : Id t) : Option (Row t) :=
  (s.rows t).find? (fun r => key t r == k.val)

def has (s : Db T) (t : T) (k : Nat) : Bool := (s.rows t).any (fun r => key t r == k)

/-- Foreign keys of a candidate row. -/
def linked (s : Db T) (t : T) (r : Row t) : Bool := (refs t r).all (fun p => s.has p.1 p.2)

section Put
variable [DecidableEq T]

def put (s : Db T) (t : T) (x : Table (Row t)) : Db T := Function.update s t x

@[simp] theorem put_same (s : Db T) (t : T) (x : Table (Row t)) : s.put t x t=x := by
  simp [put]

@[simp] theorem put_ne (s : Db T) {t u : T} (x : Table (Row t)) (h : u≠t) :
    s.put t x u=s u := by
  simp [put,Function.update_of_ne h]

end Put

/-- Rows come back, identity sequences do not. -/
def rollback (s s' : Db T) : Db T := fun t => ⟨(s t).rows,(s' t).next⟩

@[simp] theorem rollback_rows (s s' : Db T) (t : T) : (s.rollback s').rows t=s.rows t := rfl

@[simp] theorem rollback_next (s s' : Db T) (t : T) : (s.rollback s' t).next=(s' t).next := rfl

theorem rollback_same {s s' : Db T} {t : T} (h : s' t=s t) : s.rollback s' t=s t := by
  simp only [rollback,h]

/-- No transaction deletes a row or turns a sequence back. -/
structure Le (s s' : Db T) : Prop where
  next : ∀ t,(s t).next≤(s' t).next
  has : ∀ t k,s.has t k=true → s'.has t k=true

theorem Le.refl (s : Db T) : s.Le s := ⟨fun _ => Nat.le_refl _,fun _ _ h => h⟩

theorem Le.trans {s s' s'' : Db T} (h : s.Le s') (h' : s'.Le s'') : s.Le s'' :=
  ⟨fun t => Nat.le_trans (h.next t) (h'.next t),fun t k hk => h'.has t k (h.has t k hk)⟩

theorem Le.linked {s s' : Db T} (h : s.Le s') {t : T} {r : Row t} (hr : s.linked t r=true) :
    s'.linked t r=true := by
  simp only [Db.linked,List.all_eq_true] at hr ⊢
  exact fun p hp => h.has _ _ (hr p hp)

/-- What storage enforces in every state: ascending identities below the sequence,
unique constraints, row checks and foreign keys. -/
structure Valid (s : Db T) : Prop where
  positive : ∀ t,0<(s t).next
  ordered : ∀ t,serial t=true → (s.rows t).Pairwise (fun a b => key t a<key t b)
  fresh : ∀ t,serial t=true → ∀ r ∈ s.rows t,key t r<(s t).next
  unique : ∀ t,(s.rows t).Pairwise (fun a b => conflict t a b=false)
  checked : ∀ t,∀ r ∈ s.rows t,check t r=true
  linked : ∀ t,∀ r ∈ s.rows t,s.linked t r=true

theorem Valid.key_injective {s : Db T} (h : s.Valid) {t : T} (ht : serial t=true)
    {a b : Row t} (ha : a ∈ s.rows t) (hb : b ∈ s.rows t) (he : key t a=key t b) : a=b := by
  have hp := h.ordered t ht
  obtain ⟨i,hi,rfl⟩ := List.getElem_of_mem ha
  obtain ⟨j,hj,rfl⟩ := List.getElem_of_mem hb
  rcases Nat.lt_trichotomy i j with hij | hij | hij
  · have := List.pairwise_iff_getElem.mp hp i j hi hj hij
    omega
  · subst hij; rfl
  · have := List.pairwise_iff_getElem.mp hp j i hj hi hij
    omega

theorem find_mem {s : Db T} {t : T} {k : Id t} {r : Row t} (h : s.find t k=some r) :
    r ∈ s.rows t := List.mem_of_find?_eq_some h

theorem find_key {s : Db T} {t : T} {k : Id t} {r : Row t} (h : s.find t k=some r) :
    key t r=k.val := by
  simpa using List.find?_some h

theorem Valid.find_eq {s : Db T} (h : s.Valid) {t : T} (ht : serial t=true) {k : Id t}
    {r : Row t} (hr : r ∈ s.rows t) (hk : key t r=k.val) : s.find t k=some r := by
  cases hf : s.find t k with
  | none =>
    have hn := List.find?_eq_none.mp hf r hr
    simp [hk] at hn
  | some r' => rw [h.key_injective ht hr (find_mem hf) (hk.trans (find_key hf).symm)]

theorem has_iff {s : Db T} {t : T} {k : Nat} : s.has t k=true ↔ ∃ r ∈ s.rows t,key t r=k := by
  simp [has]

theorem rollback_le {s s' : Db T} (h : s.Le s') : s.Le (s.rollback s') :=
  ⟨h.next,fun _ _ hk => hk⟩

theorem rollback_valid {s s' : Db T} (hv : s.Valid) (h : s.Le s') : (s.rollback s').Valid where
  positive t := Nat.lt_of_lt_of_le (hv.positive t) (h.next t)
  ordered := hv.ordered
  fresh t ht r hr := Nat.lt_of_lt_of_le (hv.fresh t ht r hr) (h.next t)
  unique := hv.unique
  checked := hv.checked
  linked := hv.linked

end Db
end Society.Relational
