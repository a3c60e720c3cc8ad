import Mathlib.Data.List.Basic
import Mathlib.Tactic.Ring

namespace Society.Coding

/-! Prefix codes: a value can be read back from its encoding whatever follows it. -/

abbrev Bytes := List UInt8

section Words

/-- The low `k` bytes of `n`, most significant first. -/
def beBytes : Nat → Nat → Bytes
  | 0,_ => []
  | k+1,n => beBytes k (n/256)++[UInt8.ofNat n]

def ofBytes (b : Bytes) : Nat := b.foldl (fun n c => 256*n+c.toNat) 0

@[simp] theorem length_beBytes (k n : Nat) : (beBytes k n).length=k := by
  induction k generalizing n with
  | zero => rfl
  | succ k ih => simp [beBytes,ih]

theorem ofBytes_beBytes (k n : Nat) : ofBytes (beBytes k n)=n%256^k := by
  induction k generalizing n with
  | zero => simp [beBytes,ofBytes,Nat.mod_one]
  | succ k ih =>
    have hlast : ofBytes (beBytes k (n/256)++[UInt8.ofNat n])=
        256*ofBytes (beBytes k (n/256))+n%256 := by
      simp [ofBytes]
    have hsplit : n%256^(k+1)=256*(n/256%256^k)+n%256 := by
      rw [pow_succ,Nat.mul_comm (256^k),Nat.mod_mul]
      ring
    rw [beBytes,hlast,ih,hsplit]

def wordLimit : Int := 2^63

/-- Two's complement of a signed 64-bit value, most significant byte first. -/
def be64 (n : Int) : Bytes := beBytes 8 (n%2^64).toNat

def ofBe64 (b : Bytes) : Int :=
  let n : Int := ofBytes b
  if n<wordLimit then n else n-2^64

@[simp] theorem length_be64 (n : Int) : (be64 n).length=8 := length_beBytes 8 _

theorem ofBe64_be64 {n : Int} (h : -wordLimit≤n ∧ n<wordLimit) : ofBe64 (be64 n)=n := by
  have hmod : ((ofBytes (be64 n) : Nat) : Int)=n%2^64 := by
    rw [be64,ofBytes_beBytes]
    have := Int.emod_nonneg n (show (2^64 : Int)≠0 by decide)
    have := Int.emod_lt_of_pos n (show (0 : Int)<2^64 by decide)
    omega
  unfold wordLimit at h
  simp only [ofBe64,hmod,wordLimit]
  split <;> omega

end Words

/-- A reader consumes a prefix of its input. -/
def Reader (α : Type) := Bytes → Option (α × Bytes)

/-- `m` reads `a` off the front of every input that starts with `p`. -/
def Reads {α : Type} (m : Reader α) (p : Bytes) (a : α) : Prop :=
  ∀ x,m (p++x)=some (a,x)

class Codec (α : Type) where
  put : α → Bytes
  read : Reader α
  reads : ∀ a,Reads read (put a) a

export Codec (put read reads)

section Combinators
variable {α β γ : Type}

theorem put_append_inj [Codec α] {a b : α} {x y : Bytes} (h : put a++x=put b++y) :
    a=b ∧ x=y := by
  have ha := reads a x
  rw [h,reads b y] at ha
  obtain ⟨rfl,rfl⟩ := Prod.mk.inj (Option.some.inj ha)
  exact ⟨rfl,rfl⟩

theorem put_injective [Codec α] : Function.Injective (put : α → Bytes) := by
  intro a b h
  exact (put_append_inj (x := []) (y := []) (by rw [h])).1

def Reader.nothing (a : α) : Reader α := fun x => some (a,x)

/-- Feeds the next value of the input to the function that `m` reads. -/
def Reader.next [Codec α] (m : Reader (α → β)) : Reader β := fun x =>
  match m x with
  | none => none
  | some (f,y) => match read y with
    | none => none
    | some (a,z) => some (f a,z)

def Reader.select (m : Reader α) (f : α → Reader β) : Reader β := fun x =>
  match m x with
  | none => none
  | some (a,y) => f a y

theorem Reads.nothing (a : α) : Reads (Reader.nothing a) [] a := fun _ => rfl

theorem Reads.next [Codec α] {m : Reader (α → β)} {p : Bytes} {f : α → β} {a : α}
    (h : Reads m p f) : Reads m.next (p++put a) (f a) := by
  intro x
  have hm := h (put a++x)
  simp only [Reader.next,List.append_assoc,hm,reads a x]

theorem Reads.first [Codec α] {f : α → β} {a : α} :
    Reads (Reader.nothing f).next (put a) (f a) := (Reads.nothing f).next

theorem Reads.select {m : Reader α} {f : α → Reader β} {p q : Bytes} {a : α} {b : β}
    (h : Reads m p a) (h' : Reads (f a) q b) : Reads (m.select f) (p++q) b := by
  intro x
  have hm := h (q++x)
  simp only [Reader.select,List.append_assoc,hm,h' x]

def Reader.check (m : Reader α) (g : α → Option β) : Reader β := fun x =>
  match m x with
  | none => none
  | some (a,y) => (g a).map (fun b => (b,y))

theorem Reads.check {m : Reader α} {g : α → Option β} {p : Bytes} {a : α} {b : β}
    (h : Reads m p a) (hg : g a=some b) : Reads (m.check g) p b := by
  intro x
  simp only [Reader.check,h x,hg,Option.map_some]

end Combinators

section Instances
variable {α β : Type}

def readWord : Reader Int := fun x =>
  if 8≤x.length then some (ofBe64 (x.take 8),x.drop 8) else none

theorem reads_be64 {n : Int} (h : -wordLimit≤n ∧ n<wordLimit) : Reads readWord (be64 n) n := by
  intro x
  have hl := length_be64 n
  have ht : (be64 n++x).take 8=be64 n := List.take_left' hl
  have hd : (be64 n++x).drop 8=x := List.drop_left' hl
  have hlen : 8≤(be64 n++x).length := by simp [hl]
  simp only [readWord,if_pos hlen,ht,hd,ofBe64_be64 h]

theorem reads_length {n : Nat} (h : (n : Int)<wordLimit) : Reads readWord (be64 n) n := by
  refine reads_be64 ⟨?_,h⟩
  unfold wordLimit
  omega

/-- A type whose values fit one word. -/
@[reducible] def Codec.word (f : α → Int) (g : Int → Option α) (h : ∀ a,g (f a)=some a)
    (hw : ∀ a,-wordLimit≤f a ∧ f a<wordLimit) : Codec α where
  put a := be64 (f a)
  read := readWord.check g
  reads a := (reads_be64 (hw a)).check (h a)

/-- The tag of an enumeration, numbered from one. -/
@[reducible] def Codec.tag (f : α → Nat) (g : Nat → α) (h : ∀ a,g (f a)=a)
    (hw : ∀ a,f a<2^62) : Codec α :=
  .word (fun a => f a+1) (fun n => some (g (n-1).toNat))
    (fun a => by
      have hn : ((f a : Int)+1-1).toNat=f a := by omega
      rw [hn,h])
    (fun a => by
      have := hw a
      unfold wordLimit
      omega)

def putBytes (b : Bytes) : Bytes := be64 b.length++b

def readBytes : Reader Bytes := readWord.select (fun n x =>
  if n.toNat≤x.length then some (x.take n.toNat,x.drop n.toNat) else none)

theorem reads_putBytes {b : Bytes} (h : (b.length : Int)<wordLimit) : Reads readBytes (putBytes b) b := by
  have hrest : Reads (fun x => if b.length≤x.length then some (x.take b.length,x.drop b.length)
      else none) b b := by
    intro x
    simp
  exact (reads_length h).select hrest

/-- A type whose values are length-prefixed bytes. -/
@[reducible] def Codec.bytes (f : α → Bytes) (g : Bytes → Option α) (h : ∀ a,g (f a)=some a)
    (hw : ∀ a,((f a).length : Int)<wordLimit) : Codec α where
  put a := putBytes (f a)
  read := readBytes.check g
  reads a := (reads_putBytes (hw a)).check (h a)

def utf8 (s : String) : Bytes := s.toByteArray.data.toList

def ofUtf8 (b : Bytes) : Option String := String.fromUTF8? ⟨b.toArray⟩

theorem length_utf8 (s : String) : (utf8 s).length=s.utf8ByteSize := by
  simp [utf8]

theorem ofUtf8_utf8 (s : String) : ofUtf8 (utf8 s)=some s := by
  have hb : (⟨(utf8 s).toArray⟩ : ByteArray)=s.toByteArray := by simp [utf8]
  rw [ofUtf8,hb,String.fromUTF8?,dif_pos s.isValidUTF8]
  rfl

theorem utf8_injective {s t : String} (h : utf8 s=utf8 t) : s=t := by
  have hs := ofUtf8_utf8 s
  rw [h,ofUtf8_utf8] at hs
  exact (Option.some.inj hs).symm

theorem utf8_append (a b : String) : utf8 (a++b)=utf8 a++utf8 b := by
  simp [utf8]

theorem utf8_ofList (chars : List Char) :
    utf8 (String.ofList chars)=chars.flatMap String.utf8EncodeChar := by
  simp [utf8,List.utf8Encode]

/-- Each ASCII character is one byte. -/
theorem utf8_ascii {chars : List Char} (h : ∀ x∈chars,x.toNat<128) :
    utf8 (String.ofList chars)=chars.map (fun x => x.val.toUInt8) := by
  have hone (x : Char) (hx : x.toNat<128) : String.utf8EncodeChar x=[x.val.toUInt8] := by
    refine String.utf8EncodeChar_eq_singleton ?_
    rw [Char.utf8Size_eq_one_iff,UInt32.le_iff_toNat_le]
    exact Nat.le_of_lt_succ hx
  rw [utf8_ofList,List.map_eq_flatMap]
  exact List.flatMap_congr (fun x hx => hone x (h x hx))

instance [Codec α] : Codec (Option α) where
  put
    | some a => be64 1++put a
    | none => be64 0
  read := readWord.select (fun n =>
    if n=1 then (Reader.nothing some).next else .nothing none)
  reads a := by
    cases a with
    | some a => exact (reads_be64 (by decide)).select Reads.first
    | none =>
      intro x
      have hr := reads_be64 (n := 0) (by decide) x
      simp only [Reader.select,hr]
      rfl

def readMany [Codec α] : Nat → Reader (List α)
  | 0 => .nothing []
  | n+1 => ((Reader.nothing List.cons).next (α := α)).select
      (fun f => (readMany n).select (fun l => .nothing (f l)))

theorem reads_many [Codec α] (l : List α) : Reads (readMany l.length) (l.flatMap put) l := by
  induction l with
  | nil => exact Reads.nothing []
  | cons a l ih =>
    have hl := ih.select (f := fun l => Reader.nothing (a::l)) (Reads.nothing (a::l))
    rw [List.append_nil] at hl
    have ha : Reads (Reader.nothing List.cons).next (put a) (List.cons a) := Reads.first
    exact ha.select hl

/-- A counted list. -/
def putList [Codec α] (l : List α) : Bytes := be64 l.length++l.flatMap put

theorem reads_putList [Codec α] {l : List α} (h : (l.length : Int)<wordLimit) :
    Reads (readWord.select (fun n => readMany n.toNat)) (putList l) l :=
  (reads_length h).select (reads_many l)

end Instances
end Society.Coding
