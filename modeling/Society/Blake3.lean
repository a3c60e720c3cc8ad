import Society.Codec

namespace Society.Coding.Blake3

/-! The default mode of BLAKE3 with 32 bytes of output, over words kept below `2^32`. -/

abbrev Word := Nat

def initialWords : List Word :=
  [0x6a09e667,0xbb67ae85,0x3c6ef372,0xa54ff53a,0x510e527f,0x9b05688c,0x1f83d9ab,0x5be0cd19]

def add (a b : Word) : Word := (a+b)%2^32

def rotateRight (x n : Word) : Word := x/2^n+x%2^n*2^(32-n)

/-- The quarter round on the words `a b c d` of the state. -/
def mix (v : List Word) (p : Nat × Nat × Nat × Nat) (x y : Word) : List Word :=
  let (i,j,k,l) := p
  let a := add (add (v.getD i 0) (v.getD j 0)) x
  let d := rotateRight (Nat.xor (v.getD l 0) a) 16
  let c := add (v.getD k 0) d
  let b := rotateRight (Nat.xor (v.getD j 0) c) 12
  let a := add (add a b) y
  let d := rotateRight (Nat.xor d a) 8
  let c := add c d
  let b := rotateRight (Nat.xor b c) 7
  (((v.set i a).set j b).set k c).set l d

/-- Columns, then diagonals. -/
def lanes : List (Nat × Nat × Nat × Nat) :=
  [(0,4,8,12),(1,5,9,13),(2,6,10,14),(3,7,11,15),(0,5,10,15),(1,6,11,12),(2,7,8,13),(3,4,9,14)]

def round (v m : List Word) : List Word :=
  (lanes.zipIdx).foldl (fun v (p,i) => mix v p (m.getD (2*i) 0) (m.getD (2*i+1) 0)) v

def permutation : List Nat := [2,6,3,10,7,0,4,13,1,11,12,5,9,14,15,8]

def rounds : Nat → List Word → List Word → List Word
  | 0,v,_ => v
  | n+1,v,m => rounds n (round v m) (permutation.map (m.getD · 0))

/-- The chaining value after one block. -/
def compress (h m : List Word) (counter length flags : Nat) : List Word :=
  let v := rounds 7 (h++initialWords.take 4++[counter%2^32,counter/2^32%2^32,length,flags]) m
  (v.take 8).zipWith Nat.xor (v.drop 8)

/-- Little-endian words of one zero-padded block. -/
def blockWords (b : Bytes) : List Word :=
  (List.range 16).map (fun i => (List.range 4).foldr
    (fun j n => (b.getD (4*i+j) 0).toNat+256*n) 0)

/-- The blocks of one chunk. The flags mark its first and last block. -/
def chunk (counter root : Nat) : Nat → Bool → List Word → Bytes → List Word
  | 0,_,h,_ => h
  | n+1,first,h,b =>
    let start := if first then 1 else 0
    if b.length≤64 then compress h (blockWords b) counter b.length (start+2+root)
    else chunk counter root n false
      (compress h (blockWords (b.take 64)) counter 64 start) (b.drop 64)

/-- The chunks of the left subtree: the largest power of two that leaves some to the right. -/
def leftChunks (length : Nat) : Nat := 2^Nat.log2 ((length-1)/1024)

def tree (root : Nat) : Nat → Nat → Bytes → List Word
  | 0,_,_ => initialWords
  | n+1,counter,b =>
    if b.length≤1024 then chunk counter root 16 true initialWords b
    else
      let k := leftChunks b.length
      let left := tree 0 n counter (b.take (1024*k))
      let right := tree 0 n (counter+k) (b.drop (1024*k))
      compress initialWords (left++right) 0 64 (4+root)

def littleEndian (w : Word) : Bytes := (beBytes 4 w).reverse

/-- Inputs are shorter than `2^64` bytes, so the tree is at most 55 deep. -/
def digest (b : Bytes) : Bytes := (tree 8 55 0 b).flatMap littleEndian

section Length

@[simp] theorem length_mix (v : List Word) (p : Nat × Nat × Nat × Nat) (x y : Word) :
    (mix v p x y).length=v.length := by simp [mix]

@[simp] theorem length_round (v m : List Word) : (round v m).length=v.length := by
  have hfold (l : List ((Nat × Nat × Nat × Nat) × Nat)) :
      ∀ v : List Word,(l.foldl (fun v (p,i) => mix v p (m.getD (2*i) 0) (m.getD (2*i+1) 0))
        v).length=v.length := by
    induction l with
    | nil => intro v; rfl
    | cons a l ih => intro v; rw [List.foldl_cons,ih,length_mix]
  exact hfold _ v

@[simp] theorem length_rounds (n : Nat) (v m : List Word) : (rounds n v m).length=v.length := by
  induction n generalizing v m with
  | zero => rfl
  | succ n ih => rw [rounds,ih,length_round]

theorem length_compress {h : List Word} (hh : h.length=8) (m : List Word)
    (counter length flags : Nat) : (compress h m counter length flags).length=8 := by
  simp [compress,initialWords,hh]

theorem length_chunk (counter root n : Nat) (first : Bool) {h : List Word} (hh : h.length=8)
    (b : Bytes) : (chunk counter root n first h b).length=8 := by
  induction n generalizing first h b with
  | zero => exact hh
  | succ n ih =>
    by_cases hb : b.length≤64
    · simp only [chunk,hb,if_true]
      exact length_compress hh _ _ _ _
    · simp only [chunk,hb,if_false]
      exact ih _ (length_compress hh _ _ _ _) _

theorem length_tree (root n counter : Nat) (b : Bytes) : (tree root n counter b).length=8 := by
  cases n with
  | zero => rfl
  | succ n =>
    unfold tree
    split
    · exact length_chunk counter root 16 true rfl b
    · exact length_compress rfl _ _ _ _

theorem length_digest (b : Bytes) : (digest b).length=32 := by
  have hw (l : List Word) : (l.flatMap littleEndian).length=4*l.length := by
    induction l with
    | nil => rfl
    | cons w l ih =>
      rw [List.flatMap_cons,List.length_append,ih,littleEndian,List.length_reverse,
        length_beBytes,List.length_cons]
      omega
  rw [digest,hw,length_tree]

end Length

section Chained

/-- The chaining values after the blocks of one chunk are those listed. -/
def chained (counter root : Nat) : Bool → List Word → Bytes → List (List Word) → Bool
  | _,_,_,[] => false
  | first,h,b,[last] =>
    decide (b.length≤64) &&
      compress h (blockWords b) counter b.length ((if first then 1 else 0)+2+root)==last
  | first,h,b,next::rest =>
    decide (64<b.length) &&
      compress h (blockWords (b.take 64)) counter 64 (if first then 1 else 0)==next &&
      chained counter root false next (b.drop 64) rest

variable {counter root n : Nat} {states : List (List Word)} {first : Bool} {h : List Word}
  {b : Bytes}

/-- A long text is hashed block by block, against its list of chaining values. -/
theorem chunk_chained (hc : chained counter root first h b states=true) (hn : states.length≤n) :
    chunk counter root n first h b=states.getLast?.getD [] := by
  induction states generalizing n first h b with
  | nil => cases hc
  | cons next rest ih =>
    obtain ⟨n,rfl⟩ := Nat.exists_eq_add_one_of_ne_zero
      (Nat.ne_of_gt (Nat.lt_of_lt_of_le (Nat.succ_pos _) hn))
    cases rest with
    | nil =>
      simp only [chained,Bool.and_eq_true,decide_eq_true_eq,beq_iff_eq] at hc
      rw [chunk,if_pos hc.1,hc.2]
      rfl
    | cons after rest =>
      simp only [chained,Bool.and_eq_true,decide_eq_true_eq,beq_iff_eq] at hc
      rw [chunk,if_neg (Nat.not_le.mpr hc.1.1),hc.1.2,List.getLast?_cons_cons]
      exact ih hc.2 (Nat.le_of_succ_le_succ hn)

/-- Each block has at most 64 bytes. -/
theorem length_chained (hc : chained counter root first h b states=true) :
    b.length≤64*states.length := by
  induction states generalizing first h b with
  | nil => cases hc
  | cons next rest ih =>
    cases rest with
    | nil =>
      simp only [chained,Bool.and_eq_true,decide_eq_true_eq] at hc
      exact hc.1
    | cons after rest =>
      simp only [chained,Bool.and_eq_true,decide_eq_true_eq] at hc
      have hrest := ih hc.2
      rw [List.length_drop,List.length_cons] at hrest
      simp only [List.length_cons]
      omega

theorem digest_chained (hn : states.length≤16)
    (hc : chained 0 8 true initialWords b states=true) :
    digest b=(states.getLast?.getD []).flatMap littleEndian := by
  have hb : b.length≤1024 := by
    have := length_chained hc
    omega
  rw [digest,tree,if_pos hb,chunk_chained hc hn]

end Chained
end Society.Coding.Blake3
