import Society.Custody.NativeChild
import Mathlib.Data.List.Induction

namespace Society.Custody
open Society.Boundary Society.Coding

/-! What a transient capture says of the stream that it observed. -/

section Captures

/-- The bound on what the supervisor of Pi children retains of a stream. -/
def maxTransientStreamBytes : Nat := 8*maxJsonlFrameBytes

namespace StreamCapture

def transientCapture (hash : Bytes → Blake3Digest) (c : StreamCapture) : TransientStreamCapture :=
  ⟨c.byteCount,hash c.hashed,c.retention,c.retainedBytes⟩

def withPrefixBounded (c : StreamCapture) : StreamCapture :=
  if c.countOverflowed then c else {c with retention := .prefixBounded}

def observed (cap : Nat) (chunks : List Bytes) : StreamCapture :=
  chunks.foldl (fun c bytes => c.observe cap bytes) initial

end StreamCapture

def NativeStreamCapture.observed (chunks : List Bytes) : NativeStreamCapture :=
  chunks.foldl (fun c bytes => c.observe bytes) .initial

/-- The capture of a whole stream. -/
def TransientStreamCapture.ofStream (hash : Bytes → Blake3Digest) (cap : Nat) (stream : Bytes) :
    TransientStreamCapture where
  observedByteCount := if stream.length ≤ u64Max then .exact stream.length else .overflowed
  blake3 := hash stream
  retention :=
    if stream.length ≤ cap then .complete
    else if stream.length ≤ u64Max then .prefixBounded
    else .countOverflow
  retainedBytes := stream.take cap

/-- What the fields of a capture say after the stream. -/
structure Accurate (cap : Nat) (stream : Bytes) (c : StreamCapture) : Prop where
  hashed : c.hashed=stream
  retained : c.retainedBytes=stream.take cap
  overflowed : c.countOverflowed=decide (u64Max < stream.length)
  count : stream.length ≤ u64Max → c.observedByteCount=stream.length
  retention : stream.length ≤ u64Max →
    c.retention=if stream.length ≤ cap then .complete else .prefixBounded

variable {cap : Nat} {stream bytes : Bytes} {c : StreamCapture} {hash : Bytes → Blake3Digest}

theorem Accurate.initial : Accurate cap [] .initial :=
  ⟨rfl,(List.take_nil).symm,by simp [StreamCapture.initial],fun _ => rfl,
    fun _ => by simp [StreamCapture.initial]⟩

theorem Accurate.counted (h : Accurate cap stream c) (n : Nat) :
    c.counted n=if stream.length+n ≤ u64Max then (stream.length+n,false,c.retention)
      else (c.observedByteCount,true,.countOverflow) := by
  unfold StreamCapture.counted
  by_cases hs : stream.length ≤ u64Max
  · have hf : c.countOverflowed=false := by
      rw [h.overflowed,decide_eq_false_iff_not]
      omega
    rw [h.count hs,hf]
    simp
  · have ht : c.countOverflowed=true := by
      rw [h.overflowed,decide_eq_true_eq]
      omega
    rw [if_neg (by simp [ht]),if_neg (by omega)]

/-- The bytes that a chunk adds to what is retained. -/
theorem retained_append (hcap : c.retainedBytes=stream.take cap) :
    c.retainedBytes++bytes.take (Nat.min bytes.length (cap-c.retainedBytes.length))=
      (stream++bytes).take cap := by
  rw [hcap,List.take_append,List.length_take]
  congr 1
  rw [show Nat.min=min from rfl,List.take_eq_take_iff]
  omega

theorem retained_all (hcap : c.retainedBytes=stream.take cap) :
    Nat.min bytes.length (cap-c.retainedBytes.length)=bytes.length ↔
      bytes=[] ∨ stream.length+bytes.length ≤ cap := by
  rw [show Nat.min=min from rfl,hcap,List.length_take,← List.length_eq_zero_iff]
  omega

theorem Accurate.observe (h : Accurate cap stream c) (bytes : Bytes) :
    Accurate cap (stream++bytes) (c.observe cap bytes) := by
  refine ⟨?_,retained_append h.retained,?_,fun hn => ?_,fun hn => ?_⟩
  · rw [StreamCapture.observe,h.hashed]
  · simp only [StreamCapture.observe,h.counted,List.length_append]
    split
    · exact (decide_eq_false (by omega)).symm
    · exact (decide_eq_true (by omega)).symm
  · rw [List.length_append] at hn
    simp only [StreamCapture.observe,h.counted,if_pos hn,List.length_append]
  · rw [List.length_append] at hn
    simp only [StreamCapture.observe,h.counted,if_pos hn,List.length_append]
    have hold := h.retention (by omega)
    by_cases hall : bytes=[] ∨ stream.length+bytes.length ≤ cap
    · rw [if_pos ((retained_all h.retained).mpr hall),hold]
      rcases hall with rfl | hall
      · rfl
      · rw [if_pos hall,if_pos (by omega)]
    · rw [if_neg (fun hr => hall ((retained_all h.retained).mp hr)),if_neg (fun hl => hall (.inr hl))]

/-- The label that a capture past the limit of its counter carries. -/
theorem Accurate.overrun (h : Accurate cap stream c) (hcap : cap ≤ u64Max)
    (hn : u64Max<(stream++bytes).length) :
    (c.observe cap bytes).retention=if bytes=[] then .countOverflow else .prefixBounded := by
  rw [List.length_append] at hn
  simp only [StreamCapture.observe,h.counted]
  rw [if_neg (show ¬stream.length+bytes.length ≤ u64Max by omega)]
  by_cases hb : bytes=[]
  · rw [if_pos hb,if_pos ((retained_all h.retained).mpr (.inl hb))]
  · rw [if_neg hb,if_neg]
    intro hr
    rcases (retained_all h.retained).mp hr with hr | hr
    · exact hb hr
    · omega

theorem observed_accurate (cap : Nat) (chunks : List Bytes) :
    Accurate cap chunks.flatten (StreamCapture.observed cap chunks) := by
  induction chunks using List.reverseRecOn with
  | nil => exact .initial
  | append_singleton chunks bytes ih =>
    rw [List.flatten_append,List.flatten_singleton,StreamCapture.observed,List.foldl_append]
    exact ih.observe bytes

/-- A capture is right about its stream unless the stream is longer than the counter can say and
the last chunk had bytes. -/
theorem transientCapture_observed (hash : Bytes → Blake3Digest) (hcap : cap ≤ u64Max)
    (chunks : List Bytes) :
    (StreamCapture.observed cap chunks).transientCapture hash=.ofStream hash cap chunks.flatten ↔
      chunks.flatten.length ≤ u64Max ∨ chunks.getLast?=some [] := by
  have ha := observed_accurate cap chunks
  have hcount : (StreamCapture.observed cap chunks).byteCount=
      if chunks.flatten.length ≤ u64Max then .exact chunks.flatten.length else .overflowed := by
    unfold StreamCapture.byteCount
    rw [ha.overflowed]
    by_cases hn : chunks.flatten.length ≤ u64Max
    · rw [if_pos hn,decide_eq_false (by omega),ha.count hn]
      rfl
    · rw [if_neg hn,decide_eq_true (by omega)]
      rfl
  have hrest : (StreamCapture.observed cap chunks).transientCapture hash=
      .ofStream hash cap chunks.flatten ↔ (StreamCapture.observed cap chunks).retention=
        (TransientStreamCapture.ofStream hash cap chunks.flatten).retention := by
    simp only [StreamCapture.transientCapture,TransientStreamCapture.ofStream,hcount,ha.hashed,ha.retained,
      TransientStreamCapture.mk.injEq,true_and,and_true]
  rw [hrest]
  by_cases hn : chunks.flatten.length ≤ u64Max
  · refine ⟨fun _ => .inl hn,fun _ => ?_⟩
    simp only [ha.retention hn,TransientStreamCapture.ofStream,if_pos hn]
  · have hlabel : (TransientStreamCapture.ofStream hash cap chunks.flatten).retention=.countOverflow := by
      simp only [TransientStreamCapture.ofStream]
      rw [if_neg (by omega),if_neg hn]
    rw [hlabel,or_iff_right hn]
    rcases List.eq_nil_or_concat chunks with rfl | ⟨before,last,rfl⟩
    · exact absurd (Nat.zero_le _) hn
    · rw [List.concat_eq_append] at hn ⊢
      rw [List.flatten_append,List.flatten_singleton,Nat.not_le] at hn
      have hlast := (observed_accurate cap before).overrun hcap hn
      rw [StreamCapture.observed,List.foldl_append,List.getLast?_concat]
      rw [StreamCapture.observed] at hlast
      rw [List.foldl_cons,List.foldl_nil,hlast]
      by_cases hb : last=[]
      · simp [hb]
      · simp [hb]

theorem native_observed (chunks : List Bytes) : (NativeStreamCapture.observed chunks).toStreamCapture=
    StreamCapture.observed maxNativeChildStreamBytes chunks := by
  induction chunks using List.reverseRecOn with
  | nil => rfl
  | append_singleton chunks bytes ih =>
    rw [NativeStreamCapture.observed,StreamCapture.observed,List.foldl_append,List.foldl_append]
    exact congrArg (StreamCapture.observe maxNativeChildStreamBytes bytes) ih

/-- Both captures of the chunks describe the stream exactly. -/
def Captured (hash : Bytes → Blake3Digest) (chunks : List Bytes) : Prop :=
  (StreamCapture.observed maxTransientStreamBytes chunks).transientCapture hash=
      .ofStream hash maxTransientStreamBytes chunks.flatten ∧
    (NativeStreamCapture.observed chunks).capture hash (NativeStreamCapture.observed chunks).retention=
      .ofStream hash maxNativeChildStreamBytes chunks.flatten

theorem streams_captured (chunks : List Bytes) : Captured digest chunks ↔
    chunks.flatten.length ≤ u64Max ∨ chunks.getLast?=some [] := by
  have hpi : (StreamCapture.observed maxTransientStreamBytes chunks).transientCapture digest=_ ↔ _ :=
    transientCapture_observed digest (by decide) chunks
  have hnative : (StreamCapture.observed maxNativeChildStreamBytes chunks).transientCapture digest=_ ↔ _ :=
    transientCapture_observed digest (by decide) chunks
  rw [← native_observed] at hnative
  exact ⟨fun h => hpi.mp h.1,fun h => ⟨hpi.mpr h,hnative.mpr h⟩⟩

/-- A stream that comes in full reads. -/
def fullReads (n : Nat) : List Bytes := List.replicate n (List.replicate 8192 0)

theorem length_fullReads (n : Nat) : (fullReads n).flatten.length=n*8192 := by
  rw [fullReads,List.length_flatten,List.map_replicate,List.length_replicate,List.sum_replicate_nat]

theorem fullReads_last (n : Nat) : (fullReads n).getLast?≠some [] := by
  intro h
  have hmem := List.eq_of_mem_replicate (List.mem_of_getLast? h)
  have hlen := congrArg List.length hmem
  rw [List.length_replicate] at hlen
  cases hlen

/-- A stream of 2^64 bytes is called a bounded prefix. -/
theorem fullReads_mislabelled : ¬Captured digest (fullReads (2^51)) := by
  intro h
  rcases (transientCapture_observed digest (by decide) _).mp h.1 with hn | hlast
  · rw [length_fullReads] at hn
    exact absurd hn (by decide)
  · exact fullReads_last _ hlast

end Captures
end Society.Custody
