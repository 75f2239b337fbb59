import Parp.ColdReclaim
import Parp.TransitionRuns

set_option autoImplicit false

/-!
# The memcg lists of MGLRU

`lru_gen_rotate_memcg`, `shrink_one` and `shrink_many` of `vmscan.c`. The memcgs of all lists are in
one list, each with its generation and bin; a list `fifo[gen][bin]` is what is left of it for that
generation and bin. `nr_memcgs` is the length of the lists of a generation.
-/
namespace Parp.MemcgLru

open ColdReclaim

def memcgNrGens : ℕ := 3

inductive MemcgLruOp
  | head | tail | old | young | rebin
  deriving DecidableEq

inductive MemcgLruSeg
  | nop | head | tail
  deriving DecidableEq

structure LruEntry where
  memcg : ℕ
  gen : ℕ
  bin : ℕ
  seg : MemcgLruSeg := .nop
  deriving DecidableEq

structure Lru where
  seq : ℕ
  entries : List LruEntry
  deriving DecidableEq

def Lru.fifo (lru : Lru) (gen bin : ℕ) : List LruEntry :=
  lru.entries.filter fun entry => entry.gen = gen ∧ entry.bin = bin

def seqAfter (seq old : ℕ) (entries : List LruEntry) : ℕ :=
  if old = seq % memcgNrGens ∧ ∀ entry ∈ entries, entry.gen ≠ old then seq + 1 else seq

/-- Where an entry goes: `bin` is the one its score selects, or a random one. -/
def moved (seq bin : ℕ) (op : MemcgLruOp) (entry : LruEntry) : LruEntry where
  memcg := entry.memcg
  gen :=
    match op with
    | .old => seq % memcgNrGens
    | .young => (seq + 1) % memcgNrGens
    | _ => entry.gen
  bin := bin
  seg :=
    match op with
    | .head => .head
    | .tail => .tail
    | .rebin => entry.seg
    | _ => .nop

def atHead (op : MemcgLruOp) (seg : MemcgLruSeg) : Bool :=
  op = .head ∨ op = .old ∨ op = .rebin ∧ seg = .head

/-- `score` is what `parp_memcg_reclaim_bin_scored` answers, `random` is the bin drawn otherwise. -/
def lruGenRotateMemcg (score : ℕ → Option (ℕ × Bool)) (random : ℕ) (op : MemcgLruOp) (memcg : ℕ)
    (lru : Lru) : Lru :=
  match lru.entries.find? fun entry => entry.memcg = memcg with
  | none => lru
  | some entry =>
    let bin := ((score memcg).map Prod.fst).getD random
    let placed := moved lru.seq bin op entry
    let rest := lru.entries.filter fun entry => entry.memcg ≠ memcg
    let entries := if atHead op placed.seg then placed :: rest else rest ++ [placed]
    { seq := seqAfter lru.seq entry.gen entries, entries := entries }

def lruGenReleaseMemcg (memcg : ℕ) (lru : Lru) : Lru :=
  match lru.entries.find? fun entry => entry.memcg = memcg with
  | none => lru
  | some entry =>
    let entries := lru.entries.filter fun entry => entry.memcg ≠ memcg
    { seq := seqAfter lru.seq entry.gen entries, entries := entries }

/-- What one iteration of `shrink_many` reads, and what shrinking the memcg does. -/
structure ManyReading where
  dying : Bool := false
  cold : ColdReading := {}
  belowMin : Bool := false
  belowLow : Bool := false
  success : Bool := false
  online : Bool := true
  sizable : Bool := true
  shrunk : Shrunk := {}
  abort : Bool := false
  random : ℕ := 0
  deriving DecidableEq

/-- The operation `shrink_one` asks for, and what it did. -/
def shrinkOne (reading : ManyReading) (seg : MemcgLruSeg) : Option MemcgLruOp × Shrunk :=
  if reading.belowMin then (some .young, {})
  else if reading.belowLow ∧ seg ≠ .tail then (some .tail, {})
  else if reading.success ∧ reading.online then (some .young, reading.shrunk)
  else if reading.success = false ∧ reading.sizable then (none, reading.shrunk)
  else (some (if seg ≠ .tail then .tail else .young), reading.shrunk)

structure ManyScan where
  lru : Lru
  sc : ScanControl
  bin : ℕ
  /-- The memcg the iteration is at, or the end of the list. -/
  pos : Option ℕ
  returned : Bool := false
  deriving DecidableEq

inductive ManyNote
  | released (memcg : ℕ)
  | rebinned (memcg : ℕ) (restarts : Bool)
  | visited (visit : Visit)
  | passed
  deriving DecidableEq

section

variable (score : ℕ → Option (ℕ × Bool)) (gen firstBin : ℕ)

def firstOf (entries : List LruEntry) : Option ℕ := entries.head?.map LruEntry.memcg

def entriesFrom (entries : List LruEntry) (memcg : ℕ) : List LruEntry :=
  entries.dropWhile fun entry => entry.memcg ≠ memcg

def nextOf (entries : List LruEntry) (memcg : ℕ) : Option ℕ :=
  firstOf ((entriesFrom entries memcg).drop 1)

def startPass (lru : Lru) (sc : ScanControl) (bin : ℕ) : ManyScan where
  lru := lru
  sc := sc
  bin := bin
  pos := firstOf (lru.fifo gen bin)

def segOf (lru : Lru) (memcg : ℕ) : MemcgLruSeg :=
  (lru.entries.find? fun entry => entry.memcg = memcg).elim .nop LruEntry.seg

/-- The memcg is shrunk where it is: what it asks for takes effect after the iterator has moved. -/
def manyVisit (s : ManyScan) (memcg : ℕ) (predictionBin : ℕ) (reading : ManyReading) :
    ManyNote × ManyScan :=
  let next := nextOf (s.lru.fifo gen s.bin) memcg
  let (during, context) := parpColdReclaimEnter reading.cold predictionBin s.sc
  let visit : Visit :=
    { memcg := memcg, reading := reading.cold, bin := predictionBin, before := s.sc
      during := none, after := during }
  if parpColdReclaimSkip during context then (.visited visit, { s with sc := during, pos := next })
  else
    let (op, shrunk) := shrinkOne reading (segOf s.lru memcg)
    let sc := parpColdReclaimExit (during.count shrunk) context
    let lru := op.elim s.lru fun op => lruGenRotateMemcg score reading.random op memcg s.lru
    (.visited { visit with during := some during, after := sc },
      { s with lru := lru, sc := sc, pos := next, returned := reading.abort })

/-- One iteration of `shrink_many` on the generation. The rotation the source leaves to the start
of the next iteration, after the iterator has moved on, is made at the end of this one. -/
def manyStep (s : ManyScan) (reading : ManyReading) : ManyNote × ManyScan :=
  if s.returned then (.passed, s)
  else
    match s.pos with
    | none =>
      let bin := (s.bin + 1) % memcgNrBins
      if bin = firstBin then (.passed, { s with returned := true })
      else (.passed, startPass gen s.lru s.sc bin)
    | some memcg =>
      if reading.dying then
        (.released memcg,
          { s with
            lru := lruGenReleaseMemcg memcg s.lru
            pos := nextOf (s.lru.fifo gen s.bin) memcg })
      else
        match score memcg with
        | none => manyVisit score gen s memcg memcgNrBins reading
        | some (scoredBin, predictionBacked) =>
          if scoredBin ≠ s.bin then
            let lru := lruGenRotateMemcg score reading.random .rebin memcg s.lru
            if scoredBin < s.bin then
              (.rebinned memcg true, startPass gen lru s.sc firstBin)
            else
              (.rebinned memcg false,
                { s with lru := lru, pos := nextOf (s.lru.fifo gen s.bin) memcg })
          else
            manyVisit score gen s memcg (if predictionBacked then scoredBin else memcgNrBins)
              reading

end

def firstBinOf (switches : Switches) (random : ℕ) : ℕ :=
  if parpTier2ReclaimBinApplyEnabled switches then 0 else random % memcgNrBins

/-- A call of `shrink_many` at its start. -/
def shrinkManyStart (switches : Switches) (random : ℕ) (lru : Lru) (sc : ScanControl) : ManyScan :=
  startPass (lru.seq % memcgNrGens) lru sc (firstBinOf switches random)

end Parp.MemcgLru
