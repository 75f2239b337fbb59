import Parp.MemshiftCore

set_option autoImplicit false

/-!
# The donor budget

`donorBudget` of `core.hpp`: how much one application may be asked to give back, and why not more.
-/
namespace Parp.DonorBudget

open Memshift

section

/-- A double as an amount: 0 unless it is finite and positive, cut off at the largest number. -/
def amount (x : Float) : Bytes :=
  if !x.isFinite || decide (x ≤ 0) then 0
  else if Unlimited.toFloat ≤ x then Unlimited
  else x.toUInt64

/-- `std::min` -/
def smaller (a b : Bytes) : Bytes := if b < a then b else a

/-- `std::max` -/
def larger (a b : Bytes) : Bytes := if a < b then b else a

structure Options where
  swappiness : Int := -1
  allowAnon : Bool := true
  warmupSec : Float := 30
  alpha : Float := 0.20
  anonWeight : Float := 0.50
  keepRatio : Float := 0.70
  growthGuardMBps : Float := 8
  refaultGuardMBps : Float := 1
  majorGuardPS : Float := 64
  appSomeLimit : Float := 2
  minBatch : Bytes := 8 * MiB
  batch : Bytes := 64 * MiB
  swapReserve : Bytes := 256 * MiB

structure App where
  reclaim : Bool := false
  keep : Bytes := 256 * MiB

structure PSI where
  valid : Bool := false
  some10 : Float := 0

structure Sample where
  valid : Bool := false
  current : Bytes := 0
  inactiveAnon : Bytes := 0
  inactiveFile : Bytes := 0
  dirty : Bytes := 0
  writeback : Bytes := 0
  swapRoom : Bytes := 0
  low : Bytes := 0
  min : Bytes := 0
  populated : Bool := false
  psi : PSI := {}

structure System where
  swapFree : Bytes := 0

structure Features where
  now : Sample
  prev : Sample
  age : Float := 0
  growthBytesPS : Float := 0
  refaultBytesPS : Float := 0
  majorPS : Float := 0
  protectedNow : Bool := true
  episodeRoom : Bytes := 0
  minuteRoom : Bytes := 0
  adaptive : Float := 1

structure Budget where
  bytes : Bytes := 0
  coldHint : Bytes := 0
  reason : String

variable (o : Options) (app : App) (f : Features) (s : System)

def refusal : Option String :=
  if !app.reclaim || f.protectedNow then some "protected"
  else if !f.now.valid || !f.prev.valid then some "need_two_samples"
  else if !f.now.populated then some "empty_cgroup"
  else if f.age < o.warmupSec then some "startup_grace"
  else if o.growthGuardMBps * MiB.toFloat < f.growthBytesPS then some "growing_app"
  else if o.refaultGuardMBps * MiB.toFloat < f.refaultBytesPS ∨ o.majorGuardPS < f.majorPS then
    some "refault_guard"
  else if f.now.psi.valid = true ∧ o.appSomeLimit ≤ f.now.psi.some10 then some "app_psi_guard"
  else none

def cold : Bytes :=
  let fileHint := sub (smaller f.now.inactiveFile f.prev.inactiveFile) (add f.now.dirty f.now.writeback)
  let anonHint :=
    if o.allowAnon = true ∧ o.swappiness ≠ 0 then
      smaller (smaller f.now.inactiveAnon f.prev.inactiveAnon)
        (smaller f.now.swapRoom (sub s.swapFree o.swapReserve))
    else 0
  add fileHint (amount (o.anonWeight * anonHint.toFloat))

def keep : Bytes :=
  larger (larger app.keep f.now.min)
    (larger f.now.low (amount (o.keepRatio * f.now.current.toFloat)))

def limits (deficit globalRoom : Bytes) : List Bytes :=
  [amount (o.alpha * f.adaptive * (cold o f s).toFloat), sub f.now.current (keep o app f),
    f.episodeRoom, f.minuteRoom, globalRoom, deficit, o.batch]

def least (limits : List Bytes) : Bytes := limits.foldl smaller Unlimited

def donorBudget (deficit globalRoom pageSize : Bytes) : Budget :=
  match refusal o app f with
  | some why => ⟨0, 0, why⟩
  | none =>
    let q := least (limits o app f s deficit globalRoom)
    if pageSize = 0 then ⟨0, 0, "invalid_page_size"⟩
    else
      let q := q - q % pageSize
      if q < o.minBatch then ⟨0, cold o f s, "budget_too_small"⟩
      else ⟨q, cold o f s, "eligible"⟩

end

section

theorem smaller_le (a b : Bytes) : smaller a b ≤ a ∧ smaller a b ≤ b := by
  unfold smaller
  split_ifs with h
  · exact ⟨UInt64.le_of_lt h, UInt64.le_refl _⟩
  · exact ⟨UInt64.le_refl _, UInt64.not_lt.1 h⟩

theorem le_larger (a b : Bytes) : a ≤ larger a b ∧ b ≤ larger a b := by
  unfold larger
  split_ifs with h
  · exact ⟨UInt64.le_of_lt h, UInt64.le_refl _⟩
  · exact ⟨UInt64.le_refl _, UInt64.not_lt.1 h⟩

theorem least_le {limits : List Bytes} {limit : Bytes} (h : limit ∈ limits) : least limits ≤ limit := by
  have hfrom (limits : List Bytes) (start : Bytes) :
      limits.foldl smaller start ≤ start ∧ ∀ limit ∈ limits, limits.foldl smaller start ≤ limit := by
    induction limits generalizing start with
    | nil => exact ⟨UInt64.le_refl _, nofun⟩
    | cons first limits ih =>
      obtain ⟨hstart, hrest⟩ := ih (smaller start first)
      obtain ⟨hleft, hright⟩ := smaller_le start first
      refine ⟨UInt64.le_trans hstart hleft, fun limit hmem => ?_⟩
      rcases List.mem_cons.1 hmem with rfl | hmem
      · exact UInt64.le_trans hstart hright
      · exact hrest limit hmem
  exact (hfrom limits Unlimited).2 limit h

variable (o : Options) (app : App) (f : Features) (s : System)

inductive Blocked : Prop
  | optedOut (h : app.reclaim = false)
  | protectedNow (h : f.protectedNow = true)
  | sample (h : f.now.valid = false ∨ f.prev.valid = false)
  | unpopulated (h : f.now.populated = false)
  | warmup (h : f.age < o.warmupSec)
  | growing (h : o.growthGuardMBps * MiB.toFloat < f.growthBytesPS)
  | refaulting (h : o.refaultGuardMBps * MiB.toFloat < f.refaultBytesPS ∨ o.majorGuardPS < f.majorPS)
  | pressure (h : f.now.psi.valid = true ∧ o.appSomeLimit ≤ f.now.psi.some10)

theorem le_keep : app.keep ≤ keep o app f ∧ f.now.min ≤ keep o app f ∧ f.now.low ≤ keep o app f ∧
    amount (o.keepRatio * f.now.current.toFloat) ≤ keep o app f := by
  have hall := le_larger (larger app.keep f.now.min)
    (larger f.now.low (amount (o.keepRatio * f.now.current.toFloat)))
  have hleft := le_larger app.keep f.now.min
  have hright := le_larger f.now.low (amount (o.keepRatio * f.now.current.toFloat))
  exact ⟨UInt64.le_trans hleft.1 hall.1, UInt64.le_trans hleft.2 hall.1,
    UInt64.le_trans hright.1 hall.2, UInt64.le_trans hright.2 hall.2⟩

theorem refusal_of_blocked (h : Blocked o app f) : ∃ why, refusal o app f = some why := by
  unfold refusal
  split_ifs with h1 h2 h3 h4 h5 h6 h7
  · exact ⟨_, rfl⟩
  · exact ⟨_, rfl⟩
  · exact ⟨_, rfl⟩
  · exact ⟨_, rfl⟩
  · exact ⟨_, rfl⟩
  · exact ⟨_, rfl⟩
  · exact ⟨_, rfl⟩
  · cases h with
    | optedOut h => exact absurd (by simp [h]) h1
    | protectedNow h => exact absurd (by simp [h]) h1
    | sample h => exact absurd (by rcases h with h | h <;> simp [h]) h2
    | unpopulated h => exact absurd (by simp [h]) h3
    | warmup h => exact absurd h h4
    | growing h => exact absurd h h5
    | refaulting h => exact absurd h h6
    | pressure h => exact absurd h h7

structure Modest (deficit globalRoom pageSize : Bytes) (b : Budget) : Prop where
  pages : pageSize.toNat ∣ b.bytes.toNat
  batched : b.bytes = 0 ∨ o.minBatch ≤ b.bytes
  limited : b.bytes ≤ deficit ∧ b.bytes ≤ globalRoom ∧ b.bytes ≤ f.episodeRoom ∧
    b.bytes ≤ f.minuteRoom ∧ b.bytes ≤ o.batch
  keeps : ∀ floor ∈ [app.keep, f.now.min, f.now.low, amount (o.keepRatio * f.now.current.toFloat)],
    b.bytes.toNat ≤ f.now.current.toNat - floor.toNat
  blocked : Blocked o app f → b.bytes = 0

theorem modest_zero (deficit globalRoom pageSize : Bytes) (b : Budget) (h : b.bytes = 0) :
    Modest o app f deficit globalRoom pageSize b := by
  have hle : ∀ limit : Bytes, b.bytes ≤ limit := fun limit => by
    rw [h, UInt64.le_iff_toNat_le]
    exact Nat.zero_le _
  refine ⟨?_, .inl h, ⟨hle _, hle _, hle _, hle _, hle _⟩, ?_, fun _ => h⟩
  · rw [h]
    exact Nat.dvd_zero _
  · intro floor _
    rw [h]
    exact Nat.zero_le _

theorem pages_le (q pageSize : Bytes) : q - q % pageSize ≤ q ∧
    (pageSize ≠ 0 → pageSize.toNat ∣ (q - q % pageSize).toNat) := by
  have hle : q % pageSize ≤ q := by
    rw [UInt64.le_iff_toNat_le, UInt64.toNat_mod]
    exact Nat.mod_le _ _
  rw [UInt64.le_iff_toNat_le, UInt64.toNat_sub_of_le _ _ hle, UInt64.toNat_mod]
  exact ⟨Nat.sub_le _ _, fun _ => Nat.dvd_sub_mod _⟩

/-- No budget exceeds its limits, and none is below the smallest batch. -/
theorem donorBudget_modest (deficit globalRoom pageSize : Bytes) :
    Modest o app f deficit globalRoom pageSize
      (donorBudget o app f s deficit globalRoom pageSize) := by
  unfold donorBudget
  cases hrefusal : refusal o app f with
  | some why => exact modest_zero o app f _ _ _ _ rfl
  | none =>
    dsimp only
    split_ifs with hpage hsmall
    · exact modest_zero o app f _ _ _ _ rfl
    · exact modest_zero o app f _ _ _ _ rfl
    · obtain ⟨hround, hpages⟩ := pages_le (least (limits o app f s deficit globalRoom)) pageSize
      have hlimit : ∀ limit ∈ limits o app f s deficit globalRoom,
          least (limits o app f s deficit globalRoom) -
            least (limits o app f s deficit globalRoom) % pageSize ≤ limit :=
        fun limit hmem => UInt64.le_trans hround (least_le hmem)
      refine ⟨hpages hpage, .inr (UInt64.not_lt.1 hsmall), ⟨hlimit _ ?_, hlimit _ ?_, hlimit _ ?_,
        hlimit _ ?_, hlimit _ ?_⟩, ?_, fun hblocked => ?_⟩
      · simp [limits]
      · simp [limits]
      · simp [limits]
      · simp [limits]
      · simp [limits]
      · have hkeep := hlimit (sub f.now.current (keep o app f)) (by simp [limits])
        rw [UInt64.le_iff_toNat_le, sub_toNat] at hkeep
        obtain ⟨happ, hmin, hlow, hratio⟩ := le_keep o app f
        intro floor hfloor
        have hle : floor ≤ keep o app f := by
          simp only [List.mem_cons, List.not_mem_nil, or_false] at hfloor
          rcases hfloor with rfl | rfl | rfl | rfl
          · exact happ
          · exact hmin
          · exact hlow
          · exact hratio
        rw [UInt64.le_iff_toNat_le] at hle
        exact Nat.le_trans hkeep (Nat.sub_le_sub_left hle _)
      · obtain ⟨why, hwhy⟩ := refusal_of_blocked o app f hblocked
        rw [hrefusal] at hwhy
        cases hwhy

end

end Parp.DonorBudget
