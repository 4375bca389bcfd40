import BlinkerFluid.GlobalMemoryGuard
import BlinkerFluid.StepRun
import Mathlib.Algebra.Group.Nat.Defs

/-! The memory ceiling of the process and the thresholds that are fractions of it, in the 64-bit
arithmetic of the code. A foreground reading of the ceiling is kept in a cache that every later
call returns; a call without one falls back. The ceiling always lies between the floor and the
cap, so no product on the way to a threshold overflows. -/

namespace BlinkerFluid.MemoryPolicy
open StepRun

def kMiB : UInt64 := 1024 * 1024

def kCeilingFloor : UInt64 := 700 * kMiB
def kCeilingCap : UInt64 := 1800 * kMiB
def kFallbackCeiling : UInt64 := 900 * kMiB

def kModeratePercent : UInt64 := 55
def kCriticalPercent : UInt64 := 72
def kBlockNewContentsPercent : UInt64 := 82

def kMinModerateAvailable : UInt64 := 280 * kMiB
def kMinCriticalAvailable : UInt64 := 140 * kMiB

/-- `BUILDFLAG(IS_IOS)`, `__builtin_available(iOS 13.0, *)`, and `hw.memsize` if `sysctlbyname`
answers. -/
structure Platform where
  isIOS : Bool
  iOS13 : Bool
  memsize : Option UInt64

/-- `os_proc_available_memory()`, and the footprint if `task_info` succeeds. -/
structure Readings where
  available : UInt64
  footprint : Option UInt64

def clamp (value low high : UInt64) : UInt64 :=
  if value < low then low else if high < value then high else value

/-- `std::max`. -/
def larger (a b : UInt64) : UInt64 := if a < b then b else a

variable (platform : Platform)

def devicePhysicalMemory : UInt64 :=
  if platform.isIOS then platform.memsize.getD (2048 * kMiB) else 4096 * kMiB

/-- The ceiling and the cache behind the call; zero is an empty cache. -/
def memoryCeiling (r : Readings) (cached : UInt64) : UInt64 × UInt64 :=
  if !platform.isIOS then (kFallbackCeiling, cached)
  else if cached ≠ 0 then (cached, cached)
  else if !platform.iOS13 then
    (if devicePhysicalMemory platform < 1500 * kMiB then kCeilingFloor else kFallbackCeiling,
      cached)
  else if r.available = 0 then (kFallbackCeiling, cached)
  else
    let ceiling := clamp (r.footprint.getD 0 + r.available) kCeilingFloor kCeilingCap
    (ceiling, ceiling)

def cachedAfter (calls : List Readings) (cached : UInt64) : UInt64 :=
  calls.foldl (fun cached r => (memoryCeiling platform r cached).2) cached

/-! The thresholds of a ceiling. -/

def moderateFootprint (ceiling : UInt64) : UInt64 := ceiling * kModeratePercent / 100

def criticalFootprint (ceiling : UInt64) : UInt64 := ceiling * kCriticalPercent / 100

def blockNewContentsFootprint (ceiling : UInt64) : UInt64 :=
  ceiling * kBlockNewContentsPercent / 100

def moderateAvailable (ceiling : UInt64) : UInt64 :=
  larger kMinModerateAvailable (ceiling * 18 / 100)

def criticalAvailable (ceiling : UInt64) : UInt64 :=
  larger kMinCriticalAvailable (ceiling * 9 / 100)

structure Ranged (ceiling : UInt64) : Prop where
  floor_le : kCeilingFloor ≤ ceiling
  le_cap : ceiling ≤ kCeilingCap

/-- The cache is empty or holds a ceiling. -/
def Sound (cached : UInt64) : Prop := cached = 0 ∨ Ranged cached

section Ceiling

theorem clamp_ranged (value : UInt64) : Ranged (clamp value kCeilingFloor kCeilingCap) := by
  unfold clamp
  split_ifs with low high
  · exact ⟨by decide, by decide⟩
  · exact ⟨by decide, by decide⟩
  · exact ⟨UInt64.not_lt.mp low, UInt64.not_lt.mp high⟩

variable {platform}

theorem memoryCeiling_sound (r : Readings) {cached : UInt64} (sound : Sound cached) :
    Ranged (memoryCeiling platform r cached).1 ∧ Sound (memoryCeiling platform r cached).2 := by
  have fallback : Ranged kFallbackCeiling := ⟨by decide, by decide⟩
  have floor : Ranged kCeilingFloor := ⟨by decide, by decide⟩
  unfold memoryCeiling
  split_ifs with desktop full legacy small unanswered
  · exact ⟨fallback, sound⟩
  · exact ⟨sound.resolve_left full, sound⟩
  · exact ⟨floor, sound⟩
  · exact ⟨fallback, sound⟩
  · exact ⟨fallback, sound⟩
  · exact ⟨clamp_ranged _, .inr (clamp_ranged _)⟩

theorem cachedAfter_sound (calls : List Readings) {cached : UInt64} (sound : Sound cached) :
    Sound (cachedAfter platform calls cached) := by
  have preserved : ∀ cached r, Sound cached → Sound (memoryCeiling platform r cached).2 :=
    fun _ r before => (memoryCeiling_sound r before).2
  exact invariant_always preserved cached calls sound

theorem memoryCeiling_cached (ios : platform.isIOS = true) (r : Readings) {cached : UInt64}
    (full : cached ≠ 0) : memoryCeiling platform r cached = (cached, cached) := by
  simp [memoryCeiling, ios, full]

theorem cachedAfter_cached (ios : platform.isIOS = true) (calls : List Readings) {cached : UInt64}
    (full : cached ≠ 0) : cachedAfter platform calls cached = cached := by
  have stays : ∀ c r, c = cached → (memoryCeiling platform r c).2 = cached := by
    rintro _ r rfl
    rw [memoryCeiling_cached ios r full]
  exact invariant_always stays cached calls rfl

end Ceiling

section Thresholds

variable {ceiling : UInt64}

theorem Ranged.toNat_mem (ranged : Ranged ceiling) :
    700 * 2 ^ 20 ≤ ceiling.toNat ∧ ceiling.toNat ≤ 1800 * 2 ^ 20 :=
  ⟨UInt64.le_iff_toNat_le.mp ranged.floor_le, UInt64.le_iff_toNat_le.mp ranged.le_cap⟩

theorem Ranged.mul_lt (ranged : Ranged ceiling) {percent : UInt64}
    (fraction : percent.toNat ≤ 100) : ceiling.toNat * percent.toNat < UInt64.size := by
  have product : ceiling.toNat * percent.toNat ≤ 1800 * 2 ^ 20 * 100 :=
    Nat.mul_le_mul ranged.toNat_mem.2 fraction
  exact product.trans_lt (by decide)

theorem Ranged.toNat_share (ranged : Ranged ceiling) {percent : UInt64}
    (fraction : percent.toNat ≤ 100) :
    (ceiling * percent / 100).toNat = ceiling.toNat * percent.toNat / 100 := by
  rw [UInt64.toNat_div, UInt64.toNat_mul, Nat.mod_eq_of_lt (ranged.mul_lt fraction)]
  rfl

theorem toNat_larger (a b : UInt64) : (larger a b).toNat = max a.toNat b.toNat := by
  unfold larger
  split_ifs with less
  · exact (max_eq_right (UInt64.lt_iff_toNat_lt.mp less).le).symm
  · exact (max_eq_left (UInt64.le_iff_toNat_le.mp (UInt64.not_lt.mp less))).symm

theorem footprints_exact (ranged : Ranged ceiling) :
    (moderateFootprint ceiling).toNat = GlobalMemoryGuard.moderateFootprint ceiling.toNat ∧
      (criticalFootprint ceiling).toNat = GlobalMemoryGuard.criticalFootprint ceiling.toNat ∧
      (blockNewContentsFootprint ceiling).toNat =
        GlobalMemoryGuard.blockNewContentsFootprint ceiling.toNat :=
  ⟨ranged.toNat_share (by decide), ranged.toNat_share (by decide), ranged.toNat_share (by decide)⟩

theorem footprints_lt (ranged : Ranged ceiling) :
    moderateFootprint ceiling < criticalFootprint ceiling ∧
      criticalFootprint ceiling < blockNewContentsFootprint ceiling := by
  obtain ⟨moderate, critical, block⟩ := footprints_exact ranged
  have large := ranged.toNat_mem.1
  rw [UInt64.lt_iff_toNat_lt, UInt64.lt_iff_toNat_lt, moderate, critical, block]
  simp only [GlobalMemoryGuard.moderateFootprint, GlobalMemoryGuard.criticalFootprint,
    GlobalMemoryGuard.blockNewContentsFootprint, GlobalMemoryGuard.kModeratePercent,
    GlobalMemoryGuard.kCriticalPercent, GlobalMemoryGuard.kBlockNewContentsPercent]
  omega

theorem availables_lt (ranged : Ranged ceiling) :
    criticalAvailable ceiling < moderateAvailable ceiling := by
  have moderate : (moderateAvailable ceiling).toNat =
      max (280 * 2 ^ 20) (ceiling.toNat * 18 / 100) := by
    rw [moderateAvailable, toNat_larger, ranged.toNat_share (by decide)]
    rfl
  have critical : (criticalAvailable ceiling).toNat =
      max (140 * 2 ^ 20) (ceiling.toNat * 9 / 100) := by
    rw [criticalAvailable, toNat_larger, ranged.toNat_share (by decide)]
    rfl
  rw [UInt64.lt_iff_toNat_lt, moderate, critical]
  omega

end Thresholds

/-- The readings of a call lie below `2 ^ 63`. -/
structure Readings.Bounded (r : Readings) : Prop where
  available_lt : r.available.toNat < 2 ^ 63
  footprint_lt : (r.footprint.getD 0).toNat < 2 ^ 63

/-- The sum and the products on the way to the thresholds, taken exactly, fit a word. -/
structure NoOverflow (r : Readings) (ceiling : UInt64) : Prop where
  sum_lt : (r.footprint.getD 0).toNat + r.available.toNat < UInt64.size
  mul_lt : ∀ percent ∈ [kModeratePercent, kCriticalPercent, kBlockNewContentsPercent, 18, 9],
    ceiling.toNat * percent.toNat < UInt64.size

theorem Readings.Bounded.sum_lt {r : Readings} (bounded : r.Bounded) :
    (r.footprint.getD 0).toNat + r.available.toNat < UInt64.size := by
  have size : UInt64.size = 2 ^ 63 + 2 ^ 63 := rfl
  have available := bounded.available_lt
  have footprint := bounded.footprint_lt
  omega

theorem noOverflow_of_bounded {r : Readings} (bounded : r.Bounded) {ceiling : UInt64}
    (ranged : Ranged ceiling) : NoOverflow r ceiling where
  sum_lt := bounded.sum_lt
  mul_lt percent listed := by
    refine ranged.mul_lt ?_
    simp only [List.mem_cons, List.not_mem_nil, or_false] at listed
    rcases listed with rfl | rfl | rfl | rfl | rfl <;> decide

theorem toNat_clamp (value : UInt64) : (clamp value kCeilingFloor kCeilingCap).toNat =
    max (700 * 2 ^ 20) (min (1800 * 2 ^ 20) value.toNat) := by
  have floor : kCeilingFloor.toNat = 700 * 2 ^ 20 := rfl
  have cap : kCeilingCap.toNat = 1800 * 2 ^ 20 := rfl
  unfold clamp
  split_ifs with low high
  · rw [UInt64.lt_iff_toNat_lt, floor] at low
    rw [floor]
    omega
  · rw [UInt64.lt_iff_toNat_lt, cap] at high
    rw [cap]
    omega
  · rw [UInt64.lt_iff_toNat_lt, floor] at low
    rw [UInt64.lt_iff_toNat_lt, cap] at high
    omega

theorem memoryCeiling_measured {platform : Platform} (ios : platform.isIOS = true)
    (modern : platform.iOS13 = true) {r : Readings} (bounded : r.Bounded)
    (answered : r.available ≠ 0) :
    (memoryCeiling platform r 0).1.toNat = max (700 * 2 ^ 20)
      (min (1800 * 2 ^ 20) ((r.footprint.getD 0).toNat + r.available.toNat)) := by
  simp only [memoryCeiling, ios, modern, answered, Bool.not_true, Bool.false_eq_true, if_false,
    ne_eq, not_true_eq_false]
  rw [toNat_clamp, UInt64.toNat_add, Nat.mod_eq_of_lt bounded.sum_lt]

end BlinkerFluid.MemoryPolicy
