import ImuGamepad.FrameDecode
import ImuGamepad.Library.Clock
import Mathlib.Data.List.Chain
import Mathlib.Tactic.NormNum

/-!
# The sampling gate

`readDataIMU` publishes a frame when 80 ms have elapsed on `millis()` since the time stamp it
stored last. The clock behind `millis()` never wraps; its 32-bit counter does, every 49.7 days. A
call reads the counter twice, at the gate and again for the time stamp.

The system of this module is the firmware beside that clock. Two ghosts go with it, the time and
the reading of the clock that `timestamp` shows, and a call cannot be made in the past.

## Main definitions

* `ClockedFirmware`, `clockedStep` — the firmware and the clock
* `Publishes` — a call has published a frame
* `KeepsPeriod`, `PublishesOnTime` — what the gate should do with one call
* `NeverStalls` — what it should do with a series of them

## Main results

* `gateRejects_iff` — the comparison with a floating-point quotient, on the counter
* `Ticking.step` — the time stamp shows what the ghost says, and the gate decides by it
* `sampling_keeps_period`
-/

namespace ImuGamepad

open Runs

/-! ### The gate on the counter -/

/-- What `millis()` returns at a time. -/
def millis (t : ℕ) : BitVec 32 := Clock.reading 32 t

/-- The period of the filters, in ms. -/
def filterPeriod : ℕ := 80

theorem filterPeriod_eq : (filterPeriod : ℚ) = 1000 / filterUpdateRateHz := by
  norm_num [filterPeriod, filterUpdateRateHz]

/-- The gate rejects a call until the period has elapsed on the counter. -/
theorem gateRejects_iff {gateMillis timestamp : BitVec 32} :
    gateRejects gateMillis timestamp ↔ ¬ Clock.Elapsed filterPeriod timestamp gateMillis := by
  rw [gateRejects, ← filterPeriod_eq, Clock.Elapsed, not_le]
  exact_mod_cast Iff.rfl

/-! ### The firmware and the clock -/

/-- A call of `readDataIMU`: its samples, and the time at its two looks at the clock. -/
structure ClockedCall where
  samples : ImuInput
  gate : ℕ
  store : ℕ

/-- What the call reads. -/
def ClockedCall.input (c : ClockedCall) : ImuInput :=
  { c.samples with gateMillis := millis c.gate, storeMillis := millis c.store }

/-- The firmware, the time, and the reading of the clock that `timestamp` shows. -/
structure ClockedFirmware where
  firmware : Firmware
  now : ℕ
  stored : ℕ

/-- A call has published a frame: it has updated the filters. -/
def Publishes (s t : Firmware) : Prop := s.fillsion1.length < t.fillsion1.length

instance (s t : Firmware) : Decidable (Publishes s t) := inferInstanceAs (Decidable (_ < _))

/-- One call. The clock never goes back, between two calls or within one. The write of the
temperature through the null pointer is taken to be ignored: were it to fault, no call would come to
the gate. -/
def clockedStep (p : Platform) (s : ClockedFirmware) (c : ClockedCall) (t : ClockedFirmware) :
    Prop :=
  s.now ≤ c.gate ∧ c.gate ≤ c.store ∧ t.now = c.store ∧
    readDataIMU p .ignored c.input s.firmware = .ok t.firmware ∧
    t.stored = if Publishes s.firmware t.firmware then c.store else s.stored

/-! ### What the gate should do -/

/-- A call publishes no earlier than the period after the stored reading, and if it comes later
than that, and before the counter has passed once, it does publish. -/
structure KeepsPeriod (s : ClockedFirmware) (c : ClockedCall) (t : ClockedFirmware) : Prop where
  notEarly : Publishes s.firmware t.firmware → s.stored + filterPeriod ≤ c.gate
  inTime : s.stored + filterPeriod ≤ c.gate → c.gate < s.stored + 2 ^ 32 →
    Publishes s.firmware t.firmware

/-- A call publishes exactly if the period is over. -/
def PublishesOnTime (s : ClockedFirmware) (c : ClockedCall) (t : ClockedFirmware) : Prop :=
  Publishes s.firmware t.firmware ↔ s.stored + filterPeriod ≤ c.gate

/-- After every publication, the first call that comes the period or more later publishes too. -/
def NeverStalls (p : Platform) (s : ClockedFirmware) (cs : List ClockedCall) : Prop :=
  ∀ pre c mid e s₁ s₂ s₃ s₄, pre ++ (c :: mid ++ [e]) <+: cs →
    Path (clockedStep p) s pre s₁ → clockedStep p s₁ c s₂ → Publishes s₁.firmware s₂.firmware →
    Path (clockedStep p) s₂ mid s₃ → (∀ m ∈ mid, m.gate < c.store + filterPeriod) →
    clockedStep p s₃ e s₄ → c.store + filterPeriod ≤ e.gate → Publishes s₃.firmware s₄.firmware

/-! ### One call -/

/-- The sensors are sampled, and the time stamp shows what the ghost says. -/
structure Ticking (s : ClockedFirmware) : Prop where
  drivers : ∃ d : Drivers, s.firmware.sensorGroup = d.group
  available : s.firmware.imusAvailable = true
  timestamp : s.firmware.timestamp = millis s.stored
  stored_le : s.stored ≤ s.now

section

variable {p : Platform} {s t : ClockedFirmware} {c : ClockedCall} {cs : List ClockedCall}

/-- A call goes through at any time to come. -/
theorem Ticking.exists_step (hs : Ticking s) (hgate : s.now ≤ c.gate) (hstore : c.gate ≤ c.store) :
    ∃ t, clockedStep p s c t := by
  obtain ⟨d, hd⟩ := hs.drivers
  have ht := readDataIMU_eq_of_valid p hd c.input
  exact ⟨⟨_, c.store, if Publishes s.firmware _ then c.store else s.stored⟩, hgate, hstore, rfl,
    ht, rfl⟩

/-- What one call does: it publishes, and stores the time, exactly if the period has elapsed on the
counter. -/
theorem Ticking.step (hs : Ticking s) (h : clockedStep p s c t) :
    Ticking t ∧ (Publishes s.firmware t.firmware ↔
      Clock.Elapsed filterPeriod (millis s.stored) (millis c.gate)) := by
  obtain ⟨hnow, hle, htime, hread, hstored⟩ := h
  obtain ⟨d, hd⟩ := hs.drivers
  have hstored_le := hs.stored_le
  by_cases hgate : gateRejects c.input.gateMillis s.firmware.timestamp
  · rw [readDataIMU_of_rejects p hd hs.available hgate] at hread
    have ht := (Except.ok.inj hread).symm
    have hno : ¬ Publishes s.firmware t.firmware := by
      rw [ht, Publishes]
      exact Nat.lt_irrefl _
    rw [if_neg hno] at hstored
    refine ⟨⟨?_, ?_, ?_, ?_⟩, ?_⟩
    · rw [ht]
      exact hs.drivers
    · rw [ht]
      exact hs.available
    · rw [ht, hstored]
      exact hs.timestamp
    · omega
    · rw [← hs.timestamp]
      exact iff_of_false hno (gateRejects_iff.mp hgate)
  · rw [readDataIMU_of_passes p hd hs.available hgate] at hread
    have ht := (Except.ok.inj hread).symm
    have hyes : Publishes s.firmware t.firmware := by
      rw [ht, Publishes, publish_fillsion1, List.length_append]
      exact Nat.lt_succ_self _
    rw [if_pos hyes] at hstored
    refine ⟨⟨?_, ?_, ?_, ?_⟩, ?_⟩
    · rw [ht]
      exact hs.drivers
    · rw [ht]
      exact hs.available
    · rw [ht, hstored]
      rfl
    · omega
    · rw [← hs.timestamp]
      exact iff_of_true hyes (not_not.mp (mt gateRejects_iff.mpr hgate))

/-- **Every call keeps the period.** -/
theorem Ticking.keepsPeriod (hs : Ticking s) (h : clockedStep p s c t) : KeepsPeriod s c t := by
  have hle : s.stored ≤ c.gate := hs.stored_le.trans h.1
  have hiff := (hs.step h).2
  constructor
  · intro hpub
    exact Clock.le_of_elapsed hle (hiff.mp hpub)
  · intro hperiod hlt
    exact hiff.mpr ((Clock.elapsed_iff hle hlt).mpr hperiod)

/-! ### Series of calls -/

theorem Ticking.path (hs : Ticking s) (h : Path (clockedStep p) s cs t) : Ticking t := by
  refine h.invariant hs ?_
  intro u c u' hu hstep
  exact (hu.step hstep).1

/-- Calls before the period is over leave the stored reading as it is. -/
theorem Ticking.stored_of_path (hs : Ticking s) (h : Path (clockedStep p) s cs t)
    (hcs : ∀ c ∈ cs, c.gate < s.stored + filterPeriod) : t.stored = s.stored := by
  induction h with
  | nil => rfl
  | @cons s u _ c cs hstep _ ih =>
    have hno : ¬ Publishes s.firmware u.firmware := by
      intro hpub
      have hearly := (hs.keepsPeriod hstep).notEarly hpub
      have hlate := hcs c List.mem_cons_self
      omega
    have hu : u.stored = s.stored := by rw [hstep.2.2.2.2, if_neg hno]
    rw [← hu] at hcs ⊢
    exact ih (hs.step hstep).1 fun m hm => hcs m (List.mem_cons_of_mem c hm)

/-- **Where the looks at the gate follow each other closely, every call publishes exactly if the
period is over.** The first of them follows closely on a look before the period was. -/
theorem Ticking.publishes_iff_of_close (hs : Ticking s) {look : ℕ}
    (hlook : look < s.stored + filterPeriod)
    (hclose : (look :: cs.map ClockedCall.gate).IsChain (Clock.Close 32 filterPeriod)) :
    Always (clockedStep p) PublishesOnTime s cs := by
  induction cs generalizing s look with
  | nil => exact always_nil _ s
  | cons c cs ih =>
    intro t hstep
    rw [List.map_cons, List.isChain_cons_cons] at hclose
    obtain ⟨hfirst, hrest⟩ := hclose
    have hkeeps := hs.keepsPeriod hstep
    have hiff : PublishesOnTime s c t := by
      refine ⟨hkeeps.notEarly, fun hperiod => hkeeps.inTime hperiod ?_⟩
      exact Clock.lt_of_close (by decide) hfirst hlook
    refine ⟨hiff, ih (hs.step hstep).1 ?_ hrest⟩
    have hstored := hstep.2.2.2.2
    by_cases hpub : Publishes s.firmware t.firmware
    · -- the call has stored a reading no earlier than its look
      rw [if_pos hpub] at hstored
      have hle : c.gate ≤ c.store := hstep.2.1
      rw [hstored]
      exact Nat.lt_of_le_of_lt hle (Nat.lt_add_of_pos_right (by decide))
    · rw [if_neg hpub] at hstored
      rw [hstored]
      exact Nat.lt_of_not_le (mt hiff.mpr hpub)

/-- Where the looks at the gate follow each other closely, sampling never stalls. -/
theorem Ticking.neverStalls (hs : Ticking s)
    (hclose : (cs.map ClockedCall.gate).IsChain (Clock.Close 32 filterPeriod)) :
    NeverStalls p s cs := by
  rintro pre c mid e s₁ s₂ s₃ s₄ ⟨post, rfl⟩ hpre hc hpub hmid hgates he hperiod
  have h₂ := ((hs.path hpre).step hc).1
  have hstored : s₂.stored = c.store := by rw [hc.2.2.2.2, if_pos hpub]
  have hlook : c.gate < s₂.stored + filterPeriod := by
    have hle : c.gate ≤ c.store := hc.2.1
    rw [hstored]
    exact Nat.lt_of_le_of_lt hle (Nat.lt_add_of_pos_right (by decide))
  have hlooks : (c.gate :: (mid ++ [e]).map ClockedCall.gate).IsChain
      (Clock.Close 32 filterPeriod) := by
    refine hclose.infix ⟨pre.map ClockedCall.gate, post.map ClockedCall.gate, ?_⟩
    simp
  have hlast := (h₂.publishes_iff_of_close hlook hlooks).last hmid he
  refine hlast.mpr ?_
  rwa [h₂.stored_of_path hmid (by rwa [hstored]), hstored]

end

/-- The state a successful `initIMU` leaves. -/
theorem ticking_of_initIMU {p : Platform} {d : Drivers} {s₀ s : Firmware} {probes : ImuProbes}
    {start : ℕ} (hd : s₀.sensorGroup = d.group)
    (h : initIMU p probes (millis start) s₀ = .ok (true, s)) :
    Ticking ⟨s, start, start⟩ := by
  obtain ⟨b, t, ht, hdt⟩ := initIMU_ok p probes (millis start) ⟨d, hd⟩
  obtain rfl : t = s := congrArg Prod.snd (Except.ok.inj (ht.symm.trans h))
  obtain ⟨hfound, u, -, hu⟩ := initIMU_spec h
  rw [if_pos hfound.symm] at hu
  exact ⟨hdt, by rw [hu]; rfl, by rw [hu]; rfl, Nat.le_refl _⟩

/-- **The sampling gate keeps its period, however often the counter wraps.** After a successful
`initIMU`, every call at any time goes through and keeps the period. Where the looks at the gate
follow each other closely, sampling never stalls; and where the first one follows closely on
`initIMU` too, every call publishes exactly if the period is over. -/
theorem sampling_keeps_period (p : Platform) {d : Drivers} {s₀ s : Firmware} {probes : ImuProbes}
    {start : ℕ} (hd : s₀.sensorGroup = d.group)
    (h : initIMU p probes (millis start) s₀ = .ok (true, s))
    (cs : List ClockedCall) :
    let init : ClockedFirmware := ⟨s, start, start⟩
    (∀ pre t c, Path (clockedStep p) init pre t → t.now ≤ c.gate → c.gate ≤ c.store →
        ∃ u, clockedStep p t c u) ∧
      Always (clockedStep p) KeepsPeriod init cs ∧
      ((cs.map ClockedCall.gate).IsChain (Clock.Close 32 filterPeriod) →
        NeverStalls p init cs) ∧
      ((start :: cs.map ClockedCall.gate).IsChain (Clock.Close 32 filterPeriod) →
        Always (clockedStep p) PublishesOnTime init cs) := by
  intro init
  have hinit : Ticking init := ticking_of_initIMU hd h
  have hlook : start < start + filterPeriod := Nat.lt_add_of_pos_right (by decide)
  refine ⟨?_, ?_, hinit.neverStalls, hinit.publishes_iff_of_close hlook⟩
  · intro pre t c hpre
    exact (hinit.path hpre).exists_step
  · refine .of_invariant hinit ?_
    intro t c u ht hstep
    exact ⟨(ht.step hstep).1, ht.keepsPeriod hstep⟩

/-- The counter rolls over after a frame has been published. The next call, on the other side, comes
too early, and the one after it publishes. -/
theorem sampling_keeps_period_rollover :
    let start := 2 ^ 32 - 100
    let cs : List ClockedCall := [⟨.ofSamples .atRest .atRest 0 0, start + 80, start + 81⟩,
      ⟨.ofSamples .atRest .atRest 0 0, start + 100, start + 100⟩,
      ⟨.ofSamples .atRest .atRest 0 0, start + 170, start + 171⟩]
    ∃ s, initIMU .bench .bench (millis start) (.bench fun _ => 0) = .ok (true, s) ∧
      (∀ pre t c, Path (clockedStep .bench) ⟨s, start, start⟩ pre t → t.now ≤ c.gate →
          c.gate ≤ c.store → ∃ u, clockedStep .bench t c u) ∧
        Always (clockedStep .bench) KeepsPeriod ⟨s, start, start⟩ cs ∧
        ((cs.map ClockedCall.gate).IsChain (Clock.Close 32 filterPeriod) →
          NeverStalls .bench ⟨s, start, start⟩ cs) ∧
        ((start :: cs.map ClockedCall.gate).IsChain (Clock.Close 32 filterPeriod) →
          Always (clockedStep .bench) PublishesOnTime ⟨s, start, start⟩ cs) := by
  intro start cs
  obtain ⟨b, s, hs, -⟩ := initIMU_ok (s := .bench fun _ => 0) .bench .bench (millis start)
    ⟨.new, rfl⟩
  obtain rfl : b = true := (initIMU_spec hs).1
  exact ⟨s, hs, sampling_keeps_period .bench (d := .new) rfl hs cs⟩

end ImuGamepad
