import ImuGamepad.EventFlags

/-!
# The size flag and the copy out of Config

A client's write of Config takes two steps of the stack: the value is stored, then the callback
checks its length and raises the flags. The firmware's steps fall in between, and nothing lowers
the flags when the value is replaced. So the flags speak of the value that was checked, and
`getcharacterData`, which has no bound, copies the value that is there.

## Main definitions

* `ConfigState`, `ConfigEvent`, `configStep` — the interleaving
* `SizeGuards`, `CopySafe` — what the flags should guarantee
* `Overwrites` — the value is replaced by one of another size while both flags are up

## Main results

* `sizeGuards_iff` — the guarantee holds all along a run exactly when no step overwrites
-/

namespace ImuGamepad

open Runs BleGamepad

/-! ### The interleaving -/

/-- The gamepad, and whether a stored value still waits for its callback. -/
structure ConfigState where
  gamepad : BleGamepad
  pending : Bool

/-- The steps of the stack's task and of the firmware's. -/
inductive ConfigEvent
  /-- First step of a client's write: the value is stored. -/
  | store (value : NimBLEAttValue)
  /-- Second step of a client's write: the callback runs. -/
  | onWrite
  | setterCharacterData (data : List Byte) (length : Byte)
  | resetFlagsWrite

/-- One step. The stack's task runs the callback of one write before it stores the next, and a
buffer passed to `setterCharacterData` has the length the caller says. -/
def configStep (s : ConfigState) (e : ConfigEvent) (t : ConfigState) : Prop :=
  match e with
  | .store value => s.pending = false ∧ t = ⟨s.gamepad.setValue .Config value.bytes, true⟩
  | .onWrite => s.pending = true ∧ t = ⟨s.gamepad.onWrite .Config, false⟩
  | .setterCharacterData data length =>
    length.toNat ≤ data.length ∧
      t = ⟨s.gamepad.setterCharacterData .Config data length, s.pending⟩
  | .resetFlagsWrite => t = ⟨s.gamepad.resetFlagsWrite, s.pending⟩

/-- The state `taskServer` sets up. -/
def ConfigState.init : ConfigState := ⟨BleGamepad.new.taskServer, false⟩

/-! ### The guarantee -/

/-- Both flags are up. -/
def FlagsUp (g : BleGamepad) : Prop := g.isOnWriteConfig = 1 ∧ g.isRightSize = 1

/-- With both flags up, Config holds fifteen bytes. -/
def SizeGuards (g : BleGamepad) : Prop :=
  FlagsUp g → ∃ value, g.valueOf .Config = some value ∧ value.length = 15

/-- With both flags up, a copy into fifteen bytes of memory writes all of them, with bytes that do
not depend on the memory, and nothing past them. -/
def CopySafe (g : BleGamepad) : Prop :=
  FlagsUp g →
    (∃ value : Bytes 15, ∀ data (i : Fin 15), g.getcharacterData .Config data i = value i) ∧
      ∀ data i, 15 ≤ i → g.getcharacterData .Config data i = data i

/-- Where the size is guarded, the copy is safe. -/
theorem SizeGuards.copySafe {g : BleGamepad} (h : SizeGuards g) : CopySafe g := by
  intro hup
  obtain ⟨value, hvalue, hlen⟩ := h hup
  refine ⟨⟨fun i => value.getD i 0, fun data i => ?_⟩, fun data i hi => ?_⟩
  · rw [getcharacterData_apply hvalue, List.getD_eq_getElem _ _ (by omega)]
    exact (List.getD_eq_getElem _ _ (by omega)).symm
  · rw [getcharacterData_apply hvalue, List.getD_eq_default _ _ (by omega)]

/-- The step puts a value of another size in place while both flags are up. -/
def Overwrites (s : ConfigState) (e : ConfigEvent) : Prop :=
  FlagsUp s.gamepad ∧
    match e with
    | .store value => value.length ≠ 15
    | .setterCharacterData _ length => length.toNat ≠ 15
    | _ => False

/-! ### One step -/

/-- The Config characteristic with its callback, and the guarantee. -/
structure ConfigInvariant (s : ConfigState) : Prop where
  installed : ∃ value,
    s.gamepad.characteristics .Config = some ⟨.ofString (uuid .Config), value, .custom⟩
  guards : SizeGuards s.gamepad

theorem configInvariant_init : ConfigInvariant .init :=
  ⟨⟨.empty, rfl⟩, fun h => absurd h.1 (by decide)⟩

section

variable {g : BleGamepad} {value : NimBLEAttValue}

/-- Replacing the value keeps the guarantee exactly when the flags are down or the size is
right. -/
theorem sizeGuards_setValue_iff
    (h : g.characteristics .Config = some ⟨.ofString (uuid .Config), value, .custom⟩)
    {data : List Byte} (hdata : data.length ≤ 512) :
    SizeGuards (g.setValue .Config data) ↔ ¬ (FlagsUp g ∧ data.length ≠ 15) := by
  have hflags : FlagsUp (g.setValue .Config data) ↔ FlagsUp g := by
    simp only [FlagsUp, BleGamepad.setValue, h]
  rw [SizeGuards, hflags, valueOf_setValue_self h hdata]
  simp

/-- The callback raises the flags only for a value of the right size. -/
theorem sizeGuards_onWrite
    (h : g.characteristics .Config = some ⟨.ofString (uuid .Config), value, .custom⟩) :
    SizeGuards (g.onWrite .Config) := by
  intro hup
  have hsize : value.length = 15 := by
    by_contra hne
    have h1 := hup.2
    rw [onWrite_config h] at h1
    simp [hne] at h1
  exact ⟨value.bytes, by rw [valueOf, onWrite_characteristics, h]; rfl, hsize⟩

end

/-- A step from a state of the invariant keeps the guarantee exactly when it does not overwrite. -/
theorem sizeGuards_iff_of_step {s t : ConfigState} {e : ConfigEvent} (hs : ConfigInvariant s)
    (hstep : configStep s e t) : SizeGuards t.gamepad ↔ ¬ Overwrites s e := by
  obtain ⟨⟨old, hold⟩, hguards⟩ := hs
  cases e with
  | store value =>
    obtain ⟨-, rfl⟩ := hstep
    exact sizeGuards_setValue_iff hold value.length_le
  | onWrite =>
    obtain ⟨-, rfl⟩ := hstep
    exact ⟨fun _ h => h.2, fun _ => sizeGuards_onWrite hold⟩
  | setterCharacterData data length =>
    obtain ⟨hlen, rfl⟩ := hstep
    have htake : (data.take length.toNat).length = length.toNat := by simpa using hlen
    have hle : (data.take length.toNat).length ≤ 512 := by have := length.isLt; omega
    rw [setterCharacterData, sizeGuards_setValue_iff hold hle, htake]
    rfl
  | resetFlagsWrite =>
    obtain rfl := hstep
    exact ⟨fun _ h => h.2, fun _ h => absurd h.1 (by decide : ¬ (0 : Byte) = 1)⟩

/-- Every step keeps the characteristic and its callback. -/
theorem installed_of_step {s t : ConfigState} {e : ConfigEvent} (hs : ConfigInvariant s)
    (hstep : configStep s e t) :
    ∃ value, t.gamepad.characteristics .Config =
      some ⟨.ofString (uuid .Config), value, .custom⟩ := by
  obtain ⟨⟨old, hold⟩, -⟩ := hs
  cases e with
  | store value =>
    obtain ⟨-, rfl⟩ := hstep
    exact ⟨.setValue value.bytes,
      by simp [BleGamepad.setValue, hold, NimBLECharacteristic.setValue]⟩
  | onWrite =>
    obtain ⟨-, rfl⟩ := hstep
    exact ⟨old, by rw [onWrite_characteristics, hold]⟩
  | setterCharacterData data length =>
    obtain ⟨-, rfl⟩ := hstep
    exact ⟨.setValue (data.take length.toNat),
      by simp [setterCharacterData, BleGamepad.setValue, hold, NimBLECharacteristic.setValue]⟩
  | resetFlagsWrite =>
    obtain rfl := hstep
    exact ⟨old, hold⟩

/-! ### Runs -/

/-- **The flags guard the size, and the copy is safe, all along a run exactly when no step of it
overwrites.** -/
theorem sizeGuards_iff (es : List ConfigEvent) :
    Always configStep (fun _ _ t => SizeGuards t.gamepad ∧ CopySafe t.gamepad) .init es ↔
      Always configStep (fun s e _ => ¬ Overwrites s e) .init es := by
  refine always_congr (I := ConfigInvariant) configInvariant_init ?_ ?_
  · intro s e t hs hstep
    rw [← sizeGuards_iff_of_step hs hstep]
    exact and_iff_left_of_imp SizeGuards.copySafe
  · intro s e t hs hstep hguards
    exact ⟨installed_of_step hs hstep, hguards.1⟩

/-- A client writes fifteen bytes and is checked, then sixteen: both flags are up beside a value of
sixteen bytes. -/
theorem not_sizeGuards_second_write :
    ¬ Always configStep (fun _ _ t => SizeGuards t.gamepad ∧ CopySafe t.gamepad) .init
      [.store (.setValue (List.replicate 15 0)), .onWrite,
        .store (.setValue (List.replicate 16 0))] := by
  intro h
  have h₁ := (h _ ⟨rfl, rfl⟩).2
  have h₂ := (h₁ _ ⟨rfl, rfl⟩).2
  have hguards := (h₂ _ ⟨rfl, rfl⟩).1.1
  have hconfig : (BleGamepad.new.taskServer.setValue .Config (List.replicate 15 0)).characteristics
      .Config = some ⟨.ofString (uuid .Config), .setValue (List.replicate 15 0), .custom⟩ := rfl
  have hup : FlagsUp ((BleGamepad.new.taskServer.setValue .Config (List.replicate 15 0)).onWrite
      .Config) := by
    rw [onWrite_config hconfig]
    exact ⟨rfl, rfl⟩
  have hafter : ((BleGamepad.new.taskServer.setValue .Config (List.replicate 15 0)).onWrite
      .Config).characteristics .Config
      = some ⟨.ofString (uuid .Config), .setValue (List.replicate 15 0), .custom⟩ := by
    rw [onWrite_characteristics]
    exact hconfig
  exact (sizeGuards_setValue_iff hafter (by decide)).mp hguards ⟨hup, by decide⟩

end ImuGamepad
