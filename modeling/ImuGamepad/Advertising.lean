import ImuGamepad.AdvertisementData

/-!
# Advertising and the link

`NimBLEAdvertising` keeps two payloads, one to advertise and one for scan responses, and hands them
to the controller when it starts, the second one unless it is empty. A flag, which is set with the
first one, says that the controller has them, so that they are not handed over again. The methods
that change a payload take the flag back, but for the two that set a mode.

A connection ends advertising. It is started again when the connection ends or fails, and when the
host has lost the controller and found it again. All of this is a matter of who remembers what: the
object, the host and the controller. A run may contain any of their events, in any order in which
they can happen, and any answers of the stack.

## Main definitions

* `NimBLEAdvertising`, `AdvertisingCall` — the object and its methods
* `Peripheral` — the object, and what the host and the controller hold
* `LinkEvent`, `Peripheral.LinkStep` — what happens to the link
* `Peripheral.Step` — that, and the calls of the application

## Main results

* `Peripheral.fresh_iff` — when the flag tells the truth
* `Peripheral.run_advertises` — what the gamepad advertises, and that it does so whenever it could
-/

namespace ImuGamepad

open Tlv

/-! ### The object -/

/-- `BLE_HS_FOREVER`. -/
def hsForever : BitVec 32 := 0x7FFFFFFF

/-- `BLE_HS_ADV_F_DISC_LTD` and `BLE_HS_ADV_F_DISC_GEN`. -/
def discLtd : Byte := 0x01
def discGen : Byte := 0x02

structure NimBLEAdvertising where
  advData : List Byte
  scanData : List Byte
  duration : BitVec 32
  scanResp : Bool
  advDataSet : Bool

/-- The methods that change the data. -/
inductive AdvertisingCall
  | addServiceUUID (uuid : ServiceUUID)
  | removeServiceUUID (uuid : ServiceUUID)
  | removeServices
  | setAppearance (appearance : BitVec 16)
  | setPreferredParams (minInterval maxInterval : BitVec 16)
  | addTxPower (power : Byte)
  | setName (name : List Byte)
  | setManufacturerData (data : List Byte)
  | setURI (uri : List Byte)
  | setServiceData (uuid : ServiceUUID) (data : List Byte)
  | clearData
  | enableScanResponse (enable : Bool)
  | setConnectableMode (mode : Byte)
  | setDiscoverableMode (mode : Byte)

/-- What a method returns, and the object it leaves. -/
abbrev AdvertisingResult := Except AdvFault (Bool × NimBLEAdvertising)

namespace NimBLEAdvertising

/-- `NimBLEAdvertising()`. -/
def new : NimBLEAdvertising where
  advData := encode [.ofData advTypeFlags [discGen ||| bredrUnsup]]
  scanData := []
  duration := hsForever
  scanResp := false
  advDataSet := false

/-- What the methods that add something have in common: they try the scan response where it does
not fit the advertisement, if there is one, and succeed without trying if there is none. -/
def addTo (a : AdvCall) (adv : NimBLEAdvertising) : AdvertisingResult := do
  let (success, advData) ← a.perform adv.advData
  if !success && adv.scanResp then
    let (success, scanData) ← a.perform adv.scanData
    if !success then return (false, { adv with advData, scanData })
    else return (true, { adv with advData, scanData, advDataSet := false })
  else return (true, { adv with advData, advDataSet := false })

/-- The name in the scan response, if there is one. -/
def setScanName (name : List Byte) (adv : NimBLEAdvertising) : AdvResult :=
  if adv.scanResp then (AdvCall.setName name true).perform adv.scanData
  else .ok (false, adv.scanData)

/-- `setName(name)`. The scan response goes first. -/
def setName (name : List Byte) (adv : NimBLEAdvertising) : AdvertisingResult := do
  let (success, scanData) ← adv.setScanName name
  if success then return (true, { adv with scanData, advDataSet := false })
  else
    let (success, advData) ← (AdvCall.setName name true).perform adv.advData
    if !success then return (false, { adv with advData, scanData })
    else return (true, { adv with advData, scanData, advDataSet := false })

/-- `removeServiceUUID(serviceUUID)` and `removeServices()`. -/
def removeFrom (a : AdvCall) (adv : NimBLEAdvertising) : AdvertisingResult := do
  let (_, advData) ← a.perform adv.advData
  let (success, scanData) ← a.perform adv.scanData
  return (success, { adv with advData, scanData, advDataSet := false })

/-- `clearData()`. -/
def clearData (adv : NimBLEAdvertising) : AdvertisingResult := do
  let (_, advData) ← setFlags discGen []
  return (true, { adv with advData, scanData := [], advDataSet := false })

/-- The flags of a mode. -/
def setModeFlags (flags : Byte) (adv : NimBLEAdvertising) : AdvertisingResult := do
  let (_, advData) ← setFlags flags adv.advData
  return (true, { adv with advData })

end NimBLEAdvertising

/-- The flags that a method sets for a mode. -/
def AdvertisingCall.modeFlags : AdvertisingCall → Option Byte
  | setConnectableMode mode => if mode = 0 then some 0 else none
  | setDiscoverableMode mode =>
    if mode = 0 then some bredrUnsup
    else if mode = 1 then some discLtd
    else if mode = 2 then some discGen
    else none
  | _ => none

/-- A method. -/
def NimBLEAdvertising.perform (adv : NimBLEAdvertising) : AdvertisingCall → AdvertisingResult
  | .addServiceUUID uuid => adv.addTo (.addServiceUUID uuid)
  | .removeServiceUUID uuid => adv.removeFrom (.removeServiceUUID uuid)
  | .removeServices => adv.removeFrom .removeServices
  | .setAppearance appearance => adv.addTo (.setAppearance appearance)
  | .setPreferredParams min max => adv.addTo (.setPreferredParams min max)
  | .addTxPower power => adv.addTo (.addTxPower power)
  | .setName name => adv.setName name
  | .setManufacturerData data => adv.addTo (.setManufacturerData data)
  | .setURI uri => adv.addTo (.setURI uri)
  | .setServiceData uuid data => adv.addTo (.setServiceData uuid data)
  | .clearData => adv.clearData
  | .enableScanResponse enable => .ok (true, { adv with scanResp := enable, advDataSet := false })
  | .setConnectableMode mode =>
    if 2 < mode.toNat then .ok (false, adv)
    else
      match (AdvertisingCall.setConnectableMode mode).modeFlags with
      | some flags => adv.setModeFlags flags
      | none => .ok (true, adv)
  | .setDiscoverableMode mode =>
    match (AdvertisingCall.setDiscoverableMode mode).modeFlags with
    | some flags => adv.setModeFlags flags
    | none => .ok (false, adv)

/-! ### The host and the controller -/

/-- Whether the stack takes the requests of one event. -/
structure StackAnswers where
  ensureAddr : Bool
  advSetData : Bool
  rspSetData : Bool
  advStart : Bool
  advStop : Bool

/-- It takes all of them. -/
def StackAnswers.all (ans : StackAnswers) : Prop :=
  ans.ensureAddr = true ∧ ans.advSetData = true ∧ ans.rspSetData = true ∧ ans.advStart = true

/-- The stack takes a payload that is to be advertised, -/
def StackAnswers.TakesAdv (ans : StackAnswers) (data : List Byte) : Prop :=
  data.length ≤ advMaxSize ∧ ans.advSetData = true

/-- and one that answers a scan. -/
def StackAnswers.TakesScan (ans : StackAnswers) (data : List Byte) : Prop :=
  data.length ≤ advMaxSize ∧ ans.rspSetData = true

structure Peripheral where
  advertising : NimBLEAdvertising
  /-- `NimBLEDevice::m_synced`. -/
  synced : Bool
  /-- `ble_gap_adv_active()`. -/
  active : Bool
  /-- What the controller has been given to advertise, and to answer a scan. -/
  advertised : List Byte
  scanResponse : List Byte
  /-- The handles of the connections. -/
  conns : List (BitVec 16)
  /-- `BleConnectionStatus::connected`. -/
  connected : Bool

namespace Peripheral

/-- After `NimBLEDevice::init`, which waits until the host is synced. -/
def new : Peripheral where
  advertising := .new
  synced := true
  active := false
  advertised := []
  scanResponse := []
  conns := []
  connected := false

section

variable (ans : StackAnswers) (p : Peripheral)

/-- `setAdvertisementData(data)`. -/
def setAdvertisementData (data : List Byte) : Bool × Peripheral :=
  if advMaxSize < data.length ∨ ans.advSetData = false then (false, p)
  else (true, { p with
    advertised := data
    advertising := { p.advertising with advData := data, advDataSet := true } })

/-- `setScanResponseData(data)`. -/
def setScanResponseData (data : List Byte) : Bool × Peripheral :=
  if advMaxSize < data.length ∨ ans.rspSetData = false then (false, p)
  else (true, { p with
    scanResponse := data
    advertising := { p.advertising with scanData := data } })

/-- `refreshAdvertisingData()`. -/
def refreshAdvertisingData : Bool × Peripheral :=
  let (success, p) := p.setAdvertisementData ans p.advertising.advData
  if p.advertising.scanResp then p.setScanResponseData ans p.advertising.scanData
  else (success, p)

/-- The data are handed over, unless they have been. -/
def loadData : Bool × Peripheral :=
  if p.advertising.advDataSet then (true, p)
  else
    let (success, p) := p.setAdvertisementData ans p.advertising.advData
    if success && p.advertising.scanResp && !p.advertising.scanData.isEmpty then
      p.setScanResponseData ans p.advertising.scanData
    else (success, p)

/-- `start(duration)`. -/
def start (duration : BitVec 32) : Bool × Peripheral :=
  if !p.synced then (false, p)
  else if p.active then (true, p)
  else
    let (success, p) := p.loadData ans
    if !success then (false, p)
    else
      let p := { p with advertising := { p.advertising with duration } }
      if ans.advStart then (true, { p with active := true }) else (false, p)

/-- `stop()`. -/
def stop : Bool × Peripheral :=
  if ans.advStop then (true, { p with active := false }) else (false, p)

/-- `reset()`. -/
def reset : Bool × Peripheral :=
  let (success, p) := p.stop ans
  if success then (true, { p with advertising := .new }) else (false, p)

/-- `NimBLEDevice::onReset`. -/
def onReset : Peripheral := { p with synced := false }

/-- A connection is made, which ends advertising. The server asks for it, and tells its callbacks if
it is found. -/
def onConnect (handle : BitVec 16) (found : Bool) : Peripheral :=
  { p with active := false, conns := handle :: p.conns, connected := p.connected || found }

/-- A connection is lost, and the server advertises. -/
def onDisconnect (handle : BitVec 16) : Peripheral :=
  (start ans { p with conns := p.conns.erase handle, connected := false } 0).2

/-- `ble_hs_reset`: the connections are lost, advertising has ended, and the controller loses what
it had been given. -/
def hostReset : Peripheral :=
  let p := p.conns.foldl (fun p handle => onDisconnect ans p.onReset handle) p
  { p.onReset with active := false, advertised := [], scanResponse := [] }

/-- `NimBLEDevice::onSync` and `onHostSync`. -/
def onSync : Peripheral :=
  if p.synced || !ans.ensureAddr then p
  else
    let p := { p with synced := true, advertising := { p.advertising with advDataSet := false } }
    if p.advertising.duration = 0 then (p.start ans 0).2 else p

end

end Peripheral

/-- What happens to the link, with the answers of the stack to what is done about it. -/
inductive LinkEvent
  | connect (handle : BitVec 16) (found : Bool)
  | connectFailed (ans : StackAnswers)
  | disconnect (handle : BitVec 16) (ans : StackAnswers)
  | advComplete
  | hostReset (ans : StackAnswers)
  | hostSync (ans : StackAnswers)

/-- The stack takes everything. -/
def LinkEvent.Taken : LinkEvent → Prop
  | connectFailed ans | disconnect _ ans | hostSync ans => ans.all
  | _ => True

/-- A connection needs advertising, and ends it. Advertising for some time ends by itself. -/
def Peripheral.LinkStep (p : Peripheral) (e : LinkEvent) (p' : Peripheral) : Prop :=
  match e with
  | .connect handle found => p.active = true ∧ p' = p.onConnect handle found
  | .connectFailed ans => p.active = true ∧ p' = (start ans { p with active := false } 0).2
  | .disconnect handle ans => handle ∈ p.conns ∧ p' = p.onDisconnect ans handle
  | .advComplete =>
    p.active = true ∧ p.advertising.duration ≠ 0 ∧ p' = { p with active := false }
  | .hostReset ans => p' = p.hostReset ans
  | .hostSync ans => p' = p.onSync ans

/-- The calls of the application, with what they return, and what happens to the link. -/
inductive AdvertisingEvent
  | call (a : AdvertisingCall) (success : Bool)
  | setAdvertisementData (data : List Byte) (ans : StackAnswers) (success : Bool)
  | setScanResponseData (data : List Byte) (ans : StackAnswers) (success : Bool)
  | refreshAdvertisingData (ans : StackAnswers) (success : Bool)
  | start (duration : BitVec 32) (ans : StackAnswers) (success : Bool)
  | stop (ans : StackAnswers) (success : Bool)
  | reset (ans : StackAnswers) (success : Bool)
  | link (e : LinkEvent)

def Peripheral.Step (p : Peripheral) (e : AdvertisingEvent) (p' : Peripheral) : Prop :=
  match e with
  | .call a success => ∃ advertising, p.advertising.perform a = .ok (success, advertising) ∧
      p' = { p with advertising }
  | .setAdvertisementData data ans success => p.setAdvertisementData ans data = (success, p')
  | .setScanResponseData data ans success => p.setScanResponseData ans data = (success, p')
  | .refreshAdvertisingData ans success => p.refreshAdvertisingData ans = (success, p')
  | .start duration ans success => p.start ans duration = (success, p')
  | .stop ans success => p.stop ans = (success, p')
  | .reset ans success => p.reset ans = (success, p')
  | .link e => p.LinkStep e p'

/-! ### The flag -/

namespace NimBLEAdvertising

variable {adv adv' : NimBLEAdvertising} {success : Bool}

/-- A method that leaves the flag set leaves both payloads, and whether there is a scan response. -/
def KeptBy (adv adv' : NimBLEAdvertising) : Prop :=
  adv.advDataSet = true ∧ adv'.advData = adv.advData ∧ adv'.scanData = adv.scanData ∧
    adv'.scanResp = adv.scanResp

theorem addTo_kept {a : AdvCall} (h : adv.addTo a = .ok (success, adv'))
    (hset : adv'.advDataSet = true) : adv.KeptBy adv' := by
  obtain ⟨⟨first, advData⟩, hfirst, h⟩ := Runs.bind_eq_ok_iff.mp h
  simp only at h
  split at h
  · rename_i hnext
    rw [Bool.and_eq_true, Bool.not_eq_true'] at hnext
    obtain ⟨⟨second, scanData⟩, hsecond, h⟩ := Runs.bind_eq_ok_iff.mp h
    simp only at h
    split at h
    · rename_i hrefused
      rw [Bool.not_eq_true'] at hrefused
      obtain rfl := (Prod.mk.inj (Except.ok.inj h)).2
      rw [hnext.1] at hfirst
      rw [hrefused] at hsecond
      exact ⟨hset, perform_refused hfirst, perform_refused hsecond, rfl⟩
    · obtain rfl := (Prod.mk.inj (Except.ok.inj h)).2
      cases hset
  · obtain rfl := (Prod.mk.inj (Except.ok.inj h)).2
    cases hset

/-- The name that is refused by the scan response leaves it. -/
theorem setScanName_refused {name scanData : List Byte}
    (h : adv.setScanName name = .ok (false, scanData)) : scanData = adv.scanData := by
  rw [setScanName] at h
  split at h
  · exact perform_refused h
  · exact (Prod.mk.inj (Except.ok.inj h)).2.symm

theorem setName_kept {name : List Byte} (h : adv.setName name = .ok (success, adv'))
    (hset : adv'.advDataSet = true) : adv.KeptBy adv' := by
  obtain ⟨⟨first, scanData⟩, hfirst, h⟩ := Runs.bind_eq_ok_iff.mp h
  simp only at h
  split at h
  · obtain rfl := (Prod.mk.inj (Except.ok.inj h)).2
    cases hset
  · rename_i hnext
    rw [Bool.not_eq_true] at hnext
    obtain ⟨⟨second, advData⟩, hsecond, h⟩ := Runs.bind_eq_ok_iff.mp h
    simp only at h
    split at h
    · rename_i hrefused
      rw [Bool.not_eq_true'] at hrefused
      rw [hrefused] at hsecond
      rw [hnext] at hfirst
      obtain rfl := (Prod.mk.inj (Except.ok.inj h)).2
      exact ⟨hset, perform_refused hsecond, setScanName_refused hfirst, rfl⟩
    · obtain rfl := (Prod.mk.inj (Except.ok.inj h)).2
      cases hset

theorem removeFrom_kept {a : AdvCall} (h : adv.removeFrom a = .ok (success, adv')) :
    adv'.advDataSet = false := by
  obtain ⟨⟨_, advData⟩, -, h⟩ := Runs.bind_eq_ok_iff.mp h
  obtain ⟨⟨_, scanData⟩, -, h⟩ := Runs.bind_eq_ok_iff.mp h
  obtain rfl := (Prod.mk.inj (Except.ok.inj h)).2
  rfl

theorem clearData_kept (h : adv.clearData = .ok (success, adv')) : adv'.advDataSet = false := by
  obtain ⟨⟨_, advData⟩, -, h⟩ := Runs.bind_eq_ok_iff.mp h
  obtain rfl := (Prod.mk.inj (Except.ok.inj h)).2
  rfl

/-- **A method that leaves the flag leaves the data**, unless it sets a mode. -/
theorem perform_kept {a : AdvertisingCall} (h : adv.perform a = .ok (success, adv'))
    (hmode : a.modeFlags = none) (hset : adv'.advDataSet = true) : adv.KeptBy adv' := by
  cases a with
  | addServiceUUID uuid => exact addTo_kept h hset
  | removeServiceUUID uuid => exact absurd (removeFrom_kept h) (by rw [hset]; decide)
  | removeServices => exact absurd (removeFrom_kept h) (by rw [hset]; decide)
  | setAppearance appearance => exact addTo_kept h hset
  | setPreferredParams min max => exact addTo_kept h hset
  | addTxPower power => exact addTo_kept h hset
  | setName name => exact setName_kept h hset
  | setManufacturerData data => exact addTo_kept h hset
  | setURI uri => exact addTo_kept h hset
  | setServiceData uuid data => exact addTo_kept h hset
  | clearData => exact absurd (clearData_kept h) (by rw [hset]; decide)
  | enableScanResponse enable =>
    obtain rfl := (Prod.mk.inj (Except.ok.inj h)).2
    cases hset
  | setConnectableMode mode =>
    simp only [perform, hmode] at h
    split at h
    · obtain rfl := (Prod.mk.inj (Except.ok.inj h)).2
      exact ⟨hset, rfl, rfl, rfl⟩
    · obtain rfl := (Prod.mk.inj (Except.ok.inj h)).2
      exact ⟨hset, rfl, rfl, rfl⟩
  | setDiscoverableMode mode =>
    simp only [perform, hmode] at h
    obtain rfl := (Prod.mk.inj (Except.ok.inj h)).2
    exact ⟨hset, rfl, rfl, rfl⟩

/-- A method that sets a mode changes the flags, and nothing else. -/
theorem perform_mode {a : AdvertisingCall} {flags : Byte} (hmode : a.modeFlags = some flags) :
    adv.perform a = adv.setModeFlags flags := by
  cases a with
  | setConnectableMode mode =>
    rw [perform, hmode, if_neg]
    rw [AdvertisingCall.modeFlags] at hmode
    split at hmode
    · rename_i hzero
      rw [hzero]
      decide
    · cases hmode
  | setDiscoverableMode mode => rw [perform, hmode]
  | _ => cases hmode

theorem setModeFlags_eq_ok_iff {flags : Byte} :
    adv.setModeFlags flags = .ok (success, adv') ↔
      success = true ∧ ∃ ok advData, setFlags flags adv.advData = .ok (ok, advData) ∧
        adv' = { adv with advData } := by
  rw [setModeFlags, Runs.bind_eq_ok_iff]
  constructor
  · rintro ⟨⟨ok, advData⟩, hflags, h⟩
    obtain ⟨rfl, rfl⟩ := Prod.mk.inj (Except.ok.inj h)
    exact ⟨rfl, ok, advData, hflags, rfl⟩
  · rintro ⟨rfl, ok, advData, hflags, rfl⟩
    exact ⟨(ok, advData), hflags, rfl⟩

end NimBLEAdvertising

namespace Peripheral

variable {ans : StackAnswers} {p p' : Peripheral} {d : BitVec 32}

/-- The controller has the scan response, where scan responses are enabled. -/
def ScanFresh (p : Peripheral) : Prop :=
  p.advertising.scanResp = true → p.scanResponse = p.advertising.scanData

/-- The flag tells the truth: while the host is synced, it is only set where the controller has what
is to be advertised, and the scan response. -/
def Fresh (p : Peripheral) : Prop :=
  p.synced = true → p.advertising.advDataSet = true →
    p.advertised = p.advertising.advData ∧ p.ScanFresh

/-- If the stack takes what is to be advertised, the controller has the scan response or is given it
as well. One that is empty is not. -/
def LoadsBoth (p : Peripheral) (ans : StackAnswers) : Prop :=
  ans.TakesAdv p.advertising.advData →
    p.advertising.scanData ≠ [] ∧ ans.TakesScan p.advertising.scanData ∨ p.ScanFresh

/-- The same, for a start that hands over the payloads. -/
def StartsFresh (p : Peripheral) (ans : StackAnswers) : Prop :=
  p.synced = true → p.active = false → p.advertising.advDataSet = false → p.LoadsBoth ans

theorem setAdvertisementData_of_takes {data : List Byte} (h : ans.TakesAdv data) :
    p.setAdvertisementData ans data = (true, { p with
      advertised := data
      advertising := { p.advertising with advData := data, advDataSet := true } }) := by
  refine if_neg ?_
  rw [not_or, not_lt, Bool.not_eq_false]
  exact h

theorem setAdvertisementData_of_not_takes {data : List Byte} (h : ¬ ans.TakesAdv data) :
    p.setAdvertisementData ans data = (false, p) := by
  refine if_pos ?_
  rw [StackAnswers.TakesAdv, not_and_or, not_le, Bool.not_eq_true] at h
  exact h

theorem setScanResponseData_of_takes {data : List Byte} (h : ans.TakesScan data) :
    p.setScanResponseData ans data = (true, { p with
      scanResponse := data
      advertising := { p.advertising with scanData := data } }) := by
  refine if_neg ?_
  rw [not_or, not_lt, Bool.not_eq_false]
  exact h

theorem setScanResponseData_of_not_takes {data : List Byte} (h : ¬ ans.TakesScan data) :
    p.setScanResponseData ans data = (false, p) := by
  refine if_pos ?_
  rw [StackAnswers.TakesScan, not_and_or, not_le, Bool.not_eq_true] at h
  exact h

theorem fresh_setAdvertisementData_iff (h : p.Fresh) (ans : StackAnswers) (data : List Byte) :
    (p.setAdvertisementData ans data).2.Fresh ↔
      (p.synced = true → ans.TakesAdv data → p.ScanFresh) := by
  by_cases htakes : ans.TakesAdv data
  · rw [setAdvertisementData_of_takes htakes]
    constructor
    · intro hfresh hsynced _
      exact (hfresh hsynced rfl).2
    · intro hscan hsynced _
      exact ⟨rfl, hscan hsynced htakes⟩
  · rw [setAdvertisementData_of_not_takes htakes]
    exact iff_of_true h fun _ hnow => absurd hnow htakes

/-- A scan response that is taken is what the controller has. -/
theorem fresh_setScanResponseData_iff (p : Peripheral) (ans : StackAnswers) (data : List Byte) :
    (p.setScanResponseData ans data).2.Fresh ↔
      (p.synced = true → p.advertising.advDataSet = true →
        p.advertised = p.advertising.advData ∧ (ans.TakesScan data ∨ p.ScanFresh)) := by
  by_cases htakes : ans.TakesScan data
  · rw [setScanResponseData_of_takes htakes]
    constructor
    · intro hfresh hsynced hset
      exact ⟨(hfresh hsynced hset).1, Or.inl htakes⟩
    · intro hadv hsynced hset
      exact ⟨(hadv hsynced hset).1, fun _ => rfl⟩
  · rw [setScanResponseData_of_not_takes htakes]
    simp only [Fresh, htakes, false_or]

/-- Both payloads are handed over, one after the other. -/
theorem fresh_setBoth_iff (ans : StackAnswers) (htakes : ans.TakesAdv p.advertising.advData) :
    ((p.setAdvertisementData ans p.advertising.advData).2.setScanResponseData ans
        p.advertising.scanData).2.Fresh ↔
      (p.synced = true → ans.TakesScan p.advertising.scanData ∨ p.ScanFresh) := by
  rw [fresh_setScanResponseData_iff, setAdvertisementData_of_takes htakes]
  constructor
  · intro hfresh hsynced
    exact (hfresh hsynced rfl).2
  · intro hscan hsynced _
    exact ⟨rfl, hscan hsynced⟩

/-- Without scan responses there is nothing else to hand over. -/
theorem scanFresh_of_scanResp (h : p.advertising.scanResp = false) : p.ScanFresh := by
  intro hscan
  rw [h] at hscan
  cases hscan

theorem fresh_refreshAdvertisingData_iff (h : p.Fresh) (ans : StackAnswers) :
    (p.refreshAdvertisingData ans).2.Fresh ↔
      (p.synced = true → ans.TakesAdv p.advertising.advData →
        ans.TakesScan p.advertising.scanData ∨ p.ScanFresh) := by
  by_cases htakes : ans.TakesAdv p.advertising.advData
  · have hboth := fresh_setBoth_iff ans htakes
    rw [setAdvertisementData_of_takes htakes] at hboth
    simp only [Peripheral.refreshAdvertisingData, setAdvertisementData_of_takes htakes]
    split
    · exact hboth.trans (forall_congr' fun _ => ⟨fun hscan _ => hscan, fun hscan => hscan htakes⟩)
    · rename_i hscan
      have hfresh : p.ScanFresh := scanFresh_of_scanResp (Bool.not_eq_true _ ▸ hscan)
      exact iff_of_true (fun _ _ => ⟨rfl, hfresh⟩) fun _ _ => Or.inr hfresh
  · simp only [Peripheral.refreshAdvertisingData, setAdvertisementData_of_not_takes htakes]
    refine iff_of_true ?_ fun _ hnow => absurd hnow htakes
    split
    · exact (fresh_setScanResponseData_iff p ans _).mpr fun hsynced hset =>
        ⟨(h hsynced hset).1, Or.inr (h hsynced hset).2⟩
    · exact h

theorem fresh_loadData_iff (h : p.Fresh) (ans : StackAnswers) :
    (p.loadData ans).2.Fresh ↔
      (p.synced = true → p.advertising.advDataSet = false → p.LoadsBoth ans) := by
  cases hset : p.advertising.advDataSet with
  | true =>
    simp only [Peripheral.loadData, hset, if_true]
    exact iff_of_true h fun _ hnow => by cases hnow
  | false =>
    simp only [Peripheral.loadData, hset, Bool.false_eq_true, if_false, true_imp_iff]
    by_cases htakes : ans.TakesAdv p.advertising.advData
    · have hadv := fresh_setAdvertisementData_iff h ans p.advertising.advData
      have hboth := fresh_setBoth_iff ans htakes
      rw [setAdvertisementData_of_takes htakes] at hadv hboth ⊢
      simp only [LoadsBoth, htakes, true_imp_iff] at hadv ⊢
      by_cases hscan : p.advertising.scanResp = true ∧ p.advertising.scanData ≠ []
      · rw [if_pos (by simp [hscan.1, hscan.2])]
        simpa only [hscan.2, ne_eq, not_false_iff, true_and] using hboth
      · rw [if_neg (by simpa using hscan), hadv]
        refine forall_congr' fun _ => ⟨Or.inr, Or.rec (fun hloads => ?_) id⟩
        exact scanFresh_of_scanResp (Bool.eq_false_of_not_eq_true fun hresp =>
          hscan ⟨hresp, hloads.1⟩)
    · rw [setAdvertisementData_of_not_takes htakes]
      exact iff_of_true h fun _ hnow => absurd hnow htakes

theorem fresh_start_iff (h : p.Fresh) (ans : StackAnswers) (duration : BitVec 32) :
    (p.start ans duration).2.Fresh ↔ p.StartsFresh ans := by
  have hload := fresh_loadData_iff h ans
  rw [StartsFresh]
  cases hsynced : p.synced with
  | false =>
    simp only [Peripheral.start, hsynced, Bool.not_false, if_true]
    exact iff_of_true h fun hnow => by cases hnow
  | true =>
    cases hactive : p.active with
    | true =>
      simp only [Peripheral.start, hsynced, hactive, Bool.not_true, Bool.false_eq_true, if_false,
        if_true]
      exact iff_of_true h fun _ hnow => by cases hnow
    | false =>
      simp only [hsynced, true_imp_iff] at hload ⊢
      rw [← hload]
      simp only [Peripheral.start, hsynced, hactive, Bool.not_true, Bool.false_eq_true, if_false]
      split
      · exact Iff.rfl
      · split
        · exact Iff.rfl
        · exact Iff.rfl

/-- What a step must see to. A mode is set while the controller is thought to have the data, only if
it is the one set before. What is to be advertised is not handed over without the scan response. -/
def HandsOver (p : Peripheral) : AdvertisingEvent → Prop
  | .call a _ => ∀ flags, a.modeFlags = some flags → p.synced = true →
      p.advertising.advDataSet = true →
        (setFlags flags p.advertising.advData).map Prod.snd = .ok p.advertising.advData
  | .setAdvertisementData data ans _ => p.synced = true → ans.TakesAdv data → p.ScanFresh
  | .refreshAdvertisingData ans _ => p.synced = true → ans.TakesAdv p.advertising.advData →
      ans.TakesScan p.advertising.scanData ∨ p.ScanFresh
  | .start _ ans _ => p.StartsFresh ans
  | .link (.connectFailed ans) => StartsFresh { p with active := false } ans
  | .link (.disconnect _ ans) => p.StartsFresh ans
  | .link (.hostSync ans) => p.synced = false → ans.ensureAddr = true →
      p.advertising.duration = 0 → p.active = false → p.LoadsBoth ans
  | _ => True

theorem fresh_onSync_iff (h : p.Fresh) (ans : StackAnswers) :
    (p.onSync ans).Fresh ↔ p.HandsOver (.link (.hostSync ans)) := by
  rw [Peripheral.onSync, HandsOver]
  cases hsynced : p.synced with
  | true =>
    simp only [Bool.true_or, if_true]
    exact iff_of_true h fun hnow => by cases hnow
  | false =>
    cases haddr : ans.ensureAddr with
    | false =>
      simp only [Bool.not_false, Bool.or_true, if_true]
      exact iff_of_true h fun _ hnow => by cases hnow
    | true =>
      let q : Peripheral := { p with
        synced := true
        advertising := { p.advertising with advDataSet := false } }
      have hnone : q.Fresh := fun _ hset => by cases hset
      simp only [Bool.not_true, Bool.or_false, Bool.false_eq_true, if_false, true_imp_iff]
      split
      · rename_i hduration
        constructor
        · intro hfresh _ hactive
          exact (fresh_start_iff hnone ans 0).mp hfresh rfl hactive rfl
        · intro hloads
          exact (fresh_start_iff hnone ans 0).mpr fun _ hactive _ => hloads hduration hactive
      · rename_i hduration
        exact iff_of_true hnone fun hnow => absurd hnow hduration

theorem fresh_linkStep_iff (h : p.Fresh) {e : LinkEvent} (hstep : p.LinkStep e p') :
    p'.Fresh ↔ p.HandsOver (.link e) := by
  cases e with
  | connect handle found =>
    obtain ⟨-, rfl⟩ := hstep
    exact iff_of_true h trivial
  | connectFailed ans =>
    obtain ⟨-, rfl⟩ := hstep
    exact fresh_start_iff (p := { p with active := false }) h ans 0
  | disconnect handle ans =>
    obtain ⟨-, rfl⟩ := hstep
    exact fresh_start_iff (p := { p with conns := p.conns.erase handle, connected := false }) h
      ans 0
  | advComplete =>
    obtain ⟨-, -, rfl⟩ := hstep
    exact iff_of_true h trivial
  | hostReset ans =>
    obtain rfl : p' = p.hostReset ans := hstep
    exact iff_of_true (fun hsynced => by cases hsynced) trivial
  | hostSync ans =>
    obtain rfl : p' = p.onSync ans := hstep
    exact fresh_onSync_iff h ans

theorem fresh_step_iff (h : p.Fresh) {e : AdvertisingEvent} (hstep : p.Step e p') :
    p'.Fresh ↔ p.HandsOver e := by
  cases e with
  | call a success =>
    obtain ⟨advertising, hperform, rfl⟩ := hstep
    cases hmode : a.modeFlags with
    | none =>
      refine iff_of_true (fun hsynced hset => ?_) fun flags hflags => ?_
      · obtain ⟨hset', hadv, hscan, hresp⟩ := NimBLEAdvertising.perform_kept hperform hmode hset
        obtain ⟨hadvertised, hfresh⟩ := h hsynced hset'
        refine ⟨hadvertised.trans hadv.symm, fun hresp' => ?_⟩
        rw [hresp] at hresp'
        rw [hscan]
        exact hfresh hresp'
      · rw [hmode] at hflags
        cases hflags
    | some flags =>
      rw [NimBLEAdvertising.perform_mode hmode,
        NimBLEAdvertising.setModeFlags_eq_ok_iff] at hperform
      obtain ⟨-, ok, advData, hflags, rfl⟩ := hperform
      simp only [Fresh, HandsOver, hmode, Option.some.injEq, forall_eq', hflags, Except.map,
        Except.ok.injEq]
      refine forall_congr' fun hsynced => forall_congr' fun hset => ?_
      obtain ⟨hadvertised, hfresh⟩ := h hsynced hset
      rw [hadvertised, eq_comm]
      exact and_iff_left hfresh
  | setAdvertisementData data ans success =>
    have hfresh := fresh_setAdvertisementData_iff h ans data
    rwa [show p.setAdvertisementData ans data = (success, p') from hstep] at hfresh
  | setScanResponseData data ans success =>
    have hfresh := fresh_setScanResponseData_iff p ans data
    rw [show p.setScanResponseData ans data = (success, p') from hstep] at hfresh
    exact iff_of_true (hfresh.mpr fun hsynced hset =>
      ⟨(h hsynced hset).1, Or.inr (h hsynced hset).2⟩) trivial
  | refreshAdvertisingData ans success =>
    have hfresh := fresh_refreshAdvertisingData_iff h ans
    rwa [show p.refreshAdvertisingData ans = (success, p') from hstep] at hfresh
  | start duration ans success =>
    have hfresh := fresh_start_iff h ans duration
    rwa [show p.start ans duration = (success, p') from hstep] at hfresh
  | stop ans success =>
    refine iff_of_true ?_ trivial
    rw [Step, Peripheral.stop] at hstep
    split at hstep
    · obtain rfl := (Prod.mk.inj hstep).2
      exact h
    · obtain rfl := (Prod.mk.inj hstep).2
      exact h
  | reset ans success =>
    refine iff_of_true ?_ trivial
    rw [Step, Peripheral.reset, Peripheral.stop] at hstep
    cases hstop : ans.advStop with
    | false =>
      rw [hstop] at hstep
      obtain rfl := (Prod.mk.inj hstep).2
      exact h
    | true =>
      rw [hstop] at hstep
      obtain rfl := (Prod.mk.inj hstep).2
      exact fun _ hset => by cases hset
  | link e => exact fresh_linkStep_iff h hstep

/-- **When the flag tells the truth.** -/
theorem fresh_iff {es : List AdvertisingEvent} :
    Runs.Always Step (fun _ _ p' => p'.Fresh) .new es ↔
      Runs.Always Step (fun p e _ => p.HandsOver e) .new es := by
  have hnew : Fresh .new := fun _ hset => by cases hset
  exact Runs.always_congr hnew (fun p e p' h hstep => fresh_step_iff h hstep)
    fun _ _ _ _ _ h => h

/-! ### Starting -/

/-- Without scan responses only one payload is handed over. -/
theorem loadData_of_scanResp (hscan : p.advertising.scanResp = false) :
    p.loadData ans = if p.advertising.advDataSet then (true, p)
      else p.setAdvertisementData ans p.advertising.advData := by
  have hkept :
      (p.setAdvertisementData ans p.advertising.advData).2.advertising.scanResp = false := by
    rw [setAdvertisementData]
    split
    · exact hscan
    · exact hscan
  simp only [loadData, hkept, Bool.and_false, Bool.false_and, Bool.false_eq_true, if_false]

theorem start_of_not_synced (hsynced : p.synced = false) : p.start ans d = (false, p) := by
  rw [start, hsynced]
  rfl

theorem start_of_active (hsynced : p.synced = true) (hactive : p.active = true) :
    p.start ans d = (true, p) := by
  rw [start, hsynced, hactive]
  rfl

theorem start_of_idle (hsynced : p.synced = true) (hactive : p.active = false) :
    p.start ans d =
      if (p.loadData ans).1 then
        (ans.advStart, { (p.loadData ans).2 with
          advertising := { (p.loadData ans).2.advertising with duration := d }
          active := ans.advStart || (p.loadData ans).2.active })
      else (false, (p.loadData ans).2) := by
  simp only [start, hsynced, hactive]
  cases (p.loadData ans).1 with
  | false => rfl
  | true => cases ans.advStart <;> rfl

/-- What starting changes: nothing of the link, and it advertises only what the controller has been
given. -/
structure StartedFrom (p : Peripheral) (d : BitVec 32) (q : Peripheral) : Prop where
  conns : q.conns = p.conns
  connected : q.connected = p.connected
  synced : q.synced = p.synced
  advData : q.advertising.advData = p.advertising.advData
  scanResp : q.advertising.scanResp = p.advertising.scanResp
  duration : q.advertising.duration = p.advertising.duration ∨ q.advertising.duration = d
  active : q.active = true → p.active = true ∧ q.advertising.advDataSet = p.advertising.advDataSet ∨
    p.synced = true ∧ q.advertising.advDataSet = true

theorem StartedFrom.refl (p : Peripheral) (d : BitVec 32) : p.StartedFrom d p :=
  ⟨rfl, rfl, rfl, rfl, rfl, .inl rfl, fun hactive => .inl ⟨hactive, rfl⟩⟩

theorem startedFrom_start (hscan : p.advertising.scanResp = false) (ans : StackAnswers)
    (d : BitVec 32) : p.StartedFrom d (p.start ans d).2 := by
  have hrefl := StartedFrom.refl p d
  cases hsynced : p.synced with
  | false => rwa [start_of_not_synced hsynced]
  | true =>
    cases hactive : p.active with
    | true => rwa [start_of_active hsynced hactive]
    | false =>
      rw [start_of_idle hsynced hactive, loadData_of_scanResp hscan]
      cases hset : p.advertising.advDataSet with
      | true => exact ⟨rfl, rfl, rfl, rfl, rfl, .inr rfl, fun _ => .inr ⟨hsynced, hset⟩⟩
      | false =>
        rw [setAdvertisementData]
        by_cases hrefused : advMaxSize < p.advertising.advData.length ∨ ans.advSetData = false
        · simpa [if_pos hrefused] using hrefl
        · simp only [if_neg hrefused, Bool.false_eq_true, if_false, if_true]
          exact ⟨rfl, rfl, rfl, rfl, rfl, .inr rfl, fun _ => .inr ⟨hsynced, rfl⟩⟩

theorem start_of_all (hscan : p.advertising.scanResp = false)
    (hlen : p.advertising.advData.length ≤ advMaxSize) (hsynced : p.synced = true)
    (hactive : p.active = false) (hans : ans.all) :
    p.start ans d = (true, { p with
      advertised := if p.advertising.advDataSet then p.advertised else p.advertising.advData
      active := true
      advertising := { p.advertising with duration := d, advDataSet := true } }) := by
  obtain ⟨-, hdata, -, hstart⟩ := hans
  rw [start_of_idle hsynced hactive, loadData_of_scanResp hscan]
  cases hset : p.advertising.advDataSet with
  | true =>
    rw [hstart]
    simp [hset]
  | false =>
    have htaken : p.setAdvertisementData ans p.advertising.advData = (true, { p with
        advertised := p.advertising.advData
        advertising := { p.advertising with advDataSet := true } }) :=
      if_neg (by rw [hdata]; simp [hlen])
    simp only [Bool.false_eq_true, if_false, htaken, if_true, hstart, Bool.true_or]

end Peripheral

/-! ### What the gamepad advertises -/

/-- `HID_GAMEPAD`. -/
def hidGamepad : BitVec 16 := 0x03C4

/-- What `taskServer` asks to advertise. -/
def Peripheral.taskServer (name : List Byte)
    (hidService sensorService gamepadService : ServiceUUID) : List AdvertisingCall :=
  [.setName name, .setAppearance hidGamepad, .addServiceUUID hidService,
    .addServiceUUID sensorService, .addServiceUUID gamepadService]

/-- The flags and the appearance. -/
def flagsItem : Item := .ofData advTypeFlags [discGen ||| bredrUnsup]

def appearanceItem : Item :=
  .ofData advTypeAppearance [hidGamepad.setWidth 8, (hidGamepad >>> 8).setWidth 8]

/-- What it gets. -/
def advertisedItems (name : List Byte) (hidService : ServiceUUID) : List Item :=
  [flagsItem, .ofData advTypeCompName name, appearanceItem, .ofData 0x03 hidService.value]

/-- Without scan responses a method adds what fits, and returns true in any case. -/
theorem NimBLEAdvertising.addTo_encode (adv : NimBLEAdvertising) {items : List Item} {a : AdvCall}
    (hscan : adv.scanResp = false) (hdata : adv.advData = encode items) (h : Advertisable items)
    (hguard : a.Guard items) :
    adv.addTo a
      = .ok (true, { adv with advData := encode (a.abstract items).2, advDataSet := false }) := by
  rw [addTo, hdata, perform_encode hguard h, hscan]
  simp [bind, Except.bind, pure, Except.pure]

/-- An item that fits is added, -/
theorem addItem_of_le {it : Item} {items : List Item}
    (h : (encode items).length + it.encode.length ≤ advMaxSize) :
    addItem it items = (true, items ++ [it]) := if_pos h

/-- and one that does not is not. -/
theorem addItem_of_lt {it : Item} {items : List Item}
    (h : advMaxSize < (encode items).length + it.encode.length) :
    addItem it items = (false, items) := if_neg (by omega)

namespace Peripheral

section

variable {name : List Byte} {hidService sensorService gamepadService : ServiceUUID}

/-- Before it starts. -/
def waiting (items : List Item) : Peripheral :=
  { Peripheral.new with advertising := { NimBLEAdvertising.new with advData := encode items } }

/-- Advertising, before anything has happened to the link. -/
def serving (payload : List Byte) : Peripheral where
  advertising := ⟨payload, [], 0, false, true⟩
  synced := true
  active := true
  advertised := payload
  scanResponse := []
  conns := []
  connected := false

/-- A call adds what the data take of it. -/
theorem waiting_addTo {items items' : List Item} (call : AdvertisingCall) {a : AdvCall}
    (hcall : ∀ adv : NimBLEAdvertising, adv.perform call = adv.addTo a) (hguard : a.Guard items)
    (h : Advertisable items) (habstract : (a.abstract items).2 = items') :
    (waiting items).Step (.call call true) (waiting items') ∧ Advertisable items' := by
  have hkept := h.abstract a
  have hadd := NimBLEAdvertising.addTo_encode
    { NimBLEAdvertising.new with advData := encode items } rfl rfl h hguard
  rw [habstract] at hkept hadd
  exact ⟨⟨_, (hcall _).trans hadd, rfl⟩, hkept⟩

theorem waiting_setName {items items' : List Item}
    (h : Advertisable items)
    (habstract : (AdvCall.setName name true).abstract items = (true, items')) :
    (waiting items).Step (.call (.setName name) true) (waiting items') ∧ Advertisable items' := by
  have hkept := h.abstract (.setName name true)
  have hperform := perform_encode (a := .setName name true) trivial h
  rw [habstract] at hkept hperform
  refine ⟨⟨{ NimBLEAdvertising.new with advData := encode items' }, ?_, rfl⟩, hkept⟩
  simp only [NimBLEAdvertising.perform, NimBLEAdvertising.setName, NimBLEAdvertising.setScanName,
    waiting, NimBLEAdvertising.new, bind, Except.bind, hperform]
  rfl

theorem waiting_start {items : List Item} (h : Advertisable items) {ans : StackAnswers}
    (hans : ans.all) : (waiting items).Step (.start 0 ans true) (serving (encode items)) := by
  exact start_of_all (p := waiting items) (d := 0) rfl h rfl rfl hans

theorem length_advertisedItems (hname : name.length ≤ 18) (hhid : hidService.value.length = 2) :
    (encode (advertisedItems name hidService)).length = name.length + 13 := by
  simp [advertisedItems, flagsItem, appearanceItem, Item.ofData, hhid]
  omega

/-- The services with long identifiers do not fit, -/
theorem addServiceUUID_advertisedItems (hname : 1 ≤ name.length) (hname' : name.length ≤ 18)
    (hhid : hidService.value.length = 2) {uuid : ServiceUUID} (huuid : uuid.value.length = 16) :
    ((AdvCall.addServiceUUID uuid).abstract (advertisedItems name hidService)).2
      = advertisedItems name hidService := by
  have hlen := length_advertisedItems hname' hhid
  have htype : hasType 0x07 (advertisedItems name hidService) = false := by
    simp [hasType, advertisedItems, flagsItem, appearanceItem, advTypeFlags, advTypeCompName,
      advTypeAppearance]
  have hcomp : compUuids 16 = some 0x07 := rfl
  simp only [AdvCall.abstract, huuid, hcomp, htype, Bool.false_eq_true, if_false]
  rw [addItem_of_lt]
  rw [hlen, Item.length_encode, Item.data_ofData (by omega), huuid, advMaxSize]
  omega

/-- and the others do. -/
theorem taskServer_path (hname : 1 ≤ name.length) (hname' : name.length ≤ 18)
    (hhid : hidService.value.length = 2) (hsensor : sensorService.value.length = 16)
    (hgamepad : gamepadService.value.length = 16) {ans : StackAnswers} (hans : ans.all) :
    Runs.Path Step .new
      (((taskServer name hidService sensorService gamepadService).map fun a => .call a true)
        ++ [.start 0 ans true])
      (.serving (encode (advertisedItems name hidService))) := by
  have hflags : Advertisable [flagsItem] := Nat.le_add_left 3 28
  have hlength : (Item.ofData advTypeCompName name).encode.length = name.length + 2 := by
    rw [Item.length_encode, Item.data_ofData (by omega)]
  have htake : name.take (nameLength name) = name :=
    List.take_of_length_le (by rw [nameLength]; omega)
  have hname₁ : (AdvCall.setName name true).abstract [flagsItem]
      = (true, [flagsItem, .ofData advTypeCompName name]) := by
    rw [AdvCall.abstract, htake, if_pos ⟨rfl, by omega⟩]
    refine addItem_of_le ?_
    rw [hlength, show (encode [flagsItem]).length = 3 from rfl, advMaxSize]
    omega
  obtain ⟨h₁, hitems₁⟩ := waiting_setName hflags hname₁
  have happearance : (AdvCall.setAppearance hidGamepad).abstract
      [flagsItem, .ofData advTypeCompName name]
        = (true, [flagsItem, .ofData advTypeCompName name, appearanceItem]) := by
    rw [AdvCall.abstract, if_neg (by decide)]
    refine addItem_of_le ?_
    simp only [encode_cons, encode_nil, List.append_nil, List.length_append, advMaxSize,
      Item.length_encode, flagsItem, Item.ofData, List.length_take, List.length_cons,
      List.length_nil]
    omega
  obtain ⟨h₂, hitems₂⟩ := waiting_addTo (.setAppearance hidGamepad) (fun _ => rfl)
    trivial hitems₁ (congrArg Prod.snd happearance)
  have hservice : (AdvCall.addServiceUUID hidService).abstract
      [flagsItem, .ofData advTypeCompName name, appearanceItem]
        = (true, advertisedItems name hidService) := by
    have hcomp : compUuids 2 = some 0x03 := rfl
    have htype :
        hasType 0x03 [flagsItem, .ofData advTypeCompName name, appearanceItem] = false := by
      simp [hasType, flagsItem, appearanceItem, advTypeFlags, advTypeCompName, advTypeAppearance]
    simp only [AdvCall.abstract, hhid, hcomp, htype, Bool.false_eq_true, if_false]
    refine addItem_of_le ?_
    simp only [encode_cons, encode_nil, List.append_nil, List.length_append, advMaxSize,
      Item.length_encode, flagsItem, appearanceItem, Item.ofData, List.length_take,
      List.length_cons, List.length_nil, hhid]
    omega
  obtain ⟨h₃, hitems₃⟩ := waiting_addTo (.addServiceUUID hidService) (fun _ => rfl)
    trivial hitems₂ (congrArg Prod.snd hservice)
  obtain ⟨h₄, -⟩ := waiting_addTo (.addServiceUUID sensorService) (fun _ => rfl) trivial
    hitems₃ (addServiceUUID_advertisedItems hname hname' hhid hsensor)
  obtain ⟨h₅, -⟩ := waiting_addTo (.addServiceUUID gamepadService) (fun _ => rfl) trivial
    hitems₃ (addServiceUUID_advertisedItems hname hname' hhid hgamepad)
  exact .cons h₁ (.cons h₂ (.cons h₃ (.cons h₄ (.cons h₅ (.cons (waiting_start hitems₃ hans)
    (.nil _))))))

end

/-! ### The link -/

section

variable {ans : StackAnswers} {p p' : Peripheral} {payload : List Byte} {e : LinkEvent}

theorem onDisconnect_of_not_synced {handle : BitVec 16} (hsynced : p.synced = false) :
    p.onDisconnect ans handle
      = { p with conns := p.conns.erase handle, connected := false } := by
  rw [onDisconnect, start_of_not_synced (by exact hsynced)]

/-- A host reset ends all connections, and the device does not advertise until it is synced. -/
theorem hostReset_eq (p : Peripheral) : p.hostReset ans =
    { p with
      synced := false
      active := false
      advertised := []
      scanResponse := []
      conns := []
      connected := p.connected && p.conns.isEmpty } := by
  have hfold : ∀ (handles : List (BitVec 16)) (q : Peripheral), q.conns = handles →
      (handles.foldl (fun p handle => onDisconnect ans p.onReset handle) q).onReset =
        { q with
          synced := false
          conns := []
          connected := q.connected && q.conns.isEmpty } := by
    intro handles
    induction handles with
    | nil =>
      intro q hconns
      simp [onReset, hconns]
    | cons handle handles ih =>
      intro q hconns
      have hrest := ih (onDisconnect ans q.onReset handle) (by
        rw [onDisconnect_of_not_synced rfl, onReset, hconns]
        exact List.erase_cons_head ..)
      rw [List.foldl_cons, hrest, onDisconnect_of_not_synced rfl]
      simp [onReset, hconns]
  rw [hostReset, hfold p.conns p rfl]

/-- What holds of the link, where `payload` is what is to be advertised. -/
structure LinkInvariant (payload : List Byte) (p : Peripheral) : Prop where
  fresh : p.Fresh
  advData : p.advertising.advData = payload
  scanResp : p.advertising.scanResp = false
  duration : p.advertising.duration = 0
  active : p.active = true → p.synced = true ∧ p.advertising.advDataSet = true ∧ p.conns = []
  synced : p.synced = false → p.conns = []
  conns : p.conns.length ≤ 1
  connected : p.connected = true → p.conns ≠ []

/-- Starting keeps it, where there is no connection. -/
theorem LinkInvariant.start (hfresh : p.Fresh) (hdata : p.advertising.advData = payload)
    (hscan : p.advertising.scanResp = false) (hduration : p.advertising.duration = 0)
    (hactive : p.active = false) (hconns : p.conns = []) (hconnected : p.connected = false) :
    LinkInvariant payload (p.start ans 0).2 := by
  have hstart := startedFrom_start hscan ans 0
  have hscanFresh : p.ScanFresh := scanFresh_of_scanResp hscan
  have hfresh' := (fresh_start_iff hfresh ans 0).mpr fun _ _ _ _ => Or.inr hscanFresh
  refine ⟨hfresh', hstart.advData.trans hdata, hstart.scanResp.trans hscan, ?_, ?_,
    fun _ => hstart.conns.trans hconns, ?_, ?_⟩
  · rcases hstart.duration with h | h
    · exact h.trans hduration
    · exact h
  · intro hnow
    rcases hstart.active hnow with ⟨h, -⟩ | ⟨hsynced, hset⟩
    · rw [hactive] at h
      cases h
    · exact ⟨hstart.synced.trans hsynced, hset, hstart.conns.trans hconns⟩
  · rw [hstart.conns, hconns]
    exact Nat.zero_le _
  · rw [hstart.connected, hconnected]
    exact fun h => by cases h

/-- A connection that ends was the only one. -/
theorem LinkInvariant.erase_eq_nil (h : LinkInvariant payload p) {handle : BitVec 16}
    (hmem : handle ∈ p.conns) : p.conns.erase handle = [] := by
  have hle := h.conns
  rw [← List.length_eq_zero_iff, List.length_erase_of_mem hmem]
  omega

/-- Every event keeps it. -/
theorem LinkInvariant.step (h : LinkInvariant payload p) (hstep : p.LinkStep e p') :
    LinkInvariant payload p' := by
  cases e with
  | connect handle found =>
    obtain ⟨hactive, rfl⟩ := hstep
    obtain ⟨hsynced, -, hconns⟩ := h.active hactive
    refine ⟨h.fresh, h.advData, h.scanResp, h.duration, fun hnow => (by cases hnow),
      fun hnow => ?_, ?_, ?_⟩
    · exact absurd (hsynced.symm.trans hnow) (by decide)
    · rw [onConnect, hconns]
      exact le_rfl
    · exact fun _ => List.cons_ne_nil _ _
  | connectFailed ans =>
    obtain ⟨hactive, rfl⟩ := hstep
    obtain ⟨-, -, hconns⟩ := h.active hactive
    refine LinkInvariant.start (p := { p with active := false }) h.fresh h.advData h.scanResp
      h.duration rfl hconns (Bool.eq_false_iff.mpr fun hconnected => h.connected hconnected hconns)
  | disconnect handle ans =>
    obtain ⟨hmem, rfl⟩ := hstep
    refine LinkInvariant.start
      (p := { p with conns := p.conns.erase handle, connected := false }) h.fresh h.advData
      h.scanResp h.duration (Bool.eq_false_iff.mpr fun hactive => ?_) (h.erase_eq_nil hmem) rfl
    rw [(h.active hactive).2.2] at hmem
    cases hmem
  | advComplete => exact absurd h.duration hstep.2.1
  | hostReset ans =>
    obtain rfl : p' = p.hostReset ans := hstep
    rw [hostReset_eq]
    refine ⟨fun hnow => (by cases hnow), h.advData, h.scanResp, h.duration,
      fun hnow => (by cases hnow), fun _ => rfl, Nat.zero_le _, fun hconnected => ?_⟩
    rw [Bool.and_eq_true, List.isEmpty_iff] at hconnected
    exact absurd hconnected.2 (h.connected hconnected.1)
  | hostSync ans =>
    obtain rfl : p' = p.onSync ans := hstep
    rw [onSync]
    split
    · exact h
    · rename_i hreset
      rw [Bool.or_eq_true, not_or, Bool.not_eq_true] at hreset
      have hconns := h.synced hreset.1
      have hidle : p.active = false := Bool.eq_false_iff.mpr fun hactive => by
        rw [(h.active hactive).1] at hreset
        cases hreset.1
      simp only [h.duration, if_true]
      refine LinkInvariant.start (p := { p with
          synced := true
          advertising := { p.advertising with advDataSet := false, duration := 0 } })
        (fun _ hset => (by cases hset)) h.advData h.scanResp rfl hidle hconns
        (Bool.eq_false_iff.mpr fun hconnected => h.connected hconnected hconns)

/-- Where the stack takes everything, the device advertises while there is no connection. -/
theorem LinkInvariant.reachable_step (h : LinkInvariant payload p)
    (hlen : payload.length ≤ advMaxSize) (htaken : e.Taken)
    (hreach : p.synced = true → p.conns = [] → p.active = true) (hstep : p.LinkStep e p') :
    p'.synced = true → p'.conns = [] → p'.active = true := by
  intro hsynced' hconns'
  cases e with
  | connect handle found =>
    obtain ⟨-, rfl⟩ := hstep
    cases hconns'
  | connectFailed ans =>
    obtain ⟨hactive, rfl⟩ := hstep
    rw [start_of_all (by exact h.scanResp) (by rw [h.advData]; exact hlen)
      (by exact (h.active hactive).1) rfl htaken]
  | disconnect handle ans =>
    obtain ⟨hmem, rfl⟩ := hstep
    rw [onDisconnect] at hsynced' ⊢
    have hstart := startedFrom_start
      (p := { p with conns := p.conns.erase handle, connected := false }) h.scanResp ans 0
    have hsynced : p.synced = true := hstart.synced.symm.trans hsynced'
    have hidle : p.active = false := Bool.eq_false_iff.mpr fun hactive => by
      rw [(h.active hactive).2.2] at hmem
      cases hmem
    rw [start_of_all (by exact h.scanResp) (by rw [h.advData]; exact hlen) (by exact hsynced)
      (by exact hidle) htaken]
  | advComplete => exact absurd h.duration hstep.2.1
  | hostReset ans =>
    obtain rfl : p' = p.hostReset ans := hstep
    rw [hostReset_eq] at hsynced'
    cases hsynced'
  | hostSync ans =>
    obtain rfl : p' = p.onSync ans := hstep
    have haddr : ans.ensureAddr = true := htaken.1
    rw [onSync, haddr] at hsynced' hconns' ⊢
    cases hsynced : p.synced with
    | true =>
      simp only [hsynced, Bool.true_or, if_true] at hconns' ⊢
      exact hreach hsynced hconns'
    | false =>
      have hidle : p.active = false := Bool.eq_false_iff.mpr fun hactive => by
        rw [(h.active hactive).1] at hsynced
        cases hsynced
      simp only [h.duration, Bool.not_true, Bool.or_false, Bool.false_eq_true, if_false, if_true]
      rw [start_of_all (by exact h.scanResp) (by rw [← h.advData] at hlen; exact hlen) rfl
        (by exact hidle) htaken]

theorem linkInvariant_serving : LinkInvariant payload (serving payload) :=
  ⟨fun _ _ => ⟨rfl, fun hscan => by cases hscan⟩, rfl, rfl, rfl, fun _ => ⟨rfl, rfl, rfl⟩,
    fun _ => rfl, Nat.zero_le _,
    fun hconnected => by cases hconnected⟩

end

/-- **What the gamepad advertises, and when.** -/
theorem run_advertises {name : List Byte} {hidService sensorService gamepadService : ServiceUUID}
    (hname : 1 ≤ name.length) (hname' : name.length ≤ 18) (hhid : hidService.value.length = 2)
    (hsensor : sensorService.value.length = 16) (hgamepad : gamepadService.value.length = 16)
    {ans : StackAnswers} (hans : ans.all) :
    ∃ p, Runs.Path Step .new
        (((taskServer name hidService sensorService gamepadService).map fun a => .call a true)
          ++ [.start 0 ans true]) p ∧
      ∀ es q, Runs.Path LinkStep p es q →
        (q.active = true → q.synced = true ∧ q.conns = [] ∧
          q.advertised = encode (advertisedItems name hidService)) ∧
        q.conns.length ≤ 1 ∧ (q.connected = true → q.conns ≠ []) ∧
        ((∀ e ∈ es, e.Taken) → q.synced = true → q.conns = [] → q.active = true) := by
  refine ⟨_, taskServer_path hname hname' hhid hsensor hgamepad hans, fun es q hpath => ?_⟩
  have hinv := hpath.invariant linkInvariant_serving fun _ _ _ h hstep => h.step hstep
  refine ⟨fun hactive => ?_, hinv.conns, hinv.connected, fun htaken => ?_⟩
  · obtain ⟨hsynced, hset, hconns⟩ := hinv.active hactive
    exact ⟨hsynced, hconns, (hinv.fresh hsynced hset).1.trans hinv.advData⟩
  · have hlen : (encode (advertisedItems name hidService)).length ≤ advMaxSize := by
      rw [length_advertisedItems hname' hhid, advMaxSize]
      omega
    have hboth := hpath.invariant_of_labels
      (I := fun p => LinkInvariant (encode (advertisedItems name hidService)) p ∧
        (p.synced = true → p.conns = [] → p.active = true)) htaken
      ⟨linkInvariant_serving, fun _ _ => rfl⟩
      fun _ _ _ h htaken hstep => ⟨h.1.step hstep, h.1.reachable_step hlen htaken h.2 hstep⟩
    exact hboth.2

/-- The gamepad's own name. -/
theorem run_advertises_aloha :
    let service : ServiceUUID := ⟨[0x12, 0x18], by decide⟩
    let sensors : ServiceUUID := ⟨List.replicate 16 0x5A, by decide⟩
    let name : List Byte := [0x61, 0x6C, 0x6F, 0x68, 0x61, 0x61, 0x61]
    ∃ p, Runs.Path Step .new
        (((taskServer name service sensors sensors).map fun a => .call a true)
          ++ [.start 0 ⟨true, true, true, true, true⟩ true]) p ∧
      ∀ es q, Runs.Path LinkStep p es q →
        (q.active = true → q.synced = true ∧ q.conns = [] ∧
          q.advertised = encode (advertisedItems name service)) ∧
        q.conns.length ≤ 1 ∧ (q.connected = true → q.conns ≠ []) ∧
        ((∀ e ∈ es, e.Taken) → q.synced = true → q.conns = [] → q.active = true) := by
  intro service sensors name
  exact run_advertises (by decide) (by decide) rfl rfl rfl ⟨rfl, rfl, rfl, rfl⟩

end Peripheral

end ImuGamepad
