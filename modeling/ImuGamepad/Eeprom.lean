import ImuGamepad.Library.Bytes

/-!
# The EEPROM of the ESP32 Arduino library

The library emulates an EEPROM with a blob in flash. `begin(512)` loads the blob into a working
copy in RAM, `get`, `put` and `write` copy bytes of the working copy, and `commit` stores
it back. Before the first `begin` of a boot there is no working copy: its size is zero, so every
access is out of range and does nothing.

`begin` may fail, which leaves everything as it was; the outcome is an argument. `commit` succeeds
whenever there is something to commit.

## Main definitions

* `EEPROMClass` — the stored blob and the working copy
* `EEPROMClass.contents` — what reading the EEPROM finds in this boot
* `EEPROMClass.Synced` — the working copy holds nothing that is not stored

## Main results

* `EEPROMClass.writeAll_of_data` — a loop of single-byte writes is one put
* `EEPROMClass.synced_commit` — after a commit nothing is left unstored
-/

namespace ImuGamepad

/-- The 512 bytes of the EEPROM. -/
abbrev Image := Bytes 512

/-- The EEPROM object: the blob in flash, and the working copy in RAM once `begin` has run. -/
structure EEPROMClass where
  /-- The blob in flash. It survives a reboot. -/
  committed : Image
  /-- `_data`: none while `_size` is zero. -/
  data : Option Image

namespace EEPROMClass

variable {m : ℕ}

/-! ### The library's operations -/

/-- `begin(512)`: load the stored blob. On failure nothing changes. -/
def begin (ok : Bool) (e : EEPROMClass) : Bool × EEPROMClass :=
  if ok then (true, { e with data := some e.committed }) else (false, e)

/-- `get(address, t)`: the `m` bytes at `address`, or `t` as it was when they are out of range. -/
def get (e : EEPROMClass) (address : ℕ) (t : Bytes m) : Bytes m :=
  match e.data with
  | some img => if address + m ≤ 512 then img.slice address m else t
  | none => t

/-- `put(address, t)`: copy `t` into the working copy, unless it is out of range. -/
def put (e : EEPROMClass) (address : ℕ) (t : Bytes m) : EEPROMClass :=
  match e.data with
  | some img => if address + m ≤ 512 then { e with data := some (img.splice address t) } else e
  | none => e

/-- `write(address, value)`: one byte. -/
def write (e : EEPROMClass) (address : ℕ) (value : Byte) : EEPROMClass :=
  match e.data with
  | some img =>
    if address < 512 then
      { e with data := some fun i => if (i : ℕ) = address then value else img i }
    else e
  | none => e

/-- `commit()`: store the working copy. -/
def commit (e : EEPROMClass) : EEPROMClass :=
  match e.data with
  | some img => { e with committed := img }
  | none => e

/-- Write `bs` byte by byte from `address`, as a loop over `write` does. -/
def writeAll (e : EEPROMClass) (address : ℕ) (bs : Bytes m) : EEPROMClass :=
  (List.finRange m).foldl (fun e (j : Fin m) => e.write (j + address) (bs j)) e

/-- What reading the EEPROM finds: the working copy, or before `begin` what it will load. -/
def contents (e : EEPROMClass) : Image := e.data.getD e.committed

/-- The working copy holds nothing that is not stored. -/
def Synced (e : EEPROMClass) : Prop := ∀ img, e.data = some img → img = e.committed

/-! ### What they leave behind -/

theorem Synced.contents_eq {e : EEPROMClass} (h : e.Synced) : e.contents = e.committed := by
  rw [contents]
  cases hd : e.data with
  | none => rfl
  | some img => exact h img hd

theorem begin_committed (ok : Bool) (e : EEPROMClass) : (e.begin ok).2.committed = e.committed := by
  cases ok <;> rfl

theorem Synced.begin {e : EEPROMClass} (h : e.Synced) (ok : Bool) : (e.begin ok).2.Synced := by
  cases ok with
  | false => exact h
  | true => rintro img ⟨⟩; rfl

/-- Beginning the EEPROM changes nothing it reads. -/
theorem Synced.begin_contents {e : EEPROMClass} (h : e.Synced) (ok : Bool) :
    (e.begin ok).2.contents = e.contents := by
  rw [(h.begin ok).contents_eq, begin_committed, h.contents_eq]

theorem get_of_data {e : EEPROMClass} {img : Image} (h : e.data = some img) {address : ℕ}
    {t : Bytes m} (hm : address + m ≤ 512) : e.get address t = img.slice address m := by
  simp [get, h, hm]

theorem get_begin_true (e : EEPROMClass) {address : ℕ} {t : Bytes m} (hm : address + m ≤ 512) :
    (e.begin true).2.get address t = e.committed.slice address m :=
  get_of_data rfl hm

theorem put_of_data {e : EEPROMClass} {img : Image} (h : e.data = some img) {address : ℕ}
    {t : Bytes m} (hm : address + m ≤ 512) :
    e.put address t = { e with data := some (img.splice address t) } := by
  simp [put, h, hm]

theorem put_of_none {e : EEPROMClass} (h : e.data = none) (address : ℕ) (t : Bytes m) :
    e.put address t = e := by
  simp [put, h]

theorem commit_of_data {e : EEPROMClass} {img : Image} (h : e.data = some img) :
    e.commit = { e with committed := img } := by
  simp [commit, h]

theorem commit_of_none {e : EEPROMClass} (h : e.data = none) : e.commit = e := by
  simp [commit, h]

theorem synced_commit (e : EEPROMClass) : e.commit.Synced := by
  intro img himg
  cases hd : e.data with
  | none => rw [commit_of_none hd, hd] at himg; cases himg
  | some img' =>
    rw [commit_of_data hd] at himg ⊢
    exact (Option.some.inj (hd.symm.trans himg)).symm

theorem write_of_data {e : EEPROMClass} {img : Image} (h : e.data = some img) (address : ℕ)
    (value : Byte) :
    e.write address value
      = { e with data := some fun i => if (i : ℕ) = address then value else img i } := by
  simp only [write, h]
  split
  · rfl
  · -- past the end no byte is addressed, and the guard changes nothing
    rename_i hge
    have himg : (fun i : Fin 512 => if (i : ℕ) = address then value else img i) = img := by
      funext i
      rw [if_neg (by have := i.isLt; omega)]
    rw [himg, ← h]

theorem write_of_none {e : EEPROMClass} (h : e.data = none) (address : ℕ) (value : Byte) :
    e.write address value = e := by
  simp [write, h]

/-- **A loop of single-byte writes is one put.** -/
theorem writeAll_of_data {e : EEPROMClass} {img : Image} (h : e.data = some img) (address : ℕ)
    (bs : Bytes m) :
    e.writeAll address bs = { e with data := some (img.splice address bs) } := by
  have key : ∀ (l : List (Fin m)) (e : EEPROMClass) (img : Image), e.data = some img →
      l.foldl (fun e (j : Fin m) => e.write (j + address) (bs j)) e
        = { e with data := some (l.foldl (fun (acc : Image) (j : Fin m) => fun i =>
            if (i : ℕ) = address + j then bs j else acc i) img) } := by
    intro l
    induction l with
    | nil => intro e img h; rw [List.foldl_nil, List.foldl_nil, ← h]
    | cons j l ih =>
      intro e img h
      rw [List.foldl_cons, List.foldl_cons, write_of_data h, ih _ _ rfl, Nat.add_comm]
  rw [writeAll, key _ e img h, Bytes.foldl_update_eq_splice]

theorem writeAll_of_none {e : EEPROMClass} (h : e.data = none) (address : ℕ) (bs : Bytes m) :
    e.writeAll address bs = e := by
  have key : ∀ l : List (Fin m),
      l.foldl (fun e (j : Fin m) => e.write (j + address) (bs j)) e = e := by
    intro l
    induction l with
    | nil => rfl
    | cons j l ih => rw [List.foldl_cons, write_of_none h, ih]
  exact key _

end EEPROMClass

end ImuGamepad
