import ImuGamepad.Library.Bytes

/-!
# Sequences of typed items

A format in which items follow each other, each a byte that counts the rest of the item, a byte that
says what it is, and data. A byte counts at most 254 bytes of data.

Such a sequence can be searched without decoding it: the count leads from each item to the next.
`locate` does so, on any bytes, and gives up where it would have to look beyond them.

## Main definitions

* `Tlv.Item`, `Tlv.encode` — items and their bytes
* `Tlv.locate` — the place of the first item of a type
* `Tlv.firstOf` — that item, and the items after it
* `Tlv.mapFirst` — replacing it

## Main results

* `Tlv.locate_encode_append`, `locate_encode_of_forall_ne` — a search finds the first item of a type
* `Tlv.exists_split` — the first item of a type, and what is before and after it
* `Tlv.mapFirst_append` — where it is replaced, the others stay
-/

namespace Tlv

/-- An item. -/
structure Item where
  type : Byte
  data : List Byte
  length_lt : data.length < 255
  deriving DecidableEq

namespace Item

/-- An item with as much of the data as fits. -/
def ofData (type : Byte) (data : List Byte) : Item :=
  ⟨type, data.take 254, by rw [List.length_take]; omega⟩

/-- Its bytes. -/
def encode (it : Item) : List Byte := BitVec.ofNat 8 (it.data.length + 1) :: it.type :: it.data

@[simp] theorem type_ofData (type : Byte) (data : List Byte) : (ofData type data).type = type := rfl

theorem data_ofData {type : Byte} {data : List Byte} (h : data.length < 255) :
    (ofData type data).data = data := List.take_of_length_le (by omega)

/-- An item of data that fits. -/
theorem encode_ofData (type : Byte) (data : List Byte) (h : data.length < 255) :
    (ofData type data).encode = BitVec.ofNat 8 (data.length + 1) :: type :: data := by
  rw [encode, data_ofData h]
  rfl

@[simp] theorem length_encode (it : Item) : it.encode.length = it.data.length + 2 := rfl

/-- The count leads behind the item. -/
theorem toNat_count (it : Item) :
    (BitVec.ofNat 8 (it.data.length + 1)).toNat = it.data.length + 1 := by
  have := it.length_lt
  rw [BitVec.toNat_ofNat, Nat.mod_eq_of_lt (by omega)]

end Item

/-- The bytes of a sequence. -/
def encode (items : List Item) : List Byte := items.flatMap Item.encode

@[simp] theorem encode_nil : encode [] = [] := rfl

@[simp] theorem encode_cons (it : Item) (items : List Item) :
    encode (it :: items) = it.encode ++ encode items := rfl

@[simp] theorem encode_append (items items' : List Item) :
    encode (items ++ items') = encode items ++ encode items' := List.flatMap_append

/-! ### Searching -/

/-- The place of the first item of a type, and whether it is there. The bytes end inside an item
where the search fails. -/
def locate (type : Byte) : List Byte → Option (Option ℕ)
  | [] => some none
  | [_] => none
  | count :: type' :: rest =>
    if type' = type then some (some 0)
    else (locate type ((type' :: rest).drop count.toNat)).map fun place =>
      place.map (count.toNat + 1 + ·)
termination_by bs => bs.length

/-- Another item is passed over. -/
theorem locate_encode_cons {type : Byte} {it : Item} (h : it.type ≠ type) (rest : List Byte) :
    locate type (it.encode ++ rest)
      = (locate type rest).map fun place => place.map (it.encode.length + ·) := by
  have hdrop : (it.type :: (it.data ++ rest)).drop (it.data.length + 1) = rest := by
    rw [List.drop_succ_cons, List.drop_left]
  rw [Item.encode, List.cons_append, List.cons_append, locate, if_neg h, it.toNat_count, hdrop]
  simp [Nat.add_assoc]

/-- **A search passes over the items of other types.** -/
theorem locate_encode_append {type : Byte} {items : List Item} (h : ∀ it ∈ items, it.type ≠ type)
    (rest : List Byte) :
    locate type (encode items ++ rest)
      = (locate type rest).map fun place => place.map ((encode items).length + ·) := by
  induction items with
  | nil => simp
  | cons it items ih =>
    rw [List.forall_mem_cons] at h
    rw [encode_cons, List.append_assoc, locate_encode_cons h.1, ih h.2, Option.map_map]
    congr 1
    funext place
    simp [Function.comp_def, Nat.add_assoc]

theorem locate_encode_of_forall_ne {type : Byte} {items : List Item}
    (h : ∀ it ∈ items, it.type ≠ type) : locate type (encode items) = some none := by
  have := locate_encode_append h []
  rwa [List.append_nil, locate] at this

theorem locate_encode_of_eq {type : Byte} {pre : List Item} {it : Item}
    (h : ∀ it ∈ pre, it.type ≠ type) (htype : it.type = type) (rest : List Byte) :
    locate type (encode pre ++ (it.encode ++ rest)) = some (some (encode pre).length) := by
  rw [locate_encode_append h, Item.encode, List.cons_append, List.cons_append, locate, if_pos htype]
  rfl

/-- Either there is no item of a type, or there is a first one. -/
theorem exists_split (type : Byte) (items : List Item) :
    (∀ it ∈ items, it.type ≠ type) ∨
      ∃ pre it post, items = pre ++ it :: post ∧ it.type = type ∧ ∀ it ∈ pre, it.type ≠ type := by
  cases hfind : items.find? fun it => it.type = type with
  | none =>
    refine Or.inl fun it hit => ?_
    simpa using List.find?_eq_none.mp hfind it hit
  | some it =>
    obtain ⟨htype, pre, post, rfl, hpre⟩ := List.find?_eq_some_iff_append.mp hfind
    refine Or.inr ⟨pre, it, post, rfl, by simpa using htype, fun it' hit' => ?_⟩
    simpa using hpre it' hit'

/-- The first item of a type, and the items after it. -/
def firstOf (type : Byte) : List Item → Option (Item × List Item)
  | [] => none
  | it :: items => if it.type = type then some (it, items) else firstOf type items

theorem firstOf_append {type : Byte} {pre post : List Item} {it : Item}
    (h : ∀ it ∈ pre, it.type ≠ type) (htype : it.type = type) :
    firstOf type (pre ++ it :: post) = some (it, post) := by
  induction pre with
  | nil => rw [List.nil_append, firstOf, if_pos htype]
  | cons it' pre ih =>
    rw [List.forall_mem_cons] at h
    rw [List.cons_append, firstOf, if_neg h.1, ih h.2]

theorem firstOf_of_forall_ne {type : Byte} {items : List Item} (h : ∀ it ∈ items, it.type ≠ type) :
    firstOf type items = none := by
  induction items with
  | nil => rfl
  | cons it items ih =>
    rw [List.forall_mem_cons] at h
    rw [firstOf, if_neg h.1, ih h.2]

/-! ### Replacing -/

/-- The first item of a type is replaced. -/
def mapFirst (type : Byte) (f : Item → List Item) : List Item → List Item
  | [] => []
  | it :: items => if it.type = type then f it ++ items else it :: mapFirst type f items

theorem mapFirst_append {type : Byte} {f : Item → List Item} {pre post : List Item} {it : Item}
    (h : ∀ it ∈ pre, it.type ≠ type) (htype : it.type = type) :
    mapFirst type f (pre ++ it :: post) = pre ++ (f it ++ post) := by
  induction pre with
  | nil => rw [List.nil_append, mapFirst, if_pos htype, List.nil_append]
  | cons it' pre ih =>
    rw [List.forall_mem_cons] at h
    rw [List.cons_append, mapFirst, if_neg h.1, ih h.2, List.cons_append]

theorem mapFirst_of_forall_ne {type : Byte} {f : Item → List Item} {items : List Item}
    (h : ∀ it ∈ items, it.type ≠ type) : mapFirst type f items = items := by
  induction items with
  | nil => rfl
  | cons it items ih =>
    rw [List.forall_mem_cons] at h
    rw [mapFirst, if_neg h.1, ih h.2]

/-- It grows no more than the item that is replaced. -/
theorem length_encode_mapFirst_le {type : Byte} {f : Item → List Item} {k : ℕ} (items : List Item)
    (h : ∀ it, (encode (f it)).length ≤ it.encode.length + k) :
    (encode (mapFirst type f items)).length ≤ (encode items).length + k := by
  rcases exists_split type items with hne | ⟨pre, it, post, rfl, htype, hpre⟩
  · rw [mapFirst_of_forall_ne hne]
    omega
  · have hit := h it
    rw [mapFirst_append hpre htype]
    simp only [encode_append, encode_cons, List.length_append]
    omega

end Tlv
