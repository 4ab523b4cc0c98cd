/-!
# Tables with one entry per key

A table is a list of entries in the order in which their keys were first written.  Writing a key
that is present changes its value in place, so neither the order nor the first spelling of a key
moves.  The key comparison is a parameter: addresses compare as text, source ids compare as
numbers whatever their spelling.

## Main results

* `get?_put_self`, `get?_put_of_ne`: a written key answers its new value, every other key keeps its
  own.
* `get?_erase_self`, `get?_erase_of_ne`: the same for a removed key.
-/

namespace EvmLocator

/-- Entries in the order in which their keys were first written. -/
abbrev Table (κ : Type) (ν : Type) : Type := List (κ × ν)

namespace Table

variable {κ ν : Type} [BEq κ]

/-- The value of the first entry whose key is `k`. -/
def get? (k : κ) : Table κ ν → Option ν
  | [] => none
  | (a, v) :: rest => if a == k then some v else get? k rest

/-- Writes `v` under `k`: in place when `k` is present, at the end otherwise. -/
def put (k : κ) (v : ν) : Table κ ν → Table κ ν
  | [] => [(k, v)]
  | (a, w) :: rest => if a == k then (a, v) :: rest else (a, w) :: put k v rest

/-- Removes every entry whose key is `k`. -/
def erase (k : κ) (t : Table κ ν) : Table κ ν :=
  t.filter fun entry => !(entry.1 == k)

/-- The keys in order. -/
def keys (t : Table κ ν) : List κ :=
  t.map Prod.fst

/-- Whether some entry has the key `k`. -/
def contains (k : κ) (t : Table κ ν) : Bool :=
  (t.get? k).isSome

/-- Writes entries one after another, from the empty table on. -/
def ofEntries (entries : List (κ × ν)) : Table κ ν :=
  entries.foldl (fun t entry => t.put entry.1 entry.2) []

/-! ## Laws of reading after writing -/

@[simp] theorem get?_nil (k : κ) : get? k ([] : Table κ ν) = none := rfl

theorem get?_cons (k a : κ) (v : ν) (t : Table κ ν) :
    get? k ((a, v) :: t) = if a == k then some v else get? k t := rfl

theorem get?_put_self [LawfulBEq κ] (k : κ) (v : ν) (t : Table κ ν) :
    get? k (put k v t) = some v := by
  induction t with
  | nil => simp [put, get?]
  | cons entry t ih =>
      obtain ⟨a, w⟩ := entry
      by_cases h : a == k
      · simp [put, get?, h]
      · simp [put, get?, h, ih]

theorem get?_put_of_ne [LawfulBEq κ] {k j : κ} (h : k ≠ j) (v : ν) (t : Table κ ν) :
    get? j (put k v t) = get? j t := by
  induction t with
  | nil => simp [put, get?, h]
  | cons entry t ih =>
      obtain ⟨a, w⟩ := entry
      by_cases ha : a = k
      · subst ha
        simp [put, get?, h]
      · by_cases hj : a = j
        · subst hj
          simp [put, get?, ha]
        · simp [put, get?, ha, hj, ih]

theorem get?_erase_self (k : κ) (t : Table κ ν) : get? k (erase k t) = none := by
  induction t with
  | nil => rfl
  | cons entry t ih =>
      obtain ⟨a, w⟩ := entry
      by_cases h : a == k
      · simpa [erase, h] using ih
      · simpa [erase, get?, h] using ih

theorem get?_erase_of_ne [LawfulBEq κ] {k j : κ} (h : k ≠ j) (t : Table κ ν) :
    get? j (erase k t) = get? j t := by
  induction t with
  | nil => rfl
  | cons entry t ih =>
      obtain ⟨a, w⟩ := entry
      by_cases ha : a = k
      · subst ha
        simpa [erase, get?, h] using ih
      · by_cases hj : a = j
        · subst hj
          simp [erase, get?, ha]
        · simpa [erase, get?, ha, hj] using ih

end Table

end EvmLocator
