/-!
# Keyed stores

A store is the list of its entries in ascending key order: `insert` puts a new
key before the first greater one and overwrites a key that is there, `erase`
drops a key, `get?` looks one up.

Results:
* `get?_insert`, `get?_erase`, `get?_empty`: what each operation does to every
  look-up. They need no order law, so nothing else about the key is assumed.
* `mem_keys_iff`: the keys are those that have a value.
-/
namespace FrameGraph

/-- Entries under distinct keys, in ascending key order. -/
structure Dict (κ ν : Type) where
  entries : List (κ × ν) := []
  deriving DecidableEq, Repr

namespace Dict

variable {κ ν : Type}

def empty : Dict κ ν := ⟨[]⟩

instance : Inhabited (Dict κ ν) := ⟨empty⟩

def keys (d : Dict κ ν) : List κ := d.entries.map Prod.fst

def values (d : Dict κ ν) : List ν := d.entries.map Prod.snd

def size (d : Dict κ ν) : Nat := d.entries.length

def isEmpty (d : Dict κ ν) : Bool := d.entries.isEmpty

variable [DecidableEq κ]

/-- The first value stored under `k` in a list of entries. -/
def find? (k : κ) : List (κ × ν) → Option ν
  | [] => none
  | (k', v) :: rest => if k = k' then some v else find? k rest

def get? (d : Dict κ ν) (k : κ) : Option ν := find? k d.entries

def contains (d : Dict κ ν) (k : κ) : Bool := (d.get? k).isSome

def erase (d : Dict κ ν) (k : κ) : Dict κ ν :=
  ⟨d.entries.filter fun e => decide (e.1 ≠ k)⟩

/-- Puts `v` under `k`: over the old value, or before the first greater key. -/
def place [Ord κ] (k : κ) (v : ν) : List (κ × ν) → List (κ × ν)
  | [] => [(k, v)]
  | (k', v') :: rest =>
    if k = k' then (k, v) :: rest
    else if compare k k' = .lt then (k, v) :: (k', v') :: rest
    else (k', v') :: place k v rest

def insert [Ord κ] (d : Dict κ ν) (k : κ) (v : ν) : Dict κ ν := ⟨place k v d.entries⟩

/-- Later entries win over earlier ones of the same key. -/
def ofList [Ord κ] (entries : List (κ × ν)) : Dict κ ν :=
  entries.foldl (fun d e => d.insert e.1 e.2) empty

/-- Changes the value under `k`, if there is one. -/
def modify [Ord κ] (d : Dict κ ν) (k : κ) (f : ν → ν) : Dict κ ν :=
  match d.get? k with
  | some v => d.insert k (f v)
  | none => d

/-! ## Look-ups after each operation -/

@[simp] theorem get?_empty (k : κ) : (empty : Dict κ ν).get? k = none := rfl

theorem find?_place [Ord κ] (k j : κ) (v : ν) (es : List (κ × ν)) :
    find? j (place k v es) = if j = k then some v else find? j es := by
  induction es with
  | nil => simp [place, find?]
  | cons e rest ih =>
    obtain ⟨k', v'⟩ := e
    simp only [place]
    split
    · next h => subst h; by_cases hj : j = k <;> simp [find?, hj]
    · next h =>
      split
      · simp [find?]
      · simp only [find?, ih]
        by_cases hj : j = k
        · subst hj; simp [h]
        · simp [hj]

@[simp] theorem get?_insert [Ord κ] (d : Dict κ ν) (k j : κ) (v : ν) :
    (d.insert k v).get? j = if j = k then some v else d.get? j :=
  find?_place k j v d.entries

theorem find?_filter_ne (k j : κ) (es : List (κ × ν)) :
    find? j (es.filter fun e => decide (e.1 ≠ k)) = if j = k then none else find? j es := by
  induction es with
  | nil => simp [find?]
  | cons e rest ih =>
    obtain ⟨k', v'⟩ := e
    by_cases hk : k' = k
    · subst hk; by_cases hj : j = k' <;> simp_all [List.filter, find?]
    · by_cases hj : j = k' <;> simp_all [List.filter, find?]

@[simp] theorem get?_erase (d : Dict κ ν) (k j : κ) :
    (d.erase k).get? j = if j = k then none else d.get? j :=
  find?_filter_ne k j d.entries

theorem mem_keys_iff (d : Dict κ ν) (k : κ) : k ∈ d.keys ↔ (d.get? k).isSome := by
  obtain ⟨es⟩ := d
  simp only [keys, get?]
  induction es with
  | nil => simp [find?]
  | cons e rest ih =>
    obtain ⟨k', v'⟩ := e
    by_cases hk : k = k' <;> simp_all [find?]

end Dict
end FrameGraph
