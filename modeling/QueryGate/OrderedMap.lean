/-!
# Ordered maps

A finite map that remembers the order in which its keys first appeared.  Inserting a key that is
present replaces the value and keeps the key's place.
-/

namespace QueryGate

/-- Associations in order of the first insertion of their keys. -/
structure OrderedMap (κ ν : Type) where
  /-- The keys with their values. -/
  entries : List (κ × ν)
  deriving DecidableEq, Repr

namespace OrderedMap

variable {κ ν : Type}

/-- The map without entries. -/
def empty : OrderedMap κ ν := ⟨[]⟩

instance : Inhabited (OrderedMap κ ν) := ⟨empty⟩

/-- The associations with `v` at `k`: in place if `k` is present, and at the end otherwise. -/
def insertInto [BEq κ] (k : κ) (v : ν) : List (κ × ν) → List (κ × ν)
  | [] => [(k, v)]
  | (k', v') :: rest => if k' == k then (k', v) :: rest else (k', v') :: insertInto k v rest

/-- The map with `v` at `k`. -/
def insert [BEq κ] (m : OrderedMap κ ν) (k : κ) (v : ν) : OrderedMap κ ν :=
  ⟨insertInto k v m.entries⟩

/-- The map made by inserting associations one after another. -/
def ofList [BEq κ] (l : List (κ × ν)) : OrderedMap κ ν :=
  l.foldl (fun m p => m.insert p.1 p.2) empty

/-- The value at a key. -/
def get? [BEq κ] (m : OrderedMap κ ν) (k : κ) : Option ν := m.entries.lookup k

/-- The keys in order. -/
def keys (m : OrderedMap κ ν) : List κ := m.entries.map (·.1)

/-- The map with a function applied to every value. -/
def mapValues {μ : Type} (f : ν → μ) (m : OrderedMap κ ν) : OrderedMap κ μ :=
  ⟨m.entries.map fun p => (p.1, f p.2)⟩

/-- The map with a function applied to every key; of keys that become equal, the first keeps its
place and the last gives the value. -/
def mapKeys [BEq κ] (f : κ → κ) (m : OrderedMap κ ν) : OrderedMap κ ν :=
  ofList (m.entries.map fun p => (f p.1, p.2))

theorem lookup_insertInto_self [BEq κ] [LawfulBEq κ] (k : κ) (v : ν) (l : List (κ × ν)) :
    (insertInto k v l).lookup k = some v := by
  induction l with
  | nil => simp [insertInto]
  | cons p l ih =>
    obtain ⟨k', v'⟩ := p
    by_cases h : k' = k
    · simp [insertInto, h]
    · have h' : (k == k') = false := by simpa using fun e => h e.symm
      simp [insertInto, h, List.lookup_cons, h', ih]

theorem get?_insert_self [BEq κ] [LawfulBEq κ] (m : OrderedMap κ ν) (k : κ) (v : ν) :
    (m.insert k v).get? k = some v := lookup_insertInto_self k v m.entries

end OrderedMap

end QueryGate
