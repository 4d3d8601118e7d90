namespace Basketry

/-- A finite map that remembers the order in which its keys came. A known key keeps its place when it is set; one
that was erased and comes again stands at the end. -/
structure Table (α β : Type) where
  entries : List (α × β) := []
deriving DecidableEq

namespace Table

variable {α β : Type} [DecidableEq α]

def get? (t : Table α β) (key : α) : Option β := (t.entries.find? (·.1 = key)).map (·.2)

def getD (t : Table α β) (key : α) (default : β) : β := (t.get? key).getD default

def contains (t : Table α β) (key : α) : Bool := (t.get? key).isSome

def putEntries (key : α) (value : β) : List (α × β) → List (α × β)
  | [] => [(key, value)]
  | (k, v) :: rest => if k = key then (k, value) :: rest else (k, v) :: putEntries key value rest

def put (t : Table α β) (key : α) (value : β) : Table α β := ⟨putEntries key value t.entries⟩

def erase (t : Table α β) (key : α) : Table α β := ⟨t.entries.filter (·.1 ≠ key)⟩

/-- The value of a key passes through `f`, an absent key counting as `default`. -/
def update (t : Table α β) (key : α) (default : β) (f : β → β) : Table α β :=
  t.put key (f (t.getD key default))

def keys (t : Table α β) : List α := t.entries.map (·.1)

def values (t : Table α β) : List β := t.entries.map (·.2)

/-- Entries set one after another. -/
def ofList (entries : List (α × β)) : Table α β := entries.foldl (fun t e => t.put e.1 e.2) {}

end Table

end Basketry
