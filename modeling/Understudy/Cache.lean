import Understudy.Script

/-!
# The cache of surfaces

Types that can describe themselves are asked for their surface once. A surface that was described
is kept and handed out as the same object from then on; a description that failed is not kept, and
is tried again.
-/

namespace Understudy

/-- The surfaces that were described, under what stands for their types. -/
structure Cache (κ : Type) where
  /-- The types with their surfaces, in the order in which they were described. -/
  entries : List (κ × Shared Surface)

namespace Cache

variable {κ : Type}

/-- The cache that knows no type yet. -/
def empty : Cache κ := ⟨[]⟩

/-- The cache with one surface more. -/
def keep (cache : Cache κ) (key : κ) (surface : Shared Surface) : Cache κ :=
  ⟨cache.entries ++ [(key, surface)]⟩

variable [DecidableEq κ]

/-- The surface that is kept for the type. -/
def get? (cache : Cache κ) (key : κ) : Option (Shared Surface) :=
  (cache.entries.find? (·.1 = key)).map (·.2)

/-- Whether a surface is kept for the type. -/
def contains (cache : Cache κ) (key : κ) : Bool := (cache.get? key).isSome

/-- How many surfaces are kept. -/
def size (cache : Cache κ) : Nat := cache.entries.length

/-- Whether no surface is kept. -/
def isEmpty (cache : Cache κ) : Bool := cache.entries.isEmpty

/-- The surface of the type, and the cache afterwards. Only if none is kept the type describes
    itself, by a computation that may have effects; what it answers is kept as a new object, which
    gets the given identity. -/
def get {σ : Type} (cache : Cache κ) (key : κ) (describe : StateM σ (Except SchemaError Surface))
    (identity : Nat) : StateM σ (Except SchemaError (Shared Surface) × Cache κ) :=
  match cache.get? key with
  | some surface => return (.ok surface, cache)
  | none => do
    match ← describe with
    | .error error => return (.error error, cache)
    | .ok surface => return (.ok ⟨identity, surface⟩, cache.keep key ⟨identity, surface⟩)

end Cache

end Understudy
