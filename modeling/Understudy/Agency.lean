import Understudy.Cache
import Understudy.Stage.Basic

/-!
# Agencies

An agency keeps the surfaces of types next to a stage: types are looked up in it, and mocks are
made of them. How a type describes itself depends on how things stand elsewhere and may change
that, so a type may fail at first and succeed later, and may answer differently every time. An
agency notes down which types described themselves, and what they answered.

* `Agency.describing`: what a description does to an agency whenever it runs.
* `Agency.consult`: what looking a type up does to an agency.
* `Agency.serve`: what may be asked of one.
-/

namespace Understudy

/-- How types describe themselves as things stand, and how things stand behind that. -/
abbrev Describing (κ σ : Type) := κ → StateM σ (Except SchemaError Surface)

/-- A cache next to a stage. -/
structure Agency (κ σ : Type) where
  /-- The surfaces that were described. -/
  cache : Cache κ
  /-- The stage. -/
  stage : Stage
  /-- How things stand elsewhere. -/
  world : σ
  /-- Which types described themselves, and what they answered; the latest at the head. -/
  runs : List (κ × Except SchemaError Surface)
  /-- The identity of the next object. -/
  objects : Nat

namespace Agency

/-- What may be asked. -/
inductive Request (κ σ : Type) where
  /-- The surface of a type is looked up. -/
  | get (key : κ)
  /-- It is told whether the surface of a type is kept. -/
  | contains (key : κ)
  /-- It is told how many surfaces are kept. -/
  | size
  /-- It is told whether no surface is kept. -/
  | isEmpty
  /-- A mock of a type is made. -/
  | mockOf (key : κ) (name : Option String)
  /-- An operation is begun on the stage. -/
  | perform (operation : Operation)
  /-- Something happens elsewhere. -/
  | elsewhere (change : σ → σ)

/-- What is replied. -/
inductive Reply where
  | surface (result : Except SchemaError (Shared Surface))
  | mock (result : Except SchemaError MockId)
  | flag (b : Bool)
  | count (n : Nat)
  | progress (progress : Stage.Progress)
  | nothing

variable {κ σ : Type}

/-- The agency that nothing was asked of yet. -/
def opened (world : σ) : Agency κ σ := ⟨.empty, .empty, world, [], 0⟩

/-- The agency behind a description that ran. -/
def noted (agency : Agency κ σ) (key : κ) (answer : Except SchemaError Surface) (world : σ) :
    Agency κ σ :=
  { agency with
    world := world
    runs := (key, answer) :: agency.runs
    objects := agency.objects + 1 }

/-- A type describes itself as things stand now, which is noted down. -/
def describing (describe : Describing κ σ) (key : κ) :
    StateM (Agency κ σ) (Except SchemaError Surface) :=
  fun agency =>
    let (answer, world) := describe key agency.world
    (answer, agency.noted key answer world)

variable [DecidableEq κ] (agency : Agency κ σ) (describe : Describing κ σ)

/-- Looks a type up. -/
def consult (key : κ) : Except SchemaError (Shared Surface) × Agency κ σ :=
  let ((result, cache), after) :=
    agency.cache.get key (describing describe key) agency.objects agency
  (result, { after with cache })

/-- Makes a mock of a type. -/
def mockOf (key : κ) (name : Option String) : Except SchemaError MockId × Agency κ σ :=
  match agency.consult describe key with
  | (.error error, agency) => (.error error, agency)
  | (.ok surface, agency) =>
    let (id, stage) := agency.stage.createMock surface (.named name)
    (.ok id, { agency with stage })

/-- Does what is asked. -/
def serve : Request κ σ → Reply × Agency κ σ
  | .get key =>
    let (result, agency) := agency.consult describe key
    (.surface result, agency)
  | .contains key => (.flag (agency.cache.contains key), agency)
  | .size => (.count agency.cache.size, agency)
  | .isEmpty => (.flag agency.cache.isEmpty, agency)
  | .mockOf key name =>
    let (result, agency) := agency.mockOf describe key name
    (.mock result, agency)
  | .perform operation =>
    let (progress, stage) := agency.stage.begin operation
    (.progress progress, { agency with stage })
  | .elsewhere change => (.nothing, { agency with world := change agency.world })

end Agency

end Understudy
