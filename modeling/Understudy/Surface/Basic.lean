import Understudy.Json.Decode
import Understudy.Surface.Signature

/-!
# The surface of a type

What a mock has to offer in place of a type: its members, in the order of their declaration,
with valid signatures and distinct names.

* `Surface.build` checks the members one by one; the first that is wrong decides.
* `Surface.sound`: whatever was built has valid signatures and no name twice.
-/

namespace Understudy

/-- Members with valid signatures and names of their own. -/
structure SoundMembers (members : List Member) : Prop where
  valid : ∀ m ∈ members, m.Valid
  distinct : members.Pairwise fun m n => m.name ≠ n.name

theorem soundMembers_nil : SoundMembers [] :=
  ⟨fun _ mem => absurd mem List.not_mem_nil, List.Pairwise.nil⟩

theorem SoundMembers.concat {members : List Member} {m : Member} (sound : SoundMembers members)
    (valid : m.Valid) (fresh : ∀ n ∈ members, n.name ≠ m.name) :
    SoundMembers (members ++ [m]) := by
  constructor
  · intro n mem
    rcases List.mem_append.1 mem with old | new
    · exact sound.valid n old
    · exact List.mem_singleton.1 new ▸ valid
  · rw [List.pairwise_append]
    exact ⟨sound.distinct, List.pairwise_singleton _ _, fun n old k new =>
      List.mem_singleton.1 new ▸ fresh n old⟩

/-- The members of a described type. -/
structure Surface where
  /-- The name of the type. -/
  name : String
  /-- The members in the order of their declaration. -/
  members : List Member
  /-- Their signatures are valid, and no name occurs twice. -/
  sound : SoundMembers members

instance : Inhabited Surface := ⟨⟨"", [], soundMembers_nil⟩⟩

/-- Why a type cannot be described. -/
inductive SchemaError where
  /-- There is no member. -/
  | unsupportedType (typeName : String)
  /-- Two members have one name. -/
  | duplicateMember (typeName member : String)
  /-- The signature of a member is wrong. -/
  | invalidSignature (typeName member : String) (fault : SignatureFault)
  /-- The document of the type cannot be decoded. -/
  | document (error : DecodeError)

namespace SchemaError

/-- The wording of the error. A document that is malformed has no wording of its own. -/
def message : SchemaError → String
  | .unsupportedType typeName =>
    "[UNSUPPORTED_TYPE] " ++ typeName ++ " exposes no members that can be mocked"
  | .duplicateMember typeName member =>
    "[DUPLICATE_MEMBER] " ++ typeName ++ "." ++ member ++ " is declared more than once"
  | .invalidSignature typeName member fault =>
    "[INVALID_SIGNATURE] " ++ typeName ++ "." ++ member ++ "(): " ++ fault.message
  | .document (.unreadableType error) => error.message
  | .document .malformed => ""

end SchemaError

namespace Surface

/-- Adds a member to those that are known to be right. -/
def addMember (sofar : Surface) (m : Member) : Except SchemaError Surface :=
  match normalized : m.normalize with
  | .error fault => .error (.invalidSignature sofar.name m.name fault)
  | .ok normal =>
    if fresh : ∀ n ∈ sofar.members, n.name ≠ normal.name then
      .ok ⟨sofar.name, sofar.members ++ [normal],
        sofar.sound.concat (Member.normalize_valid normalized) fresh⟩
    else .error (.duplicateMember sofar.name normal.name)

/-- The surface with the given members. -/
def build (typeName : String) (members : List Member) : Except SchemaError Surface :=
  if members.isEmpty then .error (.unsupportedType typeName)
  else members.foldlM addMember ⟨typeName, [], soundMembers_nil⟩

/-- The member of the given name. -/
def member? (surface : Surface) (name : String) : Option Member :=
  surface.members.find? (·.name == name)

/-- Equality of surfaces. -/
def same (a b : Surface) : Bool :=
  a.name == b.name && sameInOrder Member.same a.members b.members

end Surface

end Understudy
