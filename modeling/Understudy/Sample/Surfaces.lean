import Understudy.Call.Arguments
import Understudy.Surface.Declare
import Understudy.Surface.Encoding

/-!
# Sample surfaces

Two small types to try mocks on: a source of random numbers, also as a document, and a type with
members of every kind.
-/

namespace Understudy

namespace Sample

/-- A method that takes arguments in every way. -/
def drawSample : Member :=
  .method "sample"
    [.required "population" (.list .any), .restPositional "extra" .int,
      .keywordOptional "k" .int (.int 1), .restKeyword "options" .str]
    (some (.list .any))

/-- Arguments for it, of which one by position and one by name are left over. -/
def drawing : Arguments := (Arguments.ofList [.list [.nil], .int 2]).put "mode" (.str "plain")

/-- The members of a source of random numbers. -/
def randomMembers : List Member :=
  [.method "random" [] (some .float),
    .method "randint" [.required "self" .any, .required "a" .int, .required "b" .int] (some .int),
    .method "seed" [.optional "a" (.optional .int) .nil] (some .nil),
    .method "choice" [.required "seq" (.list .any)] (some .any),
    drawSample,
    .property "name" .str]

/-- A source of random numbers. -/
def random : Except SchemaError Surface := Surface.build "Random" randomMembers

/-- The same once it is known to be sound. -/
def randomSurface : Surface :=
  match random with
  | .ok surface => surface
  | .error _ => default

/-- The members of a type that has them of every kind. -/
def philosopherMembers : List Member :=
  [.method "think" [.required "topic" .str, .optional "depth" .int (.int 1)] (some .str),
    .property "meaning_of_life" .str,
    .field "age" .int,
    .callable "on_idea" [.required "idea" .str] (some .bool),
    .field "nickname" (.optional .str)]

/-- A type with members of every kind. -/
def philosopher : Except SchemaError Surface := Surface.build "Philosopher" philosopherMembers

/-- The same once it is known to be sound. -/
def philosopherSurface : Surface :=
  match philosopher with
  | .ok surface => surface
  | .error _ => default

/-- The document of a parameter with its type, and more if there is more to say. -/
def paramJson (name ty : String) (more : List (String × Json)) : Json :=
  .ofFields ([("name", .string name), ("type", .string ty)] ++ more)

/-- The document of a member. -/
def memberJson (name kind returns : String) (params : List Json) : Json :=
  .ofFields ([("name", .string name), ("kind", .string kind), ("returns", .string returns)] ++
    if params.isEmpty then [] else [("params", .array params)])

/-- The document of a source of random numbers. -/
def randomJson : Json :=
  .ofFields [("name", .string "Random"), ("members", .array
    [memberJson "random" "method" "float" [],
      memberJson "randint" "method" "int"
        [.ofFields [("name", .string "self")], paramJson "a" "int" [], paramJson "b" "int" []],
      memberJson "seed" "method" "None"
        [paramJson "a" "Optional[int]" [("default", Value.nil.toJson)]],
      memberJson "choice" "method" "Any" [paramJson "seq" "list[Any]" []],
      memberJson "sample" "method" "list[Any]"
        [paramJson "population" "list[Any]" [],
          paramJson "extra" "int" [("kind", .string "var_positional")],
          paramJson "k" "int"
            [("kind", .string "keyword_only"), ("default", (Value.int 1).toJson)],
          paramJson "options" "str" [("kind", .string "var_keyword")]],
      memberJson "name" "property" "str" []])]

end Sample

end Understudy
