import GameShelf.Json.Token

namespace GameShelf.Json

/-- An array or an object that is not complete. What it has so far is kept in reverse. -/
inductive Frame
  | array (items : List Json)
  | object (members : List (Content × Json)) (key : Content)

/-- What the reader has seen last, and so what may come next. The arrays and objects it is inside of
are on a stack, so a text may be nested to any depth. -/
inductive State
  | value (stack : List Frame)
  | itemOrEnd (stack : List Frame)
  | keyOrEnd (stack : List Frame)
  | key (members : List (Content × Json)) (stack : List Frame)
  | colon (members : List (Content × Json)) (key : Content) (stack : List Frame)
  | done (json : Json) (stack : List Frame)

namespace State

/-- A token where a value must begin. -/
def beginValue? (stack : List Frame) : Token → Option State
  | .null => some (.done .null stack)
  | .bool truth => some (.done (.bool truth) stack)
  | .number numeral => some (.done (.number numeral) stack)
  | .string content => some (.done (.string content) stack)
  | .beginArray => some (.itemOrEnd stack)
  | .beginObject => some (.keyOrEnd stack)
  | _ => none

def step? : State → Token → Option State
  | value stack, token => beginValue? stack token
  | itemOrEnd stack, .endArray => some (done (.array []) stack)
  | itemOrEnd stack, token => beginValue? (.array [] :: stack) token
  | keyOrEnd stack, .endObject => some (done (.object []) stack)
  | keyOrEnd stack, .string content => some (colon [] content stack)
  | key members stack, .string content => some (colon members content stack)
  | colon members name stack, .colon => some (value (.object members name :: stack))
  | done json (.array items :: stack), .comma => some (value (.array (json :: items) :: stack))
  | done json (.array items :: stack), .endArray =>
    some (done (.array (json :: items).reverse) stack)
  | done json (.object members name :: stack), .comma => some (key ((name, json) :: members) stack)
  | done json (.object members name :: stack), .endObject =>
    some (done (.object ((name, json) :: members).reverse) stack)
  | _, _ => none

def run? (state : State) : List Token → Option State
  | [] => some state
  | token :: tokens =>
    match state.step? token with
    | none => none
    | some state => state.run? tokens

/-- The document, if one is complete. -/
def result? : State → Option Json
  | done json [] => some json
  | _ => none

end State

/-- The document that a text spells. -/
def read? (text : String) : Option Json :=
  match tokens? text.toList with
  | none => none
  | some tokens =>
    match (State.value []).run? tokens with
    | none => none
    | some state => state.result?

end GameShelf.Json
