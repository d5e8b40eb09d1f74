import ClassUsage.Json.Token

set_option autoImplicit false

/-!
Reading JSON text. The tokens are read from left to right; the arrays and objects whose ends are
still to come are kept on a stack, the innermost first.
-/
namespace ClassUsage.Json

/-- An array or object that has not ended, with what has been read of it, the last item or member
first. -/
inductive Pending where
  | array (items : List Json)
  /-- An object that waits for the value of the named member. -/
  | object (members : List (Text × Json)) (name : Text)
deriving Repr

/-- What has just been read, or what has to come next. -/
inductive Stage where
  | value
  | firstItem
  | firstName
  | nextName (members : List (Text × Json))
  | colon (members : List (Text × Json)) (name : Text)
  | complete (value : Json)
deriving Repr

structure Progress where
  stage : Stage
  pending : List Pending
deriving Repr

namespace Progress

def beginValue (pending : List Pending) : Token → Option Progress
  | .scalar value => some ⟨.complete value, pending⟩
  | .openArray => some ⟨.firstItem, pending⟩
  | .openObject => some ⟨.firstName, pending⟩
  | _ => none

/-- Reads the token behind a value that belongs to an array or object. -/
def continueWith (value : Json) (pending : List Pending) : Pending → Token → Option Progress
  | .array items, .comma => some ⟨.value, .array (value :: items) :: pending⟩
  | .array items, .closeArray => some ⟨.complete (.array (value :: items).reverse), pending⟩
  | .object members name, .comma => some ⟨.nextName ((name, value) :: members), pending⟩
  | .object members name, .closeObject =>
    some ⟨.complete (.object ((name, value) :: members).reverse), pending⟩
  | _, _ => none

def step (progress : Progress) (token : Token) : Option Progress :=
  let pending := progress.pending
  match progress.stage, token with
  | .value, token => beginValue pending token
  | .firstItem, .closeArray => some ⟨.complete (.array []), pending⟩
  | .firstItem, token => beginValue (.array [] :: pending) token
  | .firstName, .closeObject => some ⟨.complete (.object []), pending⟩
  | .firstName, .scalar (.string name) => some ⟨.colon [] name, pending⟩
  | .nextName members, .scalar (.string name) => some ⟨.colon members name, pending⟩
  | .colon members name, .colon => some ⟨.value, .object members name :: pending⟩
  | .complete value, token =>
    match pending with
    | [] => none
    | inner :: outer => continueWith value outer inner token
  | _, _ => none

def result : Progress → Option Json
  | ⟨.complete value, []⟩ => some value
  | _ => none

end Progress

def ofTokens? (tokens : List Token) : Option Json :=
  (tokens.foldlM Progress.step ⟨.value, []⟩).bind Progress.result

def read? (text : Text) : Option Json := (tokens text).bind ofTokens?

end ClassUsage.Json
