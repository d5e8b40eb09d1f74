import ClassUsage.Document.Encoding
import ClassUsage.Json.Emptiness
import ClassUsage.Text.Utf8
import ClassUsage.Web.Host

set_option autoImplicit false

/-!
The answers of the web service. A request for classes has to carry a text, in a member of a JSON
object or as a file.
-/
namespace ClassUsage.Web

def answer (status : Nat) (fields : List (String × Json)) : Response :=
  ⟨status, some (.ofFields fields)⟩

def refusal (message : String) : Response := answer 400 [("error", .string message.toList)]

def failure (message : Text) : Response := answer 500 [("error", .string message)]

/-- The words for an attempt to look a member up in a value that has none. -/
def noMembersText (value : Json) : Text :=
  ['\x27'] ++ value.typeName ++ "' object has no attribute 'get'".toList

/-- The text in a member of a JSON object. A value that holds nothing counts as an object without
members. -/
def memberText (name : Text) : Option Json → Except Raised (Option Text)
  | none => .ok none
  | some (.object members) => .ok ((Json.object members).textMember? name)
  | some value => if value.isVoid then .ok none else .error (.other (noMembersText value))

def summaryOf (text : Text) : Response := ⟨200, some (summarize text).toJson⟩

def summaryError : Raised → Response
  | .undecodable => refusal "Uploaded file is not valid UTF-8"
  | .http _ words | .other words => failure words

namespace Host

variable {Request : Type}

def textField (host : Host Request) (name : Text) (request : Request) :
    Except Raised (Option Text) :=
  (host.json request).bind (memberText name)

/-- The response to the text in a member of the JSON object that a request carries. Without a text the
request is refused. -/
def respondToText (host : Host Request) (name missing : String) (respond : Text → Response)
    (request : Request) : Except Raised Response := do
  match ← host.textField name.toList request with
  | none => return refusal missing
  | some text => return respond text

def extractResponse (host : Host Request) : Request → Except Raised Response :=
  host.respondToText "text" "A JSON body with a \"text\" string is required" fun text =>
    answer 200 [("extractions", Extraction.listToJson (extractAll text))]

def parseResponse (host : Host Request) : Request → Except Raised Response :=
  host.respondToText "expression" "A JSON body with an \"expression\" string is required"
    fun expression =>
      let uses := parseExpression expression
      answer 200
        [("matched", .bool uses.isSome), ("conditional_classes", ClassUse.listToJson (uses.getD []))]

/-- The text of a named file, or else that in the JSON value. -/
def summaryText (host : Host Request) (request : Request) : Except Raised (Option Text) := do
  match (← host.file "file".toList request).filter Upload.isNamed with
  | none => host.textField "text".toList request
  | some upload =>
    match Text.ofUtf8? upload.content with
    | some text => return some text
    | none => throw .undecodable

def summaryResponse (host : Host Request) (request : Request) : Response :=
  match host.summaryText request with
  | .ok (some text) => summaryOf text
  | .ok none => refusal "Upload a \"file\" or send a JSON body with a \"text\" string"
  | .error raised => summaryError raised

def handle (host : Host Request) (request : Request) : Endpoint → Except Raised Response
  | .health => .ok (answer 200 [("status", .string "ok".toList)])
  | .extract => host.extractResponse request
  | .parse => host.parseResponse request
  | .summary => .ok (host.summaryResponse request)

/-- What is sent: an answer of the service, or a page for what it does not handle. -/
def settle (host : Host Request) : Except Raised Response → Response
  | .ok response => response
  | .error raised => host.errorPage raised

def respond (host : Host Request) (request : Request) : Response :=
  match host.dispatch request with
  | none => host.unclaimed request
  | some endpoint => host.settle (host.handle request endpoint)

end Host
end ClassUsage.Web
