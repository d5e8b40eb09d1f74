import ClassUsage.Json.Basic

set_option autoImplicit false

/-!
The framework in which the web service runs. It reads requests, finds the part of the service that each is
for, and answers wherever the service does not. The service only sees what is handed over to it, so that
much of the framework is a parameter here, with what is documented of it.
-/
namespace ClassUsage.Web

structure Response where
  status : Nat
  json : Option Json
deriving Repr

inductive Endpoint where
  | health
  | extract
  | parse
  | summary
deriving DecidableEq, Repr

namespace Endpoint

def all : List Endpoint := [health, extract, parse, summary]

def path : Endpoint → Text
  | health => "/health".toList
  | extract => "/api/extract".toList
  | parse => "/api/parse".toList
  | summary => "/api/summary".toList

def method : Endpoint → Text
  | health => "GET".toList
  | extract | parse | summary => "POST".toList

end Endpoint

structure Upload where
  fileName : Option Text
  content : List UInt8
deriving DecidableEq, Repr

def Upload.isNamed (upload : Upload) : Bool := upload.fileName.any (!·.isEmpty)

inductive Raised where
  /-- Bytes are no text. -/
  | undecodable
  /-- An error that has a status of its own. -/
  | http (status : Nat) (words : Text)
  | other (words : Text)
deriving DecidableEq, Repr

structure Host (Request : Type) where
  method : Request → Text
  path : Request → Text
  dispatch : Request → Option Endpoint
  /-- The JSON value that a request carries, if it carries one that can be read. -/
  json : Request → Except Raised (Option Json)
  /-- The file in a field of the form that a request carries. -/
  file : Text → Request → Except Raised (Option Upload)
  unclaimed : Request → Response
  /-- The answer where the service does not handle what is raised. -/
  errorPage : Raised → Response

/-- What is documented of a framework. -/
structure Host.Documented {Request : Type} (host : Host Request) : Prop where
  /-- A request goes to the part of the service that is registered for its method and path. -/
  dispatched : ∀ request endpoint, host.method request = endpoint.method →
    host.path request = endpoint.path → host.dispatch request = some endpoint
  /-- A body is of one media type, and one with files in it is not JSON. -/
  separate : ∀ field request upload, host.file field request = .ok (some upload) →
    host.json request = .ok none
  /-- An error without a status of its own is an internal error of the server. -/
  internal : ∀ words, (host.errorPage (.other words)).status = 500

end ClassUsage.Web
