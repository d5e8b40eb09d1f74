import ClassUsage.Json.Bytes
import ClassUsage.Web.Host

set_option autoImplicit false

/-!
A framework without a network. Requests are handed over with their parts told apart, the way a test
client makes them.
-/
namespace ClassUsage.Web

inductive Content where
  | empty
  | json (bytes : List UInt8)
  /-- A form, of which only the files are kept, by the names of their fields. -/
  | form (files : List (Text × Upload))
  /-- A form that is not read to its end. -/
  | refused (raised : Raised)
deriving DecidableEq, Repr

structure Parcel where
  method : Text
  path : Text
  content : Content
deriving DecidableEq, Repr

namespace Content

def json? : Content → Option Json
  | json bytes => Json.readBytes? bytes
  | _ => none

def file? (field : Text) : Content → Except Raised (Option Upload)
  | form files => .ok (files.lookup field)
  | refused raised => .error raised
  | _ => .ok none

end Content

/-- The page for an error has the error's status. -/
def Raised.page : Raised → Response
  | http status _ => ⟨status, none⟩
  | _ => ⟨500, none⟩

def loopback : Host Parcel where
  method := Parcel.method
  path := Parcel.path
  dispatch parcel := Endpoint.all.find? fun endpoint =>
    endpoint.method == parcel.method && endpoint.path == parcel.path
  json parcel := .ok parcel.content.json?
  file field parcel := parcel.content.file? field
  unclaimed _ := ⟨404, none⟩
  errorPage := Raised.page

end ClassUsage.Web
