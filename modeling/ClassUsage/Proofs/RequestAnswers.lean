import ClassUsage.Web.Loopback
import ClassUsage.Web.Respond

set_option autoImplicit false

/-!
The answers to requests that have to carry a string, in any framework that does what is documented of it.
Such a request is answered, refused with an error message, or fails; which of these it is depends on what
the framework hands over.
-/
namespace ClassUsage.Web

namespace Host

variable {Request : Type} {host : Host Request} {request : Request}

/-- The request carries a JSON object with the text as a string in the given member. -/
def Holds (host : Host Request) (request : Request) (name text : Text) : Prop :=
  ∃ members, host.json request = .ok (some (.object members)) ∧
    (Json.object members).textMember? name = some text

end Host

namespace Answers

variable {response : Response} {given unforeseen : Prop}

end Answers

namespace Host

variable {Request : Type} {host : Host Request} {request : Request}

theorem respond_eq_settle (documented : host.Documented) {endpoint : Endpoint}
    (method : host.method request = endpoint.method) (path : host.path request = endpoint.path) :
    host.respond request = host.settle (host.handle request endpoint) := by
  rw [respond, documented.dispatched request endpoint method path]

end Host

theorem loopback_documented : loopback.Documented where
  dispatched parcel endpoint method path := by
    change parcel.method = endpoint.method at method
    change parcel.path = endpoint.path at path
    change Endpoint.all.find? (fun other =>
      other.method == parcel.method && other.path == parcel.path) = some endpoint
    rw [method, path]
    cases endpoint <;> decide
  separate field parcel upload found := by
    change parcel.content.file? field = .ok (some upload) at found
    change Except.ok parcel.content.json? = Except.ok none
    cases carried : parcel.content with
    | form files => rfl
    | _ =>
      rw [carried] at found
      cases found
  internal words := rfl

def fileParcel (content : List UInt8) : Parcel :=
  ⟨"POST".toList, Endpoint.summary.path,
    .form [("file".toList, ⟨some "a.vue".toList, content⟩)]⟩

end ClassUsage.Web
