import VisitorLink.Json.Writer
import VisitorLink.Service.Url
import VisitorLink.Settings.Client
import VisitorLink.Visit.Call

/-!
# Requests to the service

Which request each call to the service is: its method, its URL, and the document that it carries.
-/

namespace VisitorLink

/-- What a request does with a resource. -/
inductive Method
  | get
  | post
  | patch
  | delete
deriving DecidableEq, Repr

/-- The name of a method. -/
def Method.name : Method → String
  | .get => "GET"
  | .post => "POST"
  | .patch => "PATCH"
  | .delete => "DELETE"

/-- A request to the service. -/
structure Request where
  method : Method
  url : String
  body : Option Json := none

namespace Request

/-- The part that the URLs of all requests start with, from the settings. -/
def base (baseUrl : String) : String :=
  ClientSettings.withoutTrailingSlashes baseUrl

/-- The URL of something that belongs to a visitor. -/
def visitorUrl (baseUrl id rest : String) : String :=
  base baseUrl ++ "/user/" ++ id ++ rest

/-- The path from a visitor to what a call is about. -/
def path : ServiceCall → String
  | .fetchVisitor _ => ""
  | .connectWallet _ _ => "/wallet/connect"
  | .linkWallet _ _ => "/wallet"
  | .unlinkWallet _ address _ => "/wallet/" ++ address
  | .setPrimaryWallet _ address => "/wallet/" ++ address ++ "/primary"
  | .logIn _ => "/login"
  | .logOut _ => "/logout"
  | .startSession _ _ => "/session/start"
  | .recordPage _ _ => "/session/page"
  | .heartbeat _ => "/session/heartbeat"
  | .endSession _ => "/session/end"

/-- The method of a call. -/
def methodOf : ServiceCall → Method
  | .fetchVisitor _ => .get
  | .unlinkWallet _ _ _ => .delete
  | .setPrimaryWallet _ _ => .patch
  | _ => .post

/-- The document that a call carries. -/
def bodyOf : ServiceCall → Option Json
  | .connectWallet _ address => some (ConnectRequest.toJson ⟨address⟩)
  | .linkWallet _ request => some request.toJson
  | .unlinkWallet _ _ request => some request.toJson
  | .startSession _ request => some request.toJson
  | .recordPage _ path => some (PageView.toJson ⟨path⟩)
  | .heartbeat _ => some (.obj [])
  | .endSession _ => some (.obj [])
  | .fetchVisitor _ => none
  | .setPrimaryWallet _ _ => none
  | .logIn _ => none
  | .logOut _ => none

/-- The request that a call is. -/
def ofCall (baseUrl : String) (call : ServiceCall) : Request where
  method := methodOf call
  url := visitorUrl baseUrl call.visitor (path call)
  body := bodyOf call

/-- The text that a request carries, which is empty where there is no document. -/
def text (request : Request) : String :=
  request.body.elim "" Json.compact

end Request

end VisitorLink
