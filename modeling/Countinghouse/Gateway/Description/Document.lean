import Countinghouse.Gateway.Description.Endpoint

/-!
# The interface description

The gateway describes its own interface as one JSON document, in the form that version
3.1.0 of the OpenAPI specification lays down.
-/

namespace Countinghouse.Description

/-- The endpoints at each path together, paths in the order they first appear. -/
def byPath : List Endpoint → List (String × List Endpoint)
  | [] => []
  | endpoint :: rest =>
    let path := endpoint.route.path
    let others := byPath rest
    (path, endpoint :: (others.lookup path).getD []) :: others.filter (·.1 != path)

/-- What the interface is called. -/
def info : Json :=
  .object [
    ("title", .text "Bank API"),
    ("description",
      .text "Accounts, owner-checked funds transfers and refresh-token sessions."),
    ("license", .object [("name", .text "MIT")]),
    ("version", .text "1.0.0")]

/-- Where the interface is found. -/
def servers : Json :=
  .list [.object [("url", .text "http://localhost:8080"), ("description", .text "Development")]]

/-- How a caller is known. -/
def securitySchemes : Json :=
  .object [("jwt_auth", .object [
    ("type", .text "http"),
    ("scheme", .text "bearer"),
    ("bearerFormat", .text "JWT"),
    ("description", .text "Access token from /api/v1/users/login or /api/v1/tokens/renew")])]

/-- What can be done at each path. -/
def paths : Json :=
  .object ((byPath Endpoint.all).map fun (path, endpoints) =>
    (path, .object (endpoints.map fun endpoint => (verbName endpoint.verb, endpoint.toJson))))

/-- What the endpoints refer to. -/
def components : Json :=
  .object [
    ("schemas", .object (Component.all.map fun component => (component.name, component.toJson))),
    ("securitySchemes", securitySchemes)]

/-- The parts of the interface. -/
def tags : Json :=
  .list ([Area.user, .account, .transfer, .system].map fun area =>
    .object [("name", .text area.name), ("description", .text area.description)])

/-- The whole description. -/
def json : Json :=
  .object [
    ("openapi", .text "3.1.0"),
    ("info", info),
    ("servers", servers),
    ("paths", paths),
    ("components", components),
    ("tags", tags)]

end Countinghouse.Description
