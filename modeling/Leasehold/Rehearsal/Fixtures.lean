import Leasehold.Json.Value

/-!
# Sample responses

Bodies of responses as the server writes them, with the parts that matter as
parameters.
-/

set_option autoImplicit false

namespace Leasehold.Rehearsal.Sample

def texts (ts : List String) : Json := .array (ts.map Json.string)

def lookupSelf (ttl : Nat) (renewable : Bool) : Json :=
  .ofMembers
    [("request_id", .string "8f3b2c1e-lookup"),
      ("data",
        .ofMembers
          [("accessor", .string "hmac-accessor"),
            ("policies", texts ["default", "app"]),
            ("ttl", .ofNat ttl),
            ("renewable", .bool renewable)])]

def auth (clientToken : String) (duration : Nat) (renewable : Bool) : Json :=
  .ofMembers
    [("request_id", .string "8f3b2c1e-auth"),
      ("auth",
        .ofMembers
          [("client_token", .string clientToken),
            ("accessor", .string "hmac-accessor"),
            ("policies", texts ["default", "app"]),
            ("lease_duration", .ofNat duration),
            ("renewable", .bool renewable)])]

def leasedRead (leaseId : String) (duration : Nat) (renewable : Bool) : Json :=
  .ofMembers
    [("request_id", .string "8f3b2c1e-read"),
      ("lease_id", .string leaseId),
      ("lease_duration", .ofNat duration),
      ("renewable", .bool renewable),
      ("data",
        .ofMembers
          [("username", .string "v-app-readonly-x1y2"), ("password", .string "A1a-generated")])]

def storedRead (data : Json) : Json :=
  .ofMembers
    [("request_id", .string "8f3b2c1e-kv"),
      ("lease_id", .string ""),
      ("lease_duration", .ofNat 0),
      ("renewable", .bool false),
      ("data",
        .ofMembers [("data", data), ("metadata", .ofMembers [("version", .ofNat 1)])])]

def leaseRenewal (leaseId : String) (duration : Nat) : Json :=
  .ofMembers
    [("lease_id", .string leaseId),
      ("lease_duration", .ofNat duration),
      ("renewable", .bool true)]

def error (message : String) : Json := .ofMembers [("errors", texts [message])]

end Leasehold.Rehearsal.Sample
