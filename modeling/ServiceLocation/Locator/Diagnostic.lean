import ServiceLocation.Locator.Basic
import ServiceLocation.Text.Quoted

/-!
**Settings in words, for diagnostics.**

* `wholeRecord`, `partialRecord`: named fields in braces, all of them or not;
* `RetryPolicy.diagnostic`, `resolverDiagnostic`, `Locator.diagnostic`: the settings of a policy, of
  a resolver and of a locator.
-/

namespace ServiceLocation

open ServiceLocation.Text

/-- Fields by their names, joined by commas. -/
def fieldsText (fields : List (String × String)) : String :=
  ", ".intercalate (fields.map fun (name, value) => name ++ ": " ++ value)

/-- A record with all its fields. -/
def wholeRecord (name : String) (fields : List (String × String)) : String :=
  name ++ " \x7b " ++ fieldsText fields ++ " \x7d"

/-- A record with some of its fields. -/
def partialRecord (name : String) (fields : List (String × String)) : String :=
  name ++ " \x7b " ++ fieldsText fields ++ ", .. \x7d"

/-- The settings of a policy. -/
def RetryPolicy.diagnostic (policy : RetryPolicy) : String :=
  wholeRecord "ResolverSettings"
    [("query_timeout", policy.queryTimeout.text),
     ("max_try_again", toString policy.maxTryAgain.toNat)]

/-- The settings of a resolver. -/
def resolverDiagnostic (policy : RetryPolicy) : String :=
  partialRecord "NaptrResolver" [("settings", policy.diagnostic)]

/-- A truth value in words. -/
def truthText (value : Bool) : String := if value then "true" else "false"

/-- The settings of a locator, and the number of resolutions it remembers. -/
def Locator.diagnostic (locator : Locator) (cachedEntries : Nat) : String :=
  let service := match locator.service with
    | some service => "Some(" ++ quoted service ++ ")"
    | none => "None"
  let servers := "[" ++ ", ".intercalate (locator.servers.map (·.text)) ++ "]"
  partialRecord "UrlProvider"
    [("naptr_service_name", service),
     ("lowercase_value_before_hashing", truthText locator.lowercase),
     ("add_identifier_scheme_to_zone", truthText locator.addScheme),
     ("use_dns_cache", truthText locator.useCache),
     ("label_prefix", quoted locator.labelPrefix), ("custom_dns_servers", servers),
     ("resolver_settings", locator.policy.diagnostic),
     ("cached_entries", toString cachedEntries)]

end ServiceLocation
