import ServiceLocation.Error
import ServiceLocation.Text.Ending
import ServiceLocation.Url.Parser

/-!
**Base URLs.**

* `baseUrl`: the base URL of what a name is resolved to: a text with `://` in it is taken as it is,
  any other as a host, and a slash at its end is dropped.
-/

namespace ServiceLocation.Locator

open ServiceLocation.Text

/-- A text with a scheme in front unless it has one. -/
def withScheme (text : List Char) : List Char :=
  if holds "://".toList text then text else "http://".toList ++ text

/-- The base URL of what a name is resolved to. -/
def baseUrl (resolved : String) : Except LocationError String :=
  let base := dropFinal '/' (withScheme resolved.toList)
  let text := String.ofList base
  match Url.parse base with
  | .error fault => .error (.malformedUrl text (.malformed fault))
  | .ok url =>
    match url.hostText? with
    | none => .error (.malformedUrl text .noHost)
    | some host => if host.isEmpty then .error (.malformedUrl text .noHost) else .ok text

end ServiceLocation.Locator
