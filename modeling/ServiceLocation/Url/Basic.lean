import ServiceLocation.Url.Host
import ServiceLocation.Url.Path

/-!
**URLs.**

* `Url`: the parts of a URL in their normal form;
* `Url.text`: the URL that the parts make;
* `Url.hostText?`: its host, if it has one.
-/

namespace ServiceLocation

/-- Where a URL points before its path. -/
structure Url.Authority where
  username : List Char
  password : List Char
  host : Option Url.Host
  /-- The port, unless it is the usual one of the scheme. -/
  port : Option UInt16
  deriving Repr, DecidableEq

/-- What follows the authority. -/
inductive Url.Location where
  /-- Segments, or nothing at all. -/
  | path (segments : Url.Path)
  /-- A text without structure. -/
  | unstructured (text : List Char)
  deriving Repr, DecidableEq

/-- A URL in its normal form. -/
structure Url where
  scheme : List Char
  authority : Option Url.Authority
  location : Url.Location
  query : Option (List Char)
  fragment : Option (List Char)
  deriving Repr, DecidableEq

namespace Url

namespace Authority

/-- The user name and the password, with the sign that ends them. -/
def userText (authority : Authority) : List Char :=
  let password := if authority.password.isEmpty then [] else ':' :: authority.password
  if authority.username.isEmpty && password.isEmpty then []
  else authority.username ++ password ++ ['@']

/-- An authority as text. -/
def text (authority : Authority) : List Char :=
  let host := (authority.host.map Host.text).getD []
  let port := (authority.port.map fun port => (':' :: (toString port.toNat).toList)).getD []
  authority.userText ++ host ++ port

end Authority

/-- What follows the authority, as text. -/
def Location.text : Location → List Char
  | path segments => segments.text
  | unstructured text => text

/-- The text between the scheme and the query. -/
def middleText (url : Url) : List Char :=
  let location := url.location.text
  match url.authority with
  | some authority => "//".toList ++ authority.text ++ location
  | none => if "//".toList.isPrefixOf location then "/.".toList ++ location else location

/-- A URL as text. -/
def text (url : Url) : List Char :=
  let query := (url.query.map ('?' :: ·)).getD []
  let fragment := (url.fragment.map ('#' :: ·)).getD []
  url.scheme ++ [':'] ++ url.middleText ++ query ++ fragment

/-- The host of a URL, if it has one. -/
def hostText? (url : Url) : Option (List Char) :=
  (url.authority.bind (·.host)).map Host.text

end Url

end ServiceLocation
