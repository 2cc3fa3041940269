import ServiceLocation.Naptr.Failure
import ServiceLocation.Url.Fault

/-!
**What can go wrong when a service is located.**

* `LocationError`: an unusable input, a failed resolution, an unusable URL, an unusable
  configuration, a call from the wrong place, or an unreadable file, each with its cause;
* `LocationError.message`: the wording;
* `isNotRegistered`, `isTransport`: whether the participant is unknown to the name system, or the
  name system could not be asked. No error is both (`not_isNotRegistered_of_isTransport`).

A cause `stated` carries a wording that was given from outside.
-/

namespace ServiceLocation

/-- Why an input is unusable. -/
inductive InputFault where
  | emptyZone
  | zoneStartsWithDot (zone : String)
  | emptySmlId
  | emptySmlName
  | emptyManagementUrl
  | invalidServer (text : String)
  | stated (reason : String)
  deriving Repr, DecidableEq

/-- The wording of the cause. -/
def InputFault.message : InputFault → String
  | emptyZone => "SML zone name may not be empty"
  | zoneStartsWithDot zone => "SML zone name '" ++ zone ++ "' may not start with a dot"
  | emptySmlId => "SML id may not be empty"
  | emptySmlName => "SML display name may not be empty"
  | emptyManagementUrl => "SML management service URL may not be empty"
  | invalidServer text => "invalid DNS server address '" ++ text ++ "'"
  | stated reason => reason

/-- Why a URL is unusable. -/
inductive UrlFault where
  /-- It has no host. -/
  | noHost
  /-- Its host is not the one that was meant. -/
  | otherHost (host : String)
  /-- It is no URL. -/
  | malformed (fault : Url.Fault)
  | stated (reason : String)
  deriving Repr, DecidableEq

/-- The wording of the cause. -/
def UrlFault.message : UrlFault → String
  | noHost => "no host"
  | otherHost host => "host would be '" ++ host ++ "'"
  | malformed fault => fault.message
  | stated reason => reason

/-- Why a configuration is unusable. -/
inductive ConfigFault where
  /-- The text is no configuration. -/
  | unreadable
  /-- No predefined SML has that id. -/
  | unknownSml (id : String)
  | stated (reason : String)
  deriving Repr, DecidableEq

/-- The wording of the cause. -/
def ConfigFault.message : ConfigFault → String
  | unreadable => "unreadable configuration"
  | unknownSml id => "unknown SML id '" ++ id ++ "'"
  | stated reason => reason

/-- Why a call is not possible where it is made. -/
inductive RuntimeFault where
  /-- A blocking call that needs a query, made where nothing may block. -/
  | blockingInsideRuntime
  | stated (reason : String)
  deriving Repr, DecidableEq

/-- The wording of the cause. -/
def RuntimeFault.message : RuntimeFault → String
  | blockingInsideRuntime => "blocking resolution called from within an async runtime"
  | stated reason => reason

/-- Why a file is unreadable. -/
inductive FileFault where
  | isDirectory
  | notUtf8
  | stated (reason : String)
  deriving Repr, DecidableEq

/-- The wording of the cause. -/
def FileFault.message : FileFault → String
  | isDirectory => "Is a directory (os error 21)"
  | notUtf8 => "stream did not contain valid UTF-8"
  | stated reason => reason

/-- The three ways in which a resolution fails. -/
inductive ResolutionFault where
  /-- The name system gave no answer. -/
  | transport
  /-- The answer holds no record for the service. -/
  | noMatchingRecord
  /-- None of the records for the service yields a URL. -/
  | noUsableRecord
  deriving Repr, DecidableEq

/-- The name of the way. -/
def ResolutionFault.name : ResolutionFault → String
  | transport => "transport"
  | noMatchingRecord => "no matching record"
  | noUsableRecord => "rewrite"

/-- A failed resolution. -/
structure ResolutionError where
  /-- The name that was asked for. -/
  domain : String
  kind : ResolutionFault
  /-- What happened, in words. -/
  detail : String
  /-- The failure of the last query, if one caused the error. -/
  cause : Option Naptr.Failure
  deriving Repr, DecidableEq

namespace ResolutionError

/-- The wording of the error. -/
def message (error : ResolutionError) : String :=
  "DNS resolution of '" ++ error.domain ++ "' failed (" ++ error.kind.name ++ "): " ++ error.detail

/-- Whether the name system answered that there is nothing usable. -/
def isNotRegistered (error : ResolutionError) : Bool :=
  error.kind == .noMatchingRecord || error.kind == .noUsableRecord

/-- Whether the name system could not be asked. -/
def isTransport (error : ResolutionError) : Bool := error.kind == .transport

end ResolutionError

/-- What can go wrong when a service is located. -/
inductive LocationError where
  | invalidInput (fault : InputFault)
  | resolution (error : ResolutionError)
  | malformedUrl (url : String) (fault : UrlFault)
  | config (fault : ConfigFault)
  | runtime (fault : RuntimeFault)
  | file (fault : FileFault)
  deriving Repr, DecidableEq

namespace LocationError

/-- The wording of an error. -/
def message : LocationError → String
  | invalidInput fault => "invalid input: " ++ fault.message
  | resolution error => error.message
  | malformedUrl url fault => "malformed SMP URL '" ++ url ++ "': " ++ fault.message
  | config fault => "configuration error: " ++ fault.message
  | runtime fault => "runtime error: " ++ fault.message
  | file fault => "io error: " ++ fault.message

/-- The wording of what caused an error, if something else did. -/
def cause? : LocationError → Option String
  | resolution error => error.cause.map Naptr.Failure.message
  | file fault => some fault.message
  | _ => none

/-- Whether the participant is unknown to the name system. -/
def isNotRegistered : LocationError → Bool
  | resolution error => error.isNotRegistered
  | _ => false

/-- Whether the name system could not be asked. -/
def isTransport : LocationError → Bool
  | resolution error => error.isTransport
  | _ => false

/-- No error is of both kinds. -/
theorem not_isNotRegistered_of_isTransport {error : LocationError}
    (transport : error.isTransport = true) : error.isNotRegistered = false := by
  cases error with
  | resolution error =>
    simp only [isTransport, ResolutionError.isTransport, beq_iff_eq] at transport
    simp [isNotRegistered, ResolutionError.isNotRegistered, transport]
  | _ => rfl

end LocationError

end ServiceLocation
