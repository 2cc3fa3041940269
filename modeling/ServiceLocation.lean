import ServiceLocation.Config
import ServiceLocation.Locator.Diagnostic
import ServiceLocation.Locator.Resolve
import ServiceLocation.Locator.Session
import ServiceLocation.Naptr.Wire
import ServiceLocation.Participant.Json
import ServiceLocation.Proofs.Address.Characters
import ServiceLocation.Proofs.Address.Endpoint
import ServiceLocation.Proofs.Address.RoundTrip
import ServiceLocation.Proofs.Config.Overrides
import ServiceLocation.Proofs.Config.Saving
import ServiceLocation.Proofs.Idna.AsciiForm
import ServiceLocation.Proofs.Idna.AsciiNames
import ServiceLocation.Proofs.Json.Grammar
import ServiceLocation.Proofs.Json.Reader
import ServiceLocation.Proofs.Json.Scalars
import ServiceLocation.Proofs.Locator.BaseUrl
import ServiceLocation.Proofs.Locator.Blocking
import ServiceLocation.Proofs.Locator.HashNaming
import ServiceLocation.Proofs.Locator.History
import ServiceLocation.Proofs.Locator.Identity
import ServiceLocation.Proofs.Locator.Key
import ServiceLocation.Proofs.Locator.LetterCase
import ServiceLocation.Proofs.Locator.Name
import ServiceLocation.Proofs.Locator.PlainParts
import ServiceLocation.Proofs.Locator.Queries
import ServiceLocation.Proofs.Locator.ServerText
import ServiceLocation.Proofs.Locator.Servers
import ServiceLocation.Proofs.Locator.Session
import ServiceLocation.Proofs.Locator.Transparency
import ServiceLocation.Proofs.Locator.ZoneForm
import ServiceLocation.Proofs.Naming
import ServiceLocation.Proofs.Naptr.Budget
import ServiceLocation.Proofs.Naptr.Choice
import ServiceLocation.Proofs.Naptr.Expression
import ServiceLocation.Proofs.Naptr.Order
import ServiceLocation.Proofs.Naptr.Replacement
import ServiceLocation.Proofs.Naptr.Retry
import ServiceLocation.Proofs.Participant.Json
import ServiceLocation.Proofs.Pattern.Find
import ServiceLocation.Proofs.Pattern.Layout
import ServiceLocation.Proofs.Pattern.Search
import ServiceLocation.Proofs.Result
import ServiceLocation.Proofs.Sml.Endpoint
import ServiceLocation.Proofs.Sml.Parts
import ServiceLocation.Proofs.Span
import ServiceLocation.Proofs.StableSort
import ServiceLocation.Proofs.Text.Blank
import ServiceLocation.Proofs.Text.Ending
import ServiceLocation.Proofs.Text.LowerCase
import ServiceLocation.Proofs.Text.Numeral
import ServiceLocation.Proofs.Text.RunLength
import ServiceLocation.Proofs.Text.Utf8
import ServiceLocation.Proofs.Toml.Number
import ServiceLocation.Proofs.Toml.Quoted
import ServiceLocation.Proofs.Toml.Written
import ServiceLocation.Proofs.Url.Below
import ServiceLocation.Proofs.Url.HostCharacters
import ServiceLocation.Proofs.Url.HostName
import ServiceLocation.Proofs.Url.Reading
import ServiceLocation.Proofs.Url.Segment
import ServiceLocation.Proofs.Url.Tail
import ServiceLocation.Proofs.Url.TrailingSlash
import ServiceLocation.Sml
