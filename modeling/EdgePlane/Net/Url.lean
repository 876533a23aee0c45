import EdgePlane.Text.Decimal
import EdgePlane.Text.Search

/-!
# Base URLs

The URL under which the management interface of a host is found, and the check of one that is given.
-/

namespace EdgePlane.Net

open Text

/-- The path of the third version of the interface. -/
def apiPath : String := "/api/v3"

/-- The URL of the interface at a host and a port. -/
def apiBaseUrl (host : String) (port : Int32) : String :=
  "http://" ++ host ++ ":" ++ decimalInt port.toInt ++ apiPath

/-- Whether a text starts like a web address. -/
def isWeb (url : String) : Bool := url.startsWith "http://" || url.startsWith "https://"

/-- The base of the URLs of requests: a web address without the slashes at its end. -/
def baseUrl? (url : String) : Option String := if isWeb url then some (trimEnd '/' url) else none

end EdgePlane.Net
