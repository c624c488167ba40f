import Swarmkeeper.Text.Numeral

/-!
Why a resource could not be fetched.
-/

namespace Swarmkeeper.Web

/-- What went wrong on the way to a resource. -/
inductive Fault where
  | invalidProxy (reason : String)
  | invalidUrl (url : String)
  | request (url reason : String)
  /-- The server answered with a status other than success. -/
  | status (url : String) (code : Nat)
  /-- No client could be made. -/
  | noClient (reason : String)
deriving DecidableEq, Repr

/-- The wording of a fault. -/
def Fault.message : Fault → String
  | invalidProxy reason => s!"Invalid proxy configuration: {reason}"
  | invalidUrl url => s!"Invalid URL '{url}'"
  | request url reason => s!"Request to {url} failed: {reason}"
  | status url code => s!"Request to {url} returned HTTP {code}"
  | noClient reason => s!"HTTP client construction failed: {reason}"

end Swarmkeeper.Web
