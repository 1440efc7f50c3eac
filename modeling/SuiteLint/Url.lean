import SuiteLint.Text.Split

/-!
# Addresses
-/

namespace SuiteLint.Url

/-- Whether an address can be asked over the network. -/
def isRemote (url : String) : Bool :=
  Text.startsWith "http://" url || Text.startsWith "https://" url

end SuiteLint.Url
