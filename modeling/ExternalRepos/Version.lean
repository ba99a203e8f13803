/-!
# Version
-/

namespace ExternalRepos

/-- The version that the program reports. -/
def version : String := "0.3.0"

end ExternalRepos
