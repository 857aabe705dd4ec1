/-!
# Operations on a package

A package is installed or uninstalled. An operation has a target: the value of the package's
`installed` flag once it has succeeded.
-/

namespace ExtensionCatalogue

inductive Operation where
  | install
  | uninstall
  deriving DecidableEq, Repr

namespace Operation

/-- The flag of the package after success. -/
def target : Operation → Bool
  | install => true
  | uninstall => false

/-- The operation as a verb, which is also its path on the server. -/
def name : Operation → String
  | install => "install"
  | uninstall => "uninstall"

def ongoing : Operation → String
  | install => "Installing"
  | uninstall => "Uninstalling"

def done : Operation → String
  | install => "Installed"
  | uninstall => "Uninstalled"

/-- The operation as a noun, for reports of failure. -/
def noun : Operation → String
  | install => "Installation"
  | uninstall => "Removal"

end Operation

end ExtensionCatalogue
