import EdgePlane.Certificate.Authority
import EdgePlane.Settings

/-!
# Setups

What an operator works with: the settings that it has read, and the reader of certificates that it is built
with.
-/

namespace EdgePlane

/-- The settings of an operator together with its reader of certificates. -/
structure Setup extends Settings where
  pem : PemReader

/-- The setup of an operator in an empty environment. -/
def Setup.standard : Setup := { Settings.standard with pem := .standard }

end EdgePlane
