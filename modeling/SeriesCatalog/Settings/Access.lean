import SeriesCatalog.Address
import SeriesCatalog.ClickHouse.Source
import SeriesCatalog.Settings

/-! # The store through the settings

Settings lead to a store only if their address can be used and if the name and the password of the
user can go with a query. Otherwise every query fails in the same way before it is sent.
-/

namespace SeriesCatalog.Settings

/-- The text can go with a query: it has no controls but tabs. -/
def isSendable (text : String) : Bool :=
  text.toList.all fun c => c == '\t' || (0x20 ≤ c.toNat && c.toNat != 0x7F)

/-- Why no query can be sent under the settings. -/
def obstacle? (s : Settings) : Option QueryFailure :=
  match Address.parse s.url with
  | .error fault => some (.address fault)
  | .ok address =>
    if !(s.user.toList ++ s.password.toList).all isSendable then some .badHeader
    else if address.scheme != "http" then some .otherScheme
    else none

def access (s : Settings) (store : Store) : Store :=
  match s.obstacle? with
  | some failure => Store.failing failure
  | none => store

end SeriesCatalog.Settings
