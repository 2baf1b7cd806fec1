import RailWatch.Url.Address
import RailWatch.Url.Domain
/-!
# RailWatch.Url.Host

The host of an address, as it is written in the end.

Square brackets hold an address of words. Where the scheme has a say in it, any other host is a
domain name, which is decoded and brought into its usual form; if its last label is a number it is
meant as an address of octets, and has to be one. For all other schemes a host is a text of its
own that is only encoded.
-/

namespace RailWatch.Url.Host

open Text

/-- The characters that are allowed in no host. -/
def neverAllowed : List Char :=
  [' ', '#', '/', ':', '<', '>', '?', '@', '[', '\\', ']', '^', '|']

/-- The characters that the text of a host cannot have. -/
def isForbidden (c : Char) : Bool :=
  c = Char.ofNat 0 || c = '\t' || c = '\n' || c = '\r' || neverAllowed.contains c

/-- The characters that a domain name cannot have. -/
def isForbiddenInDomain (c : Char) : Bool :=
  c.toNat < 0x20 || c.toNat = 0x7F || c = '%' || neverAllowed.contains c

/-- The domain name that a text writes, or the address of octets. -/
def domain? (s : List Char) : Option (List Char) := do
  let name ← Domain.ascii? isForbiddenInDomain (← Utf8.decode? (percentDecode s))
  if name.isEmpty then none
  else if Address.endsInNumber name then (Address.octets? name).map Address.octetsText
  else some name

/-- The host of an address whose scheme has a say in it. -/
def read? (s : List Char) : Option (List Char) :=
  if s.head? = some '[' then Address.brackets? s else domain? s

/-- The host of an address of any other scheme. -/
def readOpaque? (s : List Char) : Option (List Char) :=
  if s.head? = some '[' then Address.brackets? s
  else if s.any isForbidden then none
  else some (percentEncode inEveryPart s)

end RailWatch.Url.Host
