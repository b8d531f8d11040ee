import DocQuery.Server.Collection
import DocQuery.Server.Script

/-!
# Databases

A database gives out its collections, which inherit its number of retries. It is connected to by an
address, or made for a client that is connected already.
-/

namespace DocQuery

/-- A database. -/
structure Database where
  name : String
  policy : RetryPolicy := {}

namespace Database

/-- The schemes that the address of a database starts with. -/
def schemes : List String := ["mongodb://", "mongodb+srv://"]

/-- Connects to the database of this name at an address, with a number of retries. -/
def connect (address name : String) (p : RetryPolicy) : Except Error (Database × List Event) :=
  if schemes.any (fun s => s.toList.isPrefixOf address.toList) then
    .ok (⟨name, p⟩, [.began ("connected to database " ++ name)])
  else .error (.badAddress address)

/-- A collection of the database. -/
def collection (d : Database) (name : String) : Collection := ⟨d.name, name, d.policy⟩

variable {σ : Type} [Client σ]

/-- The names of the collections. -/
def listCollections (x : σ) : Response (List String) σ :=
  Response.ofCall Client.listCollections [] x

/-- Whether there is a collection of a name. -/
def hasCollection (name : String) (x : σ) : Response Bool σ :=
  (listCollections x).map (fun names => names.contains name)

/-- Drops the database. -/
def drop (d : Database) (x : σ) : Response Unit σ :=
  Response.ofCall Client.dropDatabase [.began ("drop of database " ++ d.name)] x

end Database

end DocQuery
