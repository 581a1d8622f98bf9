import DemandRouting.OpenRtb.Request
import DemandRouting.Table
import DemandRouting.Text.Blank

namespace DemandRouting.Identity

open Text OpenRtb

-- The types of id that known sources issue.
def sources : List (String × String) := [
  ("uidapi.com", "uid2"),
  ("id5-sync.com", "id5"),
  ("liveramp.com", "liveramp"),
  ("criteo.com", "criteo"),
  ("pubcid.org", "pubcid"),
  ("sharedid.org", "sharedid"),
  ("adserver.org", "ttd"),
  ("intentiq.com", "intentiq"),
  ("quantcast.com", "quantcast"),
  ("crwdcntrl.net", "lotame"),
  ("merkleinc.com", "merkle"),
  ("netid.de", "netid"),
  ("yahoo.com", "connectid"),
  ("audigent.com", "hadron")]

-- The type of id that a source issues.
def typeOf? (source : String) : Option String :=
  sources.lookup (lowerAscii (trim source))

-- The first uid with something in it.
def usable? (eid : Eid) : Option String :=
  (eid.uids.find? fun uid => !uid.id.isEmpty).map (·.id)

-- Extended ids at their present place, else at the old one.
def eidsOf (user : User) : List Eid :=
  if user.eids.isEmpty then (user.ext.map (·.eids)).getD [] else user.eids

-- The first usable id of a type stays.
def addEid (ids : Table String) (eid : Eid) : Table String :=
  match typeOf? eid.source, usable? eid with
  | some type, some id => ids.insertNew type id
  | _, _ => ids

def addRaw (ids : Table String) (type : String) (id : Option String) : Table String :=
  match id with
  | some id => if id.isEmpty then ids else ids.insertNew type id
  | none => ids

def ofUser (user : User) : Table String :=
  let extended := (eidsOf user).foldl addEid .empty
  addRaw (addRaw extended "user_id" user.id) "buyer_uid" user.buyeruid

def extract (user : Option User) : Table String := (user.map ofUser).getD .empty

end DemandRouting.Identity
