import PositionLog.Error
import PositionLog.Table
import PositionLog.Text.Blank

/-! # Client properties

What a client is created with: texts under names, handed on to the client as they are.
-/

namespace PositionLog

abbrev Properties := Table String

namespace Properties

def servers : String := "bootstrap.servers"

def group : String := "group.id"

def ofList (l : List (String × String)) : Properties :=
  l.foldl (fun p (k, v) => p.insert k v) {}

/-- What a producer for these servers is created with. -/
def producerDefaults (addresses : String) : Except ConfigError Properties :=
  if Text.isBlank addresses then .error .missingServers
  else .ok (ofList [(servers, addresses)])

/-- What a consumer for these servers is created with. Its group is its own, so that it sees the
log from the start and not from where another left off. -/
def consumerDefaults (addresses groupName : String) : Except ConfigError Properties :=
  if Text.isBlank addresses then .error .missingServers
  else .ok (ofList [(servers, addresses), (group, groupName),
    ("enable.auto.commit", "true"), ("auto.offset.reset", "earliest")])

end Properties

end PositionLog
