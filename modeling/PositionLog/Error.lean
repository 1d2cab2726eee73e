/-! # What can go wrong -/

namespace PositionLog

/-- Settings that no checkpointer can run with. -/
inductive ConfigError where
  | missingTopic
  | zeroPollTimeout
  | zeroRetryCount
  | missingServers
deriving DecidableEq, Repr, Inhabited

namespace ConfigError

def message : ConfigError → String
  | missingTopic => "the topic must not be empty"
  | zeroPollTimeout => "the poll timeout must be greater than zero"
  | zeroRetryCount => "the retry count must be at least 1"
  | missingServers => "bootstrap servers must not be empty"

end ConfigError

/-- What a client answers instead of doing what it was asked. -/
inductive BrokerError where
  /-- The client was closed before. -/
  | closed
  /-- The broker cannot be reached, or refuses. -/
  | unavailable (text : String)
  /-- The client is in no state to do it. -/
  | invalidState (text : String)
  /-- The Kafka client library failed. -/
  | kafka (text : String)
deriving DecidableEq, Repr, Inhabited

namespace BrokerError

def message : BrokerError → String
  | closed => "client is closed"
  | unavailable text => "broker unavailable: " ++ text
  | invalidState text => "invalid client state: " ++ text
  | kafka text => "kafka error: " ++ text

end BrokerError

/-- The two clients of a checkpointer. -/
inductive ClientRole where
  | producer
  | consumer
deriving DecidableEq, Repr

namespace ClientRole

def name : ClientRole → String
  | producer => "producer"
  | consumer => "consumer"

end ClientRole

/-- What a checkpointer answers instead of doing what it was asked. -/
inductive Error where
  | config (cause : ConfigError)
  /-- There is nothing that could take the records of a replay. -/
  | notDeserializable
  | notInitialized
  | stopped
  | creation (role : ClientRole) (cause : BrokerError)
  | broker (cause : BrokerError)
deriving DecidableEq, Repr, Inhabited

namespace Error

def message : Error → String
  | config cause => "configuration error: " ++ cause.message
  | notDeserializable => "cannot load data for an adapter that is not deserializable"
  | notInitialized => "the resume strategy has not been initialized"
  | stopped => "the resume strategy has been stopped"
  | creation role cause => "failed to create the " ++ role.name ++ ": " ++ cause.message
  | broker cause => cause.message

/-- The message of the error behind this one. An error of a client stands for itself. -/
def source? : Error → Option String
  | config cause => some cause.message
  | creation _ cause => some cause.message
  | _ => none

end Error

end PositionLog
