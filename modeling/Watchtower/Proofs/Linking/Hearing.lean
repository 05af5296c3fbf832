-- What a subscribed handler hears. Code blocks that stop no consumer leave those of the events
-- running, so a handler that is subscribed to a probe event runs for what is put on the routing key
-- of the event. Where a code block has stopped the consumer, the handler hears nothing.
import Watchtower.Proofs.Linking.Provision

namespace Watchtower.Linking

open Live
open Source (MonitorItem)
open Text (Undotted)

section Monitors

variable {package : Option String} {index : SpaceIndex} {decl : Source.Monitor} {b : Blueprint}
  {bindings : Bindings}

end Monitors

end Watchtower.Linking
