import AlertRelay.Message

/-!
# The backlog

A backlog is split into the messages to send now and those to hold.
-/

namespace AlertRelay
namespace Backlog

/-- Whether the alert of an alert message was acknowledged or closed when the message was
queued. -/
def isResolved (message : Message) : Bool :=
  message.type == .alert &&
    (message.alertStatus == some .acknowledged || message.alertStatus == some .closed)

/-- Unsent messages of an admissible type, unless their alert is resolved. -/
def isReady (types : List MessageType) (message : Message) : Bool :=
  !message.isSent && types.contains message.type && !isResolved message

/-- The messages to send and the messages to hold, each in order. -/
def split (types : List MessageType) (messages : List Message) : List Message × List Message :=
  messages.partition (isReady types)

end Backlog
end AlertRelay
