import Mathlib
import Slas.Apache.DatabaseFunctions

/-!
The D-Bus object for Apache logs, `server/src/apache/dbus/object/apache.cpp`.

* `AddLogEntry`: the arguments of the method of that name;
* `ownMessageHandler`: what becomes of them.
-/

namespace Slas.Apache

open Database

/-- The arguments of `org.chyla.slas.apache.AddLogEntry`. -/
structure AddLogEntry where
  agentName : Text
  virtualhost : Text
  clientIp : Text
  hour : Int32
  minute : Int32
  second : Int32
  day : Int32
  month : Int32
  year : Int32
  request : Text
  statusCode : Int32
  bytes : Int32
  userAgent : Text
  deriving DecidableEq

/-- `log_entry.time.Set`; `none` if it throws. -/
def AddLogEntry.time? (message : AddLogEntry) : Option Timestamp :=
  Timestamp.create? message.hour message.minute message.second message.day message.month
    message.year

/-- The entry that is stored, if the time can be set. -/
def AddLogEntry.logEntry? (message : AddLogEntry) : Option LogEntry :=
  message.time?.map fun time =>
    { agentName := message.agentName
      virtualhost := message.virtualhost
      clientIp := message.clientIp
      time
      request := message.request
      statusCode := message.statusCode.toInt
      bytes := message.bytes.toInt
      userAgent := message.userAgent
      usedInStatistics := false }

/-- `Apache::OwnMessageHandler`, after the time has been set. -/
def storeLogEntry (logEntry : LogEntry) : DatabaseM Unit := do
  addAgentName logEntry.agentName
  addVirtualhostName logEntry.virtualhost
  addLogs [logEntry]

/-- `Apache::OwnMessageHandler`; `none` if it throws before it calls the database. -/
def ownMessageHandler (message : AddLogEntry) : Option (DatabaseM Unit) :=
  message.logEntry?.map storeLogEntry

end Slas.Apache
