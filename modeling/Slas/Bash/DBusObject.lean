import Mathlib
import Slas.Bash.AddLog

/-!
The D-Bus object for logs of bash sessions, `server/src/bash/dbus/object/bash.cpp`.

* `AddLogEntry`: the arguments of the method of that name;
* `ownMessageHandler`: what becomes of them.
-/

namespace Slas.Bash

open Database

/-- The arguments of `org.chyla.slas.bash.AddLogEntry`. -/
structure AddLogEntry where
  agentName : Text
  hour : Int32
  minute : Int32
  second : Int32
  day : Int32
  month : Int32
  year : Int32
  userId : UInt32
  command : Text
  deriving DecidableEq

/-- `log_entry.utc_time.Set`; `none` if it throws. -/
def AddLogEntry.utcTime? (message : AddLogEntry) : Option Timestamp :=
  Timestamp.create? message.hour message.minute message.second message.day message.month
    message.year

/-- The entry that is handed on, if the time can be set. -/
def AddLogEntry.logEntry? (message : AddLogEntry) : Option BashLogEntry :=
  message.utcTime?.map fun utcTime =>
    { agentName := message.agentName
      utcTime
      userId := message.userId
      command := message.command }

/-- `Bash::OwnMessageHandler`; `none` if it throws before it calls `Scripts::AddLog`. -/
def ownMessageHandler (message : AddLogEntry) : Option (DatabaseM Unit) :=
  message.logEntry?.map Scripts.addLog

end Slas.Bash
