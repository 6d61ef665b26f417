import ComponentMigration.Json.Value
import ComponentMigration.Record.Run
import ComponentMigration.Run.Progress

/-!
# Records of listeners

What a listener does can be told by a list of actions, each of which is set off by one occurrence of
an event.
-/

namespace ComponentMigration

/-- An action of a listener: the event that sets it off, at which of its occurrences, and what is
done, with a reason if there is one. -/
structure Action where
  event : String
  occurrence : Json
  deed : String
  reason : Option String

namespace Action

/-- The action of a table. -/
def ofJson (v : Json) : Action :=
  { event := v.textAt "on" ""
    occurrence := (v.get? "n").getD (.int 1)
    deed := v.textAt "do" ""
    reason := v.textAt? "reason" }

/-- The actions that the latest of some announcements sets off; none after one that raises. -/
def setOff (actions : List Action) (announcements : List Announcement) : List Action :=
  match announcements.getLast? with
  | none => []
  | some a =>
    let name := a.event.name
    let count := (announcements.filter fun b => b.event.name == name).length
    let fired := actions.filter fun x => x.event == name && x.occurrence == Json.nat count
    fired.takeWhile fun x => x.deed != "raise"

end Action

/-- The listener that takes actions, after some announcements. -/
def Listener.ofActions (actions : List Action) (earlier : List Announcement) : Listener :=
  fun now =>
    let cancels := (Action.setOff actions (earlier ++ now)).filter fun x => x.deed == "cancel"
    cancels.getLast?.map Action.reason

end ComponentMigration
