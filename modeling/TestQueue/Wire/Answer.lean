import TestQueue.Server.Command
import TestQueue.Wire.Message

namespace TestQueue

open Wire (encode)

namespace Roster

def byStatusJson (groups : List (Liveness × List WorkerId)) : Json :=
  .object (groups.map fun g => (g.1.name, encode g.2))

end Roster

namespace Answer

def toJson : Answer → Json
  | version a => encode a
  | registered c => encode c
  | alive s => encode s
  | worker r => encode r
  | workers rs => encode rs
  | byStatus groups => Roster.byStatusJson groups
  | fetched a => encode a
  | submitted a => encode a
  | processing a => encode a
  | scheduled a => encode a
  | jobState s => encode s
  | jobResults r => encode r
  | swept ts => .arr (ts.map Transition.toJson)

end Answer

end TestQueue
