import Savannah.Frame.Config
import Savannah.Frame.Counters
import Savannah.Master.Event
import Savannah.Master.State
import Savannah.Master.Schedule
import Savannah.Master.Cursor
import Savannah.Master.Retire
import Savannah.Master.IfftSweep
import Savannah.Master.Handlers
import Savannah.Master.Progress
import Savannah.System.Step
import Savannah.System.Batching
import Savannah.System.Shutdown
import Savannah.System.Steady
import Savannah.System.FrameIds
import Savannah.System.Invariants
import Savannah.System.Worker
import Savannah.System.Conservation
import Savannah.System.Start
import Savannah.System.Window
import Savannah.System.Retirement
