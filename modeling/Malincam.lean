import Malincam.Base.Bytes
import Malincam.Base.Counting
import Malincam.Base.Loop
import Malincam.Base.Ring
import Malincam.Base.Run
import Malincam.Base.Stages
import Malincam.Base.Mealy
import Malincam.Array
import Malincam.Array.InMemory
import Malincam.V4l2
import Malincam.Device
import Malincam.Device.Open
import Malincam.Device.Buffers
import Malincam.Pass
import Malincam.Device.Indexed
import Malincam.Device.Prepared
import Malincam.Device.Exports
import Malincam.Device.Startable
import Malincam.Device.Restart
import Malincam.Device.Atomic
import Malincam.Device.Formats
import Malincam.Queue
import Malincam.Queue.Fifo
import Malincam.Pump
import Malincam.Pass.Compatible
import Malincam.Pass.Payload
import Malincam.Pass.Feed
import Malincam.Pass.Planes
import Malincam.Pump.Moves
import Malincam.Pump.Calls
import Malincam.Pump.Conservation
import Malincam.Pump.Losses
import Malincam.Pump.Accounting
import Malincam.Pump.Frames
import Malincam.Pump.RoundRobin
import Malincam.Pump.Streams
import Malincam.Pump.Exports
import Malincam.Pump.Conveyed
import Malincam.Pump.Works
import Malincam.Pump.Alone
import Malincam.Pump.Drained
import Malincam.Pollinator
import Malincam.Pollinator.Registry
import Malincam.Uvc
import Malincam.Uvc.Requests
import Malincam.Uvc.RequestErrors
import Malincam.Uvc.Capabilities
import Malincam.Uvc.Refusals
import Malincam.Uvc.Brightness
import Malincam.V4l2Control
import Malincam.V4l2Control.Enumeration
import Malincam.V4l2Control.Cache
import Malincam.V4l2Control.Results
import Malincam.Led
import Malincam.Subdev
import Malincam.Subdev.Reported
import Malincam.Node
import Malincam.Pilatform
import Malincam.Pipeline
import Malincam.Pipeline.Setup
import Malincam.Pipeline.Pumps
import Malincam.Pipeline.Running
import Malincam.Pipeline.DataPhase
import Malincam.Pipeline.Draining
import Malincam.Pipeline.Consistent
import Malincam.Pipeline.Conforming
import Malincam.Pipeline.Safety
import Malincam.Pipeline.Wakeups
import Malincam.Pipeline.Session
import Malincam.Pipeline.Formats
import Malincam.Pipeline.Watched
import Malincam.Pipeline.Sleeping
import Malincam.Pipeline.Progress
import Malincam.Pipeline.Frames
import Malincam.Pipeline.Payload
import Malincam.Pipeline.Recovery
import Malincam.Pipeline.Rollback
import Malincam.Pipeline.Led
import Malincam.Pipeline.Endpoint
