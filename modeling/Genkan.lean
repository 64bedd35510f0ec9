import Genkan.SessionLock.LockDiscipline
import Genkan.SessionLock.SelectedOutput
import Genkan.SessionLock.Freshness
import Genkan.SessionLock.BufferHistory
import Genkan.SessionLock.CheckedDrawing
import Genkan.SessionLock.FilterBounds
import Genkan.Locker.Authorization
import Genkan.Locker.Agreement
import Genkan.Locker.Progress
import Genkan.Locker.Answers
import Genkan.Locker.SingleLine
import Genkan.Coordination.Joining
import Genkan.Coordination.Failing
import Genkan.DynamicWallpaper.Retry
import Genkan.DynamicWallpaper.Generations
import Genkan.DynamicWallpaper.Selecting
import Genkan.DynamicWallpaper.DissolveSamples
import Genkan.DynamicWallpaper.CivilDays
import Genkan.DynamicWallpaper.SolarTrajectory
import Genkan.DynamicWallpaper.Merging
import Genkan.DynamicWallpaper.Packing
import Genkan.DynamicWallpaper.ColorProfileSafety
import Genkan.DynamicWallpaper.MissingImage
import Genkan.DesktopWallpaper.Deadlines
import Genkan.DesktopWallpaper.Dissolve
import Genkan.DesktopWallpaper.Cover
import Genkan.LockAuth.Framing
import Genkan.LockAuth.RoundTrip
import Genkan.LockAuth.Canonical
import Genkan.LockAuth.PamCallback
import Genkan.LockAuth.BoundedText
import Genkan.Wallpaper.RelayStream
import Genkan.Wallpaper.FailureLatch
import Genkan.Wallpaper.LoopCrossfade
import Genkan.Wallpaper.HeicWorker
import Genkan.Wallpaper.HelperCancellation
import Genkan.DynamicWallpaper.PropertyListMeaning
import Genkan.DynamicWallpaper.EagerLoad
import Genkan.DynamicWallpaper.WalkSafety
import Genkan.DynamicWallpaper.BoxOrder
import Genkan.Dialogue
import Genkan.DesktopWallpaper.SolarMapping
import Genkan.DesktopWallpaper.LocationDrift
import Genkan.Greeter.PowerGate
import Genkan.Greeter.OutputRegion
import Genkan.Wallpaper.SuspendDetection
import Genkan.Wallpaper.Updates
import Genkan.Greeter.AccountLabel
import Genkan.Greeter.Accounts
import Genkan.Sessions.Discovery
import Genkan.LockScreen
import Genkan.DesktopWallpaper.Tracking
import Genkan.Greeter.Progress
import Genkan.Greeter.Talks
import Genkan.Greeter.Navigation
import Genkan.Locker.Launcher
import Genkan.Locker.Confinement
import Genkan.Wallpaper.HeicPipeline
import Genkan.Wallpaper.Supervisor
import Genkan.Wallpaper.Supervision
import Genkan.Wallpaper.SupervisedLoop
import Genkan.LockAuth.ProcessSteps
import Genkan.LockAuth.ProcessWire
import Genkan.Locker.Identity
import Genkan.Locker.Handshake
import Genkan.Locker.WorkerChannel
