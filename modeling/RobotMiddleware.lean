import RobotMiddleware.Proofs.ViewPinning
import RobotMiddleware.Proofs.WakeUps
import RobotMiddleware.Proofs.ClientIsolation
import RobotMiddleware.Proofs.CutStreams
import RobotMiddleware.Proofs.FramingErrors
import RobotMiddleware.Proofs.RequestAccounting
import RobotMiddleware.Proofs.ForeignHandles
import RobotMiddleware.Proofs.LostConnections
import RobotMiddleware.Proofs.ReleaseSockets
import RobotMiddleware.Proofs.SampleOrder
import RobotMiddleware.Proofs.ForeignNodes
import RobotMiddleware.Proofs.Leases
import RobotMiddleware.Proofs.OpenConnections
import RobotMiddleware.Proofs.RemovalOrder
import RobotMiddleware.Proofs.ReissuedEndpoints
import RobotMiddleware.Proofs.SegmentContents
import RobotMiddleware.Proofs.Allocation
import RobotMiddleware.Proofs.Disconnections
import RobotMiddleware.Proofs.HostileSegments
import RobotMiddleware.Proofs.QueueCounters
import RobotMiddleware.Proofs.RefusedCalls
import RobotMiddleware.Proofs.StaleHandles
import RobotMiddleware.Proofs.PublisherRuns
import RobotMiddleware.Proofs.EarlyTimeouts
