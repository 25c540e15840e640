import MissionSim.AlarmPairs
import MissionSim.AocsReports
import MissionSim.AocsSwitching
import MissionSim.BurnCutOff
import MissionSim.BurstErrors
import MissionSim.Calibration
import MissionSim.CancelledImaging
import MissionSim.CaptureWindows
import MissionSim.CheckpointReplays
import MissionSim.CommandRefusals
import MissionSim.ConfigConsistency
import MissionSim.ConvolutionalInterleaver
import MissionSim.DataBoundaries
import MissionSim.DumpArchive
import MissionSim.ExecutionOutcomes
import MissionSim.FailureOnsets
import MissionSim.FdirRecovery
import MissionSim.HeaterGates
import MissionSim.HkDecoding
import MissionSim.HkDefinitions
import MissionSim.ImpulseLedger
import MissionSim.InstructorCommands
import MissionSim.Interleaver
import MissionSim.MemoryDisturbance
import MissionSim.MemoryLoads
import MissionSim.MonitoringReports
import MissionSim.NestedDispatch
import MissionSim.ObcRedundancy
import MissionSim.ObcpBlob
import MissionSim.ObcpStops
import MissionSim.ObcpTiming
import MissionSim.ObdhClocks
import MissionSim.OvercurrentTrips
import MissionSim.PacketSuffixes
import MissionSim.PacketTimes
import MissionSim.PlanOrder
import MissionSim.ProcedureReadings
import MissionSim.ProcedureSchema
import MissionSim.ProcedureSkips
import MissionSim.ReportBins
import MissionSim.ScenarioFailures
import MissionSim.Scrambler
import MissionSim.SemanticDiff
import MissionSim.SequenceCounts
import MissionSim.SpacecraftTX
import MissionSim.StorageArithmetic
import MissionSim.StoreTimestamps
import MissionSim.StreamFraming
import MissionSim.SyncPolarity
import MissionSim.Transfers
import MissionSim.TtcAmplifier
import MissionSim.TtcRates
import MissionSim.VerificationReports
