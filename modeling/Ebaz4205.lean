import Ebaz4205.DriverProgram
import Ebaz4205.BitMask
import Ebaz4205.PulsecapDriver
import Ebaz4205.AlternatingSubsequence
import Ebaz4205.PartialRuns
import Ebaz4205.PulsecapOperations
import Ebaz4205.PulsecapCapture
import Ebaz4205.PulsecapRefinement
import Ebaz4205.PulsecapBounds
import Ebaz4205.PulsecapSequence
import Ebaz4205.PulsecapOnTimer
import Ebaz4205.PulsecapTimerStop
import Ebaz4205.PulsecapFilterCalls
import Ebaz4205.PulsecapEdgeLoss
import Ebaz4205.KswfloppyDriver
import Ebaz4205.FloppyHeadTracking
import Ebaz4205.ProgramEffects
import Ebaz4205.PlatformKernel
import Ebaz4205.AximuxDriver
import Ebaz4205.KswfloppyModule
import Ebaz4205.PulsecapModule
import Ebaz4205.PlatformSystem
import Ebaz4205.PlatformFrames
import Ebaz4205.AximuxOperations
import Ebaz4205.PlatformBindings
import Ebaz4205.AximuxBookkeeping
import Ebaz4205.AximuxAttributes
import Ebaz4205.PulsecapInstances
import Ebaz4205.PulsecapBookkeeping
import Ebaz4205.KswfloppyInstances
import Ebaz4205.NodeHandover
import Ebaz4205.ProgramMarks
import Ebaz4205.ProgramMonitors
import Ebaz4205.FloppyStepCalls
import Ebaz4205.FloppySignalProtocol
import Ebaz4205.FloppyRevolution
import Ebaz4205.FloppyTrackDecoding
import Ebaz4205.PulsecapCounts
import Ebaz4205.PulsecapCompletion
import Ebaz4205.PulsecapCancel
import Ebaz4205.AximuxSourceFiles
import Ebaz4205.KswfloppyCleanup
import Ebaz4205.AximuxModuleLife
import Ebaz4205.DoubleRounding
import Ebaz4205.InterruptedProcess
import Ebaz4205.PwmServer
import Ebaz4205.PwmStart
import Ebaz4205.PwmRestart
import Ebaz4205.AximuxSelectBits
import Ebaz4205.AximuxStoredText
import Ebaz4205.KswfloppyDeviceTree
import Ebaz4205.KswfloppyCapturePin
import Ebaz4205.FloppyDumpPlacement
import Ebaz4205.FloppyDumpEnd
import Ebaz4205.ProgramSimulations
import Ebaz4205.FloppyReadings
import Ebaz4205.KswfloppyDriveReturn
import Ebaz4205.PulsecapReadOut
import Ebaz4205.ProgramSteps
import Ebaz4205.PulsecapCancelRace
import Ebaz4205.ProgramEquivalence
import Ebaz4205.Ps7Interpreter
import Ebaz4205.Ps7Init
import Ebaz4205.Ps7Scripts
import Ebaz4205.ProgramBounds
import Ebaz4205.Ps7Returns
import Ebaz4205.MaskedWrites
import Ebaz4205.Ps7Board
import Ebaz4205.Ps7Registers
import Ebaz4205.ProgramDisciplines
import Ebaz4205.Ps7Inspection
import Ebaz4205.Ps7Locking
import Ebaz4205.Ps7PowerUp
import Ebaz4205.Ps7Delays
import Ebaz4205.DmaProxyDriver
import Ebaz4205.DmaProxyMemory
import Ebaz4205.DmaEngine
import Ebaz4205.DmaProxyTransfers
import Ebaz4205.PwmDimmers
import Ebaz4205.DmaProxyCalls
import Ebaz4205.DmaProxyBus
import Ebaz4205.DmaProxyBooks
import Ebaz4205.DmaProxyClass
import Ebaz4205.PulsecapFiles
import Ebaz4205.PulsecapSessions
import Ebaz4205.FsblHooks
import Ebaz4205.FsblHandoff
import Ebaz4205.PulsecapFilterCalls
