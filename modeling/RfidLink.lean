import RfidLink.Config.Blob
import RfidLink.Session
import RfidLink.Proofs.Reentrancy
import RfidLink.Proofs.Moves
import RfidLink.Proofs.Tasks
import RfidLink.Proofs.Histories
import RfidLink.Proofs.InventoryMode
import RfidLink.Proofs.Wire
import RfidLink.Proofs.AnswerQueue
import RfidLink.Proofs.Desk
import RfidLink.Proofs.Dispatching
import RfidLink.Proofs.Asking
import RfidLink.Proofs.TagFrames
import RfidLink.Proofs.FirstSightings
import RfidLink.Proofs.TagText
import RfidLink.Proofs.Cuts
import RfidLink.Proofs.Feeding
import RfidLink.Proofs.Losses
import RfidLink.Proofs.Freshness
import RfidLink.Proofs.CommandFrames
import RfidLink.Proofs.Pieces
import RfidLink.Proofs.Spacing
import RfidLink.Proofs.Rounds
import RfidLink.Proofs.ErrorDetection
import RfidLink.Proofs.Reporting
import RfidLink.Proofs.HeldBack
import RfidLink.Proofs.Alike
import RfidLink.Proofs.Indifference
import RfidLink.Proofs.Contents
import RfidLink.Proofs.Agreement
import RfidLink.Proofs.EpcLengths
import RfidLink.Proofs.BusyFlag
import RfidLink.Proofs.Soundness
import RfidLink.Proofs.Accounts
import RfidLink.Proofs.CheckedReading
import RfidLink.Proofs.CheckedStores
import RfidLink.Proofs.CheckedProcess
import RfidLink.Proofs.Handshake
import RfidLink.Proofs.IdleProcessing
import RfidLink.Proofs.FailedStart
import RfidLink.Proofs.Endings
import RfidLink.Proofs.Episodes
import RfidLink.Proofs.OnlyRound
import RfidLink.Proofs.ErrorLight
import RfidLink.Proofs.Listening
import RfidLink.Proofs.RawArguments
import RfidLink.Proofs.RoundFrames
import RfidLink.Proofs.StoredConfigs
import RfidLink.Proofs.Truncation
import RfidLink.Proofs.CallerBuffers
import RfidLink.Proofs.Completion
import RfidLink.Proofs.AntennaErrors
import RfidLink.Proofs.Chunks
import RfidLink.Proofs.Recovery
import RfidLink.Proofs.Deadlines
import RfidLink.Proofs.EpcGroups
import RfidLink.Proofs.QueueDiscipline
