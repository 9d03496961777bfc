import WebSocketSession.Frame.Fragments
import WebSocketSession.Handlers.Cache
import WebSocketSession.Main
import WebSocketSession.Policy.Reader
import WebSocketSession.Proofs.BufferLending
import WebSocketSession.Proofs.Carrying
import WebSocketSession.Proofs.CloseCodec
import WebSocketSession.Proofs.CloseStatus
import WebSocketSession.Proofs.Configuration
import WebSocketSession.Proofs.CutShort
import WebSocketSession.Proofs.DeliveryAgreement
import WebSocketSession.Proofs.DeliveryCount
import WebSocketSession.Proofs.DemoOutput
import WebSocketSession.Proofs.FailureLog
import WebSocketSession.Proofs.FailureText
import WebSocketSession.Proofs.FrameCallbacks
import WebSocketSession.Proofs.Inert
import WebSocketSession.Proofs.LoanLimit
import WebSocketSession.Proofs.Loans
import WebSocketSession.Proofs.MessageOutcomes
import WebSocketSession.Proofs.OwnPool
import WebSocketSession.Proofs.Pieces
import WebSocketSession.Proofs.Provenance
import WebSocketSession.Proofs.ReadingStyles
import WebSocketSession.Proofs.SharedPool
import WebSocketSession.Proofs.ShortName
import WebSocketSession.Proofs.SlotAgreement
import WebSocketSession.Proofs.StreamAccount
import WebSocketSession.Proofs.TextOutcome
import WebSocketSession.Proofs.TextStretches
import WebSocketSession.Proofs.Trimming
import WebSocketSession.Script
