import Multiplex.Main
import Multiplex.Link.Loopback
import Multiplex.Link.Wire
import Multiplex.Session.Run
import Multiplex.Session.Shared
import Multiplex.Proofs.Session.Conduct
import Multiplex.Proofs.Session.Course
import Multiplex.Proofs.Session.Waiting
import Multiplex.Proofs.Demultiplexing
import Multiplex.Proofs.Bookkeeping
import Multiplex.Proofs.Exclusion
import Multiplex.Proofs.Reopening
import Multiplex.Proofs.LostChannel
import Multiplex.Proofs.LostConnection
import Multiplex.Proofs.Finality
import Multiplex.Proofs.Rejection
import Multiplex.Proofs.Verdict
import Multiplex.Proofs.Interruption
import Multiplex.Proofs.Answering
import Multiplex.Proofs.Isolation
import Multiplex.Proofs.Interchange
import Multiplex.Proofs.Noninterference
import Multiplex.Proofs.Streaming
import Multiplex.Proofs.Encoding
import Multiplex.Proofs.Transmission
import Multiplex.Proofs.Framing
import Multiplex.Proofs.Reception
import Multiplex.Proofs.ReadAhead
import Multiplex.Proofs.Patience
import Multiplex.Proofs.Canonical
import Multiplex.Proofs.Resumption
import Multiplex.Proofs.Rotation
import Multiplex.Proofs.Recurrence
import Multiplex.Proofs.Quarantine
import Multiplex.Proofs.Idling
import Multiplex.Proofs.Replying
import Multiplex.Proofs.Closing
import Multiplex.Proofs.Reassembly
import Multiplex.Proofs.Polling
import Multiplex.Proofs.Economy
import Multiplex.Proofs.Handover
import Multiplex.Proofs.Layout
import Multiplex.Proofs.Recording
import Multiplex.Proofs.Tiling
import Multiplex.Proofs.Tallying
import Multiplex.Proofs.Losing
import Multiplex.Proofs.Registration
