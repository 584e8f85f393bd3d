import Autoresponder.Main
import Autoresponder.Proofs.Exclusion
import Autoresponder.Proofs.Protocol
import Autoresponder.Proofs.Spacing
import Autoresponder.Proofs.Succession
import Autoresponder.Responder.Rehearsal
import Autoresponder.Proofs.Histories
import Autoresponder.Proofs.Restitution
import Autoresponder.Proofs.Texts
import Autoresponder.Proofs.AutomaticMail
import Autoresponder.Proofs.HeaderLines
import Autoresponder.Proofs.RenderedReply
import Autoresponder.Proofs.Overlap
import Autoresponder.Proofs.Pairs
import Autoresponder.Proofs.Opening
import Autoresponder.Proofs.DirectoryLookup
import Autoresponder.Proofs.ForwardedSenders
import Autoresponder.Proofs.CommandArguments
import Autoresponder.Proofs.CheckAndClaim
import Autoresponder.Proofs.FailedClaims
import Autoresponder.Proofs.ConfiguredIntervals
import Autoresponder.Proofs.AddressForms
import Autoresponder.Proofs.DayCount
import Autoresponder.Proofs.TimeTexts
import Autoresponder.Proofs.WindowBounds
import Autoresponder.Proofs.MessageLines
import Autoresponder.Proofs.CustomMessages
import Autoresponder.Proofs.HeaderWords
import Autoresponder.Proofs.MessageBodies
import Autoresponder.Proofs.RepeatedSubject
import Autoresponder.Proofs.Threads
