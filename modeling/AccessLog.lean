import AccessLog.Capture.Session
import AccessLog.Demo.Service
import AccessLog.Gateway.Schedule
import AccessLog.Main
import AccessLog.Proofs.Audience
import AccessLog.Proofs.Concatenation
import AccessLog.Proofs.Configuration
import AccessLog.Proofs.Finishing
import AccessLog.Proofs.Grouping
import AccessLog.Proofs.Isolation
import AccessLog.Proofs.KeyCase
import AccessLog.Proofs.Leaves
import AccessLog.Proofs.Line
import AccessLog.Proofs.LineFeeds
import AccessLog.Proofs.Marking
import AccessLog.Proofs.Meaning
import AccessLog.Proofs.Mishaps
import AccessLog.Proofs.Mounting
import AccessLog.Proofs.NeverLost
import AccessLog.Proofs.PassedOver
import AccessLog.Proofs.Precision
import AccessLog.Proofs.Privacy
import AccessLog.Proofs.Segmentation
import AccessLog.Proofs.ShownUrl
import AccessLog.Proofs.Times
import AccessLog.Proofs.TokenGrammar
import AccessLog.Proofs.Transparency
