import Ardents.Connection.Reassembly
import Ardents.Connection.TerminalAgreement
import Ardents.Connection.Conduct
import Ardents.Route.SpendHistory
import Ardents.Route.ByteBudget
import Ardents.Route.OuterStream
import Ardents.Route.JoinSafety
import Ardents.State.ClosedProfile
import Ardents.State.Candidates
import Ardents.State.Reopening
import Ardents.Duty.Commits
import Ardents.Credential.IssuerCommits
import Ardents.Naming.Lineage
import Ardents.Naming.Delegation
import Ardents.Naming.RecoveryAccess
import Ardents.Endpoint.IntroductionReplay
import Ardents.Endpoint.AcquisitionSafety
import Ardents.Entry.Admission
