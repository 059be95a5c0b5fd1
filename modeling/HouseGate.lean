import HouseGate.CanonicalOutput
import HouseGate.ConcurrencyPermits
import HouseGate.KeeperFailover
import HouseGate.LaneSelection
import HouseGate.PayloadSpoolRuns
import HouseGate.PreparedOutput
import HouseGate.QueryPacket
import HouseGate.RelayAgentRuns
import HouseGate.RelayInsert
import HouseGate.ReservedNames
import HouseGate.SeqCounterRuns
import HouseGate.ServerData
import HouseGate.SessionIsolation
import HouseGate.SessionPrivilege
import HouseGate.SiStatementConserved
import HouseGate.SnapshotQueryRuns
import HouseGate.SqlIdent
import HouseGate.StatementGrammar
import HouseGate.TableTransitions
import HouseGate.VerifierAgreement
