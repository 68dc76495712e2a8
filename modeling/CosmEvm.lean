import CosmEvm.Core.Word
import CosmEvm.Core.Params
import CosmEvm.Core.Stack
import CosmEvm.Core.Memory
import CosmEvm.Core.Frame
import CosmEvm.Core.Strconv
import CosmEvm.MCopy.Gas
import CosmEvm.MCopy.Execute
import CosmEvm.MCopy.Agreement
import CosmEvm.MCopy.Accounting
import CosmEvm.State.StateDB
import CosmEvm.Gas.SStore
import CosmEvm.Gas.Eip2929
import CosmEvm.Gas.Create
import CosmEvm.Transaction.Run
import CosmEvm.Transaction.NetMetering
import CosmEvm.Transaction.Refund
import CosmEvm.Transaction.Warmth
import CosmEvm.Transaction.Schedules
import CosmEvm.JumpTable.Operation
import CosmEvm.JumpTable.Activators
import CosmEvm.JumpTable.WellFormed
import CosmEvm.JumpTable.Absorption
import CosmEvm.JumpTable.EipName
import CosmEvm.JumpTable.LastWrite
import CosmEvm.JumpTable.RefundSchedule
import CosmEvm.Upgrade.V9
