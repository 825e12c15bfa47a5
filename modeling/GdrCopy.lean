import GdrCopy.Driver.Api
import GdrCopy.Driver.Ledger
import GdrCopy.Binding.Runtime
import GdrCopy.Binding.Handle
import GdrCopy.Binding.Context
import GdrCopy.Binding.Errors
import GdrCopy.Protocol.World
import GdrCopy.Protocol.Scenario
import GdrCopy.Protocol.ContextLedger
import GdrCopy.Protocol.HandleMirror
import GdrCopy.Protocol.InfoCache
import GdrCopy.Protocol.LiveCalls
import GdrCopy.Protocol.Cleanup
import GdrCopy.Protocol.StateMachine
import GdrCopy.Protocol.ErrorChannel
import GdrCopy.Callers.Semantics
import GdrCopy.Callers.Examples
import GdrCopy.Callers.Tidy
