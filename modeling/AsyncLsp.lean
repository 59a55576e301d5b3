import AsyncLsp.Message
import AsyncLsp.Service
import AsyncLsp.Server
import AsyncLsp.Server.Machine
import AsyncLsp.Server.History
import AsyncLsp.OmniTrait
import AsyncLsp.Server.Inner
import AsyncLsp.Server.Rejection
import AsyncLsp.Server.Layers
