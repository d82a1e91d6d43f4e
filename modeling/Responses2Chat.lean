import Responses2Chat.Models
import Responses2Chat.GoRuntime
import Responses2Chat.Config
import Responses2Chat.Converter.Request
import Responses2Chat.Converter.Response
import Responses2Chat.Converter.Streaming
import Responses2Chat.Converter.StreamTranscript
import Responses2Chat.Converter.StreamAggregate
import Responses2Chat.Converter.StreamNoise
import Responses2Chat.Storage
import Responses2Chat.Handler.Proxy
import Responses2Chat.Handler.History
import Responses2Chat.Handler.Continuation
import Responses2Chat.Handler.ReadBody
import Responses2Chat.Handler.Route
import Responses2Chat.Handler.WebSearch
import Responses2Chat.Handler.SearchRun
import Responses2Chat.Search.MCP
import Responses2Chat.Search.MCPClient
import Responses2Chat.Search.Manager
import Responses2Chat.Search.Registry
