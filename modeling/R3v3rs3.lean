import R3v3rs3.Api.EarlyData
import R3v3rs3.Api.ShortId
import R3v3rs3.Proxy.ConnectionTracker
import R3v3rs3.Platform.Records
import R3v3rs3.Security.Quarantine
import R3v3rs3.Server.Workers
import R3v3rs3.Server.AcmeOrders
import R3v3rs3.Proxy.Http.Identity
import R3v3rs3.Platform.GitTokens
import R3v3rs3.Platform.Backups
import R3v3rs3.Platform.Compose
import R3v3rs3.Agent.Listener
import R3v3rs3.Platform.ImageCheck
import R3v3rs3.Auth.Lockout
import R3v3rs3.Proxy.Http.Cache.Lifetime
import R3v3rs3.Proxy.Candidates
import R3v3rs3.Proxy.Udp
import R3v3rs3.Proxy.Http.StreamPermits
import R3v3rs3.Proxy.Http.ConcurrencyLimit
import R3v3rs3.Proxy.Http.Routes
import R3v3rs3.Proxy.Http.ForwardedChain
import R3v3rs3.Proxy.Http.BodyLimit
import R3v3rs3.Proxy.Http.BasicAuth
import R3v3rs3.Proxy.Http.Cache.Flights
import R3v3rs3.Auth.IdToken
import R3v3rs3.Auth.SessionLifetimes
import R3v3rs3.Grpc.Reflection
import R3v3rs3.Auth.ClientAddress
import R3v3rs3.Mcp.Bearer
import R3v3rs3.Platform.Reseal
import R3v3rs3.Platform.Deploy.Queue
import R3v3rs3.Platform.Deploy.Status
import R3v3rs3.Admin.EventStreams
import R3v3rs3.Platform.Publish
import R3v3rs3.Kv.Etcd
