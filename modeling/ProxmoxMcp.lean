import ProxmoxMcp.Lib.Prog
import ProxmoxMcp.Lib.Regex
import ProxmoxMcp.Lib.Wildcard
import ProxmoxMcp.Lib.Text
import ProxmoxMcp.Lib.Json
import ProxmoxMcp.Lib.JsonText
import ProxmoxMcp.Lib.Utf8
import ProxmoxMcp.Lib.Chunks
import ProxmoxMcp.Lib.Url
import ProxmoxMcp.Lib.Base64
import ProxmoxMcp.Lib.Shell
import ProxmoxMcp.Lib.Named
import ProxmoxMcp.Lib.Runs
import ProxmoxMcp.Lib.Kv
import ProxmoxMcp.Lib.Checks
import ProxmoxMcp.Lib.Groups
import ProxmoxMcp.Lib.Marks
import ProxmoxMcp.Lib.Worlds
import ProxmoxMcp.Lib.Places
import ProxmoxMcp.Lib.Lines
import ProxmoxMcp.Lib.JsonLines
import ProxmoxMcp.Lib.Entries
import ProxmoxMcp.Lib.Script
import ProxmoxMcp.Lib.Sudoers
import ProxmoxMcp.Types
import ProxmoxMcp.Config
import ProxmoxMcp.Schema
import ProxmoxMcp.Api
import ProxmoxMcp.Endpoint
import ProxmoxMcp.Validation
import ProxmoxMcp.WireParams
import ProxmoxMcp.Catalog
import ProxmoxMcp.Utils
import ProxmoxMcp.Selectors
import ProxmoxMcp.Policy
import ProxmoxMcp.PolicyFold
import ProxmoxMcp.LoadConfig
import ProxmoxMcp.ClusterName
import ProxmoxMcp.Ssh
import ProxmoxMcp.Quoting
import ProxmoxMcp.World
import ProxmoxMcp.Requests
import ProxmoxMcp.AuthRetry
import ProxmoxMcp.Transports
import ProxmoxMcp.Guests
import ProxmoxMcp.MaybeBase64
import ProxmoxMcp.NodeOperations
import ProxmoxMcp.Rules
import ProxmoxMcp.Inventory
import ProxmoxMcp.InventoryCache
import ProxmoxMcp.ExitCodes
import ProxmoxMcp.Snippets
import ProxmoxMcp.Cancellation
import ProxmoxMcp.RawCalls
import ProxmoxMcp.Timeouts
import ProxmoxMcp.TokenRotation
import ProxmoxMcp.AgentFlag
import ProxmoxMcp.BootInspection
import ProxmoxMcp.RootDisk
import ProxmoxMcp.PciAttach
import ProxmoxMcp.Artifacts
import ProxmoxMcp.ArtifactResults
import ProxmoxMcp.HostKeys
import ProxmoxMcp.Jobs
import ProxmoxMcp.JobIds
import ProxmoxMcp.JobManager
import ProxmoxMcp.JobOutcome
import ProxmoxMcp.TaskProgress
import ProxmoxMcp.JobLogs
import ProxmoxMcp.GuestPolicy
import ProxmoxMcp.Reconcile
import ProxmoxMcp.Lifecycle
import ProxmoxMcp.Traffic
import ProxmoxMcp.ManagedRouting
import ProxmoxMcp.Secrets
import ProxmoxMcp.Reload
import ProxmoxMcp.AdminSecrets
import ProxmoxMcp.AdminEnroll
import ProxmoxMcp.AdminCli
import ProxmoxMcp.EnrollmentScript
import ProxmoxMcp.AdminStore
import ProxmoxMcp.SecretStores
import ProxmoxMcp.EnrolledBundle
import ProxmoxMcp.HttpAuth
import ProxmoxMcp.Redaction
import ProxmoxMcp.Tools
import ProxmoxMcp.ToolRules
import ProxmoxMcp.ToolPolicy
import ProxmoxMcp.AuditLog
import ProxmoxMcp.ToolScopes
import ProxmoxMcp.ReadScopeGaps
import ProxmoxMcp.HttpServer
import ProxmoxMcp.KeySets
import ProxmoxMcp.ApiSessions
import ProxmoxMcp.SshOutput
